import Skylink.Node.Reception
import Skylink.VirtualChannel.Refinement

/-!
# Forged frames

A frame that the hash check stops changes diagnostics and the enforcement flag of its
channel only. The time division is another matter: it trusts the flag in the header,
which the hash check vouches for only where the channel requires authentication.
-/

namespace Skylink

variable {w : Nat}

/-! ## Forged frames -/

/-- The frame that follows from the start byte, an identity and a static header. -/
def bareFrame (identity : Bytes) (hdr : SkyStaticHeader) : SkyTransmitFrame :=
  { start := (skylinkFrameVersionByte ||| UInt8.ofNat identity.length) :: identity
    hdr := { hdr with extensionLength := 0 }
    body := []
    assertsHold := true }

theorem bareFrame_built {identity : Bytes} (hdr : SkyStaticHeader)
    (hpos : 0 < identity.length) (hle : identity.length ≤ skyMaxIdentityLen) :
    (bareFrame identity hdr).Built identity ([] : List (ExtValue w)) [] :=
  { start := rfl, identityPos := hpos, identityLe := hle, body := rfl
    extensionLength := rfl, nodup := List.nodup_nil }

/-- A frame with the authentication flag, a window extension and any trailer. -/
def forgedTddFrame (identity trailer : Bytes) (v : Fin skyNumVirtualChannels) :
    SkyTransmitFrame :=
  let hdr := (SkyStaticHeader.setVc ⟨0, 0, 0⟩ v).setFlag skyFlagAuthenticated
  (skyFrameAddExtensionMacTddControl (bareFrame identity hdr) 0 0).extend trailer

theorem forgedTddFrame_built {identity : Bytes} (trailer : Bytes)
    (v : Fin skyNumVirtualChannels) (hpos : 0 < identity.length)
    (hle : identity.length ≤ skyMaxIdentityLen) :
    (forgedTddFrame identity trailer v).Built identity
      [(.macTddControl 0 0 : ExtValue 8)] trailer := by
  have hstart := bareFrame_built (w := 8)
    ((SkyStaticHeader.setVc ⟨0, 0, 0⟩ v).setFlag skyFlagAuthenticated) hpos hle
  exact (((hstart.assert _).assert _).add (by decide) (.macTddControl 0 0) (by simp)).extend
    trailer

theorem forgedTddFrame_hdr (identity trailer : Bytes) (v : Fin skyNumVirtualChannels) :
    (forgedTddFrame identity trailer v).hdr.channel = v ∧
      (forgedTddFrame identity trailer v).hdr.hasFlag skyFlagAuthenticated ∧
      (forgedTddFrame identity trailer v).hdr.hasFlag skyFlagHasPayload := by
  refine ⟨?_, ?_, SkyStaticHeader.hasFlag_setFlag _ (by decide)⟩
  · rw [forgedTddFrame, SkyTransmitFrame.extend,
      SkyStaticHeader.channel_setFlag _ (by decide)]
    exact (SkyStaticHeader.channel_setFlag _ (by decide)).trans (SkyStaticHeader.channel_setVc v)
  · rw [forgedTddFrame, SkyTransmitFrame.extend,
      SkyStaticHeader.hasFlag_setFlag_of_disjoint _ (by decide)]
    exact SkyStaticHeader.hasFlag_setFlag _ (by decide)

/-! ## A node for examples -/

/-- A hash of four bytes. -/
def exampleHash : KeyedHash :=
  { hash := fun key data =>
      storeU32 ((key ++ data).foldl (fun acc byte => acc * 31 + byte.toUInt32) 7)
    hash_length := fun _ _ => rfl }

theorem exampleNode_created (flags name : UInt8) :
    (skyCreate (exampleConfig flags name) : Option (SkyNode 8)).isSome := by
  have hhorizon : 0 ≤ ((exampleConfig flags name).vc 0).normalise.horizonWidth := by
    simp [exampleConfig, SkyVCConfig.normalise]
  obtain ⟨vc, hvc, -⟩ := skyVcCreate_eq_some (w := 8) (by decide) _ hhorizon
  have hall : ∀ v, skyVcCreate ((exampleConfig flags name).vc v) =
      some (((exampleConfig flags name).vc 0).normalise, vc) := fun _ => hvc
  have hidentity : 3 ≤ (exampleConfig flags name).identityLen ∧
      (exampleConfig flags name).identityLen ≤ 7 :=
    ⟨le_rfl, by simp [exampleConfig]⟩
  simp [skyCreate, guard, hall, hidentity]

/-- A new node with the same authentication flags on every channel. -/
def exampleNode (flags name : UInt8) : SkyNode 8 :=
  (skyCreate (exampleConfig flags name)).get (exampleNode_created flags name)

theorem exampleNode_eq (flags name : UInt8) :
    skyCreate (exampleConfig flags name) = some (exampleNode flags name) :=
  (Option.some_get (exampleNode_created flags name)).symm

/-! ## Channels that require authentication -/

/-- A frame without the authentication flag or with a wrong trailer has no effect on
a channel that requires authentication, nor on anything else of the node. -/
theorem skyRx_forged (H : KeyedHash) (tick : Int) (node : SkyNode w) (frame : SkyRadioFrame)
    (v : Fin skyNumVirtualChannels) (hv : frame.header.channel = v)
    (hreq : (node.conf.vc v).hasFlag skyConfigFlagRequireAuthentication)
    (hforged : ¬frame.header.hasFlag skyFlagAuthenticated ∨
      frame.trailer ≠ H.hash node.hmac.key frame.hashed) :
    node.UnchangedExcept v (skyRx H tick node frame).1 := by
  have hcount := node.unchangedExcept_countReceived v frame
  obtain hsame | hsame | ⟨parsed, hhdr, hcheck⟩ := skyRx_cases H tick node frame
  · rw [hsame]
    exact SkyNode.unchangedExcept_diag v node node.diag
  · rw [hsame]
    exact hcount
  · have hreq' : ((node.countReceived frame).conf.vc parsed.hdr.channel).hasFlag
        skyConfigFlagRequireAuthentication := by
      rw [hhdr, hv]
      exact hreq
    have hnot : ¬(parsed.hdr.hasFlag skyFlagAuthenticated ∧
        frame.Authentic H (node.countReceived frame).hmac.key) := by
      rw [hhdr]
      rintro ⟨hflag, hauth⟩
      exact hforged.elim (fun h => h hflag) (fun h => h hauth)
    obtain ⟨node', ret, hrej, hsame⟩ := check_forged hreq' hnot
    rw [hhdr, hv] at hsame
    rcases hcheck with ⟨node'', ret', hcheck, hrx⟩ | ⟨node'', parsed', hcheck, -⟩
    · rw [hrej] at hcheck
      cases hcheck
      rw [hrx]
      exact hcount.trans hsame
    · rw [hrej] at hcheck
      cases hcheck

theorem skyRx_forged_example :
    (exampleNode 2 7).UnchangedExcept 1
      (skyRx exampleHash 5 (exampleNode 2 7)
        (forgedTddFrame [1, 2, 3, 4] [0, 0, 0, 0] 1).frame).1 :=
  skyRx_forged exampleHash 5 (exampleNode 2 7) (forgedTddFrame [1, 2, 3, 4] [0, 0, 0, 0] 1).frame
    1 (by decide) (by decide +kernel) (.inr (by decide +kernel))

/-! ## Control of the time division -/

/-- Every frame for channel `v` that moves the time division carries the keyed hash. -/
def SkyNode.MacUpdatesAuthentic (H : KeyedHash) (node : SkyNode w)
    (v : Fin skyNumVirtualChannels) : Prop :=
  ∀ tick frame, frame.header.channel = v → (skyRx H tick node frame).1.mac ≠ node.mac →
    frame.Authentic H node.hmac.key

theorem macUpdatesAuthentic_of_required (H : KeyedHash) (node : SkyNode w)
    (v : Fin skyNumVirtualChannels)
    (hreq : (node.conf.vc v).hasFlag skyConfigFlagRequireAuthentication) :
    node.MacUpdatesAuthentic H v := by
  intro tick frame hv hmac
  by_contra hnot
  have hsame := skyRx_forged H tick node frame v hv hreq (.inr hnot)
  exact hmac hsame.mac

/-- Without the requirement the forged frame passes the check and sets the belief. -/
theorem skyRx_forgedTddFrame (H : KeyedHash) (tick : Int) (node : SkyNode 8)
    {identity trailer : Bytes} (v : Fin skyNumVirtualChannels) (hpos : 0 < identity.length)
    (hle : identity.length ≤ skyMaxIdentityLen) (hother : identity.length ≠ node.conf.identityLen)
    (htrailer : trailer.length = skyHmacLength)
    (hreq : ¬(node.conf.vc v).hasFlag skyConfigFlagRequireAuthentication) :
    (skyRx H tick node (forgedTddFrame identity trailer v).frame).1.mac.lastBeliefUpdate =
      tick := by
  have hbuilt := forgedTddFrame_built trailer v hpos hle
  obtain ⟨hchannel, hauth, hpayload⟩ := forgedTddFrame_hdr identity trailer v
  obtain ⟨parsed, hparsed, hhdr, hlen, -, hslots, -⟩ := hbuilt.rxHeader (by decide)
  obtain ⟨offset, htdd⟩ := hslots (.macTddControl 0 0) (by simp)
  have hmin : skyFrameMinLen ≤ (forgedTddFrame identity trailer v).length := by
    simp [SkyTransmitFrame.length, hbuilt.start, hbuilt.body, skyFrameMinLen, staticHeaderSize,
      ExtValue.fields]
    omega
  have hfilter : filterByIdentity node (identity, identity.length) = false := by
    simp [filterByIdentity, Ne.symm hother]
  have hcheck : skyHmacCheckAuthentication H
      (node.countReceived (forgedTddFrame identity trailer v).frame)
      (forgedTddFrame identity trailer v).frame parsed =
        (node.countReceived (forgedTddFrame identity trailer v).frame,
          .ok { parsed with
            hdr := { parsed.hdr with frameSequence := skyNtoh16 parsed.hdr.frameSequence }
            payloadLen := parsed.payloadLen - skyHmacLength }) := by
    have hreq' : (node.conf.vc parsed.hdr.channel).hasFlag
        skyConfigFlagRequireAuthentication = false := by
      rw [hhdr, hchannel]
      exact Bool.eq_false_iff.mpr hreq
    have hauth' : parsed.hdr.hasFlag skyFlagAuthenticated = true := by rw [hhdr]; exact hauth
    rw [hpayload, if_pos rfl, htrailer] at hlen
    simp [skyHmacCheckAuthentication, SkyStaticHeader.hasFlag_swap, hauth', hlen,
      SkyNode.countReceived, hreq']
  rw [skyRx_built H tick node hbuilt hmin hfilter hparsed, hcheck]
  have htdd' : parsed.macTdd = some ((.macTddControl 0 0 : ExtValue 8).parsedAt offset) := htdd
  have hauth' : parsed.hdr.hasFlag skyFlagAuthenticated = true := by rw [hhdr]; exact hauth
  simp only [acceptFrame_mac, skyRxProcessExtMacControl, htdd', SkyStaticHeader.hasFlag_swap,
    hauth', not_true, and_false, if_false]
  rfl

/-- The time division is safe from forged frames exactly where the channel requires
authentication: elsewhere the header flag alone opens it. -/
theorem macUpdatesAuthentic_iff (H : KeyedHash) (node : SkyNode 8)
    (v : Fin skyNumVirtualChannels) :
    node.MacUpdatesAuthentic H v ↔
      (node.conf.vc v).hasFlag skyConfigFlagRequireAuthentication := by
  refine ⟨fun hsafe => ?_, macUpdatesAuthentic_of_required H node v⟩
  by_contra hreq
  -- Any identity of another length passes the identity filter.
  obtain ⟨identity, hpos, hle, hother⟩ : ∃ identity : Bytes, 0 < identity.length ∧
      identity.length ≤ skyMaxIdentityLen ∧ identity.length ≠ node.conf.identityLen := by
    by_cases h : node.conf.identityLen = 1
    · exact ⟨[0, 0], by decide, by decide, by rw [h]; decide⟩
    · exact ⟨[0], by decide, by decide, fun h' => h h'.symm⟩
  let front := (forgedTddFrame identity [] v).bytes
  obtain ⟨trailer, htrailer, hwrong⟩ : ∃ trailer : Bytes, trailer.length = skyHmacLength ∧
      trailer ≠ H.hash node.hmac.key front := by
    by_cases h : H.hash node.hmac.key front = [0, 0, 0, 0]
    · exact ⟨[1, 0, 0, 0], rfl, by rw [h]; decide⟩
    · exact ⟨[0, 0, 0, 0], rfl, fun h' => h h'.symm⟩
  have hbytes : (forgedTddFrame identity trailer v).bytes = front ++ trailer := by
    simp [front, forgedTddFrame, SkyTransmitFrame.extend, SkyTransmitFrame.bytes]
  obtain ⟨hend, hfront⟩ := SkyTransmitFrame.trailer_frame hbytes htrailer
  have hbuilt := forgedTddFrame_built trailer v hpos hle
  let tick : Int := if node.mac.lastBeliefUpdate = 0 then 1 else 0
  have htick : tick ≠ node.mac.lastBeliefUpdate := by
    simp only [tick]
    split <;> omega
  have hupdate := skyRx_forgedTddFrame H tick node v hpos hle hother htrailer hreq
  have hauth := hsafe tick _ (by rw [hbuilt.header]; exact (forgedTddFrame_hdr _ _ v).1)
    (fun hsame => htick (by rw [← hupdate, hsame]))
  rw [SkyRadioFrame.Authentic, hend, hfront] at hauth
  exact hwrong hauth

/-- On a channel without the requirement a frame with a wrong trailer moves the window. -/
theorem forgedTddFrame_moves_window : ¬(exampleNode 1 7).MacUpdatesAuthentic exampleHash 1 := by
  intro hsafe
  have hauth := hsafe 5 (forgedTddFrame [1, 2, 3, 4] [0, 0, 0, 0] 1).frame (by decide)
    (fun h => absurd (congrArg SkyMAC.lastBeliefUpdate h) (by decide +kernel))
  rw [SkyRadioFrame.Authentic] at hauth
  exact absurd hauth (by decide +kernel)

end Skylink
