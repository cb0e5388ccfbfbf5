import Skylink.Link.Session
import Skylink.Node.Transmission

/-!
# The longest frame

A frame with all six extensions and the greatest payload. With 16-bit sequence numbers and
an identity of seven bytes it is one byte longer than a frame can be.
-/

namespace Skylink

variable {w : Nat}

/-! ## The extensions of a frame -/

/-- The extensions that `sky_tx` writes before it hands the frame to a channel. -/
def nodeExtensions (w : Nat) (mac : Option (UInt16 × UInt16)) (reset : Option UInt16) :
    List (ExtValue w) :=
  (mac.map fun m => ExtValue.macTddControl m.1 m.2).toList ++
    (reset.map ExtValue.hmacSequenceReset).toList

/-- The frame that is handed to a channel. -/
def startedWith (w : Nat) (identity : Bytes) (v : Fin skyNumVirtualChannels)
    (mac : Option (UInt16 × UInt16)) (reset : Option UInt16) : SkyTransmitFrame :=
  addExtensions (startOfFrame identity (SkyStaticHeader.setVc ⟨0, 0, 0⟩ v).flags 0)
    (nodeExtensions w mac reset)

/-- What a node hands to its channels are such frames. -/
theorem SkyNode.startedFor_eq {node : SkyNode w}
    (hid : node.conf.identityLen ≤ skyMaxIdentityLen) (v : Fin skyNumVirtualChannels)
    (now : Int) :
    ∃ mac, node.startedFor v now =
      startedWith w (node.conf.identity.take node.conf.identityLen) v (some mac)
        (if node.hmac.vcEnforcementNeed v ≠ 0 then none
          else some (node.hmac.sequenceRx v + 3)) := by
  have hlength : (node.conf.identity.take node.conf.identityLen).length =
      node.conf.identityLen := List.length_take_of_le (by rw [node.conf.identity_length]; exact hid)
  have hstart : startOfFrame (node.conf.identity.take node.conf.identityLen)
      (SkyStaticHeader.setVc ⟨0, 0, 0⟩ v).flags 0 = skyTxStartFrame node.conf v := by
    rw [startOfFrame, hlength]
    rfl
  refine ⟨(UInt16.ofInt node.mac.myWindowLength,
    UInt16.ofInt (if macOwnWindowRemaining node.conf.mac node.mac now < 1 then 1
      else macOwnWindowRemaining node.conf.mac node.mac now)), ?_⟩
  rw [startedFor, skyTxExtensionEvalHmacReset, startedWith, hstart]
  by_cases hneed : node.hmac.vcEnforcementNeed v ≠ 0
  · rw [if_pos hneed, if_pos hneed]
    rfl
  · rw [if_neg hneed, if_neg hneed]
    rfl

namespace SkyVirtualChannel

/-- A packet is due whose payload is of the given length. -/
def SendsNext (vc : SkyVirtualChannel w) (n : Nat) : Prop :=
  0 < sendRingCountPacketsToSend vc.sendRing true ∧
    ∃ s, sendRingPeekNextTxSizeAndSequence vc.sendRing vc.elementBuffer true = .ok (n, s)

/-- The channel finds room for its packet, the trailer fits behind it, and the header counts
the extensions that were written: those of the node, those that are pending, and the
sequence of the packet. -/
structure FillsFrame (vc : SkyVirtualChannel w) (config : SkyConfig)
    (started : List (ExtValue w)) (tx : SkyTransmitFrame) (now : Int) (frames : UInt16) :
    Prop where
  space : (skyVcFillFrame vc config tx now frames).2.2 ≠ .noSpaceForPayload
  length : (skyVcFillFrame vc config tx now frames).2.1.length + skyHmacLength ≤ rsMsglen
  extensions : ∃ packet : Option (BitVec w × Bytes), ∃ vs,
    vs = started ++ vc.pendingExtensions config now frames ++
        (packet.map fun p => ExtValue.arqSequence p.1).toList ∧
      (skyVcFillFrame vc config tx now frames).2.1.body =
          extensionBytes vs ++ (packet.map Prod.snd).getD [] ∧
        (skyVcFillFrame vc config tx now frames).2.1.hdr.extensionLength.toNat =
          (extensionBytes vs).length

/-- Everything is due at once. -/
structure WorstCase (vc : SkyVirtualChannel w) (config : SkyConfig) (identity : Bytes)
    (mac : Option (UInt16 × UInt16)) (reset : Option UInt16) (frames : UInt16) : Prop where
  wide : w = 16
  identity : identity.length = skyMaxIdentityLen
  mac : mac.isSome = true
  reset : reset.isSome = true
  handshake : 0 < vc.handshakeSend
  request : vc.requestDue config frames = true
  payload : vc.SendsNext skyPayloadMaxLen

end SkyVirtualChannel

section Fill

variable {identity : Bytes} {tx : SkyTransmitFrame} {us : List (ExtValue w)}

/-- The payload part writes a packet under its sequence, or nothing. -/
theorem fillPayload_built (hw : w ≤ 56) (vc : SkyVirtualChannel w)
    (hbuilt : tx.Built identity us []) (hfresh : extensionArqSequence ∉ us.map ExtValue.type)
    (ret : SkyRet) :
    ∃ packet : Option (BitVec w × Bytes),
      (fillPayload vc tx ret).2.1.Built identity
        (us ++ (packet.map fun p => ExtValue.arqSequence p.1).toList)
          ((packet.map Prod.snd).getD []) := by
  have hnothing : tx.Built identity
      (us ++ ((none : Option (BitVec w × Bytes)).map fun p => ExtValue.arqSequence p.1).toList)
        [] := by
    rwa [Option.map_none, Option.toList_none, List.append_nil]
  have hsequence (s : BitVec w) :
      (skyFrameAddExtensionArqSequence tx s).Built identity (us ++ [.arqSequence s]) [] :=
    ((hbuilt.assert _).assert _).add hw (.arqSequence s) hfresh
  rw [fillPayload]
  split
  · split
    · exact ⟨none, hnothing⟩
    · rename_i n s hpeek
      dsimp only
      split
      · split
        · rename_i read s' hread
          exact ⟨some (s, read), (hsequence s).extend read⟩
        · exact ⟨some (s, []), ((hsequence s).assert false).extend []⟩
      · exact ⟨none, hnothing⟩
  · exact ⟨none, hnothing⟩

end Fill

section Worst

variable {vc : SkyVirtualChannel w} {config : SkyConfig} {identity : Bytes}
  {v : Fin skyNumVirtualChannels} {mac : Option (UInt16 × UInt16)} {reset : Option UInt16}
  {now : Int} {frames : UInt16}

/-- The extensions before the sequence of a packet. -/
def SkyVirtualChannel.extensionsBefore (vc : SkyVirtualChannel w) (config : SkyConfig)
    (mac : Option (UInt16 × UInt16)) (reset : Option UInt16) (now : Int) (frames : UInt16) :
    List (ExtValue w) :=
  nodeExtensions w mac reset ++ vc.pendingExtensions config now frames

theorem SkyVirtualChannel.extensionsBefore_types (vc : SkyVirtualChannel w) (config : SkyConfig)
    (mac : Option (UInt16 × UInt16)) (reset : Option UInt16) (now : Int) (frames : UInt16) :
    ((vc.extensionsBefore config mac reset now frames).map ExtValue.type).Nodup ∧
      extensionArqSequence ∉
        (vc.extensionsBefore config mac reset now frames).map ExtValue.type := by
  have htypes : (vc.extensionsBefore config mac reset now frames).map ExtValue.type =
      (if mac.isSome then [extensionMacTddControl] else []) ++
        (if reset.isSome then [extensionHmacSequenceReset] else []) ++
        ((if 0 < vc.handshakeSend then [extensionArqHandshake] else []) ++
          ((if vc.requestDue config frames then [extensionArqRequest] else []) ++
            (if vc.ctrlDue config now frames then [extensionArqCtrl] else []))) := by
    rw [extensionsBefore, nodeExtensions, pendingExtensions, List.map_append, List.map_append,
      List.map_append, List.map_append, apply_ite (List.map ExtValue.type),
      apply_ite (List.map ExtValue.type), apply_ite (List.map ExtValue.type)]
    cases mac <;> cases reset <;> rfl
  rw [htypes]
  cases mac.isSome <;> cases reset.isSome <;> cases vc.requestDue config frames <;>
    cases vc.ctrlDue config now frames <;> by_cases hshake : 0 < vc.handshakeSend <;>
      simp only [hshake, if_true, if_false] <;> decide

theorem nodeExtensions_length : (extensionBytes (nodeExtensions w mac reset)).length =
    (if mac.isSome then 5 else 0) + (if reset.isSome then 3 else 0) := by
  cases mac <;> cases reset <;> rfl

theorem startOfFrame_sound (identity : Bytes) (v : Fin skyNumVirtualChannels) :
    (startOfFrame identity (SkyStaticHeader.setVc ⟨0, 0, 0⟩ v).flags 0).Sound :=
  ⟨rfl, (SkyStaticHeader.setVc_zero v).2.2⟩

theorem startedWith_extended (w : Nat) (identity : Bytes) (v : Fin skyNumVirtualChannels)
    (mac : Option (UInt16 × UInt16)) (reset : Option UInt16) :
    (startOfFrame identity (SkyStaticHeader.setVc ⟨0, 0, 0⟩ v).flags 0).Extended
      (startedWith w identity v mac reset)
        ((if mac.isSome then 5 else 0) + (if reset.isSome then 3 else 0)) := by
  have hadded := addExtensions_extended (nodeExtensions w mac reset)
    (startOfFrame identity (SkyStaticHeader.setVc ⟨0, 0, 0⟩ v).flags 0)
  rwa [nodeExtensions_length] at hadded

theorem startOfFrame_length (identity : Bytes) (flags : UInt8) (frameSequence : UInt16) :
    (startOfFrame identity flags frameSequence).length = identity.length + 5 := by
  simp [startOfFrame, SkyTransmitFrame.length, staticHeaderSize]

theorem startedWith_length (w : Nat) (identity : Bytes) (v : Fin skyNumVirtualChannels)
    (mac : Option (UInt16 × UInt16)) (reset : Option UInt16) :
    (startedWith w identity v mac reset).length = identity.length + 5 +
      ((if mac.isSome then 5 else 0) + (if reset.isSome then 3 else 0)) := by
  rw [(startedWith_extended w identity v mac reset).length, startOfFrame_length]

theorem startedWith_sound (w : Nat) (hle : identity.length ≤ skyMaxIdentityLen)
    (v : Fin skyNumVirtualChannels) (mac : Option (UInt16 × UInt16)) (reset : Option UInt16) :
    (startedWith w identity v mac reset).Sound ∧
      (startedWith w identity v mac reset).length ≤ 20 := by
  have hlength := startedWith_length w identity v mac reset
  have hsmall : (if mac.isSome then 5 else 0) + (if reset.isSome then 3 else 0) ≤ 8 := by
    split_ifs <;> decide
  rw [skyMaxIdentityLen] at hle
  refine ⟨(startedWith_extended w identity v mac reset).sound (startOfFrame_sound identity v) ?_,
    by omega⟩
  rw [hlength, skyPayloadMaxLen]
  omega

/-- The header of a frame that is filled counts its extensions. -/
theorem SkyVirtualChannel.fillFrameOn_built (vc : SkyVirtualChannel w) (config : SkyConfig)
    (v : Fin skyNumVirtualChannels) (mac : Option (UInt16 × UInt16)) (reset : Option UInt16)
    (now : Int) (frames : UInt16) (hw : w ≤ 56) (hpos : 0 < identity.length)
    (hle : identity.length ≤ skyMaxIdentityLen) :
    ∃ packet : Option (BitVec w × Bytes),
      (fillFrameOn vc config (startedWith w identity v mac reset) now frames).2.1.Built identity
        (vc.extensionsBefore config mac reset now frames ++
          (packet.map fun p => ExtValue.arqSequence p.1).toList)
            ((packet.map Prod.snd).getD []) := by
  obtain ⟨hnodup, hfresh⟩ := vc.extensionsBefore_types config mac reset now frames
  have hnode : ((nodeExtensions w mac reset).map ExtValue.type).Nodup := by
    rw [extensionsBefore, List.map_append] at hnodup
    exact (List.nodup_append.mp hnodup).1
  have hstarted : (startedWith w identity v mac reset).Built identity
      (nodeExtensions w mac reset) [] :=
    addExtensions_built hw _ [] (startOfFrame_built hpos hle _ _) hnode
  have hbuilt := addExtensions_built hw (vc.pendingExtensions config now frames) _
    (hstarted.setFlag skyFlagArqOn) hnodup
  rw [fillFrameOn_pending]
  exact fillPayload_built hw _ hbuilt hfresh _

/-- The sizes of all that a frame can hold, with a control extension before the payload. -/
theorem missingRoom_iff (hw : ArqSequenceWidth w) {identityLen packetLength : Nat}
    (hidentity : identityLen ≤ skyMaxIdentityLen) (hpacket : packetLength ≤ skyPayloadMaxLen)
    (mac reset handshake request : Bool) :
    ¬(packetLength + (w / 8 : Nat) + 1 : Int) ≤ skyFrameGetSpaceLeft
        (identityLen + 5 + ((if mac then 5 else 0) + (if reset then 3 else 0)) +
          ((if handshake then 6 else 0) + (if request then 1 + (w / 8 + 2) else 0) +
            (1 + (w / 8 + w / 8)))) ↔
      w = 16 ∧ identityLen = skyMaxIdentityLen ∧ mac = true ∧ reset = true ∧
        handshake = true ∧ request = true ∧ packetLength = skyPayloadMaxLen := by
  rw [skyMaxIdentityLen] at hidentity ⊢
  rw [skyPayloadMaxLen] at hpacket ⊢
  rw [skyFrameGetSpaceLeft, rsMsglen, skyHmacLength]
  rcases hw with rfl | rfl <;> cases mac <;> cases reset <;> cases handshake <;>
    cases request <;> simp <;> omega

/-- Room is missing only next to everything else. -/
theorem SkyVirtualChannel.noSpace_iff (hw : ArqSequenceWidth w) {view : VcView}
    (hrep : VcRep vc view) (hle : identity.length ≤ skyMaxIdentityLen) :
    (fillFrameOn vc config (startedWith w identity v mac reset) now frames).2.2 =
        .noSpaceForPayload ↔ vc.WorstCase config identity mac reset frames := by
  rw [fillFrameOn_ret, startedWith_length]
  by_cases hdue : 0 < sendRingCountPacketsToSend vc.sendRing true
  · have hctrl : vc.ctrlDue config now frames = true := by
      simp [SkyVirtualChannel.ctrlDue, hdue]
    rw [if_pos hdue]
    obtain ⟨sendRing, u, tx', -, hpeek, hrep', -, hlo, hhi, -, -⟩ | ⟨hpeek, -⟩ :=
      hrep.readToTx true
    · have hlength : (view.payload u).length ≤ skyPayloadMaxLen :=
        hrep'.payload_length_le hlo (lt_of_lt_of_le hhi hrep'.sendOrder.2.1)
      have hnext : vc.SendsNext skyPayloadMaxLen ↔ (view.payload u).length = skyPayloadMaxLen := by
        rw [SendsNext, hpeek]
        refine ⟨?_, fun h => ⟨hdue, _, by rw [h]⟩⟩
        rintro ⟨-, s, hs⟩
        rw [Except.ok.injEq, Prod.mk.injEq] at hs
        exact hs.1
      have hworst : vc.WorstCase config identity mac reset frames ↔
          w = 16 ∧ identity.length = skyMaxIdentityLen ∧ mac.isSome = true ∧
            reset.isSome = true ∧ 0 < vc.handshakeSend ∧ vc.requestDue config frames = true ∧
              (view.payload u).length = skyPayloadMaxLen := by
        rw [← hnext]
        constructor
        · intro h
          exact ⟨h.wide, h.identity, h.mac, h.reset, h.handshake, h.request, h.payload⟩
        · rintro ⟨hwide, hidentity, hmac, hreset, hhandshake, hrequest, hpayload⟩
          exact ⟨hwide, hidentity, hmac, hreset, hhandshake, hrequest, hpayload⟩
      have hfull := missingRoom_iff hw hle hlength mac.isSome reset.isSome
        (decide (0 < vc.handshakeSend)) (vc.requestDue config frames)
      simp only [decide_eq_true_eq] at hfull
      rw [hworst, ← hfull, hpeek, extensionsLength, if_pos hctrl]
      exact ite_eq_right_iff.trans (imp_congr_right fun _ => iff_of_false (by decide) id)
    · rw [hpeek]
      dsimp only
      apply iff_of_false (by decide)
      intro hworst
      obtain ⟨-, s, hs⟩ := hworst.payload
      rw [hpeek] at hs
      cases hs
  · rw [if_neg hdue]
    refine iff_of_false ?_ fun hworst => hdue hworst.payload.1
    split_ifs <;> decide

end Worst

theorem crowdedChannel_created :
    (skyVcCreate (w := 16) ((exampleConfig 0 1).vc 0)).isSome = true := by decide

/-- The peer offers a session and skips a packet, and the longest packet is to be sent. -/
def crowdedChannel : SkyVirtualChannel 16 :=
  ((skyVcCreate ((exampleConfig 0 1).vc 0)).get crowdedChannel_created).2.run
    [.handshake 0 ArqState.inInit.toByte 0x01010101, .pushRx [1] 1 0,
      .push (List.replicate skyPayloadMaxLen 7)]

theorem crowdedChannel_reached : crowdedChannel.Reached :=
  ⟨_, _, _, _, (Option.some_get crowdedChannel_created).symm, by decide, rfl⟩

end Skylink
