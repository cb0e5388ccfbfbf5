import Skylink.Node.Replay
import Skylink.Node.Transmission

/-!
# Sealed frames

What a frame of `sky_tx` on a channel that authenticates its frames carries, and when a
node that shares the key lets it pass. Frames without payload never pass: `sky_rx` takes
their trailer for nothing.
-/

namespace Skylink

variable {w : Nat}

/-- The identity under which a node sends. -/
def SkyConfig.sender (config : SkyConfig) : Bytes := config.identity.take config.identityLen

theorem SkyConfig.sender_length {config : SkyConfig}
    (hid : config.identityLen ≤ skyMaxIdentityLen) :
    config.sender.length = config.identityLen := by
  rw [sender, List.length_take, config.identity_length]
  omega

/-! ## Frames with a trailer -/

/-- A frame of channel `v` under a sequence that ends with the keyed hash of its other
bytes; the payload stands before the trailer. -/
structure SkyTransmitFrame.Sealed (tx : SkyTransmitFrame) (w : Nat) (H : KeyedHash) (key : Bytes)
    (identity : Bytes) (v : Fin skyNumVirtualChannels) (sequence : UInt16)
    (payload : Option Bytes) : Prop where
  built : ∃ (vs : List (ExtValue w)) (trailer : Bytes), trailer.length = skyHmacLength ∧
    tx.Built identity vs (payload.getD [] ++ trailer)
  channel : tx.hdr.channel = v
  authenticated : tx.hdr.hasFlag skyFlagAuthenticated = true
  hasPayload : tx.hdr.hasFlag skyFlagHasPayload = payload.isSome
  sequence : skyNtoh16 tx.hdr.frameSequence = sequence
  authentic : tx.frame.Authentic H key

namespace SkyTransmitFrame.Sealed

variable {tx : SkyTransmitFrame} {H : KeyedHash} {key identity : Bytes}
  {v : Fin skyNumVirtualChannels} {sequence : UInt16} {payload : Option Bytes}

theorem header (h : tx.Sealed w H key identity v sequence payload) :
    tx.frame.header = tx.hdr := by
  obtain ⟨vs, trailer, -, hbuilt⟩ := h.built
  exact hbuilt.header

theorem frame_sequence (h : tx.Sealed w H key identity v sequence payload) :
    tx.frame.sequence = sequence := by
  rw [SkyRadioFrame.sequence, h.header, h.sequence]

theorem minLength (h : tx.Sealed w H key identity v sequence payload) :
    skyFrameMinLen ≤ tx.length := by
  obtain ⟨vs, trailer, htrailer, hbuilt⟩ := h.built
  have hpos := hbuilt.identityPos
  rw [SkyTransmitFrame.length, hbuilt.start, hbuilt.body]
  simp only [List.length_cons, List.length_append, htrailer, staticHeaderSize, skyHmacLength,
    skyFrameMinLen]
  omega

/-- The receiver counts the trailer as payload, if the frame has any. -/
theorem received (h : tx.Sealed w H key identity v sequence payload) (hw : w ≤ 56)
    {node : SkyNode w} (hfilter : filterByIdentity node (identity, identity.length) = false) :
    ∃ parsed, node.received tx.frame = .ok parsed ∧ parsed.hdr = tx.hdr ∧
      parsed.payloadLen =
        if payload.isSome then (payload.getD []).length + skyHmacLength else 0 := by
  obtain ⟨vs, trailer, htrailer, hbuilt⟩ := h.built
  obtain ⟨parsed, hparsed, hhdr, hlen, -⟩ := hbuilt.rxHeader hw
  have hmin : ¬tx.frame.length < skyFrameMinLen := not_lt.mpr h.minLength
  refine ⟨parsed, ?_, hhdr, ?_⟩
  · rw [SkyNode.received, if_neg hmin, hbuilt.rxIdentity]
    dsimp only
    rw [hfilter, hparsed]
    rfl
  · rw [hlen, h.hasPayload, List.length_append, htrailer]

/-- With the right key the payload and the jump decide. -/
theorem accepts_iff (h : tx.Sealed w H key identity v sequence payload) (hw : w ≤ 56)
    {node : SkyNode w} (hfilter : filterByIdentity node (identity, identity.length) = false)
    (hkey : node.hmac.key = key)
    (hreq : (node.conf.vc v).hasFlag skyConfigFlagRequireAuthentication) :
    node.accepts H tx.frame ↔ payload.isSome ∧
      ((node.conf.vc v).hasFlag skyConfigFlagRequireSequence →
        ((sequence - node.hmac.sequenceRx v).toNat : Int) ≤ node.conf.hmac.maximumJump) := by
  obtain ⟨parsed, hreceived, hhdr, hlen⟩ := h.received hw hfilter
  have hchannel : parsed.hdr.channel = v := by rw [hhdr, h.channel]
  have hroom : skyHmacLength ≤ parsed.payloadLen ↔ payload.isSome := by
    rw [hlen]
    cases payload with
    | none => simp [skyHmacLength]
    | some p => simp
  rw [Skylink.accepts_iff H hreceived (by rw [hchannel]; exact hreq), SkyNode.Passes, hroom,
    hchannel, hkey, hhdr, h.sequence]
  constructor
  · rintro ⟨-, hpayload, -, hjump⟩
    exact ⟨hpayload, hjump⟩
  · rintro ⟨hpayload, hjump⟩
    exact ⟨h.authenticated, hpayload, h.authentic, hjump⟩

end SkyTransmitFrame.Sealed

/-- Nodes with other identities do not filter each other. -/
theorem filterByIdentity_sender {node : SkyNode w} {config : SkyConfig}
    (hid : config.identityLen ≤ skyMaxIdentityLen) (hne : node.conf.sender ≠ config.sender) :
    filterByIdentity node (config.sender, config.sender.length) = false := by
  by_contra hfilter
  rw [Bool.not_eq_false, filterByIdentity, Bool.and_eq_true, beq_iff_eq, beq_iff_eq] at hfilter
  obtain ⟨hsame, hlen⟩ := hfilter
  rw [SkyConfig.sender_length hid] at hsame hlen
  dsimp only at hsame hlen
  exact hne (by rw [SkyConfig.sender, hlen, hsame])

/-! ## Sealing -/

/-- The frame that is handed to a channel says nothing about it yet. -/
theorem SkyNode.startedFor_carries (hw : w ≤ 56) {node : SkyNode w}
    (hpos : 0 < node.conf.identityLen)
    (hid : node.conf.identityLen ≤ skyMaxIdentityLen) (v : Fin skyNumVirtualChannels)
    (now : Int) : ∃ others : List (ExtValue w),
      (node.startedFor v now).Carries node.conf.sender others v .nothing := by
  have hlen := SkyConfig.sender_length hid
  have hstart : (skyTxStartFrame node.conf v).Built node.conf.sender ([] : List (ExtValue w)) [] :=
    ⟨by rw [hlen]; rfl, by omega, by omega, rfl, rfl, .nil⟩
  obtain ⟨hvc, harq, hpayload⟩ := SkyStaticHeader.setVc_zero v
  let remaining := macOwnWindowRemaining node.conf.mac node.mac now
  let tdd : ExtValue w := .macTddControl (UInt16.ofInt node.mac.myWindowLength)
    (UInt16.ofInt (if remaining < 1 then 1 else remaining))
  have htdd : (macSetFrameFields node.conf.mac node.mac (skyTxStartFrame node.conf v) now).Built
      node.conf.sender [tdd] [] :=
    ((hstart.assert _).assert _).add hw tdd (by simp)
  have hreset (sequence : UInt16) :
      (skyFrameAddExtensionHmacSequenceReset (macSetFrameFields node.conf.mac node.mac
        (skyTxStartFrame node.conf v) now) sequence).Built node.conf.sender
        [tdd, .hmacSequenceReset sequence] [] :=
    ((htdd.assert _).assert _).add hw (.hmacSequenceReset sequence)
      (by simp [tdd, ExtValue.type, extensionMacTddControl, extensionHmacSequenceReset])
  rw [startedFor, skyTxExtensionEvalHmacReset]
  split
  · exact ⟨[tdd], htdd, by simp [tdd, ExtValue.type, extensionMacTddControl], hvc, harq, hpayload⟩
  · refine ⟨[tdd, .hmacSequenceReset (node.hmac.sequenceRx v + 3)], hreset _, ?_, hvc, harq,
      hpayload⟩
    simp [tdd, ExtValue.type, extensionMacTddControl, extensionHmacSequenceReset]

theorem finishFrame_sealed (H : KeyedHash) (node : SkyNode w) {v : Fin skyNumVirtualChannels}
    (hflag : (node.conf.vc v).hasFlag skyConfigFlagAuthenticateTx) {tx : SkyTransmitFrame}
    {identity : Bytes} {others : List (ExtValue w)} {c : ArqContent w}
    (h : tx.Carries identity others v c) (hroom : tx.length + skyHmacLength ≤ skyFrameMaxLen) :
    (finishFrame H node v tx).2.Sealed w H node.hmac.key identity v (node.hmac.sequenceTx v)
      c.payload := by
  let hdr : SkyStaticHeader :=
    { tx.hdr with frameSequence := skyHton16 (node.hmac.sequenceTx v) }.setFlag
      skyFlagAuthenticated
  let front : SkyTransmitFrame := { tx with hdr := hdr }
  let trailer := H.hash node.hmac.key front.bytes
  have htrailer : trailer.length = skyHmacLength := H.hash_length _ _
  have hfinish : (finishFrame H node v tx).2 = { front with body := front.body ++ trailer } := by
    have hfits : ¬skyFrameMaxLen - skyHmacLength < tx.length := by omega
    simp only [finishFrame, skyHmacGetNextTxSequence, hflag, if_true,
      skyHmacExtendWithAuthentication]
    exact if_neg hfits
  have hbytes : ({ front with body := front.body ++ trailer } : SkyTransmitFrame).bytes =
      front.bytes ++ trailer := by
    simp [SkyTransmitFrame.bytes]
  obtain ⟨hend, hhashed⟩ := SkyTransmitFrame.trailer_frame hbytes htrailer
  rw [hfinish]
  refine ⟨⟨others ++ c.extensions, trailer, htrailer, h.built.start, h.built.identityPos,
    h.built.identityLe, ?_, h.built.extensionLength, h.built.nodup⟩, ?_, ?_, ?_, ?_, ?_⟩
  · show tx.body ++ trailer = _
    rw [h.built.body, List.append_assoc]
  · have hvc : tx.hdr.channel = v := by
      rw [SkyStaticHeader.channel, h.channel]
      exact Fin.cast_val_eq_self v
    exact (SkyStaticHeader.channel_setFlag _ (by decide)).trans hvc
  · exact SkyStaticHeader.hasFlag_setFlag _ (by decide)
  · exact (SkyStaticHeader.hasFlag_setFlag_of_disjoint _ (by decide)).trans h.hasPayload
  · exact skyHton16_hton16 _
  · rw [SkyRadioFrame.Authentic, hend, hhashed]

/-! ## Frames with and without payload -/

/-- The channel puts a packet into its next frame. -/
def SkyVirtualChannel.packetDue (vc : SkyVirtualChannel w) : Bool :=
  match vc.arqStateFlag with
  | .off =>
      match sendRingPeekNextTxSizeAndSequence vc.sendRing vc.elementBuffer false with
      | .error _ => false
      | .ok (length, _) => decide (0 < length)
  | .inInit => false
  | .on => decide (0 < sendRingCountPacketsToSend vc.sendRing true)

theorem VcRep.packetDue_off {vc : SkyVirtualChannel w} {v : VcView} (h : VcRep vc v)
    (hstate : vc.arqStateFlag = .off) :
    vc.packetDue ↔ v.sendTx < v.sendHead ∧ 0 < (v.payload v.sendTx).length := by
  rw [SkyVirtualChannel.packetDue, hstate]
  dsimp only
  by_cases hlt : v.sendTx < v.sendHead
  · obtain ⟨vc', -, hpeek, -⟩ := h.readMonotonic hlt
    rw [hpeek]
    simp [hlt]
  · have hcount := h.countNew
    rw [sendRingPeekNextTxSizeAndSequence, if_pos (by omega)]
    simp [hlt]

/-- A filled frame carries a payload when a packet was due. -/
theorem VcRep.filled_packetDue {vc : SkyVirtualChannel w} {v v' : VcView} {c : ArqContent w}
    {ret : SkyRet} (h : VcRep vc v) (hfilled : Filled vc v v' c ret) (hret : 0 ≤ ret) :
    c.payload.isSome ↔ vc.packetDue := by
  cases hfilled with
  | idle hstate hview hc hret hdue =>
      rw [h.packetDue_off hstate, hc]
      simpa [ArqContent.nothing] using hdue
  | packet hstate hlt hview hc hret hdue =>
      rw [h.packetDue_off hstate, hc]
      simp [hlt, hdue]
  | connecting hstate hview hc hhandshake hret =>
      rw [SkyVirtualChannel.packetDue, hstate, hc]
      simp [ArqContent.nothing]
  | connected hstate harqOn hhandshake hctrl tx htx hview hpayload hdue =>
      rw [SkyVirtualChannel.packetDue, hstate, hdue hret]
      simp

/-- A channel without a packet that is due can be served. -/
theorem SkyVirtualChannel.fillLength_of_not_packetDue {vc : SkyVirtualChannel w}
    (hdue : vc.packetDue = false) (config : SkyConfig) (now : Int) (frames : UInt16)
    (length : Nat) : ∃ n, vc.fillLength config now frames length = some n := by
  rw [SkyVirtualChannel.fillLength]
  rw [SkyVirtualChannel.packetDue] at hdue
  cases hstate : vc.arqStateFlag with
  | off =>
      dsimp only
      split
      · exact ⟨_, rfl⟩
      · exact ⟨_, rfl⟩
  | inInit => exact ⟨_, rfl⟩
  | on =>
      rw [hstate] at hdue
      dsimp only at hdue ⊢
      rw [SkyVirtualChannel.payloadLength, if_neg (of_decide_eq_false hdue)]
      exact ⟨_, rfl⟩

/-! ## What `sky_tx` seals -/

section Sent

variable {H : KeyedHash} {node : SkyNode w} {v : Fin skyNumVirtualChannels}

/-- A crafted frame is sealed under the next sequence of its channel. -/
theorem craftFrame_sealed (hw : ArqSequenceWidth w) (hpos : 0 < node.conf.identityLen)
    (hid : node.conf.identityLen ≤ skyMaxIdentityLen) (hnode : node.RingsHold)
    (hflag : (node.conf.vc v).hasFlag skyConfigFlagAuthenticateTx) {now : Int}
    (hret : (craftFrame H node v now).2.2 = 1) :
    ∃ payload, (craftFrame H node v now).2.1.Sealed w H node.hmac.key node.conf.sender v
        (node.hmac.sequenceTx v) payload ∧
      (payload.isSome ↔ (node.virtualChannels v).packetDue) ∧
      (craftFrame H node v now).1.hmac.sequenceTx =
        Function.update node.hmac.sequenceTx v (node.hmac.sequenceTx v + 1) := by
  obtain ⟨view, hrep⟩ := hnode v
  obtain ⟨-, hw56, -⟩ := hw.bounds
  obtain ⟨others, hcarries⟩ := node.startedFor_carries hw56 hpos hid v now
  obtain ⟨hsound, hlength, hle⟩ := SkyNode.startedFor_spec hid v now
  have hfilledTo := hrep.filledTo hw hsound (hlength.le.trans hle) node.conf now
    (node.mac.framesSentInCurrentWindowPerVc v)
  obtain ⟨vc', tx, ret, c, view', heq, hfill, hfilled, -⟩ := hrep.fill hw56 hcarries node.conf now
    (node.mac.framesSentInCurrentWindowPerVc v)
  rw [heq] at hfilledTo
  have hhmac := skyTxExtensionEvalHmacReset_fst node.hmac
    (macSetFrameFields node.conf.mac node.mac (skyTxStartFrame node.conf v) now) v
  rw [SkyNode.startedFor] at heq
  simp only [craftFrame, hhmac, heq] at hret ⊢
  have hok : ¬ret < 0 := by
    intro hfail
    rw [if_pos hfail] at hret
    rw [show ret = 1 from hret] at hfail
    exact absurd hfail (by decide)
  rw [if_neg hok]
  exact ⟨c.payload, finishFrame_sealed H _ hflag hfill hfilledTo.room,
    hrep.filled_packetDue hfilled (not_lt.mp hok), rfl⟩

/-- A frame that `sky_tx` returns is sealed; it carries a payload when its channel had a
packet to send once the timeouts were checked. -/
theorem skyTx_sealed (hw : ArqSequenceWidth w) (hpos : 0 < node.conf.identityLen)
    (hid : node.conf.identityLen ≤ skyMaxIdentityLen) (hnode : node.RingsHold) {tick : Int}
    {tx : SkyTransmitFrame} (h : (skyTx H tick node).2.1 = some tx)
    (hpicked : node.picked tick = some v)
    (hflag : (node.conf.vc v).hasFlag skyConfigFlagAuthenticateTx) :
    ∃ payload, tx.Sealed w H node.hmac.key node.conf.sender v (node.hmac.sequenceTx v) payload ∧
      (payload.isSome ↔ ((node.checkTimeouts tick).virtualChannels v).packetDue) := by
  obtain ⟨u, -, hu, -, hcraft⟩ := skyTx_crafted h
  obtain rfl : u = v := Option.some.inj (hu.symm.trans hpicked)
  have hrings : (node.readyToSend tick).RingsHold := hnode.checkTimeouts tick
  have hready : 0 < (node.readyToSend tick).conf.identityLen := hpos
  obtain ⟨payload, hsealed, hdue, -⟩ := craftFrame_sealed hw hready hid hrings hflag
    (congrArg Prod.snd hcraft)
  rw [hcraft] at hsealed
  exact ⟨payload, hsealed, hdue⟩

/-- A channel without a packet that is due sends whenever it is its turn. -/
theorem skyTx_of_not_packetDue (hw : ArqSequenceWidth w)
    (hid : node.conf.identityLen ≤ skyMaxIdentityLen) (hnode : node.RingsHold) {tick : Int}
    (hsend : macCanSend node.conf.mac node.mac tick = true) (hpicked : node.picked tick = some v)
    (hdue : ((node.checkTimeouts tick).virtualChannels v).packetDue = false) :
    ∃ tx, (skyTx H tick node).2.1 = some tx := by
  obtain ⟨n, hlength⟩ := SkyVirtualChannel.fillLength_of_not_packetDue hdue node.conf tick
    ((node.readyToSend tick).mac.framesSentInCurrentWindowPerVc v)
    ((node.readyToSend tick).headerLength v)
  have hready : (node.readyToSend tick).conf.identityLen ≤ skyMaxIdentityLen := hid
  obtain ⟨-, -, -, hsome⟩ := craftFrame_length hw H hready (hnode.checkTimeouts tick) v tick
  have hframe : ∃ m, (node.readyToSend tick).frameLength v tick
      ((node.readyToSend tick).mac.framesSentInCurrentWindowPerVc v) = some m :=
    ⟨_, congrArg (Option.map _) hlength⟩
  obtain ⟨m, hm⟩ := hframe
  obtain ⟨hret, -⟩ := hsome m hm
  rw [skyTx_eq, hsend, hpicked]
  dsimp only
  rw [if_pos hret]
  exact ⟨_, rfl⟩

end Sent

/-! ## Agreement of sender and receiver -/

theorem step_key (H : KeyedHash) (node : SkyNode w) (op : NodeOp w) :
    (node.step H op).hmac.key = node.hmac.key := by
  by_cases hop : ∃ frame parsed, op.Reaches node frame parsed
  · obtain ⟨frame, parsed, ⟨tick, rfl⟩, hreceived⟩ := hop
    exact (skyRx_sameAuthentication H tick hreceived).key.trans check_sameOutsideCounters.key
  · push Not at hop
    exact (step_sameAuthentication H node hop).key

theorem run_key (H : KeyedHash) (node : SkyNode w) (ops : List (NodeOp w)) :
    (node.run H ops).hmac.key = node.hmac.key := by
  induction ops generalizing node with
  | nil => rfl
  | cons op ops ih => exact (ih (node.step H op)).trans (step_key H node op)

/-- Whatever `sky_tx` returns for channel `v` passes the authentication check of the
receiver, if its sequence lies within the jump that the receiver allows. -/
def SkyNode.AuthenticatesTo (H : KeyedHash) (node receiver : SkyNode w)
    (v : Fin skyNumVirtualChannels) (tick : Int) : Prop :=
  ∀ tx, (skyTx H tick node).2.1 = some tx → node.picked tick = some v →
    ((tx.frame.sequence - receiver.hmac.sequenceRx v).toNat : Int) ≤
      receiver.conf.hmac.maximumJump →
    receiver.accepts H tx.frame = true

/-- Between nodes that share the key the frames of a channel pass exactly when a packet is
due whenever the channel has its turn. -/
theorem authenticatesTo_iff (hw : ArqSequenceWidth w) (H : KeyedHash) {config : SkyConfig}
    {created : SkyNode w} (hcreate : skyCreate config = some created) {ops : List (NodeOp w)}
    (hops : ∀ op ∈ ops, op.Valid created) (receiver : SkyNode w)
    (hkey : receiver.hmac.key = created.hmac.key)
    (hidentity : receiver.conf.sender ≠ created.conf.sender) (v : Fin skyNumVirtualChannels)
    (hflag : (created.conf.vc v).hasFlag skyConfigFlagAuthenticateTx)
    (hreq : (receiver.conf.vc v).hasFlag skyConfigFlagRequireAuthentication) (tick : Int) :
    (created.run H ops).AuthenticatesTo H receiver v tick ↔
      (macCanSend created.conf.mac (created.run H ops).mac tick →
        (created.run H ops).picked tick = some v →
        (((created.run H ops).hmac.sequenceTx v - receiver.hmac.sequenceRx v).toNat : Int) ≤
          receiver.conf.hmac.maximumJump →
        (((created.run H ops).checkTimeouts tick).virtualChannels v).packetDue) := by
  have hrings := (skyCreate_ringsHold hw.bounds.2.2 hcreate).run H hops
  obtain ⟨hpos, hid⟩ := skyCreate_conf hcreate
  have hfilter := filterByIdentity_sender hid hidentity
  have hconf := run_conf H created ops
  rw [← run_key H created ops] at hkey
  rw [← hconf] at hpos hid hflag hfilter ⊢
  generalize created.run H ops = node at hrings hpos hid hflag hfilter hkey ⊢
  -- Every frame of the channel is sealed, so the payload alone decides.
  have hsealed {tx : SkyTransmitFrame} (htx : (skyTx H tick node).2.1 = some tx)
      (hpicked : node.picked tick = some v)
      (hjump : ((node.hmac.sequenceTx v - receiver.hmac.sequenceRx v).toNat : Int) ≤
        receiver.conf.hmac.maximumJump) :
      tx.frame.sequence = node.hmac.sequenceTx v ∧
        (receiver.accepts H tx.frame ↔
          ((node.checkTimeouts tick).virtualChannels v).packetDue) := by
    obtain ⟨payload, hsealed, hdue⟩ := skyTx_sealed hw (by omega) hid hrings htx hpicked hflag
    refine ⟨hsealed.frame_sequence, ?_⟩
    rw [hsealed.accepts_iff hw.bounds.2.1 hfilter hkey hreq, hdue]
    exact ⟨fun h => h.1, fun h => ⟨h, fun _ => hjump⟩⟩
  constructor
  · intro h hsend hpicked hjump
    by_contra hdue
    obtain ⟨tx, htx⟩ := skyTx_of_not_packetDue (H := H) hw hid hrings hsend hpicked
      (Bool.not_eq_true _ ▸ hdue)
    obtain ⟨hsequence, haccepts⟩ := hsealed htx hpicked hjump
    exact hdue (haccepts.mp (h tx htx hpicked (by rwa [hsequence])))
  · intro h tx htx hpicked hjump
    obtain ⟨u, hsend, -⟩ := skyTx_crafted htx
    obtain ⟨payload, hsealed', -⟩ := skyTx_sealed hw (by omega) hid hrings htx hpicked hflag
    rw [hsealed'.frame_sequence] at hjump
    exact (hsealed htx hpicked hjump).2.mpr (h hsend hpicked hjump)

/-- A node that has pushed a packet to a channel that authenticates its frames. -/
def examplePacketOps : List (NodeOp 8) := [.channel 1 (.push [1, 2, 3])]

theorem authenticatesTo_iff_example :
    ((exampleNode 3 7).run exampleHash examplePacketOps).AuthenticatesTo exampleHash
      (exampleNode 3 8) 1 0 :=
  (authenticatesTo_iff (.inl rfl) exampleHash (exampleNode_eq 3 7)
    (fun op hop => by rw [List.mem_singleton.mp hop]; exact trivial) (exampleNode 3 8) rfl
    (by decide) 1 (by decide +kernel) (by decide +kernel) 0).mpr (by decide +kernel)

/-- A node that has started to connect the channel. -/
def exampleConnectOps : List (NodeOp 8) := [.channel 1 (.connect 0)]

/-- The frame with the handshake only is rejected. -/
theorem not_authenticatesTo :
    ¬((exampleNode 3 7).run exampleHash exampleConnectOps).AuthenticatesTo exampleHash
      (exampleNode 3 8) 1 0 := by
  intro h
  have hframe : (skyTx exampleHash 0 ((exampleNode 3 7).run exampleHash
      exampleConnectOps)).2.1.map (fun tx =>
        (decide (((tx.frame.sequence - (exampleNode 3 8).hmac.sequenceRx 1).toNat : Int) ≤
          (exampleNode 3 8).conf.hmac.maximumJump),
        (exampleNode 3 8).accepts exampleHash tx.frame)) = some (true, false) := by
    decide +kernel
  obtain ⟨tx, htx, heq⟩ := Option.map_eq_some_iff.mp hframe
  obtain ⟨hjump, haccepts⟩ := Prod.mk.inj heq
  rw [h tx htx (by decide +kernel) (of_decide_eq_true hjump)] at haccepts
  cases haccepts

end Skylink
