import Skylink.Network.Delivery
import Skylink.Node.Replay

/-!
# Delivery against an attacker

On a channel whose frames carry a trailer and a sequence number, and whose receiver wants
both, the order of the frames does not rest on the medium: somebody who cannot make a
trailer may hold back, reorder, repeat and invent frames as he likes.
-/

namespace Skylink

variable {w : Nat}

/-! ## Buffers with the same frame -/

section SameFrame

variable {frame frame' : SkyRadioFrame}

/-- What is parsed from one of two such buffers is parsed from the other one. -/
theorem SkyRadioFrame.SameFrame.received_eq (h : frame.SameFrame frame') {node : SkyNode w}
    {parsed' : SkyParsedFrame} (hok : node.received frame' = .ok parsed') :
    ∃ parsed payload, node.received frame = .ok parsed ∧ parsed' = parsed.withPayload payload ∧
      skyHmacLength ≤ frame.length := by
  obtain ⟨hmin, identity, hid, hheader⟩ := received_ok node frame' hok
  rw [h.length] at hmin
  have hbyte := h.byte_eq (i := 0) ((by decide : 0 < skyFrameMinLen).trans_le (not_lt.mp hmin))
  have hlen := rxIdentity_length hid
  rw [hbyte] at hlen
  have hend : 1 + (frame.byte 0 &&& skylinkFrameIdentityMask).toNat ≤ frame.length := by
    by_contra hshort
    rw [rxHeader_short (by rw [h.length]; omega)] at hheader
    cases hheader
  rw [SkyNode.received, h.length, if_neg hmin, h.rxIdentity_eq hend] at hok
  rw [h.rxIdentity_eq hend] at hid
  rw [hid] at hok
  obtain ⟨payload, heq, -⟩ := h.rxHeader_eq (w := w) identity
  rw [heq] at hheader
  cases hparsed : rxHeader w frame identity with
  | error ret =>
      rw [hparsed] at hheader
      cases hheader
  | ok parsed =>
      rw [hparsed] at hheader
      refine ⟨parsed, payload, ?_, (Except.ok.inj hheader).symm,
        le_trans (by decide) (not_lt.mp hmin)⟩
      rw [SkyNode.received, if_neg hmin, hid]
      dsimp only at hok ⊢
      split_ifs at hok ⊢ with hfilter
      exact hparsed

/-- An accepted frame is accepted from every buffer that holds it. -/
theorem SkyRadioFrame.SameFrame.accepts (h : frame.SameFrame frame') {H : KeyedHash}
    {node : SkyNode w} (haccepts : node.accepts H frame' = true) :
    node.accepts H frame = true ∧ frame.header = frame'.header := by
  rw [SkyNode.accepts] at haccepts
  cases hreceived : node.received frame' with
  | error ret =>
      rw [hreceived] at haccepts
      cases haccepts
  | ok parsed' =>
      obtain ⟨parsed, payload, hreceived', rfl, hroom⟩ := h.received_eq hreceived
      have hcheck := h.check_eq hroom H (node.countReceived frame) parsed payload
      rw [hreceived, h.countReceived_eq] at haccepts
      dsimp only at haccepts
      rw [hcheck] at haccepts
      constructor
      · rw [SkyNode.accepts, hreceived']
        dsimp only
        cases hresult :
            (skyHmacCheckAuthentication H (node.countReceived frame) frame parsed).2 with
        | error ret =>
            rw [hresult] at haccepts
            cases haccepts
        | ok _ => rfl
      · rw [← received_hdr node frame' hreceived, ← received_hdr node frame hreceived']
        rfl

end SameFrame

/-! ## The numbers of the frames -/

/-- The node authenticates what it sends on the channel, and asks for trailers and sequence
numbers. -/
structure SkyNode.Protects (node : SkyNode w) (v : Fin skyNumVirtualChannels) : Prop where
  transmit : (node.conf.vc v).hasFlag skyConfigFlagAuthenticateTx
  receive : (node.conf.vc v).hasFlag skyConfigFlagRequireAuthentication
  sequence : (node.conf.vc v).hasFlag skyConfigFlagRequireSequence

/-- The frames of the channel among the first ones that were sent. -/
def Station.framesOn (s : Station w) (v : Fin skyNumVirtualChannels) (i : Nat) : Nat :=
  (s.sent.take i).countP fun tx => tx.frame.header.channel = v

/-- Every frame of the channel is sealed under its number. -/
structure Station.Numbered (H : KeyedHash) (v : Fin skyNumVirtualChannels) (s : Station w) :
    Prop where
  protects : s.node.Protects v
  sequenceTx : s.node.hmac.sequenceTx v = UInt16.ofNat (s.framesOn v s.sent.length)
  sealed : ∀ (i : Nat) (tx : SkyTransmitFrame), s.sent[i]? = some tx → tx.frame.header.channel = v →
    ∃ payload, tx.Sealed w H s.node.hmac.key s.node.conf.sender v
      (UInt16.ofNat (s.framesOn v i)) payload

/-- The station waits for the frame of the channel that is the first one from `q` on. -/
structure Station.Expects (v : Fin skyNumVirtualChannels) (s other : Station w) (q : Nat) :
    Prop where
  sequenceRx : s.node.hmac.sequenceRx v = UInt16.ofNat (other.framesOn v q)
  le : q ≤ other.sent.length

/-- What a station sends at once: nothing, or a frame under the next number of its channel. -/
structure Station.SendsNext (H : KeyedHash) (v : Fin skyNumVirtualChannels) (s s' : Station w)
    (txs : List SkyTransmitFrame) : Prop where
  sent : s'.sent = s.sent ++ txs
  one : txs.length ≤ 1
  sequenceTx : s'.node.hmac.sequenceTx v = s.node.hmac.sequenceTx v +
    UInt16.ofNat (txs.countP fun tx => tx.frame.header.channel = v)
  sealed : ∀ tx ∈ txs, tx.frame.header.channel = v →
    ∃ payload, tx.Sealed w H s.node.hmac.key s.node.conf.sender v (s.node.hmac.sequenceTx v)
      payload

section Transmit

variable {H : KeyedHash} {node : SkyNode w} {v : Fin skyNumVirtualChannels}

theorem skyTx_ret {tick : Int} (h : (skyTx H tick node).2.1 = none) :
    (skyTx H tick node).2.2 ≠ 1 := by
  intro hret
  have heq := skyTx_eq H tick node
  split at heq
  · rw [heq] at h hret
    dsimp only at h hret
    rw [if_pos hret] at h
    cases h
  · rw [heq] at hret
    cases hret

/-- The number of a channel counts the frames that leave the node on it. -/
theorem skyTx_countP (hw : ArqSequenceWidth w) (tick : Int) (hpos : 0 < node.conf.identityLen)
    (hid : node.conf.identityLen ≤ skyMaxIdentityLen) (hnode : node.RingsHold) :
    (skyTx H tick node).2.1.toList.countP (fun tx => tx.frame.header.channel = v) =
      if node.SendsOn H v (.tx tick) then 1 else 0 := by
  have hnone (hsent : (skyTx H tick node).2.1 = none) :
      (skyTx H tick node).2.1.toList.countP (fun tx => tx.frame.header.channel = v) =
        if node.SendsOn H v (.tx tick) then 1 else 0 := by
    rw [if_neg fun h => skyTx_ret hsent h.1, hsent]
    rfl
  cases skyTx_outcome hw H tick hpos hid hnode with
  | silent _ hsent => exact hnone hsent
  | failed _ _ _ _ _ _ _ _ _ hsent => exact hnone hsent
  | filled first _ _ _ _ c sent _ _ _ _ _ hpicked hsent hconveys =>
      obtain ⟨u, -, -, hone, -⟩ := skyTx_crafted hsent
      have hsends : node.SendsOn H v (.tx tick) ↔ first.channel = v := by
        rw [SkyNode.SendsOn, hone, hpicked, Option.some.injEq]
        exact and_iff_right rfl
      rw [hsent, Option.toList_some, List.countP_singleton, hconveys.channel]
      simp only [hsends, decide_eq_true_eq]

theorem skyTx_sealed_channel (hw : ArqSequenceWidth w) {tick : Int}
    (hpos : 0 < node.conf.identityLen) (hid : node.conf.identityLen ≤ skyMaxIdentityLen)
    (hnode : node.RingsHold) (hflag : (node.conf.vc v).hasFlag skyConfigFlagAuthenticateTx)
    {tx : SkyTransmitFrame} (htx : (skyTx H tick node).2.1 = some tx)
    (hchannel : tx.frame.header.channel = v) :
    ∃ payload, tx.Sealed w H node.hmac.key node.conf.sender v (node.hmac.sequenceTx v)
      payload := by
  cases skyTx_outcome hw H tick hpos hid hnode with
  | silent _ hsent => exact nomatch hsent.symm.trans htx
  | failed _ _ _ _ _ _ _ _ _ hsent => exact nomatch hsent.symm.trans htx
  | filled first _ _ _ _ c sent _ _ _ _ _ hpicked hsent hconveys =>
      obtain rfl : sent = tx := Option.some.inj (hsent.symm.trans htx)
      obtain rfl : first.channel = v := hconveys.channel.symm.trans hchannel
      obtain ⟨payload, hsealed, -⟩ := skyTx_sealed hw hpos hid hnode htx hpicked hflag
      exact ⟨payload, hsealed⟩

end Transmit

namespace Station

variable {s : Station w} {v : Fin skyNumVirtualChannels}

theorem framesOn_append {s' : Station w} {sent : List SkyTransmitFrame}
    (h : s'.sent = s.sent ++ sent) {i : Nat} (hi : i ≤ s.sent.length) :
    s'.framesOn v i = s.framesOn v i := by
  rw [framesOn, framesOn, h, List.take_append_of_le_length hi]

theorem framesOn_mono {i j : Nat} (h : i ≤ j) : s.framesOn v i ≤ s.framesOn v j :=
  (List.take_sublist_take_left h).countP_le

theorem framesOn_succ {i : Nat} {tx : SkyTransmitFrame} (htx : s.sent[i]? = some tx)
    (hchannel : tx.frame.header.channel = v) : s.framesOn v (i + 1) = s.framesOn v i + 1 := by
  rw [framesOn, framesOn, List.take_add_one, htx, List.countP_append, Option.toList_some,
    List.countP_singleton, if_pos (decide_eq_true hchannel)]

end Station

namespace Network

variable {H : KeyedHash} {v : Fin skyNumVirtualChannels} {net : Network w}

theorem step_nearConf (H : KeyedHash) (net : Network w) (e : NetworkEvent w) :
    (net.step H e).near.node.conf = net.near.node.conf ∧
      (net.step H e).near.node.hmac.key = net.near.node.hmac.key := by
  rw [step_node]
  cases net.nodeOp e with
  | none => exact ⟨rfl, rfl⟩
  | some op => exact ⟨step_conf H _ op, step_key H _ op⟩

/-- At most one frame is sent, and a frame of the channel takes the next number. -/
theorem step_sealed (hw : ArqSequenceWidth w) (hsound : net.Sound)
    (hflag : (net.near.node.conf.vc v).hasFlag skyConfigFlagAuthenticateTx)
    (e : NetworkEvent w) : ∃ txs, net.near.SendsNext H v (net.step H e).near txs := by
  obtain ⟨hpos, hid⟩ := hsound.1.identity
  have hquiet (hsent : (net.step H e).near.sent = net.near.sent)
      (hop : ∀ op ∈ net.nodeOp e, ¬net.near.node.SendsOn H v op) :
      ∃ txs, net.near.SendsNext H v (net.step H e).near txs := by
    refine ⟨[], hsent.trans (List.append_nil _).symm, Nat.zero_le _, ?_, nofun⟩
    rw [step_node]
    cases heq : net.nodeOp e with
    | none => exact (UInt16.add_zero _).symm
    | some op =>
        dsimp only
        rw [step_sequenceTx, if_neg (hop op heq)]
        rfl
  cases e with
  | transmit tick =>
      refine ⟨(skyTx H tick net.near.node).2.1.toList, rfl, ?_, ?_, fun tx htx hchannel => ?_⟩
      · cases (skyTx H tick net.near.node).2.1 with
        | none => exact Nat.zero_le _
        | some tx => exact le_rfl
      · rw [skyTx_countP hw tick hpos hid hsound.1.rings]
        exact step_sequenceTx H v net.near.node (.tx tick)
      · exact skyTx_sealed_channel hw hpos hid hsound.1.rings hflag (Option.mem_toList.mp htx)
          hchannel
  | receive tick rxTimeTicks i =>
      apply hquiet (net.step_sent H _)
      intro op hop
      obtain ⟨tx, -, rfl⟩ := Option.map_eq_some_iff.mp hop
      exact id
  | _ =>
      apply hquiet (net.step_sent H _)
      intro op hop
      cases hop
      exact id

end Network

theorem Station.Numbered.step (hw : ArqSequenceWidth w) {H : KeyedHash}
    {v : Fin skyNumVirtualChannels} {net : Network w} (h : net.near.Numbered H v)
    (hsound : net.Sound) (e : NetworkEvent w) : (net.step H e).near.Numbered H v := by
  obtain ⟨hconf, hkey⟩ := net.step_nearConf H e
  obtain ⟨sent, hsent, hone, hsequence, hsealed⟩ :=
    Network.step_sealed (H := H) hw hsound h.protects.transmit e
  refine ⟨?_, ?_, fun i tx htx hchannel => ?_⟩
  · constructor
    all_goals rw [hconf]
    exacts [h.protects.transmit, h.protects.receive, h.protects.sequence]
  · rw [hsequence, h.sequenceTx, ← UInt16.ofNat_add, framesOn, framesOn, hsent,
      List.take_length, List.take_length, List.countP_append]
  · rw [hconf, hkey]
    rw [hsent] at htx
    rcases Nat.lt_or_ge i net.near.sent.length with hlt | hge
    · rw [List.getElem?_append_left hlt] at htx
      rw [Station.framesOn_append hsent hlt.le]
      exact h.sealed i tx htx hchannel
    · rw [List.getElem?_append_right hge] at htx
      have hi := (List.getElem?_eq_some_iff.mp htx).1
      obtain rfl : i = net.near.sent.length := by omega
      rw [Station.framesOn_append hsent le_rfl, ← h.sequenceTx]
      exact hsealed tx (List.mem_of_getElem? htx) hchannel

/-! ## What the receiver lets through -/

/-- The frames of the channel leave room for the jump that the receiver allows, before the
numbers come around. -/
def Network.InRange (v : Fin skyNumVirtualChannels) (net : Network w) : Prop :=
  (net.far.framesOn v net.far.sent.length : Int) + net.near.node.conf.hmac.maximumJump ≤ 65535

section Receive

variable {H : KeyedHash} {v : Fin skyNumVirtualChannels} {net : Network w}
  {frame : SkyRadioFrame} {tx : SkyTransmitFrame}

theorem SkyNode.Protects.passes {node : SkyNode w} (h : node.Protects v)
    (hchannel : frame.header.channel = v) (haccepts : node.accepts H frame = true) :
    frame.Authentic H node.hmac.key ∧
      ((frame.sequence - node.hmac.sequenceRx v).toNat : Int) ≤ node.conf.hmac.maximumJump := by
  obtain ⟨parsed, hreceived⟩ := exists_received H haccepts
  have hhdr := received_hdr node frame hreceived
  have hparsed : parsed.hdr.channel = v := by rw [hhdr, hchannel]
  have hpass := (accepts_iff H hreceived (by rw [hparsed]; exact h.receive)).mp haccepts
  have hjump := hpass.2.2.2 (by rw [hparsed]; exact h.sequence)
  rw [hparsed, hhdr] at hjump
  exact ⟨hpass.2.2.1, hjump⟩

/-- A station does not take its own frames. -/
theorem Station.Numbered.own_rejected {s : Station w} (h : s.Numbered H v)
    (hid : s.node.conf.identityLen ≤ skyMaxIdentityLen) (htx : tx ∈ s.sent)
    (hsame : tx.frame.SameFrame frame) (hchannel : frame.header.channel = v) :
    s.node.accepts H frame = false := by
  by_contra htaken
  rw [Bool.not_eq_false] at htaken
  obtain ⟨haccepts, hheader⟩ := hsame.accepts htaken
  obtain ⟨i, hi⟩ := List.getElem?_of_mem htx
  obtain ⟨payload, hsealed⟩ := h.sealed i tx hi (by rw [hheader, hchannel])
  obtain ⟨vs, trailer, -, hbuilt⟩ := hsealed.built
  obtain ⟨parsed, hreceived⟩ := exists_received H haccepts
  have hfilter : filterByIdentity s.node
      (s.node.conf.sender, s.node.conf.sender.length) = true := by
    rw [filterByIdentity, SkyConfig.sender_length hid, SkyConfig.sender]
    simp
  rw [SkyNode.received, hbuilt.rxIdentity] at hreceived
  dsimp only at hreceived
  rw [hfilter] at hreceived
  split at hreceived <;> cases hreceived

/-- An accepted frame was sent after all that were accepted before. -/
theorem Station.Expects.after (hfar : net.far.Numbered H v) (hnear : net.near.node.Protects v)
    {q : Nat} (h : net.near.Expects v net.far q) (hrange : net.InRange v) {i : Nat}
    (htx : net.far.sent[i]? = some tx) (hchannel : tx.frame.header.channel = v)
    (hheader : tx.frame.header = frame.header)
    (haccepts : net.near.node.accepts H frame = true) :
    q ≤ i ∧ frame.sequence = UInt16.ofNat (net.far.framesOn v i) := by
  have hchannel' : frame.header.channel = v := by rw [← hheader, hchannel]
  obtain ⟨payload, hsealed⟩ := hfar.sealed i tx htx hchannel
  have hsequence : frame.sequence = UInt16.ofNat (net.far.framesOn v i) := by
    rw [← hsealed.frame_sequence, SkyRadioFrame.sequence, SkyRadioFrame.sequence, hheader]
  refine ⟨?_, hsequence⟩
  by_contra hlate
  have hjump := (hnear.passes hchannel' haccepts).2
  have hsucc := net.far.framesOn_succ htx hchannel
  have hnext := net.far.framesOn_mono (v := v) (show i + 1 ≤ q by omega)
  have hall := net.far.framesOn_mono (v := v) h.le
  rw [Network.InRange] at hrange
  have htoNat {n : Nat} (hn : n ≤ net.far.framesOn v net.far.sent.length) :
      (UInt16.ofNat n).toNat = n := by
    apply UInt16.toNat_ofNat_of_lt'
    rw [UInt16.size]
    omega
  rw [hsequence, h.sequenceRx, sub_toNat_eq_emod, htoNat (by omega), htoNat hall] at hjump
  omega

end Receive

/-! ## Runs under attack -/

namespace Network

/-- Everything can be received at any time, but a trailer under the key of the near station
is on no other frame of the channel than those that were sent. -/
def Attacked (H : KeyedHash) (v : Fin skyNumVirtualChannels) (net : Network w) :
    NetworkEvent w → Prop
  | .receive _ _ _ => net.InRange v
  | .receiveOther _ frame => net.InRange v ∧ frame.raw.length = rawLen ∧
      (frame.header.channel = v → frame.Authentic H net.near.node.hmac.key →
        ∃ tx ∈ net.near.sent ++ net.far.sent, tx.frame.SameFrame frame)
  | _ => True

instance (v : Fin skyNumVirtualChannels) (net : Network w) : Decidable (net.InRange v) :=
  inferInstanceAs (Decidable ((_ : Int) ≤ _))

instance (H : KeyedHash) (v : Fin skyNumVirtualChannels) (net : Network w) :
    (e : NetworkEvent w) → Decidable (net.Attacked H v e)
  | .receive _ _ _ => inferInstanceAs (Decidable (net.InRange v))
  | .receiveOther _ frame =>
      haveI (tx : SkyTransmitFrame) : Decidable (tx.frame.SameFrame frame) :=
        decidable_of_iff (_ ∧ _) ⟨fun h => ⟨h.1, h.2⟩, fun h => ⟨h.1, h.2⟩⟩
      haveI : Decidable (frame.Authentic H net.near.node.hmac.key) :=
        inferInstanceAs (Decidable (frame.trailer = _))
      inferInstanceAs (Decidable (_ ∧ _ ∧ (_ → _ → ∃ tx ∈ net.near.sent ++ net.far.sent,
        SkyRadioFrame.SameFrame (SkyTransmitFrame.frame tx) frame)))
  | .push .. | .read .. | .connect .. | .disconnect _ | .transmit _ => .isTrue trivial

/-- The sequence numbers of both directions of the channel. -/
structure Sequenced (H : KeyedHash) (v : Fin skyNumVirtualChannels) (net : Network w)
    (p q : Nat) : Prop where
  near : net.near.Numbered H v
  far : net.far.Numbered H v
  nearExpects : net.near.Expects v net.far q
  farExpects : net.far.Expects v net.near p

section Step

variable {H : KeyedHash} {v : Fin skyNumVirtualChannels} {net : Network w}

/-- A frame of the channel that is accepted was sent by the far station. -/
theorem Attacked.source (hsound : net.Sound) (hnear : net.near.Numbered H v)
    {e : NetworkEvent w} (he : net.Attacked H v e) {tick : Int} {frame : SkyRadioFrame}
    (hop : net.nodeOp e = some (.rx tick frame)) (hchannel : frame.header.channel = v)
    (haccepts : net.near.node.accepts H frame = true) :
    net.InRange v ∧ ∃ (i : Nat) (tx : SkyTransmitFrame),
      net.far.sent[i]? = some tx ∧ tx.frame.SameFrame frame := by
  cases e with
  | receive tick rxTimeTicks i =>
      obtain ⟨tx, htx, heq⟩ := Option.map_eq_some_iff.mp hop
      cases heq
      exact ⟨he, i, tx, htx, rfl, rfl⟩
  | receiveOther tick frame =>
      cases hop
      obtain ⟨hrange, -, hknown⟩ := he
      refine ⟨hrange, ?_⟩
      obtain ⟨tx, hmem, hsame⟩ :=
        hknown hchannel (hnear.protects.passes hchannel haccepts).1
      rcases List.mem_append.mp hmem with hown | hsent
      · rw [hnear.own_rejected hsound.1.identity.2 hown hsame hchannel] at haccepts
        cases haccepts
      · obtain ⟨i, hi⟩ := List.getElem?_of_mem hsent
        exact ⟨i, tx, hi, hsame⟩
  | _ => cases hop

theorem attacked_keepsOrder (hw : ArqSequenceWidth w) (H : KeyedHash)
    (v : Fin skyNumVirtualChannels) :
    KeepsOrder H v (Attacked (w := w) H v) (Sequenced H v) := by
  refine ⟨fun net p q h => ⟨h.far, h.near, h.farExpects, h.nearExpects⟩,
    fun net p q e hsound h he => ⟨?_, ?_⟩⟩
  · cases e with
    | receiveOther tick frame => exact he.2.1
    | _ => trivial
  have hfar := net.step_far H e
  obtain ⟨txs, hsends⟩ := step_sealed (H := H) hw hsound h.near.protects.transmit e
  -- whatever the near station takes, the far one waits for the same frame as before
  have hsequenced {q' : Nat} (hrx : (net.step H e).near.Expects v net.far q') :
      Sequenced H v (net.step H e) p q' := by
    refine ⟨h.near.step hw hsound e, by rw [hfar]; exact h.far, by rw [hfar]; exact hrx, ?_⟩
    rw [hfar]
    refine ⟨?_, ?_⟩
    · rw [Station.framesOn_append hsends.sent h.farExpects.le]
      exact h.farExpects.sequenceRx
    · rw [hsends.sent, List.length_append]
      exact h.farExpects.le.trans (Nat.le_add_right _ _)
  by_cases htaken : ∃ tick frame, net.nodeOp e = some (.rx tick frame) ∧
      frame.header.channel = v ∧ net.near.node.accepts H frame = true
  case pos =>
    obtain ⟨tick, frame, hop, hchannel, haccepts⟩ := htaken
    obtain ⟨hrange, i, tx, htx, hsame⟩ := he.source hsound h.near hop hchannel haccepts
    have hreceived : (tx.receivedAt frame.rxTimeTicks).SameFrame frame :=
      ⟨hsame.length, hsame.contents⟩
    obtain ⟨haccepts', hheader⟩ := hreceived.accepts haccepts
    replace hheader : tx.frame.header = frame.header := hheader
    have hchannel' : tx.frame.header.channel = v := by rw [hheader, hchannel]
    obtain ⟨hle, hsequence⟩ :=
      h.nearExpects.after h.far h.near.protects hrange htx hchannel' hheader haccepts
    refine ⟨i + 1, .takes tick frame i tx hop htx hsame hle hchannel' haccepts' rfl,
      hsequenced ⟨?_, (List.getElem?_eq_some_iff.mp htx).1⟩⟩
    have hnode : (net.step H e).near.node = net.near.node.step H (.rx tick frame) := by
      rw [step_node, hop]
    rw [hnode, step_accepted H v h.near.protects.receive ⟨hchannel, hsequence, haccepts⟩ tick,
      Station.framesOn_succ htx hchannel', UInt16.ofNat_add]
    rfl
  case neg =>
    refine ⟨q, .skips (fun tick frame hop htaken' => htaken ⟨tick, frame, hop, htaken'⟩) rfl,
      hsequenced ⟨?_, h.nearExpects.le⟩⟩
    rw [step_node, ← h.nearExpects.sequenceRx]
    cases hop : net.nodeOp e with
    | none => rfl
    | some op =>
        dsimp only
        have hstays : net.near.node.advanceBy H v op = 0 := by
          cases op with
          | rx tick frame =>
              exact if_neg fun htaken' => htaken ⟨tick, frame, hop, htaken'⟩
          | _ => rfl
        rw [step_sequenceRx H v h.near.protects.receive, hstays]
        exact UInt16.add_zero _

end Step

theorem skyCreate_sequences {config : SkyConfig} {node : SkyNode w}
    (h : skyCreate config = some node) (v : Fin skyNumVirtualChannels) :
    node.hmac.sequenceTx v = 0 ∧ node.hmac.sequenceRx v = 0 := by
  simp only [skyCreate, Option.bind_eq_bind, Option.bind_eq_some_iff, Option.some.injEq] at h
  obtain ⟨-, -, -, -, -, -, -, -, -, -, rfl⟩ := h
  exact ⟨rfl, rfl⟩

/-- Nothing was sent yet, and nothing is expected but the first frames. -/
theorem sequenced_new {H : KeyedHash} {v : Fin skyNumVirtualChannels}
    {config config' : SkyConfig} {a b : SkyNode w} (ha : skyCreate config = some a)
    (hb : skyCreate config' = some b) (hprotects : a.Protects v ∧ b.Protects v) :
    Sequenced H v (.new a b) 0 0 := by
  obtain ⟨haTx, haRx⟩ := skyCreate_sequences ha v
  obtain ⟨hbTx, hbRx⟩ := skyCreate_sequences hb v
  exact ⟨⟨hprotects.1, haTx, nofun⟩, ⟨hprotects.2, hbTx, nofun⟩, ⟨haRx, le_rfl⟩,
    ⟨hbRx, le_rfl⟩⟩

/-- Whoever cannot make a trailer can neither have a payload handed over twice nor change the
order, on a channel that offers no session. -/
theorem attacked_delivers_once (hw : ArqSequenceWidth w) {H : KeyedHash}
    {config config' : SkyConfig} {a b : SkyNode w} (ha : skyCreate config = some a)
    (hb : skyCreate config' = some b) {v : Fin skyNumVirtualChannels}
    (hprotects : a.Protects v ∧ b.Protects v)
    (hfits : (Link.idle (a.virtualChannels v) (b.virtualChannels v)).Fits ∧
      (Link.idle (a.virtualChannels v) (b.virtualChannels v)).swap.Fits)
    {events : List (Side × NetworkEvent w)}
    (hmeets : (Network.new a b).RunMeets H (Attacked H v) events)
    (hconnect : ∀ side tickTime, (side, VcCall.connect tickTime) ∉ calls v events) :
    DeliversOnce v ((Network.new a b).run H events) :=
  (attacked_keepsOrder hw H v).read_sublist hw (skyCreate_network_sound hw ha hb)
    (skyCreate_channel hw.bounds.2.2 ha v) (skyCreate_channel hw.bounds.2.2 hb v) hfits
    (sequenced_new ha hb hprotects) hmeets hconnect

/-- The first frame is repeated, both to its receiver and to its sender, and a trailer is
guessed. -/
def exampleAttack : List (Side × NetworkEvent 8) :=
  [(.left, .push 1 [1]), (.left, .push 1 [2]), (.left, .transmit 5), (.left, .transmit 6),
    (.right, .receive 7 7 0), (.right, .receive 8 8 0),
    (.right, .receiveOther 9 (forgedTddFrame [7, 0, 0] [0, 0, 0, 0] 1).frame),
    (.right, .receive 10 10 1), (.right, .receive 11 11 0), (.right, .read 1 200),
    (.right, .read 1 200), (.right, .read 1 200)]

theorem attacked_delivers_once_example :
    DeliversOnce 1 ((exampleNetwork 7).run exampleHash exampleAttack) := by
  have hcalls : calls 1 exampleAttack = [(.left, .push [1]), (.left, .push [2]),
      (.right, .read 200), (.right, .read 200), (.right, .read 200)] := rfl
  have hconnect : ∀ side tickTime, (side, VcCall.connect tickTime) ∉ calls 1 exampleAttack := by
    intro side tickTime
    rw [hcalls]
    simp
  exact attacked_delivers_once (.inl rfl) (exampleNode_eq 7 7) (exampleNode_eq 7 8)
    ⟨⟨by decide +kernel, by decide +kernel, by decide +kernel⟩,
      by decide +kernel, by decide +kernel, by decide +kernel⟩
    (by decide +kernel) (by decide +kernel) hconnect

end Network

end Skylink
