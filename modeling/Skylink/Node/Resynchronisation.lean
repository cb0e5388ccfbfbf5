import Skylink.Node.Authentication
import Skylink.Node.Enforcement

/-!
# Resynchronisation

A node that rejects a frame for its sequence owes its peer a reset of the sequence. The
parser hands on resets of two bytes and `sky_rx` takes those of three, so no frame that a
node receives moves the numbers under which it sends.
-/

namespace Skylink

variable {w : Nat}

/-! ## Resets have no effect -/

/-- A reset extension that the parser let pass has two bytes. -/
def SkyParsedFrame.ResetShort (parsed : SkyParsedFrame) : Prop :=
  ∀ ext, parsed.hmacReset = some ext → ext.length = 2

theorem received_resetShort {node : SkyNode w} {frame : SkyRadioFrame} {parsed : SkyParsedFrame}
    (h : node.received frame = .ok parsed) : parsed.ResetShort := by
  obtain ⟨-, identity, -, hheader⟩ := received_ok node frame h
  intro ext hext
  obtain ⟨-, -, hsize⟩ := (rxHeader_located hheader).1 extensionHmacSequenceReset ext hext
  exact (Option.some.inj hsize).symm

/-- The length that `sky_rx` asks for is another one. -/
theorem processHmacReset_resetShort (hmac : SkyHMAC) {parsed : SkyParsedFrame}
    (h : parsed.ResetShort) (v : Fin skyNumVirtualChannels) :
    processHmacReset hmac parsed v = hmac := by
  rw [processHmacReset]
  split
  · rfl
  · rename_i ext hext
    rw [skyRxProcessExtHmacSequenceReset, if_pos]
    rw [h ext hext]
    decide

theorem SkyParsedFrame.ResetShort.sequenceTx_eq {parsed : SkyParsedFrame}
    (h : parsed.ResetShort) {hmac : SkyHMAC} {sequenceTx : Fin skyNumVirtualChannels → UInt16}
    (hreset : processHmacReset hmac
      { parsed with
        hdr := { parsed.hdr with frameSequence := skyNtoh16 parsed.hdr.frameSequence } }
      parsed.hdr.channel = { hmac with sequenceTx := sequenceTx }) :
    sequenceTx = hmac.sequenceTx :=
  congrArg SkyHMAC.sequenceTx (hreset.symm.trans (processHmacReset_resetShort hmac h _))

theorem check_sequenceTx (H : KeyedHash) (self : SkyNode w) (frame : SkyRadioFrame)
    {parsed : SkyParsedFrame} (h : parsed.ResetShort) :
    (skyHmacCheckAuthentication H self frame parsed).1.hmac.sequenceTx =
      self.hmac.sequenceTx := by
  cases check_cases H self frame parsed with
  | far sequenceTx hreset _ _ _ heq =>
      rw [heq]
      exact h.sequenceTx_eq hreset
  | passed sequenceTx hreset _ _ _ _ heq =>
      rw [heq]
      exact h.sequenceTx_eq hreset
  | _ =>
      rename_i heq
      exact congrArg (fun out => out.1.hmac.sequenceTx) heq

theorem acceptFrame_hmac (tick : Int) (node : SkyNode w) (rxTimeTicks : Int)
    (parsed : SkyParsedFrame) :
    (acceptFrame tick node rxTimeTicks parsed).1.hmac = node.hmac := by
  rw [acceptFrame_eq]

/-- No received frame moves the numbers under which a node sends. -/
theorem skyRx_sequenceTx (H : KeyedHash) (tick : Int) (node : SkyNode w)
    (frame : SkyRadioFrame) :
    (skyRx H tick node frame).1.hmac.sequenceTx = node.hmac.sequenceTx := by
  by_cases hlen : frame.length < skyFrameMinLen
  · rw [skyRx, if_pos hlen]
  · rw [skyRx_eq H tick node frame hlen]
    cases hreceived : node.received frame with
    | error ret => rfl
    | ok parsed =>
        have hcheck := check_sequenceTx H (node.countReceived frame) frame
          (received_resetShort hreceived)
        dsimp only
        split
        · rename_i node' ret heq
          rw [heq] at hcheck
          exact hcheck
        · rename_i node' parsed' heq
          rw [heq] at hcheck
          rw [acceptFrame_hmac]
          exact hcheck

/-! ## The numbers of the frames that are sent -/

section Run

variable (H : KeyedHash) (v : Fin skyNumVirtualChannels)

/-- The number of frames that leave the node on a channel. -/
def SkyNode.framesSent : SkyNode w → List (NodeOp w) → Nat
  | _, [] => 0
  | node, op :: ops => (if node.SendsOn H v op then 1 else 0) + framesSent (node.step H op) ops

theorem craftFrame_sequenceTx (node : SkyNode w) (u : Fin skyNumVirtualChannels) (now : Int) :
    (craftFrame H node u now).1.hmac.sequenceTx =
      if (craftFrame H node u now).2.2 = 1 then
        Function.update node.hmac.sequenceTx u (node.hmac.sequenceTx u + 1)
      else node.hmac.sequenceTx := by
  simp only [craftFrame]
  rw [skyTxExtensionEvalHmacReset_fst]
  split
  · rename_i hfail
    refine (if_neg ?_).symm
    intro hone
    rw [show _ = (1 : SkyRet) from hone] at hfail
    exact absurd hfail (by decide)
  · rfl

/-- A frame that is sent takes the next number of its channel. -/
theorem step_sequenceTx (node : SkyNode w) (op : NodeOp w) :
    (node.step H op).hmac.sequenceTx v =
      node.hmac.sequenceTx v + UInt16.ofNat (if node.SendsOn H v op then 1 else 0) := by
  have hstays (hnot : ¬node.SendsOn H v op) : node.hmac.sequenceTx v =
      node.hmac.sequenceTx v + UInt16.ofNat (if node.SendsOn H v op then 1 else 0) := by
    rw [if_neg hnot]
    exact (UInt16.add_zero _).symm
  cases op with
  | rx tick frame =>
      rw [SkyNode.step, skyRx_sequenceTx]
      exact hstays id
  | channel u op => exact hstays id
  | tx tick =>
      have hready : (node.readyToSend tick).hmac = node.hmac := rfl
      have heq := skyTx_eq H tick node
      rw [SkyNode.step, heq]
      split at heq
      · rename_i u hsend hpicked
        dsimp only
        rw [craftFrame_sequenceTx, hready]
        by_cases hret : (craftFrame H (node.readyToSend tick) u tick).2.2 = 1
        · rw [if_pos hret]
          by_cases hu : u = v
          · have hsends : node.SendsOn H v (.tx tick) := by
              refine ⟨?_, hpicked.trans (congrArg some hu)⟩
              rw [heq]
              exact hret
            rw [if_pos hsends, ← hu, Function.update_self]
            rfl
          · rw [Function.update_of_ne (Ne.symm hu)]
            exact hstays fun h => hu (Option.some.inj (hpicked.symm.trans h.2))
        · rw [if_neg hret]
          refine hstays fun h => hret ?_
          rw [← h.1, heq]
      · apply hstays
        intro h
        have hret := h.1
        rw [heq] at hret
        cases hret

theorem run_sequenceTx (node : SkyNode w) (ops : List (NodeOp w)) :
    (node.run H ops).hmac.sequenceTx v =
      node.hmac.sequenceTx v + UInt16.ofNat (node.framesSent H v ops) := by
  induction ops generalizing node with
  | nil => exact (UInt16.add_zero _).symm
  | cons op ops ih =>
      have hstep := step_sequenceTx H v node op
      have hrun := ih (node.step H op)
      rw [SkyNode.framesSent, UInt16.ofNat_add, ← UInt16.add_assoc, ← hstep]
      exact hrun

end Run

/-! ## A rejection and what follows -/

/-- Node `a` sends `rejected`, node `b` answers with `answer`, and `a` sends `next`. The
lists are the operations that the nodes serve in between. -/
structure Recovery (w : Nat) where
  rejected : SkyTransmitFrame
  answer : SkyTransmitFrame
  next : SkyTransmitFrame
  rejectedTick : Int
  rejectionTick : Int
  answerTick : Int
  answeredTick : Int
  nextTick : Int
  aWaiting : List (NodeOp w)
  aAnswered : List (NodeOp w)
  bWaiting : List (NodeOp w)
  bAnswered : List (NodeOp w)

namespace Recovery

/-- What `a` does before it sends `next`. -/
def aOps (r : Recovery w) : List (NodeOp w) :=
  .tx r.rejectedTick :: (r.aWaiting ++ .rx r.answeredTick r.answer.frame :: r.aAnswered)

/-- What `b` does before it receives `next`. -/
def bOps (r : Recovery w) : List (NodeOp w) :=
  .rx r.rejectionTick r.rejected.frame :: (r.bWaiting ++ .tx r.answerTick :: r.bAnswered)

/-- A frame of `a` on channel `v` is rejected by `b` for its sequence, a frame with a
payload that `b` sends on `v` then is accepted by `a`, and `next` is a frame with a payload
that `a` sends on `v` then. -/
structure Happens (r : Recovery w) (H : KeyedHash) (v : Fin skyNumVirtualChannels)
    (a b : SkyNode w) : Prop where
  sends : (skyTx H r.rejectedTick a).2.1 = some r.rejected
  sendsOn : a.picked r.rejectedTick = some v
  rejects : (skyRx H r.rejectionTick b r.rejected.frame).2 = .excessiveHmacJump
  answers : (skyTx H r.answerTick
    (b.run H (.rx r.rejectionTick r.rejected.frame :: r.bWaiting))).2.1 = some r.answer
  answersOn : (b.run H (.rx r.rejectionTick r.rejected.frame :: r.bWaiting)).picked r.answerTick =
    some v
  answerPayload : r.answer.hdr.hasFlag skyFlagHasPayload = true
  answered : (a.run H (.tx r.rejectedTick :: r.aWaiting)).accepts H r.answer.frame = true
  sendsNext : (skyTx H r.nextTick (a.run H r.aOps)).2.1 = some r.next
  sendsNextOn : (a.run H r.aOps).picked r.nextTick = some v
  nextPayload : r.next.hdr.hasFlag skyFlagHasPayload = true

/-- The frame that `a` sends next is accepted by `b`. -/
def Succeeds (r : Recovery w) (H : KeyedHash) (b : SkyNode w) : Prop :=
  (b.run H r.bOps).accepts H r.next.frame = true

/-- What the nodes are asked for in between can be stored. -/
def Valid (r : Recovery w) (a b : SkyNode w) : Prop :=
  (∀ op ∈ r.aWaiting ++ r.aAnswered, op.Valid a) ∧ ∀ op ∈ r.bWaiting ++ r.bAnswered, op.Valid b

end Recovery

/-- A state that a run of a created node reaches, except that the sequences of
authenticated frames may be any. -/
def SkyNode.ReachedUpToSequences (H : KeyedHash) (node created : SkyNode w) : Prop :=
  ∃ ops : List (NodeOp w), (∀ op ∈ ops, op.Valid created) ∧
    ∃ sequenceTx sequenceRx, node =
      { created.run H ops with
        hmac := { (created.run H ops).hmac with
          sequenceTx := sequenceTx, sequenceRx := sequenceRx } }

theorem SkyNode.ReachedUpToSequences.spec {H : KeyedHash} {node created : SkyNode w}
    (h : node.ReachedUpToSequences H created) (hrings : created.RingsHold) :
    node.conf = created.conf ∧ node.hmac.key = created.hmac.key ∧ node.RingsHold := by
  obtain ⟨ops, hops, sequenceTx, sequenceRx, rfl⟩ := h
  exact ⟨run_conf H created ops, run_key H created ops, hrings.run H hops⟩

/-- A frame of `sky_tx` fits its buffer. -/
theorem skyTx_raw_length (hw : ArqSequenceWidth w) {H : KeyedHash} {tick : Int}
    {node : SkyNode w} (hid : node.conf.identityLen ≤ skyMaxIdentityLen)
    (hnode : node.RingsHold) {tx : SkyTransmitFrame} (h : (skyTx H tick node).2.1 = some tx) :
    tx.frame.raw.length = rawLen := by
  obtain ⟨v, -, -, -, hcraft⟩ := skyTx_crafted h
  have hready : (node.readyToSend tick).conf.identityLen ≤ skyMaxIdentityLen := hid
  obtain ⟨-, hle, -⟩ := craftFrame_length hw H hready (hnode.checkTimeouts tick) v tick
  rw [hcraft] at hle
  exact SkyTransmitFrame.frame_raw_length (hle.trans (by decide))

/-! ## What a rejection tells -/

theorem skyVcProcessFrame_ret (tickTime : Int) (vc : SkyVirtualChannel w)
    (parsed : SkyParsedFrame) (now : Int) :
    (skyVcProcessFrame tickTime vc parsed now).2 = 0 ∨
      (skyVcProcessFrame tickTime vc parsed now).2 = -1 := by
  rw [skyVcProcessFrame]
  split
  · split
    · exact .inl rfl
    · exact .inl rfl
  · exact .inl rfl
  · rw [processFrameOn]
    dsimp only
    split
    · split
      · exact .inr rfl
      · exact .inl rfl
    · exact .inl rfl

theorem check_excessive {H : KeyedHash} {self : SkyNode w} {frame : SkyRadioFrame}
    {parsed : SkyParsedFrame}
    (h : (skyHmacCheckAuthentication H self frame parsed).2 = .error .excessiveHmacJump) :
    self.conf.hmac.maximumJump < ((skyNtoh16 parsed.hdr.frameSequence -
      self.hmac.sequenceRx parsed.hdr.channel).toNat : Int) := by
  cases check_cases H self frame parsed with
  | short _ _ heq =>
      rw [heq] at h
      exact absurd (Except.error.inj h) (by decide)
  | unchecked _ _ _ heq =>
      rw [heq] at h
      cases h
  | forged ret hret _ _ heq =>
      rw [heq] at h
      exact absurd (Except.error.inj h) hret
  | far _ _ _ _ hfar => exact hfar
  | passed _ _ _ _ _ _ heq =>
      rw [heq] at h
      cases h

/-- A sealed frame that is rejected for its sequence was not filtered, and its sequence is
out of reach. -/
theorem SkyTransmitFrame.Sealed.rejected {tx : SkyTransmitFrame} {H : KeyedHash}
    {key identity : Bytes} {v : Fin skyNumVirtualChannels} {sequence : UInt16}
    {payload : Option Bytes} (h : tx.Sealed w H key identity v sequence payload) (hw : w ≤ 56)
    {tick : Int} {node : SkyNode w}
    (hret : (skyRx H tick node tx.frame).2 = .excessiveHmacJump) :
    filterByIdentity node (identity, identity.length) = false ∧
      node.conf.hmac.maximumJump <
        ((sequence - node.hmac.sequenceRx v).toNat : Int) := by
  have hmin : ¬tx.frame.length < skyFrameMinLen := not_lt.mpr h.minLength
  have hfilter : filterByIdentity node (identity, identity.length) = false := by
    by_contra hfilter
    obtain ⟨vs, trailer, -, hbuilt⟩ := h.built
    have hreceived : node.received tx.frame = .error .filteredByIdentity := by
      rw [SkyNode.received, if_neg hmin, hbuilt.rxIdentity]
      exact if_pos (by simpa using hfilter)
    rw [skyRx_eq H tick node tx.frame hmin, hreceived] at hret
    have hdifferent : SkyRet.filteredByIdentity ≠ .excessiveHmacJump := by decide
    exact hdifferent hret
  refine ⟨hfilter, ?_⟩
  obtain ⟨parsed, hreceived, hhdr, -⟩ := h.received hw hfilter
  have hcheck : (skyHmacCheckAuthentication H (node.countReceived tx.frame) tx.frame parsed).2 =
      .error .excessiveHmacJump := by
    rw [skyRx_eq H tick node tx.frame hmin, hreceived] at hret
    dsimp only at hret
    split at hret
    · rename_i node' ret heq
      rw [heq]
      exact congrArg Except.error hret
    · rename_i node' parsed' heq
      obtain hzero | hone := skyVcProcessFrame_ret tick
        ((skyRxProcessExtMacControl tick node' tx.frame.rxTimeTicks parsed').virtualChannels
          parsed'.hdr.channel) parsed' tick
      · exact absurd (hzero.symm.trans hret) (by decide)
      · exact absurd (hone.symm.trans hret) (by decide)
  have hfar := check_excessive hcheck
  rw [hhdr, h.channel, h.sequence] at hfar
  exact hfar

/-! ## The answer makes no difference -/

section Recovery

variable {H : KeyedHash} {aConfig bConfig : SkyConfig} {aCreated bCreated a b : SkyNode w}
  {v : Fin skyNumVirtualChannels}

/-- The operations of `a` can be stored: the answer of `b` fits its buffer. -/
theorem Recovery.Happens.aOps_valid (hw : ArqSequenceWidth w) {r : Recovery w}
    (h : r.Happens H v a b) (hr : r.Valid aCreated bCreated)
    (hid : a.conf.identityLen ≤ skyMaxIdentityLen) (ha : a.RingsHold)
    (hid' : b.conf.identityLen ≤ skyMaxIdentityLen) (hb : b.RingsHold) :
    ∀ op ∈ r.aOps, op.Valid aCreated := by
  have hrejected : NodeOp.Valid bCreated (.rx r.rejectionTick r.rejected.frame) :=
    skyTx_raw_length hw hid ha h.sends
  have hbefore : ∀ op ∈ NodeOp.rx r.rejectionTick r.rejected.frame :: r.bWaiting,
      op.Valid bCreated := by
    intro op hop
    obtain rfl | hop := List.mem_cons.mp hop
    · exact hrejected
    · exact hr.2 op (List.mem_append_left _ hop)
  have hanswer : NodeOp.Valid aCreated (.rx r.answeredTick r.answer.frame) := by
    refine skyTx_raw_length hw ?_ (hb.run H hbefore) h.answers
    rw [run_conf]
    exact hid'
  intro op hop
  obtain rfl | hop := List.mem_cons.mp hop
  · exact trivial
  · obtain hop | hop := List.mem_append.mp hop
    · exact hr.1 op (List.mem_append_left _ hop)
    · obtain rfl | hop := List.mem_cons.mp hop
      · exact hanswer
      · exact hr.1 op (List.mem_append_right _ hop)

/-- One more than a jump that is out of reach is in reach only where the numbers wrap. -/
theorem next_jump_iff {s r : UInt16} {maximumJump : Int} (hmax : 0 ≤ maximumJump)
    (hfar : maximumJump < ((s - r).toNat : Int)) :
    ((s + 1 - r).toNat : Int) ≤ maximumJump ↔ s + 1 = r := by
  have hs := s.toNat_lt
  have hr := r.toNat_lt
  have hone : (1 : UInt16).toNat = 1 := rfl
  rw [UInt16.toNat_sub] at hfar
  rw [UInt16.toNat_sub, ← UInt16.toNat_inj, UInt16.toNat_add, hone]
  omega

/-- After a rejection the next frame of `a` passes exactly when its number happens to lie in
the reach of `b`: `a` counts on from the rejected frame, whatever `b` answers. Where nothing
else passes in between, the numbers must come around just then. -/
theorem resynchronises_iff (hw : ArqSequenceWidth w) (haCreate : skyCreate aConfig = some aCreated)
    (hbCreate : skyCreate bConfig = some bCreated) (ha : a.ReachedUpToSequences H aCreated)
    (hb : b.ReachedUpToSequences H bCreated) (hkey : bCreated.hmac.key = aCreated.hmac.key)
    (hflag : (aCreated.conf.vc v).hasFlag skyConfigFlagAuthenticateTx)
    (hreq : (bCreated.conf.vc v).hasFlag skyConfigFlagRequireAuthentication)
    (hseq : (bCreated.conf.vc v).hasFlag skyConfigFlagRequireSequence)
    (hmax : 3 ≤ bCreated.conf.hmac.maximumJump) {r : Recovery w}
    (hr : r.Valid aCreated bCreated) (h : r.Happens H v a b) :
    (r.Succeeds H b ↔
      ((a.hmac.sequenceTx v + UInt16.ofNat (a.framesSent H v r.aOps) -
        (b.hmac.sequenceRx v + UInt16.ofNat (b.advance H v r.bOps))).toNat : Int) ≤
          bCreated.conf.hmac.maximumJump) ∧
      (a.framesSent H v r.aOps = 1 → b.advance H v r.bOps = 0 →
        (r.Succeeds H b ↔ a.hmac.sequenceTx v + 1 = b.hmac.sequenceRx v)) := by
  have hbounds := hw.bounds
  obtain ⟨haConf, haKey, haRings⟩ := ha.spec (skyCreate_ringsHold hbounds.2.2 haCreate)
  obtain ⟨hbConf, hbKey, hbRings⟩ := hb.spec (skyCreate_ringsHold hbounds.2.2 hbCreate)
  obtain ⟨hpos, hid⟩ := skyCreate_conf haCreate
  obtain ⟨-, hbId⟩ := skyCreate_conf hbCreate
  rw [← haConf] at hpos hid hflag
  rw [← hbConf] at hbId hreq hseq hmax ⊢
  rw [← haKey, ← hbKey] at hkey
  -- The rejected frame shows that `b` does not filter the frames of `a`.
  obtain ⟨payload, hrejected, -⟩ := skyTx_sealed hw (by omega) hid haRings h.sends h.sendsOn hflag
  obtain ⟨hfilter, hfar⟩ := hrejected.rejected hbounds.2.1 h.rejects
  -- The next frame is sealed under the number that `a` has counted to.
  have haOps := h.aOps_valid hw hr hid haRings hbId hbRings
  have haConf' := run_conf H a r.aOps
  have hbConf' := run_conf H b r.bOps
  obtain ⟨payload', hnext, -⟩ := skyTx_sealed hw (by rw [haConf']; omega)
    (by rw [haConf']; exact hid)
    (haRings.run H haOps) h.sendsNext h.sendsNextOn (by rw [haConf']; exact hflag)
  have hpayload : payload'.isSome = true := by rw [← hnext.hasPayload, h.nextPayload]
  have hfilter' : filterByIdentity (b.run H r.bOps)
      ((a.run H r.aOps).conf.sender, (a.run H r.aOps).conf.sender.length) = false := by
    rw [filterByIdentity, hbConf', haConf']
    exact hfilter
  have haccepts := hnext.accepts_iff hbounds.2.1 hfilter'
    (by rw [run_key, run_key]; exact hkey) (by rw [hbConf']; exact hreq)
  rw [hbConf', run_sequenceTx H v a, run_sequenceRx H v hreq] at haccepts
  have hiff := haccepts.trans ⟨fun h => h.2 hseq, fun h => ⟨hpayload, fun _ => h⟩⟩
  refine ⟨hiff, fun hone hnone => ?_⟩
  rw [hone, hnone] at hiff
  have hzero : b.hmac.sequenceRx v + UInt16.ofNat 0 = b.hmac.sequenceRx v := UInt16.add_zero _
  rw [hzero] at hiff
  exact hiff.trans (next_jump_iff (by omega) hfar)

end Recovery

/-! ## Two recoveries -/

/-- A node with two packets to send and a sequence for its next frame. -/
def exampleJumpedSender (sequence : UInt16) : SkyNode 8 :=
  let node := (exampleNode 7 7).run exampleHash
    [.channel 1 (.push [1]), .channel 1 (.push [2])]
  { node with hmac := { node.hmac with sequenceTx := fun _ => sequence } }

/-- A node with a packet to answer with. -/
def exampleReceiver : SkyNode 8 :=
  (exampleNode 7 8).run exampleHash [.channel 1 (.push [3])]

/-- The frame that a node sends at a tick, if any. -/
def exampleFrame (node : SkyNode 8) (tick : Int) : SkyTransmitFrame :=
  (skyTx exampleHash tick node).2.1.getD (bareFrame [] ⟨0, 0, 0⟩)

/-- The nodes do nothing else in between. -/
def exampleRecovery (sequence : UInt16) : Recovery 8 :=
  let rejected := exampleFrame (exampleJumpedSender sequence) 0
  let answer := exampleFrame (exampleReceiver.run exampleHash [.rx 0 rejected.frame]) 0
  let next := exampleFrame
    ((exampleJumpedSender sequence).run exampleHash [.tx 0, .rx 0 answer.frame]) 1600
  { rejected, answer, next
    rejectedTick := 0, rejectionTick := 0, answerTick := 0, answeredTick := 0, nextTick := 1600
    aWaiting := [], aAnswered := [], bWaiting := [], bAnswered := [] }

theorem exampleJumpedSender_reached (sequence : UInt16) :
    (exampleJumpedSender sequence).ReachedUpToSequences exampleHash (exampleNode 7 7) := by
  refine ⟨[.channel 1 (.push [1]), .channel 1 (.push [2])], ?_, fun _ => sequence, _, rfl⟩
  intro op hop
  fin_cases hop <;> exact trivial

theorem exampleReceiver_reached :
    exampleReceiver.ReachedUpToSequences exampleHash (exampleNode 7 8) := by
  refine ⟨[.channel 1 (.push [3])], ?_, _, _, rfl⟩
  intro op hop
  fin_cases hop
  exact trivial

theorem exampleRecovery_valid (sequence : UInt16) :
    (exampleRecovery sequence).Valid (exampleNode 7 7) (exampleNode 7 8) :=
  ⟨fun _ hop => absurd hop List.not_mem_nil, fun _ hop => absurd hop List.not_mem_nil⟩

/-- The rejected frame is the one before the first that is expected. -/
theorem exampleRecovery_wraps :
    (exampleRecovery 65535).Happens exampleHash 1 (exampleJumpedSender 65535) exampleReceiver := by
  constructor <;> decide +kernel

/-- The rejected frame is a hundred frames ahead. -/
theorem exampleRecovery_ahead :
    (exampleRecovery 100).Happens exampleHash 1 (exampleJumpedSender 100) exampleReceiver := by
  constructor <;> decide +kernel

theorem resynchronises_iff_example : (exampleRecovery 65535).Succeeds exampleHash exampleReceiver :=
  (resynchronises_iff (.inl rfl) (exampleNode_eq 7 7) (exampleNode_eq 7 8)
    (exampleJumpedSender_reached 65535) exampleReceiver_reached rfl (by decide +kernel)
    (by decide +kernel) (by decide +kernel) (by decide +kernel) (exampleRecovery_valid 65535)
    exampleRecovery_wraps).1.mpr (by decide +kernel)

/-- The answer is accepted, and the next frame is rejected all the same. -/
theorem not_resynchronises :
    (exampleRecovery 100).Happens exampleHash 1 (exampleJumpedSender 100) exampleReceiver ∧
      ¬(exampleRecovery 100).Succeeds exampleHash exampleReceiver := by
  refine ⟨exampleRecovery_ahead, ?_⟩
  rw [Recovery.Succeeds]
  decide +kernel

end Skylink
