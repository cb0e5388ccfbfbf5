import Skylink.Node.Runs

/-!
# Frames sent for enforcement

A rejected frame sets the enforcement flag of its channel, and the flag makes the node
transmit. No transmission clears it.
-/

namespace Skylink

variable {w : Nat}

namespace SkyNode

/-- The node would send on channel `v` now, without content for it and without the need
of an idle frame. -/
def EnforcementOnly (node : SkyNode w) (v : Fin skyNumVirtualChannels) (tick : Int) : Prop :=
  macCanSend node.conf.mac node.mac tick ∧ node.picked tick = some v ∧
    skyVcContentToSend ((node.checkTimeouts tick).virtualChannels v) node.conf tick
      (node.mac.framesSentInCurrentWindowPerVc v) = false ∧
    macIdleFrameNeeded node.conf.mac node.mac tick = false

instance decidableEnforcementOnly (node : SkyNode w) (v : Fin skyNumVirtualChannels)
    (tick : Int) : Decidable (node.EnforcementOnly v tick) :=
  inferInstanceAs (Decidable (_ ∧ _))

/-- A frame for channel `v` leaves the node. -/
def SendsOn (H : KeyedHash) (node : SkyNode w) (v : Fin skyNumVirtualChannels) :
    NodeOp w → Prop
  | .tx tick => (skyTx H tick node).2.2 = 1 ∧ node.picked tick = some v
  | .rx .. | .channel .. => False

instance decidableSendsOn (H : KeyedHash) (node : SkyNode w) (v : Fin skyNumVirtualChannels)
    (op : NodeOp w) : Decidable (node.SendsOn H v op) :=
  match op with
  | .tx _ => inferInstanceAs (Decidable (_ ∧ _))
  | .rx .. | .channel .. => inferInstanceAs (Decidable False)

/-- A frame for channel `v` leaves the node for the sake of its enforcement flag only. -/
def SendsForEnforcement (H : KeyedHash) (node : SkyNode w) (v : Fin skyNumVirtualChannels) :
    NodeOp w → Prop
  | .tx tick => (skyTx H tick node).2.2 = 1 ∧ node.EnforcementOnly v tick
  | .rx .. | .channel .. => False

instance decidableSendsForEnforcement (H : KeyedHash) (node : SkyNode w)
    (v : Fin skyNumVirtualChannels) (op : NodeOp w) :
    Decidable (node.SendsForEnforcement H v op) :=
  match op with
  | .tx _ => inferInstanceAs (Decidable (_ ∧ _))
  | .rx .. | .channel .. => inferInstanceAs (Decidable False)

/-- A frame for channel `v` is counted in `rx_hmac_fail`. -/
def RecordsFailure (H : KeyedHash) (node : SkyNode w) (v : Fin skyNumVirtualChannels) :
    NodeOp w → Prop
  | .rx tick frame =>
      frame.header.channel = v ∧ (skyRx H tick node frame).1.diag.rxHmacFail ≠ node.diag.rxHmacFail
  | .tx _ | .channel .. => False

instance decidableRecordsFailure (H : KeyedHash) (node : SkyNode w)
    (v : Fin skyNumVirtualChannels) (op : NodeOp w) : Decidable (node.RecordsFailure H v op) :=
  match op with
  | .rx .. => inferInstanceAs (Decidable (_ ∧ _))
  | .tx _ | .channel .. => inferInstanceAs (Decidable False)

/-- The number of frames of a run that are sent for enforcement only. -/
def enforcementFrames (H : KeyedHash) (v : Fin skyNumVirtualChannels) :
    SkyNode w → List (NodeOp w) → Nat
  | _, [] => 0
  | node, op :: ops =>
      (if node.SendsForEnforcement H v op then 1 else 0) +
        enforcementFrames H v (node.step H op) ops

/-- The number of authentication failures that a run records for the channel. -/
def failures (H : KeyedHash) (v : Fin skyNumVirtualChannels) :
    SkyNode w → List (NodeOp w) → Nat
  | _, [] => 0
  | node, op :: ops =>
      (if node.RecordsFailure H v op then 1 else 0) + failures H v (node.step H op) ops

/-- Whether a frame has gone out on the channel since its last failure. -/
def answeredAfter (H : KeyedHash) (v : Fin skyNumVirtualChannels) (answered : Bool)
    (node : SkyNode w) (op : NodeOp w) : Bool :=
  if node.RecordsFailure H v op then false
  else if node.SendsOn H v op then true else answered

/-- `sky_tx` never finds the enforcement flag as the only reason to send on the channel
when a frame has already gone out on it since its last failure. -/
def AnsweredOnce (H : KeyedHash) (v : Fin skyNumVirtualChannels) :
    Bool → SkyNode w → List (NodeOp w) → Prop
  | _, _, [] => True
  | answered, node, op :: ops =>
      (answered = true → ∀ tick, op = .tx tick → ¬node.EnforcementOnly v tick) ∧
        AnsweredOnce H v (node.answeredAfter H v answered op) (node.step H op) ops

end SkyNode

/-! ## The flag -/

/-- A channel is picked for its flag, for its content or for an idle frame. -/
theorem skyTxPickVc_cause {node : SkyNode w} {now : Int} {v : Fin skyNumVirtualChannels}
    (h : skyTxPickVc node now = some v) :
    node.hmac.vcEnforcementNeed v ≠ 0 ∨
      skyVcContentToSend (node.virtualChannels v) node.conf now
        (node.mac.framesSentInCurrentWindowPerVc v) = true ∨
      macIdleFrameNeeded node.conf.mac node.mac now = true := by
  have hloop (idxs : List Nat) (h : skyTxPickVcLoop node now idxs = some v) :
      node.hmac.vcEnforcementNeed v ≠ 0 ∨
        skyVcContentToSend (node.virtualChannels v) node.conf now
          (node.mac.framesSentInCurrentWindowPerVc v) = true := by
    induction idxs with
    | nil => cases h
    | cons i idxs ih =>
        rw [skyTxPickVcLoop] at h
        split at h
        · rename_i hneed
          cases h
          exact .inl hneed
        · split at h
          · rename_i hcontent
            cases h
            exact .inr hcontent
          · exact ih h
  rw [skyTxPickVc] at h
  cases hpick : skyTxPickVcLoop node now (List.range skyNumVirtualChannels) with
  | some u =>
      rw [hpick] at h
      cases h
      exact (hloop _ hpick).imp_right .inl
  | none =>
      rw [hpick] at h
      dsimp only at h
      split at h
      · rename_i hidle
        exact .inr (.inr hidle)
      · cases h

theorem SkyNode.EnforcementOnly.flag {node : SkyNode w} {v : Fin skyNumVirtualChannels}
    {tick : Int} (h : node.EnforcementOnly v tick) : node.hmac.vcEnforcementNeed v ≠ 0 := by
  obtain ⟨-, hpicked, hcontent, hidle⟩ := h
  obtain hneed | hcontent' | hidle' := skyTxPickVc_cause hpicked
  · exact hneed
  · exact absurd (hcontent'.symm.trans hcontent) (by decide)
  · exact absurd (hidle'.symm.trans hidle) (by decide)

/-- The check sets the flag of a channel only with a failure that it records. -/
theorem check_flag (H : KeyedHash) (self : SkyNode w) (frame : SkyRadioFrame)
    (parsed : SkyParsedFrame) (v : Fin skyNumVirtualChannels) :
    (skyHmacCheckAuthentication H self frame parsed).1.hmac.vcEnforcementNeed v =
        self.hmac.vcEnforcementNeed v ∨
      (parsed.hdr.channel = v ∧
        (skyHmacCheckAuthentication H self frame parsed).1.diag.rxHmacFail =
          self.diag.rxHmacFail + 1) := by
  have hreject (self : SkyNode w) :
      (self.rejectFrame parsed.hdr.channel).hmac.vcEnforcementNeed v =
          self.hmac.vcEnforcementNeed v ∨
        (parsed.hdr.channel = v ∧
          (self.rejectFrame parsed.hdr.channel).diag.rxHmacFail = self.diag.rxHmacFail + 1) := by
    by_cases hv : parsed.hdr.channel = v
    · exact .inr ⟨hv, rfl⟩
    · exact .inl (Function.update_of_ne (Ne.symm hv) _ _)
  cases check_cases H self frame parsed with
  | forged ret _ _ _ heq =>
      rw [heq]
      exact hreject self
  | far sequenceTx _ _ _ _ heq =>
      rw [heq]
      exact hreject _
  | _ =>
      rename_i heq
      rw [heq]
      exact .inl rfl

/-- Any operation that records no failure for a channel keeps its flag. -/
theorem step_flag (H : KeyedHash) {node : SkyNode w} {v : Fin skyNumVirtualChannels}
    {op : NodeOp w} (hop : ¬node.RecordsFailure H v op) :
    (node.step H op).hmac.vcEnforcementNeed v = node.hmac.vcEnforcementNeed v := by
  by_cases hreach : ∃ frame parsed, op.Reaches node frame parsed
  · obtain ⟨frame, parsed, ⟨tick, rfl⟩, hreceived⟩ := hreach
    have hsame := skyRx_sameAuthentication H tick hreceived
    rw [SkyNode.step, hsame.enforcement]
    obtain hkeep | ⟨hv, hfail⟩ := check_flag H (node.countReceived frame) frame parsed v
    · exact hkeep
    · refine absurd ⟨?_, ?_⟩ hop
      · rw [← received_hdr node frame hreceived, hv]
      · rw [hsame.failures, hfail]
        exact fun heq => absurd (UInt16.add_eq_left.mp heq) (by decide)
  · push Not at hreach
    rw [(step_sameAuthentication H node hreach).enforcement]

/-! ## Counting -/

/-- A failure pays for one frame at most. -/
theorem enforcementFrames_le (H : KeyedHash) (v : Fin skyNumVirtualChannels) {answered : Bool}
    {node : SkyNode w} {ops : List (NodeOp w)} (hops : node.AnsweredOnce H v answered ops) :
    node.enforcementFrames H v ops ≤ node.failures H v ops +
      if answered = false ∧ node.hmac.vcEnforcementNeed v ≠ 0 then 1 else 0 := by
  induction ops generalizing node answered with
  | nil => exact Nat.zero_le _
  | cons op ops ih =>
      obtain ⟨hop, hrest⟩ := hops
      have hih := ih hrest
      rw [SkyNode.enforcementFrames, SkyNode.failures]
      by_cases hfail : node.RecordsFailure H v op
      · have hnot : ¬node.SendsForEnforcement H v op := by
          cases op with
          | rx tick frame => exact id
          | tx tick => exact absurd hfail id
          | channel u op => exact id
        rw [if_neg hnot, if_pos hfail]
        split at hih <;> omega
      · rw [if_neg hfail]
        have hflag := step_flag H hfail
        rw [SkyNode.answeredAfter, if_neg hfail, hflag] at hih
        by_cases hsend : node.SendsForEnforcement H v op
        · cases op with
          | rx tick frame => exact absurd hsend id
          | channel u op => exact absurd hsend id
          | tx tick =>
              obtain ⟨hret, honly⟩ := hsend
              have hfresh : answered = false :=
                Bool.eq_false_iff.mpr fun hanswered => hop hanswered tick rfl honly
              have hout : node.SendsOn H v (.tx tick) := ⟨hret, honly.2.1⟩
              rw [if_pos hout] at hih
              rw [if_pos ⟨hret, honly⟩, if_pos ⟨hfresh, honly.flag⟩]
              simp only [Bool.true_eq_false, false_and, if_false] at hih
              omega
        · rw [if_neg hsend]
          by_cases hout : node.SendsOn H v op
          · rw [if_pos hout] at hih
            simp only [Bool.true_eq_false, false_and, if_false] at hih
            omega
          · rw [if_neg hout] at hih
            omega

theorem SkyNode.AnsweredOnce.take {H : KeyedHash} {v : Fin skyNumVirtualChannels}
    {answered : Bool} {node : SkyNode w} {ops : List (NodeOp w)}
    (h : node.AnsweredOnce H v answered ops) (k : Nat) :
    node.AnsweredOnce H v answered (ops.take k) := by
  induction ops generalizing node answered k with
  | nil => simpa using h
  | cons op ops ih =>
      cases k with
      | zero => exact trivial
      | succ k => exact ⟨h.1, ih h.2 k⟩

theorem skyCreate_flag {config : SkyConfig} {node : SkyNode w}
    (hnode : skyCreate config = some node) (v : Fin skyNumVirtualChannels) :
    node.hmac.vcEnforcementNeed v = 0 := by
  simp only [skyCreate, Option.bind_eq_bind, Option.bind_eq_some_iff, Option.some.injEq] at hnode
  obtain ⟨-, -, -, -, -, -, -, -, -, -, rfl⟩ := hnode
  rfl

/-- In every run of a new node in which no flag outlives the frame that answers it, the
frames sent for enforcement only are no more than the failures recorded so far. -/
theorem enforcementFrames_bounded (H : KeyedHash) {config : SkyConfig} {node : SkyNode w}
    (hnode : skyCreate config = some node) (v : Fin skyNumVirtualChannels)
    (ops : List (NodeOp w)) (hops : node.AnsweredOnce H v false ops) (k : Nat) :
    node.enforcementFrames H v (ops.take k) ≤ node.failures H v (ops.take k) := by
  have hle := enforcementFrames_le H v (hops.take k)
  rw [skyCreate_flag hnode v] at hle
  simpa using hle

/-- A frame without authentication, which a channel rejects that requires it. -/
def unauthenticatedFrame : SkyRadioFrame :=
  (bareFrame [1, 2, 3, 4] (SkyStaticHeader.setVc ⟨0, 0, 0⟩ 1)).frame

theorem enforcementFrames_bounded_example :
    (exampleNode 2 7).enforcementFrames exampleHash 1
        (List.take 2 [.rx 0 unauthenticatedFrame, .tx 0]) ≤
      (exampleNode 2 7).failures exampleHash 1
        (List.take 2 [.rx 0 unauthenticatedFrame, .tx 0]) := by
  refine enforcementFrames_bounded exampleHash (exampleNode_eq 2 7) 1
    [.rx 0 unauthenticatedFrame, .tx 0] ⟨?_, ?_, trivial⟩ 2
  · exact fun hanswered => absurd hanswered (by decide)
  · exact fun hanswered => absurd hanswered (by decide +kernel)

/-- One bad frame makes the node send again and again. -/
theorem not_enforcementFrames_bounded :
    (exampleNode 2 7).failures exampleHash 1
        [.rx 0 unauthenticatedFrame, .tx 0, .tx 0] <
      (exampleNode 2 7).enforcementFrames exampleHash 1
        [.rx 0 unauthenticatedFrame, .tx 0, .tx 0] := by
  decide +kernel

end Skylink
