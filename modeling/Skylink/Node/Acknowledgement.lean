import Skylink.Link.Loss
import Skylink.Node.Scheduling

/-!
# Acknowledgements

A connected channel counts the payloads that it has not acknowledged yet, and owes a
control extension while the count is positive. The counter has sixteen bits and a sign, so
that it is negative from 2^15 payloads on; and it starts again with every control extension
that is put into a frame, whether or not the frame is filled in the end.
-/

namespace Skylink

variable {w : Nat}

/-! ## What an operation does to the counter -/

namespace VcOp

/-- The operation ends the session, or begins another one. -/
def wipes (vc : SkyVirtualChannel w) : VcOp w → Bool
  | .connect _ | .disconnect => true
  | .handshake _ _ identifier => vc.enters identifier
  | .processFrame _ parsed _ => parsed.handshakeIdentifier.any vc.enters
  | .checkTimeouts now timeout =>
      (skyVcCheckTimeouts vc now timeout).arqStateFlag != vc.arqStateFlag
  | _ => false

/-- The operation processes an ARQ payload. -/
def receives (vc : SkyVirtualChannel w) : VcOp w → Bool
  | .pushRx .. => true
  | .processFrame tickTime parsed _ =>
      (processHandshake tickTime vc parsed).arqStateFlag == .on &&
        decide (0 < parsed.payloadLen) && parsed.arqSequence.isSome
  | _ => false

/-- The operation puts a control extension into a frame. -/
def addsCtrl (vc : SkyVirtualChannel w) : VcOp w → Bool
  | .fillFrame config _ now frames =>
      vc.arqStateFlag == .on && vc.ctrlDue config now frames
  | _ => false

/-- The operation puts a control extension into a frame that can be sent. -/
def sendsCtrl (vc : SkyVirtualChannel w) : VcOp w → Bool
  | .fillFrame config tx now frames =>
      vc.arqStateFlag == .on && vc.ctrlDue config now frames &&
        (skyVcFillFrame vc config tx now frames).2.2 == 1
  | _ => false

end VcOp

theorem fillPayload_unconfirmedPayloads (vc : SkyVirtualChannel w) (tx : SkyTransmitFrame)
    (ret : SkyRet) :
    (fillPayload vc tx ret).1.unconfirmedPayloads = vc.unconfirmedPayloads := by
  rcases vc.fillPayload_vc tx ret with heq | heq
  · rw [heq]
  · rw [heq]

theorem fillFrameOff_unconfirmedPayloads (vc : SkyVirtualChannel w) (tx : SkyTransmitFrame) :
    (fillFrameOff vc tx).1.unconfirmedPayloads = vc.unconfirmedPayloads := by
  have hread : (skyVcReadPacketForTxMonotonic vc).1.unconfirmedPayloads =
      vc.unconfirmedPayloads := by
    rw [skyVcReadPacketForTxMonotonic]
    split <;> rfl
  rcases vc.fillFrameOff_vc tx with heq | heq
  · rw [heq]
  · rw [heq, hread]

theorem skyVcFillFrame_unconfirmedPayloads (vc : SkyVirtualChannel w) (config : SkyConfig)
    (tx : SkyTransmitFrame) (now : Int) (frames : UInt16) :
    (skyVcFillFrame vc config tx now frames).1.unconfirmedPayloads =
      if vc.arqStateFlag == .on && vc.ctrlDue config now frames then 0
      else vc.unconfirmedPayloads := by
  rw [skyVcFillFrame]
  cases vc.arqStateFlag with
  | off => exact fillFrameOff_unconfirmedPayloads vc tx
  | inInit =>
      dsimp only
      split <;> rfl
  | on =>
      dsimp only
      rw [fillFrameOn_pending, fillPayload_unconfirmedPayloads]
      rfl

theorem skyVcHandleHandshake_unconfirmedPayloads (tickTime : Int) (vc : SkyVirtualChannel w)
    (peerState : UInt8) (identifier : UInt32) :
    (skyVcHandleHandshake tickTime vc peerState identifier).1.unconfirmedPayloads =
      if vc.enters identifier then 0 else vc.unconfirmedPayloads := by
  cases skyVcHandleHandshake_outcome tickTime vc peerState identifier with
  | kept hoff hstays hother heq =>
      rw [heq, hstays]
      rfl
  | joined hinit hid hstays heq =>
      rw [heq, hstays]
      rfl
  | entered henters heq =>
      rw [heq, henters]
      rfl

theorem processHandshake_unconfirmedPayloads (tickTime : Int) (vc : SkyVirtualChannel w)
    (parsed : SkyParsedFrame) :
    (processHandshake tickTime vc parsed).unconfirmedPayloads =
      if parsed.handshakeIdentifier.any vc.enters then 0 else vc.unconfirmedPayloads := by
  rw [processHandshake, SkyParsedFrame.handshakeIdentifier]
  cases parsed.arqHandshake with
  | none => rfl
  | some ext => exact skyVcHandleHandshake_unconfirmedPayloads _ _ _ _

theorem processFrameOn_unconfirmedPayloads (vc : SkyVirtualChannel w) (parsed : SkyParsedFrame)
    (now : Int) :
    (processFrameOn vc parsed now).1.unconfirmedPayloads = vc.unconfirmedPayloads +
      if decide (0 < parsed.payloadLen) && parsed.arqSequence.isSome then 1 else 0 := by
  have hctrl : (processCtrl vc parsed now).unconfirmedPayloads = vc.unconfirmedPayloads := by
    rw [processCtrl]
    split
    · rfl
    · dsimp only
      rw [VcRep.updateRxSync_eq]
      rfl
  have hrequest (vc : SkyVirtualChannel w) :
      (processRequest vc parsed).unconfirmedPayloads = vc.unconfirmedPayloads := by
    rw [processRequest]
    split <;> rfl
  rw [processFrameOn]
  dsimp only
  by_cases hpayload : 0 < parsed.payloadLen
  · rw [if_pos hpayload, decide_eq_true hpayload, Bool.true_and]
    cases parsed.arqSequence with
    | none =>
        dsimp only
        rw [hctrl]
        exact (Int16.add_zero _).symm
    | some ext =>
        dsimp only
        rw [hrequest, ← hctrl]
        rfl
  · rw [if_neg hpayload, decide_eq_false hpayload, Bool.false_and, hrequest, hctrl]
    exact (Int16.add_zero _).symm

theorem skyVcProcessFrame_unconfirmedPayloads (tickTime : Int) (vc : SkyVirtualChannel w)
    (parsed : SkyParsedFrame) (now : Int) :
    (skyVcProcessFrame tickTime vc parsed now).1.unconfirmedPayloads =
      (processHandshake tickTime vc parsed).unconfirmedPayloads +
        if (processHandshake tickTime vc parsed).arqStateFlag == .on &&
          decide (0 < parsed.payloadLen) && parsed.arqSequence.isSome then 1 else 0 := by
  rw [skyVcProcessFrame]
  generalize processHandshake tickTime vc parsed = vc
  cases hstate : vc.arqStateFlag with
  | off =>
      dsimp only
      split <;> exact (Int16.add_zero _).symm
  | inInit => exact (Int16.add_zero _).symm
  | on => exact processFrameOn_unconfirmedPayloads vc parsed now

theorem skyVcCheckTimeouts_unconfirmedPayloads (vc : SkyVirtualChannel w) (now timeout : Int) :
    (skyVcCheckTimeouts vc now timeout).unconfirmedPayloads =
      if (skyVcCheckTimeouts vc now timeout).arqStateFlag != vc.arqStateFlag then 0
      else vc.unconfirmedPayloads := by
  rw [skyVcCheckTimeouts]
  by_cases hoff : vc.arqStateFlag = .off
  · rw [if_pos hoff, bne_self_eq_false]
    rfl
  · rw [if_neg hoff]
    dsimp only
    split
    · have hchanged : ((skyVcWipeToArqOffState vc).arqStateFlag != vc.arqStateFlag) = true :=
        bne_iff_ne.mpr (Ne.symm hoff)
      rw [if_pos hchanged]
      rfl
    · rw [bne_self_eq_false]
      rfl

/-- The counter forgets with a session and with a control extension, and counts what is
received. -/
theorem VcOp.step_unconfirmedPayloads (vc : SkyVirtualChannel w) (op : VcOp w) :
    (vc.step op).unconfirmedPayloads =
      (if op.wipes vc || op.addsCtrl vc then 0 else vc.unconfirmedPayloads) +
        if op.receives vc then 1 else 0 := by
  have hkeeps : vc.unconfirmedPayloads = vc.unconfirmedPayloads + 0 := (Int16.add_zero _).symm
  cases op with
  | push payload =>
      have hpush : (skyVcPushPacketToSend vc payload).1.unconfirmedPayloads =
          vc.unconfirmedPayloads := by
        rw [skyVcPushPacketToSend]
        split <;> rfl
      exact hpush.trans hkeeps
  | pushRx src sequence now => rfl
  | pushRxMonotonic src => exact hkeeps
  | read maxLength => exact hkeeps
  | fillFrame config tx now frames =>
      have hfill := skyVcFillFrame_unconfirmedPayloads vc config tx now frames
      exact hfill.trans (Int16.add_zero _).symm
  | processFrame tickTime parsed now =>
      have hprocess := skyVcProcessFrame_unconfirmedPayloads tickTime vc parsed now
      rw [processHandshake_unconfirmedPayloads] at hprocess
      simp only [wipes, addsCtrl, Bool.or_false]
      exact hprocess
  | cleanTail sequence now => exact hkeeps
  | scheduleResend sequence => exact hkeeps
  | scheduleResendsByMask sequence mask => exact hkeeps
  | connect tickTime => rfl
  | disconnect => rfl
  | handshake tickTime peerState identifier =>
      have hshake := skyVcHandleHandshake_unconfirmedPayloads tickTime vc peerState identifier
      simp only [wipes, addsCtrl, Bool.or_false]
      exact hshake.trans (Int16.add_zero _).symm
  | checkTimeouts now timeout =>
      have hcheck := skyVcCheckTimeouts_unconfirmedPayloads vc now timeout
      simp only [wipes, addsCtrl, Bool.or_false]
      exact hcheck.trans (Int16.add_zero _).symm

/-! ## Counting payloads -/

/-- The payloads received in the session since the last operation of a kind. -/
def VcOp.count (resets : SkyVirtualChannel w → VcOp w → Bool) (vc : SkyVirtualChannel w)
    (n : Nat) (op : VcOp w) : Nat :=
  (if op.wipes vc || resets vc op then 0 else n) + if op.receives vc then 1 else 0

/-- The payloads received in a run since the last operation of a kind. -/
def SkyVirtualChannel.payloadsSince
    (resets : SkyVirtualChannel w → VcOp w → Bool) :
    SkyVirtualChannel w → Nat → List (VcOp w) → Nat
  | _, n, [] => n
  | vc, n, op :: ops => payloadsSince resets (vc.step op) (op.count resets vc n) ops

/-- The payloads that were received after the last control extension had been sent. -/
def SkyVirtualChannel.unacknowledged (vc : SkyVirtualChannel w) (ops : List (VcOp w)) : Nat :=
  vc.payloadsSince (fun vc op => op.sendsCtrl vc) 0 ops

/-- The payloads that were received after a control extension had last been put into a
frame, whether or not that frame could be sent. -/
def SkyVirtualChannel.counted (vc : SkyVirtualChannel w) (ops : List (VcOp w)) : Nat :=
  vc.payloadsSince (fun vc op => op.addsCtrl vc) 0 ops

theorem SkyVirtualChannel.payloadsSince_le
    {resets resets' : SkyVirtualChannel w → VcOp w → Bool}
    (h : ∀ vc op, resets vc op = true → resets' vc op = true) (vc : SkyVirtualChannel w)
    (ops : List (VcOp w)) {n n' : Nat} (hle : n' ≤ n) :
    vc.payloadsSince resets' n' ops ≤ vc.payloadsSince resets n ops := by
  induction ops generalizing vc n n' with
  | nil => exact hle
  | cons op ops ih =>
      refine ih (vc.step op) (Nat.add_le_add_right ?_ _)
      by_cases hreset : (op.wipes vc || resets vc op) = true
      · have hreset' : (op.wipes vc || resets' vc op) = true := by
          rw [Bool.or_eq_true] at hreset ⊢
          exact hreset.imp_right (h vc op)
        rw [if_pos hreset, if_pos hreset']
      · rw [if_neg hreset]
        split
        · exact Nat.zero_le _
        · exact hle

/-- A control extension that is not sent makes the counter fall behind. -/
theorem SkyVirtualChannel.counted_le_unacknowledged (vc : SkyVirtualChannel w)
    (ops : List (VcOp w)) : vc.counted ops ≤ vc.unacknowledged ops := by
  refine payloadsSince_le (fun vc op h => ?_) vc ops le_rfl
  cases op with
  | fillFrame config tx now frames => exact (Bool.and_eq_true_iff.mp h).1
  | _ => cases h

theorem VcOp.step_count (vc : SkyVirtualChannel w) (op : VcOp w) {n : Nat}
    (h : vc.unconfirmedPayloads = Int16.ofNat n) :
    (vc.step op).unconfirmedPayloads =
      Int16.ofNat (op.count (fun vc op => op.addsCtrl vc) vc n) := by
  rw [step_unconfirmedPayloads, VcOp.count, h, Int16.ofNat_add]
  split_ifs <;> rfl

theorem SkyVirtualChannel.run_count (vc : SkyVirtualChannel w) (ops : List (VcOp w)) {n : Nat}
    (h : vc.unconfirmedPayloads = Int16.ofNat n) :
    (vc.run ops).unconfirmedPayloads =
      Int16.ofNat (vc.payloadsSince (fun vc op => op.addsCtrl vc) n ops) := by
  induction ops generalizing vc n with
  | nil => exact h
  | cons op ops ih => exact ih (vc.step op) (op.step_count vc h)

/-- The counter of a run is the number of payloads as far as sixteen bits can hold it. -/
theorem skyVcCreate_run_count {config conf : SkyVCConfig} {vc : SkyVirtualChannel w}
    (hvc : skyVcCreate config = some (conf, vc)) (ops : List (VcOp w)) :
    (vc.run ops).unconfirmedPayloads = Int16.ofNat (vc.counted ops) := by
  apply vc.run_count ops
  simp only [skyVcCreate, Option.bind_eq_bind, Option.bind_eq_some_iff, Option.some.injEq,
    Prod.mk.injEq] at hvc
  obtain ⟨sendRing, -, rcvRing, -, -, rfl⟩ := hvc
  rfl

theorem Int16.ofNat_pos_iff (n : Nat) :
    0 < Int16.ofNat n ↔ 0 < n % 65536 ∧ n % 65536 < 32768 := by
  rw [Int16.lt_iff_toInt_lt, Int16.toInt_ofNat', Int16.toInt_zero, Int.bmod, Int16.size]
  split_ifs <;> omega

/-! ## When an acknowledgement is sent -/

/-- One of the three timers for idle frames has run out. -/
def SkyVirtualChannel.idleTooLong (vc : SkyVirtualChannel w) (config : SkyConfig) (now : Int) :
    Bool :=
  decide (config.arq.idleFrameThreshold < wrapTimeTicks (now - vc.lastCtrlSendTick)) ||
    decide (config.arq.idleFrameThreshold < wrapTimeTicks (now - vc.lastTxTick)) ||
    decide (config.arq.idleFrameThreshold < wrapTimeTicks (now - vc.lastRxTick))

/-- The channel has content to send, and the frame that it fills tells the head of its
receive ring. -/
structure Acknowledges (vc : SkyVirtualChannel w) (first : FrameStart w) (config : SkyConfig)
    (now : Int) (frames : UInt16) : Prop where
  content : skyVcContentToSend vc config now frames = true
  fill : (skyVcFillFrame vc config first.tx now frames).2.2 = 1 →
    (skyVcFillFrame vc config first.tx now frames).2.1.frame.ctrl =
      some (vc.sendRing.txSequence, vc.rcvRing.headSequence)

section Frame

variable {tx : SkyTransmitFrame} {identity : Bytes} {others : List (ExtValue w)}
  {v : Fin skyNumVirtualChannels}

/-- What the extensions say that a connected channel puts before a payload. -/
theorem pendingExtensions_carries (vc : SkyVirtualChannel w) (config : SkyConfig) (now : Int)
    (frames : UInt16) (hw : w ≤ 56) (h : tx.Carries identity others v .nothing) :
    ∃ handshake request,
      (addExtensions { tx with hdr := tx.hdr.setFlag skyFlagArqOn }
        (vc.pendingExtensions config now frames)).Carries identity others v
        { (.nothing : ArqContent w) with
          arqOn := true
          handshake := handshake
          request := request
          ctrl :=
            if vc.ctrlDue config now frames then
              some (vc.sendRing.txSequence, vc.rcvRing.headSequence)
            else none } := by
  obtain ⟨handshake, hshake⟩ : ∃ handshake,
      (addExtensions { tx with hdr := tx.hdr.setFlag skyFlagArqOn }
        (if 0 < vc.handshakeSend then
          [ExtValue.arqHandshake (w := w) ArqState.on.toByte vc.arqSessionIdentifier]
        else [])).Carries identity others v
        { (.nothing : ArqContent w) with arqOn := true, handshake := handshake } := by
    split
    · exact ⟨_, h.setArqOn.addHandshake hw ⟨rfl, rfl, rfl, rfl, rfl⟩ _ _⟩
    · exact ⟨none, h.setArqOn⟩
  rw [SkyVirtualChannel.pendingExtensions, addExtensions_append, addExtensions_append]
  generalize addExtensions { tx with hdr := tx.hdr.setFlag skyFlagArqOn } _ = tx₁ at hshake ⊢
  obtain ⟨request, hrequest⟩ : ∃ request,
      (addExtensions tx₁
        (if vc.requestDue config frames then
          [.arqRequest vc.rcvRing.headSequence (rcvRingGetHorizonBitmap vc.rcvRing)]
        else [])).Carries identity others v
        { (.nothing : ArqContent w) with
          arqOn := true, handshake := handshake, request := request } := by
    split
    · exact ⟨_, hshake.addRequest hw ⟨rfl, rfl, rfl, rfl⟩ _ _⟩
    · exact ⟨none, hshake⟩
  generalize addExtensions tx₁ _ = tx₂ at hrequest ⊢
  refine ⟨handshake, request, ?_⟩
  split
  · exact hrequest.addCtrl hw ⟨rfl, rfl, rfl⟩ _ _
  · exact hrequest

end Frame

/-- A connected channel tells its heads exactly when they are due. -/
theorem skyVcFillFrame_ctrl_eq (vc : SkyVirtualChannel w) (first : FrameStart w)
    (config : SkyConfig) (now : Int) (frames : UInt16) (hw : w ≤ 56) (h8 : 8 ∣ w)
    (hon : vc.arqStateFlag = .on) :
    (skyVcFillFrame vc config first.tx now frames).2.1.frame.ctrl =
      if vc.ctrlDue config now frames then
        some (vc.sendRing.txSequence, vc.rcvRing.headSequence)
      else none := by
  obtain ⟨handshake, request, hpending⟩ :=
    pendingExtensions_carries vc config now frames hw first.carries
  rw [skyVcFillFrame, hon]
  dsimp only
  rw [fillFrameOn_pending]
  obtain ⟨vc', tx', ret', sequence, payload, heq, hcarries, -, -⟩ :=
    fillPayload_carries (vc.controlFilled config now frames)
      (if vc.ctrlDue config now frames then 1
        else if vc.requestDue config frames then 1
        else if 0 < vc.handshakeSend then 1 else 0) hw hpending ⟨rfl, rfl⟩
      (by split_ifs <;> decide)
  rw [heq, hcarries.ctrl hw h8]

/-- Within the idle frames an acknowledgement is sent when a control extension is due. -/
theorem acknowledges_iff_ctrlDue (vc : SkyVirtualChannel w) (first : FrameStart w)
    (config : SkyConfig) (now : Int) (frames : UInt16) (hw : w ≤ 56) (h8 : 8 ∣ w)
    (hon : vc.arqStateFlag = .on) :
    Acknowledges vc first config now frames ↔ vc.ctrlDue config now frames = true := by
  have hctrl := skyVcFillFrame_ctrl_eq vc first config now frames hw h8 hon
  have hcontent := contentToSend_on vc config now frames hon
  constructor
  · rintro ⟨hsend, hfill⟩
    by_contra hnot
    have hpacket : ¬0 < sendRingCountPacketsToSend vc.sendRing true := by
      intro hpacket
      rw [SkyVirtualChannel.ctrlDue, decide_eq_true hpacket, Bool.or_true] at hnot
      exact hnot rfl
    -- what there is to send goes out without a control extension
    have hret : (skyVcFillFrame vc config first.tx now frames).2.2 = 1 := by
      rw [skyVcFillFrame, hon]
      dsimp only
      rw [fillFrameOn_ret, if_neg hpacket, if_neg hnot]
      by_cases hrequest : vc.requestDue config frames = true
      · rw [if_pos hrequest]
      · rw [hcontent, Bool.eq_false_of_not_eq_true hnot,
          Bool.eq_false_of_not_eq_true hrequest, Bool.false_or, Bool.false_or] at hsend
        rw [if_neg hrequest, if_pos (of_decide_eq_true hsend)]
    have htells := hfill hret
    rw [hctrl, if_neg hnot] at htells
    cases htells
  · intro hdue
    refine ⟨?_, fun _ => ?_⟩
    · rw [hcontent, hdue]
      rfl
    · rw [hctrl, if_pos hdue]

/-- Payloads outside the horizon leave nothing but a count. -/
theorem SkyVirtualChannel.run_replicate_beyond (vc : SkyVirtualChannel w) (src : Bytes)
    {sequence : BitVec w} (now : Int)
    (hbeyond : vc.rcvRing.horizonWidth < (sequence - vc.rcvRing.headSequence).toNat) (k : Nat) :
    vc.run (List.replicate k (.pushRx src sequence now)) =
      { vc with unconfirmedPayloads := vc.unconfirmedPayloads + Int16.ofNat k } := by
  induction k generalizing vc with
  | zero =>
      show vc = { vc with unconfirmedPayloads := vc.unconfirmedPayloads + 0 }
      rw [Int16.add_zero]
  | succ k ih =>
      have hstep : vc.step (.pushRx src sequence now) =
          { vc with unconfirmedPayloads := vc.unconfirmedPayloads + 1 } := by
        rw [step, skyVcPushRxPacket, rcvRingPush_beyond hbeyond]
        rfl
      have hrest := ih { vc with unconfirmedPayloads := vc.unconfirmedPayloads + 1 } hbeyond
      rw [← hstep] at hrest
      apply hrest.trans
      rw [hstep, Nat.add_comm k 1, Int16.ofNat_add, ← Int16.add_assoc]
      rfl

theorem SkyVirtualChannel.payloadsSince_replicate
    (resets : SkyVirtualChannel w → VcOp w → Bool) (vc : SkyVirtualChannel w) (n : Nat)
    (src : Bytes) (sequence : BitVec w) (now : Int)
    (hresets : ∀ vc, resets vc (.pushRx src sequence now) = false) (k : Nat) :
    vc.payloadsSince resets n (List.replicate k (.pushRx src sequence now)) = n + k := by
  induction k generalizing vc n with
  | zero => rfl
  | succ k ih =>
      have hcount : VcOp.count resets vc n (.pushRx src sequence now) = n + 1 := by
        rw [VcOp.count, hresets]
        rfl
      rw [List.replicate_succ, payloadsSince, ih, hcount]
      omega

/-- A frame to fill. -/
def exampleStart : FrameStart 8 := .plain exampleIdentity exampleIdentity_length 0

/-- A session is entered and answered, and then a packet that is not expected comes again
and again. -/
def repeatedOps (k : Nat) : List (VcOp 8) :=
  .handshake 0 ArqState.inInit.toByte 7 :: .fillFrame (exampleConfig 0 1) exampleStart.tx 0 0 ::
    List.replicate k (.pushRx [4] 255 0)

/-- The channel before those packets come. -/
def answeredChannel : SkyVirtualChannel 8 := exampleChannel.run (repeatedOps 0)

theorem answeredChannel_run (k : Nat) :
    exampleChannel.run (repeatedOps k) =
      { answeredChannel with unconfirmedPayloads := Int16.ofNat k } := by
  have hbeyond : answeredChannel.rcvRing.horizonWidth <
      ((255 : BitVec 8) - answeredChannel.rcvRing.headSequence).toNat := by decide +kernel
  have hzero : answeredChannel.unconfirmedPayloads = 0 := by decide +kernel
  refine (answeredChannel.run_replicate_beyond [4] 0 hbeyond k).trans ?_
  rw [hzero, Int16.zero_add]

theorem exampleChannel_unacknowledged (k : Nat) :
    exampleChannel.unacknowledged (repeatedOps k) = k := by
  rw [SkyVirtualChannel.unacknowledged, repeatedOps, SkyVirtualChannel.payloadsSince,
    SkyVirtualChannel.payloadsSince,
    SkyVirtualChannel.payloadsSince_replicate _ _ _ _ _ _ fun _ => rfl]
  simp [VcOp.count, VcOp.receives]

end Skylink
