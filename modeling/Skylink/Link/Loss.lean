import Skylink.Link.Session
import Skylink.VirtualChannel.Requests

/-!
# Losses are noticed

A control extension tells the receiver how far the sender has come. If packets are
missing, the next frame that the receiver fills asks for them, unless they are more than
the receiver takes for possible. A send ring that is no longer than the widest horizon
cannot get there.
-/

namespace Skylink

open SerialNumber SessionWindow

variable {w : Nat}

/-! ## Requests -/

/-- What a frame asks for, as its receiver reads it. -/
def SkyRadioFrame.request (frame : SkyRadioFrame) : Option (BitVec w × UInt16) :=
  (frame.parse w).toOption.bind fun parsed => parsed.arqRequest.map SkyHeaderExtension.arqReq

/-- The heads that a frame tells, as its receiver reads them. -/
def SkyRadioFrame.ctrl (frame : SkyRadioFrame) : Option (BitVec w × BitVec w) :=
  (frame.parse w).toOption.bind fun parsed =>
    parsed.arqCtrl.map SkyHeaderExtension.arqCtrlSequences

/-- The frame that the channel fills asks for what comes from its head on. -/
def SkyVirtualChannel.AsksFromHead (vc : SkyVirtualChannel w) (first : FrameStart w)
    (config : SkyConfig) (now : Int) (frames : UInt16) : Prop :=
  ∃ mask, (skyVcFillFrame vc config first.tx now frames).2.1.frame.request =
    some (vc.rcvRing.headSequence, mask)

namespace SkyTransmitFrame.Carries

variable {tx : SkyTransmitFrame} {identity : Bytes} {others : List (ExtValue w)}
  {v : Fin skyNumVirtualChannels} {c : ArqContent w}

theorem request (hw : w ≤ 56) (h8 : 8 ∣ w) (h : tx.Carries identity others v c) :
    tx.frame.request = c.request := by
  obtain ⟨parsed, hparse, hreads⟩ := h.parse hw h8
  rw [SkyRadioFrame.request, hparse, ← hreads.request]
  rfl

theorem ctrl (hw : w ≤ 56) (h8 : 8 ∣ w) (h : tx.Carries identity others v c) :
    tx.frame.ctrl = c.ctrl := by
  obtain ⟨parsed, hparse, hreads⟩ := h.parse hw h8
  rw [SkyRadioFrame.ctrl, hparse, ← hreads.ctrl]
  rfl

end SkyTransmitFrame.Carries

theorem fillRequest_request (vc : SkyVirtualChannel w) (config : SkyConfig) (frames : UInt16)
    (ret : SkyRet) (hw : w ≤ 56) {tx : SkyTransmitFrame} {identity : Bytes}
    {others : List (ExtValue w)} {v : Fin skyNumVirtualChannels} {c : ArqContent w}
    (h : tx.Carries identity others v c)
    (hnone : c.request = none ∧ c.ctrl = none ∧ c.sequence = none ∧ c.payload = none) :
    (fillRequest vc config tx frames ret).2.1.Carries identity others v
      { c with request :=
          if vc.requestDue config frames then
            some (vc.rcvRing.headSequence, rcvRingGetHorizonBitmap vc.rcvRing)
          else none } ∧
      (fillRequest vc config tx frames ret).1.needRecall =
        if vc.requestDue config frames then 0 else vc.needRecall := by
  have heq : fillRequest vc config tx frames ret =
      if vc.requestDue config frames then
        ({ vc with needRecall := 0 }, skyFrameAddExtensionArqRequest tx vc.rcvRing.headSequence
          (rcvRingGetHorizonBitmap vc.rcvRing), 1)
      else (vc, tx, ret) := rfl
  rw [heq]
  split
  · exact ⟨h.addRequest hw hnone _ _, rfl⟩
  · rw [← hnone.1]
    exact ⟨h, rfl⟩

/-- A connected channel makes the request that is due, and then forgets that it was. -/
theorem skyVcFillFrame_request (vc : SkyVirtualChannel w) (first : FrameStart w)
    (config : SkyConfig) (now : Int) (frames : UInt16) (hw : w ≤ 56) (h8 : 8 ∣ w)
    (hon : vc.arqStateFlag = .on) :
    (skyVcFillFrame vc config first.tx now frames).2.1.frame.request =
        (if vc.requestDue config frames then
          some (vc.rcvRing.headSequence, rcvRingGetHorizonBitmap vc.rcvRing)
        else none) ∧
      (skyVcFillFrame vc config first.tx now frames).1.needRecall =
        (if vc.requestDue config frames then 0 else vc.needRecall) ∧
      (skyVcFillFrame vc config first.tx now frames).1.arqStateFlag = vc.arqStateFlag ∧
      (skyVcFillFrame vc config first.tx now frames).1.arqSessionIdentifier =
        vc.arqSessionIdentifier := by
  rw [skyVcFillFrame, hon]
  dsimp only
  rw [fillFrameOn]
  dsimp only
  obtain ⟨vc₁, tx₁, ret₁, heq₁, hc₁, hvc₁, hret₁⟩ :=
    fillHandshake_carries vc 0 hw first.carries.setArqOn ⟨rfl, rfl, rfl, rfl, rfl⟩
  rw [heq₁]
  obtain ⟨vc₂, tx₂, ret₂, -, heq₂, -, hvc₂, hret₂⟩ :=
    fillRequest_carries vc₁ config frames ret₁ hw hc₁ ⟨rfl, rfl, rfl, rfl⟩
  obtain ⟨hc₂, hneed⟩ :=
    fillRequest_request vc₁ config frames ret₁ hw hc₁ ⟨rfl, rfl, rfl, rfl⟩
  rw [heq₂] at hc₂ hneed
  dsimp only at hneed ⊢
  rw [heq₂]
  obtain ⟨vc₃, tx₃, ret₃, ctrl, heq₃, hc₃, -, hvc₃, hret₃⟩ :=
    fillCtrl_carries vc₂ config now frames ret₂ hw hc₂ ⟨rfl, rfl, rfl⟩
  dsimp only
  rw [heq₃]
  obtain ⟨vc₄, tx₄, ret₄, sequence, payload, heq₄, hc₄, hvc₄, -⟩ :=
    fillPayload_carries vc₃ ret₃ hw hc₃ ⟨rfl, rfl⟩ (hret₃ (hret₂ (hret₁ le_rfl)))
  dsimp only
  rw [heq₄]
  have hdue : vc₁.requestDue config frames = vc.requestDue config frames := by
    rw [hvc₁]
    rfl
  rw [hdue] at hneed
  refine ⟨?_, ?_, ?_, ?_⟩
  · rw [hc₄.request hw h8]
    dsimp only
    rw [hdue, hvc₁]
  · rw [hvc₄, hvc₃, hneed, hvc₁]
  · rw [hvc₄, hvc₃, hvc₂, hvc₁]
    exact hon
  · rw [hvc₄, hvc₃, hvc₂, hvc₁]

theorem SkyVirtualChannel.asksFromHead_iff (vc : SkyVirtualChannel w) (first : FrameStart w)
    (config : SkyConfig) (now : Int) {frames : UInt16} (hw : w ≤ 56) (h8 : 8 ∣ w)
    (hon : vc.arqStateFlag = .on) (hidle : idleFramesLeft config frames = true) :
    vc.AsksFromHead first config now frames ↔
      vc.needRecall ≠ 0 ∨ ∃ i < 16, vc.rcvRing.holdsAhead (i + 1) = true := by
  rw [AsksFromHead, (skyVcFillFrame_request vc first config now frames hw h8 hon).1, requestDue,
    hidle, Bool.true_and, ← rcvRingGetHorizonBitmap_ne_zero_iff]
  split
  · rename_i hyes
    apply iff_of_true ⟨_, rfl⟩
    simpa [or_comm] using hyes
  · rename_i hno
    refine iff_of_false ?_ ?_
    · rintro ⟨mask, hmask⟩
      cases hmask
    · simpa [or_comm] using hno

/-! ## What the receiver remembers -/

theorem skyVcUpdateRxSync_needRecall_iff (vc : SkyVirtualChannel w) {sequence : BitVec w}
    (now : Int) (hlost : sequence ≠ vc.rcvRing.headSequence) :
    (skyVcUpdateRxSync vc sequence now).needRecall ≠ 0 ↔
      (sequence - vc.rcvRing.headSequence).toNat ≤ arqMaximumHorizon ∨ vc.needRecall ≠ 0 := by
  rw [skyVcUpdateRxSync, rcvRingGetSequenceSyncStatus, if_neg hlost]
  by_cases hreach : (sequence - vc.rcvRing.headSequence).toNat ≤ arqMaximumHorizon
  · rw [if_pos hreach]
    exact iff_of_true (show (1 : UInt8) ≠ 0 by decide) (.inl hreach)
  · rw [if_neg hreach]
    exact (or_iff_right hreach).symm

theorem processFrameOn_needRecall (vc : SkyVirtualChannel w) (parsed : SkyParsedFrame)
    (now : Int) :
    (processFrameOn vc parsed now).1.needRecall = (processCtrl vc parsed now).needRecall := by
  have hrequest (vc : SkyVirtualChannel w) :
      (processRequest vc parsed).needRecall = vc.needRecall := by
    rw [processRequest]
    cases parsed.arqRequest <;> rfl
  rw [processFrameOn]
  dsimp only
  split
  · cases parsed.arqSequence with
    | none => rfl
    | some ext => exact hrequest _
  · exact hrequest _

/-- A handshake of the own session leaves a connected channel as it is, except for the
handshake that it owes. -/
theorem processHandshake_own {vc : SkyVirtualChannel w} {parsed : SkyParsedFrame}
    (hon : vc.arqStateFlag = .on)
    (hown : ∀ identifier ∈ parsed.handshakeIdentifier, identifier = vc.arqSessionIdentifier)
    (tickTime : Int) :
    processHandshake tickTime vc parsed =
      { vc with handshakeSend := (processHandshake tickTime vc parsed).handshakeSend } := by
  rw [processHandshake]
  cases hext : parsed.arqHandshake with
  | none => rfl
  | some ext =>
      have hid : ext.arqHandshake.2 = vc.arqSessionIdentifier := by
        apply hown _
        rw [SkyParsedFrame.handshakeIdentifier, hext]
        rfl
      simp only [skyVcHandleHandshake, hon, if_pos hid]

/-- A receiver that meets a transmit head other than its own head remembers it, if it is
not too far ahead. -/
theorem skyVcProcessFrame_needRecall_iff {vc : SkyVirtualChannel w} {parsed : SkyParsedFrame}
    (hon : vc.arqStateFlag = .on)
    (hown : ∀ identifier ∈ parsed.handshakeIdentifier, identifier = vc.arqSessionIdentifier)
    {ext : SkyHeaderExtension} (hctrl : parsed.arqCtrl = some ext) {sequences : BitVec w × BitVec w}
    (hsequences : ext.arqCtrlSequences = sequences)
    (hlost : sequences.1 ≠ vc.rcvRing.headSequence) (tickTime now : Int) :
    (skyVcProcessFrame tickTime vc parsed now).1.needRecall ≠ 0 ↔
      (sequences.1 - vc.rcvRing.headSequence).toNat ≤ arqMaximumHorizon ∨ vc.needRecall ≠ 0 := by
  have hsame := processHandshake_own hon hown tickTime
  have hon' : (processHandshake tickTime vc parsed).arqStateFlag = .on := by
    rw [hsame]
    exact hon
  rw [skyVcProcessFrame_fst, processContents, hon']
  dsimp only
  rw [processFrameOn_needRecall, processCtrl, hctrl]
  dsimp only
  rw [hsequences, skyVcUpdateRxSync_needRecall_iff, hsame]
  · exact Iff.rfl
  · rw [hsame]
    exact hlost

/-! ## Until the next frame -/

/-- What the receiver may do until it fills a frame with idle frames left. -/
def LinkEvent.Waits : LinkEvent w → Prop
  | .process _ _ => False
  | .fill _ config _ frames => idleFramesLeft config frames = false
  | _ => True

/-- A frame of the own session, or of none, leaves a connected channel in its session. -/
theorem Link.StaysConnected.process_on {l : Link w} {tickTime now : Int}
    (hstays : l.StaysConnected (.process tickTime now)) (hon : l.near.vc.arqStateFlag = .on) :
    (l.step (.process tickTime now)).near.vc.arqStateFlag = .on ∧
      (l.step (.process tickTime now)).near.vc.arqSessionIdentifier =
        l.near.vc.arqSessionIdentifier := by
  cases hinn : l.inn with
  | nil =>
      rw [Link.step, hinn]
      exact ⟨hon, rfl⟩
  | cons frame rest =>
      rw [Link.step_process hinn]
      cases hparse : frame.parse w with
      | error ret =>
          have hsame : l.near.process l.sessions tickTime now frame = l.near := by
            rw [Endpoint.process, hparse]
          exact ⟨(congrArg (·.vc.arqStateFlag) hsame).trans hon,
            congrArg (·.vc.arqSessionIdentifier) hsame⟩
      | ok parsed =>
          have hown : ∀ identifier ∈ parsed.handshakeIdentifier,
              identifier = l.near.vc.arqSessionIdentifier :=
            hstays parsed (Link.incoming_eq hinn hparse)
          have hcontrol := processContents_control
            (processHandshake tickTime l.near.vc parsed) parsed now
          rw [← skyVcProcessFrame_fst, processHandshake_own hon hown tickTime] at hcontrol
          dsimp only
          rw [Endpoint.process_vc _ _ _ _ hparse]
          exact ⟨hcontrol.1.trans hon, hcontrol.3⟩

/-- A connected channel stays connected. -/
theorem Link.StaysConnected.on {l : Link w} {e : LinkEvent w} (hstays : l.StaysConnected e)
    (hw : w ≤ 56) (h8 : 8 ∣ w) (hon : l.near.vc.arqStateFlag = .on) :
    ((l.step e).near.vc.arqStateFlag = .on ∧
      (l.step e).near.vc.arqSessionIdentifier = l.near.vc.arqSessionIdentifier) ∧
      (e.Waits → (l.step e).near.vc.needRecall = l.near.vc.needRecall) := by
  cases e with
  | push payload =>
      have hvc : (l.step (.push payload)).near.vc =
          (skyVcPushPacketToSend l.near.vc payload).1 := l.near.push_vc payload
      have hkeep : (skyVcPushPacketToSend l.near.vc payload).1.arqStateFlag =
            l.near.vc.arqStateFlag ∧
          (skyVcPushPacketToSend l.near.vc payload).1.arqSessionIdentifier =
            l.near.vc.arqSessionIdentifier ∧
          (skyVcPushPacketToSend l.near.vc payload).1.needRecall = l.near.vc.needRecall := by
        rw [skyVcPushPacketToSend]
        split <;> exact ⟨rfl, rfl, rfl⟩
      rw [hvc]
      exact ⟨⟨hkeep.1.trans hon, hkeep.2.1⟩, fun _ => hkeep.2.2⟩
  | read maxLength =>
      have hvc : (l.step (.read maxLength)).near.vc =
          (skyVcReadNextReceived l.near.vc maxLength).1 := l.near.readNext_vc maxLength
      rw [hvc]
      exact ⟨⟨hon, rfl⟩, fun _ => rfl⟩
  | fill first config now frames =>
      obtain ⟨-, hneed, hstate, hid⟩ :=
        skyVcFillFrame_request l.near.vc first config now frames hw h8 hon
      refine ⟨⟨hstate.trans hon, hid⟩, fun hwaits => ?_⟩
      have hdue : l.near.vc.requestDue config frames = false := by
        rw [SkyVirtualChannel.requestDue, show idleFramesLeft config frames = false from hwaits,
          Bool.false_and]
      rw [hdue] at hneed
      exact hneed
  | process tickTime now => exact ⟨hstays.process_on hon, fun hwaits => hwaits.elim⟩
  | lose i => exact ⟨⟨hon, rfl⟩, fun _ => rfl⟩
  | connect tickTime => exact hstays.elim
  | disconnect => exact hstays.elim
  | checkTimeouts now timeout => exact hstays.elim

/-- What the far endpoint is while the link stays connected. -/
theorem Link.RunMeets.far_on {l : Link w} {events : List (Side × LinkEvent w)}
    (hmeets : l.RunMeets Link.StaysConnected events) (hw : w ≤ 56) (h8 : 8 ∣ w)
    (hon : l.far.vc.arqStateFlag = .on) :
    (l.run events).far.vc.arqStateFlag = .on ∧
      ((∀ e, (Side.right, e) ∈ events → e.Waits) →
        (l.run events).far.vc.needRecall = l.far.vc.needRecall) := by
  induction events generalizing l with
  | nil => exact ⟨hon, fun _ => rfl⟩
  | cons e events ih =>
      obtain ⟨hone, hrest⟩ := hmeets
      obtain ⟨side, e⟩ := e
      have hstep : (l.stepAt (side, e)).far.vc.arqStateFlag = .on ∧
          ((side = .right → e.Waits) →
            (l.stepAt (side, e)).far.vc.needRecall = l.far.vc.needRecall) := by
        cases side with
        | left =>
            have hfar : (l.stepAt (.left, e)).far = l.far := l.step_far e
            rw [hfar]
            exact ⟨hon, fun _ => rfl⟩
        | right =>
            obtain ⟨⟨hon', -⟩, hneed⟩ := Link.StaysConnected.on hone hw h8 hon
            exact ⟨hon', fun hwaits => hneed (hwaits rfl)⟩
      obtain ⟨hon', hneed⟩ := ih hrest hstep.1
      refine ⟨hon', fun hwaits => ?_⟩
      rw [← hstep.2 fun hside => hwaits e (hside ▸ List.mem_cons_self)]
      exact hneed fun e' he' => hwaits e' (List.mem_cons_of_mem _ he')

/-! ## What is in flight -/

/-- Reached in one session in which only the left endpoint accepts payloads. -/
inductive Link.OneWay (start : Link w) : Link w → Prop
  | refl : OneWay start start
  | step {l : Link w} {side : Side} {e : LinkEvent w} (h : OneWay start l)
      (hstays : (side.view l).StaysConnected e)
      (honly : side = .right → ∀ payload, e ≠ .push payload) : OneWay start (l.stepAt (side, e))

theorem Link.OneWay.run {start l : Link w} (h : OneWay start l)
    {events : List (Side × LinkEvent w)} (hmeets : l.RunMeets Link.StaysConnected events)
    (honly : ∀ payload, (Side.right, .push payload) ∉ events) : OneWay start (l.run events) := by
  induction events generalizing l with
  | nil => exact h
  | cons e events ih =>
      obtain ⟨hone, hrest⟩ := hmeets
      obtain ⟨side, e⟩ := e
      refine ih (h.step hone fun hside payload he => ?_) hrest fun payload hmem =>
        honly payload (List.mem_cons_of_mem _ hmem)
      exact honly payload (by rw [hside, he]; exact List.mem_cons_self)

theorem InSession.oneWay {start l : Link w} {names : Naming} {n : Net}
    (hstart : InSession start start names n) (h8 : 8 ∣ w) (hw : w ≤ 56) (hfits : start.Fits)
    (h : Link.OneWay start l) : ∃ n', InSession start l names n' := by
  induction h with
  | refl => exact ⟨n, hstart⟩
  | @step l side e _ hstays honly ih =>
      obtain ⟨n', h⟩ := ih
      cases side with
      | left => exact h.step h8 hw hstays fun _ _ => hfits
      | right =>
          obtain ⟨n'', h'⟩ := h.swap.step h8 hw hstays fun payload he =>
            absurd he (honly rfl payload)
          have hback := h'.swap
          rw [start.swap_swap] at hback
          exact ⟨_, hback⟩

theorem skyVcFillFrame_ctrl (vc : SkyVirtualChannel w) (first : FrameStart w)
    (config : SkyConfig) (now : Int) (frames : UInt16) (hw : w ≤ 56) (h8 : 8 ∣ w)
    (hon : vc.arqStateFlag = .on) {s : BitVec w × BitVec w}
    (h : (skyVcFillFrame vc config first.tx now frames).2.1.frame.ctrl = some s) :
    s = (vc.sendRing.txSequence, vc.rcvRing.headSequence) := by
  obtain ⟨vc', tx', ret', c, heq, hcarries, hfilled, -⟩ :=
    fillFrameOn_carries vc config now frames hw first.carries
  rw [skyVcFillFrame, hon] at h
  dsimp only at h
  rw [heq, hcarries.ctrl hw h8] at h
  exact hfilled.ctrl s h

/-- The receiver is as it is now, and the sender as it was when it sent the frame. -/
structure Link.AsSent (start l l' : Link w) (i : Nat) (frame : SkyRadioFrame) : Prop where
  oneWay : OneWay start l'
  far : l'.far = l.far
  sessions : l'.sessions = l.sessions
  out : l'.out = l.out.take i
  ctrl : ∀ s, frame.ctrl = some s → s.1 = l'.near.vc.sendRing.txSequence

theorem take_succ_eraseIdx {α : Type} (as : List α) {i j : Nat} (h : j ≤ i) :
    (as.take (i + 1)).eraseIdx j = (as.eraseIdx j).take i := by
  apply List.ext_getElem?
  intro k
  simp only [List.getElem?_eraseIdx, List.getElem?_take]
  split_ifs <;> first | rfl | omega

namespace Link.AsSent

variable {start l : Link w}

/-- Nothing changes for the frames in flight. -/
theorem congr {l₁ l' : Link w} {i : Nat} {frame : SkyRadioFrame} (h : AsSent start l l' i frame)
    (hfar : l₁.far = l.far) (hsessions : l₁.sessions = l.sessions)
    (hout : l₁.out.take i = l.out.take i) : AsSent start l₁ l' i frame :=
  ⟨h.oneWay, h.far.trans hfar.symm, h.sessions.trans hsessions.symm, h.out.trans hout.symm,
    h.ctrl⟩

/-- The sender goes on. -/
theorem stepLeft (hw : w ≤ 56) (h8 : 8 ∣ w) (h : OneWay start l)
    (hon : l.near.vc.arqStateFlag = .on)
    (hall : ∀ {i frame}, l.out[i]? = some frame → ∃ l', AsSent start l l' i frame)
    {e : LinkEvent w} (hstays : l.StaysConnected e) {i : Nat} {frame : SkyRadioFrame}
    (hframe : (l.step e).out[i]? = some frame) : ∃ l', AsSent start (l.step e) l' i frame := by
  cases e with
  | push payload =>
      obtain ⟨l', h'⟩ := hall hframe
      exact ⟨l', h'.congr rfl rfl rfl⟩
  | read maxLength =>
      obtain ⟨l', h'⟩ := hall hframe
      exact ⟨l', h'.congr rfl rfl rfl⟩
  | fill first config now frames =>
      rcases hfill : skyVcFillFrame l.near.vc config first.tx now frames with ⟨vc', tx', ret⟩
      rw [fill_eq hfill] at hframe ⊢
      by_cases hret : ret < 0
      · simp only [if_pos hret] at hframe ⊢
        obtain ⟨l', h'⟩ := hall hframe
        exact ⟨l', h'.congr rfl rfl rfl⟩
      · simp only [if_neg hret] at hframe ⊢
        rcases Nat.lt_trichotomy i l.out.length with hlt | rfl | hgt
        · rw [List.getElem?_append_left hlt] at hframe
          obtain ⟨l', h'⟩ := hall hframe
          exact ⟨l', h'.congr rfl rfl (List.take_append_of_le_length hlt.le)⟩
        · rw [List.getElem?_concat_length] at hframe
          cases hframe
          refine ⟨l, h, rfl, rfl, List.take_left.symm, fun s hs => ?_⟩
          have htx : (skyVcFillFrame l.near.vc config first.tx now frames).2.1 = tx' := by
            rw [hfill]
          rw [← htx] at hs
          exact congrArg Prod.fst
            (skyVcFillFrame_ctrl l.near.vc first config now frames hw h8 hon hs)
        · rw [List.getElem?_eq_none (by simp; omega)] at hframe
          cases hframe
  | process tickTime now =>
      have hsame : (l.step (.process tickTime now)).out = l.out ∧
          (l.step (.process tickTime now)).sessions = l.sessions := by
        rw [Link.step]
        cases l.inn <;> exact ⟨rfl, rfl⟩
      rw [hsame.1] at hframe
      obtain ⟨l', h'⟩ := hall hframe
      exact ⟨l', h'.congr (l.step_far _) hsame.2 (by rw [hsame.1])⟩
  | lose j =>
      replace hframe : (l.out.eraseIdx j)[i]? = some frame := hframe
      rcases Nat.lt_or_ge i j with hij | hij
      · rw [List.getElem?_eraseIdx_of_lt hij] at hframe
        obtain ⟨l', h'⟩ := hall hframe
        exact ⟨l', h'.congr rfl rfl (List.take_eraseIdx_eq_take_of_le l.out i j hij.le)⟩
      · rw [List.getElem?_eraseIdx_of_ge hij] at hframe
        obtain ⟨l', h'⟩ := hall hframe
        have hleft : Side.left = .right → ∀ payload, LinkEvent.lose j ≠ .push (w := w) payload :=
          fun hside => by cases hside
        have hout : l'.out.eraseIdx j = (l.out.eraseIdx j).take i := by
          rw [h'.out, take_succ_eraseIdx l.out hij]
        exact ⟨l'.stepAt (.left, .lose j), h'.oneWay.step trivial hleft, h'.far, h'.sessions,
          hout, h'.ctrl⟩
  | connect tickTime => exact hstays.elim
  | disconnect => exact hstays.elim
  | checkTimeouts now timeout => exact hstays.elim

/-- The receiver meets the same frame where the sender is as it was. -/
theorem process {l' : Link w} {i : Nat} {frame : SkyRadioFrame}
    (h : AsSent start l l' (i + 1) frame) {f : SkyRadioFrame} {rest : List SkyRadioFrame}
    (hl : l.out = f :: rest) {tickTime now : Int}
    (hstays : l.swap.StaysConnected (.process tickTime now)) :
    AsSent start (l.stepAt (.right, .process tickTime now))
      (l'.stepAt (.right, .process tickTime now)) i frame := by
  have hinn : l.swap.inn = f :: rest := hl
  have hinn' : l'.swap.inn = f :: rest.take i := by
    show l'.out = f :: rest.take i
    rw [h.out, hl, List.take_succ_cons]
  have hstep := Link.step_process hinn tickTime now
  have hstep' := Link.step_process hinn' tickTime now
  have hstays' : l'.swap.StaysConnected (.process tickTime now) := by
    intro parsed hparsed identifier hid
    have hsame : l'.swap.incoming = l.swap.incoming := by
      rw [Link.incoming, Link.incoming, hinn, hinn', List.head?_cons, List.head?_cons]
    rw [hsame] at hparsed
    have hown := hstays parsed hparsed identifier hid
    rw [hown]
    exact congrArg (·.vc.arqSessionIdentifier) h.far.symm
  refine ⟨h.oneWay.step hstays' (fun _ _ hpush => by cases hpush), ?_, ?_, ?_, fun s hs => ?_⟩
  · show (l'.swap.step (.process tickTime now)).near =
      (l.swap.step (.process tickTime now)).near
    rw [hstep, hstep']
    show l'.far.process (l'.sessions.map skyHton32) tickTime now f =
      l.far.process (l.sessions.map skyHton32) tickTime now f
    rw [h.far, h.sessions]
  · show (l'.swap.step (.process tickTime now)).sessions.map skyHton32 =
      (l.swap.step (.process tickTime now)).sessions.map skyHton32
    rw [hstep, hstep']
    show (l'.sessions.map skyHton32).map skyHton32 = (l.sessions.map skyHton32).map skyHton32
    rw [h.sessions]
  · show (l'.swap.step (.process tickTime now)).inn =
      (l.swap.step (.process tickTime now)).inn.take i
    rw [hstep, hstep']
  · rw [h.ctrl s hs]
    exact congrArg (·.vc.sendRing.txSequence) (l'.swap.step_far _).symm

/-- The receiver goes on, and does the same where the sender is as it was. -/
theorem stepRight
    (hall : ∀ {i frame}, l.out[i]? = some frame → ∃ l', AsSent start l l' i frame)
    {e : LinkEvent w} (hstays : l.swap.StaysConnected e)
    (honly : Side.right = .right → ∀ payload, e ≠ .push payload) {i : Nat}
    {frame : SkyRadioFrame} (hframe : (l.stepAt (.right, e)).out[i]? = some frame) :
    ∃ l', AsSent start (l.stepAt (.right, e)) l' i frame := by
  have hback {l' : Link w} (h : l'.sessions = l.sessions) :
      (l'.sessions.map skyHton32).map skyHton32 = (l.sessions.map skyHton32).map skyHton32 := by
    rw [h]
  cases e with
  | push payload => exact absurd rfl (honly rfl payload)
  | read maxLength =>
      obtain ⟨l', h'⟩ := hall hframe
      exact ⟨l'.stepAt (.right, .read maxLength), h'.oneWay.step trivial honly,
        congrArg (·.readNext maxLength) h'.far, hback h'.sessions, h'.out, h'.ctrl⟩
  | fill first config now frames =>
      obtain ⟨l', h'⟩ := hall hframe
      refine ⟨l'.stepAt (.right, .fill first config now frames), h'.oneWay.step trivial honly,
        ?_, hback h'.sessions, h'.out, h'.ctrl⟩
      exact congrArg (fun e : Endpoint w => { e with
        vc := (skyVcFillFrame e.vc config first.tx now frames).1 }) h'.far
  | process tickTime now =>
      cases hl : l.out with
      | nil =>
          have hinn : l.swap.inn = [] := hl
          have hnone : (l.stepAt (.right, .process tickTime now)).out = [] := by
            show (l.swap.step (.process tickTime now)).inn = []
            rw [Link.step, hinn]
            exact hinn
          rw [hnone] at hframe
          cases hframe
      | cons f rest =>
          have hrest : (l.stepAt (.right, .process tickTime now)).out = rest := by
            show (l.swap.step (.process tickTime now)).inn = rest
            rw [Link.step_process (show l.swap.inn = f :: rest from hl)]
          rw [hrest] at hframe
          have hnext : l.out[i + 1]? = some frame := by
            rw [hl]
            exact hframe
          obtain ⟨l', h'⟩ := hall hnext
          exact ⟨_, h'.process hl hstays⟩
  | lose j =>
      obtain ⟨l', h'⟩ := hall hframe
      exact ⟨l'.stepAt (.right, .lose j), h'.oneWay.step trivial honly, h'.far,
        hback h'.sessions, h'.out, h'.ctrl⟩
  | connect tickTime => exact hstays.elim
  | disconnect => exact hstays.elim
  | checkTimeouts now timeout => exact hstays.elim

end Link.AsSent

/-- What the sender has done since it sent a frame does not matter to a receiver that has
not met the frame: without it the receiver would be the same. -/
theorem Link.OneWay.asSent {start l : Link w} {names : Naming} {n : Net}
    (hstart : InSession start start names n) (h8 : 8 ∣ w) (hw : w ≤ 56) (hfits : start.Fits)
    (hout : start.out = []) (h : OneWay start l) {i : Nat} {frame : SkyRadioFrame}
    (hframe : l.out[i]? = some frame) : ∃ l', AsSent start l l' i frame := by
  induction h generalizing i frame with
  | refl =>
      rw [hout] at hframe
      cases hframe
  | @step l side e h hstays honly ih =>
      obtain ⟨n', hsession⟩ := hstart.oneWay h8 hw hfits h
      cases side with
      | left => exact AsSent.stepLeft hw h8 h hsession.on.1 ih hstays hframe
      | right => exact AsSent.stepRight ih hstays honly hframe

/-- No frame that the receiver meets tells of more packets than the send ring holds. -/
theorem Link.OneWay.ctrl_lt {start l : Link w} {names : Naming} {n : Net}
    (hstart : InSession start start names n) (h8 : 8 ∣ w) (hw : w ≤ 56) (hfits : start.Fits)
    (hout : start.out = []) (h : OneWay start l) {frame : SkyRadioFrame}
    (hframe : l.out[0]? = some frame) {s : BitVec w × BitVec w} (hs : frame.ctrl = some s) :
    (s.1 - l.far.vc.rcvRing.headSequence).toNat < start.near.vc.sendRing.length := by
  obtain ⟨l', hsent⟩ := h.asSent hstart h8 hw hfits hout hframe
  obtain ⟨n', hsession⟩ := hstart.oneWay h8 hw hfits hsent.oneWay
  have hwindow := hsession.sim.headInWindow hsession.inv hsession.on.1 hsession.swap.on.1
  obtain ⟨v, hrep, -⟩ := hsession.sim.near.view
  obtain ⟨htail, htx, -⟩ := hrep.sendSequences
  obtain ⟨hle, hle', hroom, hlen⟩ := hrep.sendOrder
  have hgap : (l'.near.vc.sendRing.txSequence - l'.near.vc.sendRing.tailSequence).toNat =
      v.sendTx - v.sendTail := by
    rw [htx, htail, serial_sub 0 hle (by omega)]
  have hdiff : l'.near.vc.sendRing.txSequence - l'.far.vc.rcvRing.headSequence =
      (l'.near.vc.sendRing.txSequence - l'.near.vc.sendRing.tailSequence) -
        (l'.far.vc.rcvRing.headSequence - l'.near.vc.sendRing.tailSequence) := by
    grind
  have hsize := hsession.sim.sizesNear.sendLength
  rw [hsent.ctrl s hs, ← hsent.far, hdiff, BitVec.toNat_sub_of_le hwindow, hgap, ← hsize]
  omega

/-! ## Runs -/

/-- A run in which the right endpoint meets a frame that tells a transmit head other than
its own head, and has neither met another frame nor filled one with idle frames left. -/
structure LossRun (start : Link w) where
  before : List (Side × LinkEvent w)
  tickTime : Int
  now : Int
  between : List (Side × LinkEvent w)
  frame : SkyRadioFrame
  txSequence : BitVec w
  rxSequence : BitVec w
  connected : start.RunMeets Link.StaysConnected
    (before ++ (.right, .process tickTime now) :: between)
  waits : ∀ e, (Side.right, e) ∈ between → e.Waits
  incoming : (start.run before).out[0]? = some frame
  ctrl : frame.ctrl = some (txSequence, rxSequence)
  lost : txSequence ≠ (start.run before).far.vc.rcvRing.headSequence

namespace LossRun

variable {start : Link w} (r : LossRun start)

/-- Where the frame is met. -/
def met : Link w := start.run r.before

/-- Where the next frame is filled. -/
def waiting : Link w :=
  start.run (r.before ++ (.right, .process r.tickTime r.now) :: r.between)

theorem waiting_eq :
    r.waiting = (r.met.stepAt (.right, .process r.tickTime r.now)).run r.between := by
  rw [waiting, Link.run, List.foldl_append]
  rfl

/-- The frame is parsed, and has the control extension. -/
theorem parsed : ∃ rest parsed ext, r.met.swap.inn = r.frame :: rest ∧
    r.frame.parse w = .ok parsed ∧ parsed.arqCtrl = some ext ∧
    ext.arqCtrlSequences = (r.txSequence, r.rxSequence) := by
  have hincoming := r.incoming
  have hctrl := r.ctrl
  change r.met.swap.inn[0]? = some r.frame at hincoming
  rw [← List.head?_eq_getElem?, List.head?_eq_some_iff] at hincoming
  obtain ⟨rest, hinn⟩ := hincoming
  rw [SkyRadioFrame.ctrl] at hctrl
  cases hparse : r.frame.parse w with
  | error ret =>
      rw [hparse] at hctrl
      cases hctrl
  | ok parsed =>
      rw [hparse] at hctrl
      obtain ⟨ext, hext, hsequences⟩ := Option.map_eq_some_iff.mp hctrl
      exact ⟨rest, parsed, ext, hinn, rfl, hext, hsequences⟩

/-- What the receiver remembers when it fills the next frame. -/
theorem waiting_needRecall_iff (hw : w ≤ 56) (h8 : 8 ∣ w)
    (hon : start.far.vc.arqStateFlag = .on) :
    r.waiting.far.vc.arqStateFlag = .on ∧
      (r.waiting.far.vc.needRecall ≠ 0 ↔
        (r.txSequence - r.met.far.vc.rcvRing.headSequence).toNat ≤ arqMaximumHorizon ∨
          r.met.far.vc.needRecall ≠ 0) := by
  obtain ⟨hbefore, hone, hbetween⟩ := r.connected.append
  have hmet : r.met.far.vc.arqStateFlag = .on := (hbefore.far_on hw h8 hon).1
  obtain ⟨⟨hon', -⟩, -⟩ := Link.StaysConnected.on hone hw h8 hmet
  obtain ⟨hwaiting, hneed⟩ := hbetween.far_on hw h8 hon'
  obtain ⟨rest, parsed, ext, hinn, hparse, hext, hsequences⟩ := r.parsed
  have hown : ∀ identifier ∈ parsed.handshakeIdentifier,
      identifier = r.met.far.vc.arqSessionIdentifier :=
    hone parsed (Link.incoming_eq hinn hparse)
  have hprocess : (r.met.stepAt (.right, .process r.tickTime r.now)).far.vc =
      (skyVcProcessFrame r.tickTime r.met.far.vc parsed r.now).1 := by
    show (r.met.swap.step (.process r.tickTime r.now)).near.vc = _
    rw [Link.step_process hinn]
    exact Endpoint.process_vc _ _ _ _ hparse
  have hremembered := skyVcProcessFrame_needRecall_iff hmet hown hext hsequences r.lost
    r.tickTime r.now
  rw [← hprocess] at hremembered
  rw [r.waiting_eq]
  refine ⟨hwaiting, ?_⟩
  rw [← hremembered]
  exact not_congr (Eq.congr_left (hneed r.waits))

end LossRun

/-- In one session, after a frame that tells a transmit head other than the own head, the
next frame asks from the head on exactly if not too many packets are missing, or it was
known before that some are, or some packet after the gap is held. With a send ring that is
not longer than the widest horizon it always asks. -/
theorem lossNoticed_iff (hw : ArqSequenceWidth w) {a b : SkyVirtualChannel w} (ha : a.NewlyOn)
    (hb : b.NewlyOn) (r : LossRun (.connected a b)) (first : FrameStart w) (config : SkyConfig)
    (now : Int) {frames : UInt16} (hidle : idleFramesLeft config frames = true) :
    (r.waiting.far.vc.AsksFromHead first config now frames ↔
      (r.txSequence - r.met.far.vc.rcvRing.headSequence).toNat ≤ arqMaximumHorizon ∨
        r.met.far.vc.needRecall ≠ 0 ∨
        ∃ i < 16, r.waiting.far.vc.rcvRing.holdsAhead (i + 1) = true) ∧
      ((Link.connected a b).Fits → (∀ payload, (Side.right, .push payload) ∉ r.before) →
        a.sendRing.length ≤ arqMaximumHorizon + 1 →
        r.waiting.far.vc.AsksFromHead first config now frames) := by
  obtain ⟨h8, hw56, h250⟩ := hw.bounds
  obtain ⟨hon, hneed⟩ := r.waiting_needRecall_iff hw56 h8 hb.on
  have hasks := r.waiting.far.vc.asksFromHead_iff first config now hw56 h8 hon hidle
  refine ⟨?_, fun hfits honly hlen => ?_⟩
  · rw [hasks, hneed, or_assoc]
  · obtain ⟨names, hstart⟩ := connected_inSession h250 ha hb
    have hmet : (Link.connected a b).OneWay r.met :=
      Link.OneWay.refl.run r.connected.append.1 honly
    have hlt := hmet.ctrl_lt hstart h8 hw56 hfits rfl r.incoming r.ctrl
    have hlt' : (r.txSequence - r.met.far.vc.rcvRing.headSequence).toNat < a.sendRing.length := hlt
    exact hasks.mpr (.inl (hneed.mpr (.inl (by omega))))

/-- The first of two packets is lost. -/
def exampleLossRun : LossRun (.connected newlyOnChannel newlyOnChannel) where
  before := [(.left, .push [1]), (.left, .push [2]), (.left, .send 14), (.left, .lose 0),
    (.left, .send 15)]
  tickTime := 16
  now := 16
  between := [(.left, .push [3]), (.right, .read 200)]
  frame := ((Link.connected newlyOnChannel newlyOnChannel).run [(.left, .push [1]),
    (.left, .push [2]), (.left, .send 14), (.left, .lose 0), (.left, .send 15)]).out.get
      ⟨0, by decide +kernel⟩
  txSequence := 1
  rxSequence := 0
  connected := by decide +kernel
  waits := by simp [LinkEvent.Waits]
  incoming := by decide +kernel
  ctrl := by decide +kernel
  lost := by decide +kernel

theorem lossNoticed_iff_example :
    exampleLossRun.waiting.far.vc.AsksFromHead (.plain exampleIdentity exampleIdentity_length 0)
      (exampleConfig 0 1) 17 0 :=
  (lossNoticed_iff (.inl rfl) newlyOnChannel_newlyOn newlyOnChannel_newlyOn exampleLossRun _ _ _
    (by decide)).1.mpr (.inl (by decide))

/-- A send ring for 65 packets. -/
def longSendConfig : SkyVCConfig :=
  { usableElementSize := 200, rcvRingLen := 6, horizonWidth := 2, sendRingLen := 66
    requireAuthentication := 8 }

theorem longSendConfig_created : (skyVcCreate (w := 8) longSendConfig).isSome := by
  decide +kernel

/-- A new channel with this send ring, in the session of the other examples. -/
def longSendChannel : SkyVirtualChannel 8 :=
  ((skyVcCreate longSendConfig).get longSendConfig_created).2.run [.handshake 0 1 0x01010101]

theorem longSendChannel_newlyOn : longSendChannel.NewlyOn := by
  refine ⟨⟨longSendConfig, _, _, _, (Option.some_get longSendConfig_created).symm, by decide, rfl⟩,
    rfl, rfl, rfl⟩

/-- All 65 packets of the window are lost, and then an idle frame arrives. -/
def longLoss : List (Side × LinkEvent 8) :=
  List.replicate 65 (.left, .push [1]) ++
    (List.replicate 65 [(.left, .send 14), (.left, .lose 0)]).flatten ++ [(.left, .send 20000)]

/-- Where the losses and the idle frame lead. -/
def longLossLink : Link 8 := (Link.connected longSendChannel newlyOnChannel).run longLoss

/-- One evaluation of the run tells all that is needed of it. -/
theorem longLossLink_eq :
    ((Link.connected longSendChannel newlyOnChannel).RunMeets Link.StaysConnected
        (longLoss ++ [(.right, .process 20001 20001)]) ∧
      longLossLink.out.map (SkyRadioFrame.ctrl (w := 8)) = [some (65, 0)] ∧
      longLossLink.far.vc.rcvRing.headSequence = 0) ∧
      (longLossLink.stepAt (.right, .process 20001 20001)).far.vc.arqStateFlag = .on ∧
      (skyVcFillFrame (longLossLink.stepAt (.right, .process 20001 20001)).far.vc
        (exampleConfig 0 1) (FrameStart.plain (w := 8) exampleIdentity exampleIdentity_length 0).tx
          20002 0).2.1.frame.request (w := 8) = none := by
  decide +kernel

theorem longLossLink_out : ∃ frame, longLossLink.out = [frame] ∧
    frame.ctrl = some ((65, 0) : BitVec 8 × BitVec 8) := by
  obtain ⟨frame, hout, hctrl⟩ := List.map_eq_singleton_iff.mp longLossLink_eq.1.2.1
  exact ⟨frame, hout, hctrl⟩

def longLossRun : LossRun (.connected longSendChannel newlyOnChannel) where
  before := longLoss
  tickTime := 20001
  now := 20001
  between := []
  frame := longLossLink.out.head (by
    obtain ⟨frame, hout, -⟩ := longLossLink_out
    rw [hout]
    exact List.cons_ne_nil _ _)
  txSequence := 65
  rxSequence := 0
  connected := longLossLink_eq.1.1
  waits := by simp
  incoming := by
    rw [← List.head?_eq_getElem?]
    exact List.head?_eq_some_head _
  ctrl := by
    obtain ⟨frame, hout, hctrl⟩ := longLossLink_out
    simpa [hout] using hctrl
  lost := by
    have hhead := longLossLink_eq.1.2.2
    rw [longLossLink] at hhead
    rw [hhead]
    decide

/-- The receiver, which has received nothing, fills a frame that asks for nothing. -/
theorem not_lossNoticed :
    longSendChannel.NewlyOn ∧ newlyOnChannel.NewlyOn ∧
      (Link.connected longSendChannel newlyOnChannel).Fits ∧
      longLossRun.waiting.far.vc.arqStateFlag = .on ∧
      idleFramesLeft (exampleConfig 0 1) 0 = true ∧
      ¬longLossRun.waiting.far.vc.AsksFromHead (.plain exampleIdentity exampleIdentity_length 0)
        (exampleConfig 0 1) 20002 0 := by
  obtain ⟨-, hon, hnone⟩ := longLossLink_eq
  have hwaiting : longLossRun.waiting = longLossLink.stepAt (.right, .process 20001 20001) :=
    longLossRun.waiting_eq
  rw [hwaiting]
  refine ⟨longSendChannel_newlyOn, newlyOnChannel_newlyOn, by decide +kernel, hon, by decide, ?_⟩
  rintro ⟨mask, hmask⟩
  rw [hnone] at hmask
  cases hmask

end Skylink
