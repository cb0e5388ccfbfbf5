import Skylink.Link.Session
import Skylink.Node.Windows
import Skylink.Node.Resynchronisation

/-!
# What failures leave behind

A frame that cannot be filled takes the pending control information of its channel with
it. A received frame that is refused late has already changed the node.
-/

namespace Skylink

variable {w : Nat}

/-! ## Failed filling -/

structure SameArqControl (vc vc' : SkyVirtualChannel w) : Prop where
  handshakeSend : vc'.handshakeSend = vc.handshakeSend
  needRecall : vc'.needRecall = vc.needRecall
  unconfirmedPayloads : vc'.unconfirmedPayloads = vc.unconfirmedPayloads
  lastCtrlSendTick : vc'.lastCtrlSendTick = vc.lastCtrlSendTick

theorem sendRingPeek_error_neg {r : SkySendRing w} {eb : SkyElementBuffer} {includeResend : Bool}
    {ret : SkyRet}
    (h : sendRingPeekNextTxSizeAndSequence r eb includeResend = .error ret) : ret < 0 := by
  have hlength {idx : Nat} {s : BitVec w}
      (hmap : ((skyElementBufferGetDataLength eb idx).map fun length => (length, s)) =
        .error ret) : ret < 0 := by
    rw [skyElementBufferGetDataLength] at hmap
    split at hmap
    · cases hmap
    · cases hmap
      decide
  have hnew (hpeek : sendRingPeekNew r eb = .error ret) : ret < 0 := by
    rw [sendRingPeekNew] at hpeek
    split at hpeek
    · cases hpeek
      decide
    · exact hlength hpeek
  rw [sendRingPeekNextTxSizeAndSequence] at h
  split at h
  · cases h
    decide
  · split at h
    · split at h
      · exact hlength h
      · exact hnew h
    · exact hnew h

namespace SkyVirtualChannel

/-- A connected channel has a packet to send that cannot be peeked at or does not fit. -/
def FillFails (vc : SkyVirtualChannel w) (config : SkyConfig) (tx : SkyTransmitFrame)
    (now : Int) (frames : UInt16) : Prop :=
  vc.arqStateFlag = .on ∧ 0 < sendRingCountPacketsToSend vc.sendRing true ∧
    ∀ n s, sendRingPeekNextTxSizeAndSequence vc.sendRing vc.elementBuffer true = .ok (n, s) →
      skyFrameGetSpaceLeft (tx.length + vc.extensionsLength config now frames) <
        (n + (w / 8 : Nat) + 1 : Int)

/-- The frame takes nothing with it that is still to be sent. -/
def NothingPending (vc : SkyVirtualChannel w) (config : SkyConfig) (now : Int)
    (frames : UInt16) : Prop :=
  vc.handshakeSend = 0 ∧ (idleFramesLeft config frames = true → vc.needRecall = 0) ∧
    vc.unconfirmedPayloads = 0 ∧ vc.lastCtrlSendTick = now

theorem fill_neg_iff (vc : SkyVirtualChannel w) (config : SkyConfig) (tx : SkyTransmitFrame)
    (now : Int) (frames : UInt16) :
    (skyVcFillFrame vc config tx now frames).2.2 < 0 ↔ vc.FillFails config tx now frames := by
  rw [skyVcFillFrame, FillFails]
  cases vc.arqStateFlag with
  | off =>
      refine iff_of_false ?_ fun h => by cases h.1
      dsimp only
      rw [fillFrameOff]
      split
      · exact lt_irrefl 0
      · split
        · split <;> exact (by decide : ¬(1 : SkyRet) < 0)
        · exact lt_irrefl 0
  | inInit =>
      refine iff_of_false ?_ fun h => by cases h.1
      dsimp only
      split
      · exact (by decide : ¬(1 : SkyRet) < 0)
      · exact lt_irrefl 0
  | on =>
      dsimp only
      rw [fillFrameOn_ret]
      by_cases hcount : 0 < sendRingCountPacketsToSend vc.sendRing true
      · rw [if_pos hcount]
        cases hpeek : sendRingPeekNextTxSizeAndSequence vc.sendRing vc.elementBuffer true with
        | error ret =>
            exact iff_of_true (sendRingPeek_error_neg hpeek)
              ⟨rfl, hcount, fun n s heq => by cases heq⟩
        | ok peeked =>
            obtain ⟨n, s⟩ := peeked
            dsimp only
            by_cases hfits : (n + (w / 8 : Nat) + 1 : Int) ≤
                skyFrameGetSpaceLeft (tx.length + vc.extensionsLength config now frames)
            · rw [if_pos hfits]
              apply iff_of_false (by decide)
              intro h
              have := h.2.2 n s rfl
              omega
            · rw [if_neg hfits]
              refine iff_of_true (by decide) ⟨rfl, hcount, fun n' s' heq => ?_⟩
              cases heq
              omega
      · rw [if_neg hcount]
        refine iff_of_false ?_ fun h => hcount h.2.1
        split_ifs <;> decide

/-- The payload part changes the send ring only. -/
theorem fillPayload_sameArqControl (vc : SkyVirtualChannel w) (tx : SkyTransmitFrame)
    (ret : SkyRet) : SameArqControl vc (fillPayload vc tx ret).1 := by
  rcases vc.fillPayload_vc tx ret with heq | heq
  · rw [heq]
    exact ⟨rfl, rfl, rfl, rfl⟩
  · rw [heq]
    exact ⟨rfl, rfl, rfl, rfl⟩

/-- With a packet to send the control extension is due. -/
theorem controlFilled_iff {vc : SkyVirtualChannel w} {config : SkyConfig} {now : Int}
    {frames : UInt16} (hcount : 0 < sendRingCountPacketsToSend vc.sendRing true) :
    SameArqControl vc (vc.controlFilled config now frames) ↔
      vc.NothingPending config now frames := by
  have hctrl : vc.ctrlDue config now frames = true := by
    rw [ctrlDue, decide_eq_true hcount, Bool.or_true]
  have hhandshake : (if 0 < vc.handshakeSend then vc.handshakeSend - 1 else vc.handshakeSend) =
      vc.handshakeSend ↔ vc.handshakeSend = 0 := by
    split_ifs with hpos
    · have hne : vc.handshakeSend ≠ 0 := UInt8.pos_iff_ne_zero.mp hpos
      refine iff_of_false (fun heq => ?_) hne
      grind
    · exact iff_of_true rfl (not_not.mp fun hne => hpos (UInt8.pos_iff_ne_zero.mpr hne))
  have hrecall : (if vc.requestDue config frames then 0 else vc.needRecall) = vc.needRecall ↔
      (idleFramesLeft config frames = true → vc.needRecall = 0) := by
    by_cases hzero : vc.needRecall = 0
    · rw [hzero, ite_self]
      exact iff_of_true rfl fun _ => rfl
    · have hdue : vc.requestDue config frames = idleFramesLeft config frames := by
        rw [requestDue, bne_iff_ne.mpr hzero, Bool.or_true, Bool.and_true]
      rw [hdue]
      split_ifs with hleft
      · exact iff_of_false (Ne.symm hzero) fun hnone => hzero (hnone hleft)
      · exact iff_of_true rfl fun hyes => absurd hyes hleft
  constructor
  · rintro ⟨h₁, h₂, h₃, h₄⟩
    simp only [controlFilled, hctrl, if_true] at h₁ h₂ h₃ h₄
    exact ⟨hhandshake.mp h₁, hrecall.mp h₂, h₃.symm, h₄.symm⟩
  · rintro ⟨h₁, h₂, h₃, h₄⟩
    refine ⟨hhandshake.mpr h₁, hrecall.mpr h₂, ?_, ?_⟩
    · simp only [controlFilled, hctrl, if_true, h₃]
    · simp only [controlFilled, hctrl, if_true, h₄]

end SkyVirtualChannel

/-- A failed filling keeps the control state exactly if it cannot fail or nothing was
pending: what is pending is taken before the failure. -/
theorem failedFill_keeps_iff (vc : SkyVirtualChannel w) (config : SkyConfig)
    (tx : SkyTransmitFrame) (now : Int) (frames : UInt16) :
    ((skyVcFillFrame vc config tx now frames).2.2 < 0 →
        SameArqControl vc (skyVcFillFrame vc config tx now frames).1) ↔
      (vc.FillFails config tx now frames → vc.NothingPending config now frames) := by
  rw [vc.fill_neg_iff]
  apply forall_congr'
  intro hfails
  obtain ⟨hstate, hcount, -⟩ := hfails
  obtain ⟨tx', heq, -⟩ := fillFrameOn_eq vc config tx now frames
  have hfill : (skyVcFillFrame vc config tx now frames).1 =
      (fillFrameOn vc config tx now frames).1 := by
    rw [skyVcFillFrame, hstate]
  rw [hfill, heq, ← SkyVirtualChannel.controlFilled_iff hcount]
  have hsame := SkyVirtualChannel.fillPayload_sameArqControl (vc.controlFilled config now frames)
    tx' (if vc.ctrlDue config now frames then 1 else if vc.requestDue config frames then 1
      else if 0 < vc.handshakeSend then 1 else 0)
  constructor
  · rintro ⟨h₁, h₂, h₃, h₄⟩
    exact ⟨hsame.1.symm.trans h₁, hsame.2.symm.trans h₂, hsame.3.symm.trans h₃,
      hsame.4.symm.trans h₄⟩
  · rintro ⟨h₁, h₂, h₃, h₄⟩
    exact ⟨hsame.1.trans h₁, hsame.2.trans h₂, hsame.3.trans h₃, hsame.4.trans h₄⟩

/-- A scheduled packet is acknowledged, and the peer offers the session once more. -/
def staleChannel : SkyVirtualChannel 8 :=
  exampleChannel.run [.handshake 0 0 0x01010101, .push [1],
    .fillFrame (exampleConfig 0 1) (skyTxStartFrame (exampleConfig 0 1) 0) 10 0,
    .scheduleResend 0, .cleanTail 1 20, .handshake 0 ArqState.inInit.toByte 0x01010101]

/-- The reply to the handshake is lost with the frame. -/
theorem not_failedFill_keeps :
    let filled := skyVcFillFrame staleChannel (exampleConfig 0 1)
      (skyTxStartFrame (exampleConfig 0 1) 0) 30 0
    staleChannel.Reached ∧ staleChannel.handshakeSend = 1 ∧
      staleChannel.lastCtrlSendTick = 10 ∧ filled.2.2 = .ringEmpty ∧
      filled.1.handshakeSend = 0 ∧ filled.1.lastCtrlSendTick = 30 ∧
      ¬(filled.2.2 < 0 → SameArqControl staleChannel filled.1) := by
  obtain ⟨conf, hconf⟩ := exampleChannel_eq
  have hfilled : (skyVcFillFrame staleChannel (exampleConfig 0 1)
      (skyTxStartFrame (exampleConfig 0 1) 0) 30 0).2.2 = .ringEmpty := by decide +kernel
  refine ⟨⟨_, conf, exampleChannel, _, hconf, by simp [VcOp.Valid], rfl⟩, by decide +kernel,
    by decide +kernel, hfilled, by decide +kernel, by decide +kernel, fun hkeeps => ?_⟩
  have hsame := (hkeeps (by rw [hfilled]; decide)).handshakeSend
  exact absurd hsame (by decide +kernel)

/-! ## Late rejections -/

/-- Only diagnostics and enforcement flags may differ. -/
structure SkyNode.SameState (node node' : SkyNode w) : Prop where
  virtualChannels : node'.virtualChannels = node.virtualChannels
  mac : node'.mac = node.mac
  sequenceTx : node'.hmac.sequenceTx = node.hmac.sequenceTx
  sequenceRx : node'.hmac.sequenceRx = node.hmac.sequenceRx

/-- The payload without the trailer. -/
def SkyParsedFrame.plainLen (parsed : SkyParsedFrame) : Nat :=
  if parsed.hdr.hasFlag skyFlagAuthenticated then parsed.payloadLen - skyHmacLength
  else parsed.payloadLen

/-- The frame that the check passes on. -/
def SkyParsedFrame.checked (parsed : SkyParsedFrame) : SkyParsedFrame :=
  { parsed with
    hdr := { parsed.hdr with frameSequence := skyNtoh16 parsed.hdr.frameSequence }
    payloadLen := parsed.plainLen }

section Check

variable {self : SkyNode w} {parsed : SkyParsedFrame}

/-- The received sequences after a frame has passed. -/
def SkyNode.sequencesPassed (self : SkyNode w) (parsed : SkyParsedFrame) :
    Fin skyNumVirtualChannels → UInt16 :=
  if (self.conf.vc parsed.hdr.channel).hasFlag skyConfigFlagRequireAuthentication then
    Function.update self.hmac.sequenceRx parsed.hdr.channel
      (skyNtoh16 parsed.hdr.frameSequence + 1)
  else self.hmac.sequenceRx

/-- The check refuses a frame and keeps the state, or moves the received sequence. -/
theorem check_outcome (H : KeyedHash) (frame : SkyRadioFrame) (hshort : parsed.ResetShort) :
    (∃ self' ret, skyHmacCheckAuthentication H self frame parsed = (self', .error ret) ∧
        self.SameState self') ∨
      ∃ self', skyHmacCheckAuthentication H self frame parsed = (self', .ok parsed.checked) ∧
        self'.conf = self.conf ∧ self'.virtualChannels = self.virtualChannels ∧
        self'.mac = self.mac ∧ self'.hmac.sequenceTx = self.hmac.sequenceTx ∧
        self'.hmac.sequenceRx = self.sequencesPassed parsed := by
  cases check_cases H self frame parsed with
  | short _ _ heq => exact .inl ⟨_, _, heq, rfl, rfl, rfl, rfl⟩
  | unchecked payloadLen hfree hlen heq =>
      subst hlen
      exact .inr ⟨_, heq, rfl, rfl, rfl, rfl, (if_neg hfree).symm⟩
  | forged ret _ _ _ heq => exact .inl ⟨_, _, heq, rfl, rfl, rfl, rfl⟩
  | far sequenceTx hreset _ _ _ heq =>
      exact .inl ⟨_, _, heq, rfl, rfl, hshort.sequenceTx_eq hreset, rfl⟩
  | passed sequenceTx hreset hreq _ hauth _ heq =>
      have hplain : parsed.payloadLen - skyHmacLength = parsed.plainLen := (if_pos hauth.1).symm
      rw [hplain] at heq
      exact .inr ⟨_, heq, rfl, rfl, rfl, hshort.sequenceTx_eq hreset, (if_pos hreq).symm⟩

end Check

/-! ### What a refused frame does to its channel -/

/-- The loop ends at the new tail, if this is within its turns. -/
theorem cleanTailLoop_tailSequence (newTail : BitVec w) {turns : Nat} {r : SkySendRing w}
    (h : (newTail - r.tailSequence).toNat ≤ turns) (eb : SkyElementBuffer) (n : Nat) :
    (cleanTailLoop newTail turns r eb n).1.tailSequence = newTail := by
  induction turns generalizing r eb n with
  | zero =>
      have hzero : newTail - r.tailSequence = 0 := BitVec.eq_of_toNat_eq (by simpa using h)
      have heq : newTail = r.tailSequence := by grind
      exact heq.symm
  | succ turns ih =>
      rw [cleanTailLoop]
      split
      · assumption
      · rename_i hne
        refine ih ?_ _ _
        show (newTail - (r.tailSequence + 1)).toNat ≤ turns
        have hpos : 0 < (newTail - r.tailSequence).toNat := by
          rw [Nat.pos_iff_ne_zero]
          intro hzero
          have hdiff : newTail - r.tailSequence = 0 := BitVec.eq_of_toNat_eq (by simpa using hzero)
          exact hne (by grind)
        have hlt := (newTail - r.tailSequence).isLt
        have hone : (1 : BitVec w).toNat = 1 := by
          have hlarge : 1 < 2 ^ w := by omega
          exact Nat.mod_eq_of_lt hlarge
        have hle : 1 ≤ newTail - r.tailSequence := by
          rw [BitVec.le_def, hone]
          exact hpos
        have hsub : newTail - (r.tailSequence + 1) = newTail - r.tailSequence - 1 := by grind
        rw [hsub, BitVec.toNat_sub_of_le hle, hone]
        omega

namespace SkyVirtualChannel

/-- An acknowledgement is refused or acknowledges nothing. -/
def AcknowledgesNothing (vc : SkyVirtualChannel w) (sequence : BitVec w) (now : Int) : Prop :=
  (vc.sendRing.txSequence - vc.sendRing.tailSequence).toNat <
      (sequence - vc.sendRing.tailSequence).toNat ∨
    sequence = vc.sendRing.tailSequence ∧
      (vc.sendRing.txSequence = sequence → vc.lastTxTick = now)

/-- The receive side knows already what the peer has transmitted. -/
def SyncKnown (vc : SkyVirtualChannel w) (sequence : BitVec w) (now : Int) : Prop :=
  (sequence = vc.rcvRing.headSequence → vc.lastRxTick = now ∧ vc.needRecall = 0) ∧
    (sequence ≠ vc.rcvRing.headSequence →
      (sequence - vc.rcvRing.headSequence).toNat ≤ arqMaximumHorizon → vc.needRecall = 1)

/-- Acknowledging the tail clears nothing. -/
theorem sendRingCleanTailUpTo_tailSequence (r : SkySendRing w) (eb : SkyElementBuffer) :
    sendRingCleanTailUpTo r eb r.tailSequence = (r, eb, .ok 0) := by
  have hnone : ¬(r.txSequence - r.tailSequence).toNat <
      (r.tailSequence - r.tailSequence).toNat := by
    rw [BitVec.sub_self]
    exact Nat.not_lt_zero _
  obtain ⟨turns, hturns⟩ := Nat.exists_eq_succ_of_ne_zero (Nat.two_pow_pos w).ne'
  rw [sendRingCleanTailUpTo]
  dsimp only
  rw [if_neg hnone, hturns, cleanTailLoop, if_pos rfl]

theorem updateTxSync_eq_self_iff (vc : SkyVirtualChannel w) (sequence : BitVec w) (now : Int) :
    skyVcUpdateTxSync vc sequence now = vc ↔ vc.AcknowledgesNothing sequence now := by
  by_cases hrefused : (vc.sendRing.txSequence - vc.sendRing.tailSequence).toNat <
      (sequence - vc.sendRing.tailSequence).toNat
  · have hne : vc.sendRing.txSequence ≠ sequence := by
      rintro rfl
      exact lt_irrefl _ hrefused
    refine iff_of_true ?_ (.inl hrefused)
    rw [skyVcUpdateTxSync, sendRingCleanTailUpTo]
    dsimp only
    rw [if_pos hrefused]
    dsimp only
    rw [if_neg hne, if_neg (lt_irrefl 0)]
  · by_cases htail : sequence = vc.sendRing.tailSequence
    · rw [skyVcUpdateTxSync, htail, sendRingCleanTailUpTo_tailSequence]
      dsimp only
      rw [if_neg (lt_irrefl 0)]
      constructor
      · intro heq
        refine .inr ⟨rfl, fun htx => ?_⟩
        have htick := congrArg lastTxTick heq
        rw [if_pos htx] at htick
        exact htick.symm
      · rintro (hlt | ⟨-, hsame⟩)
        · exact absurd (htail ▸ hlt) hrefused
        · split_ifs with htx
          · rw [← hsame htx]
          · rfl
    · refine iff_of_false (fun heq => htail ?_) ?_
      · have hloop := cleanTailLoop_tailSequence sequence (r := vc.sendRing)
          (sequence - vc.sendRing.tailSequence).isLt.le vc.elementBuffer 0
        have hring : (skyVcUpdateTxSync vc sequence now).sendRing =
            (cleanTailLoop sequence (2 ^ w) vc.sendRing vc.elementBuffer 0).1 := by
          rw [skyVcUpdateTxSync, sendRingCleanTailUpTo]
          dsimp only
          rw [if_neg hrefused]
        rw [← hloop, ← hring, heq]
      · rintro (hlt | ⟨heq, -⟩)
        · exact hrefused hlt
        · exact htail heq

theorem updateRxSync_eq_self_iff (vc : SkyVirtualChannel w) (sequence : BitVec w) (now : Int) :
    skyVcUpdateRxSync vc sequence now = vc ↔ vc.SyncKnown sequence now := by
  rw [skyVcUpdateRxSync, rcvRingGetSequenceSyncStatus, SyncKnown]
  by_cases hhead : sequence = vc.rcvRing.headSequence
  · rw [if_pos hhead, if_pos rfl]
    constructor
    · intro heq
      exact ⟨fun _ => ⟨(congrArg lastRxTick heq).symm, (congrArg needRecall heq).symm⟩,
        fun hne => absurd hhead hne⟩
    · rintro ⟨hsame, -⟩
      rw [← (hsame hhead).1, ← (hsame hhead).2]
  · rw [if_neg hhead]
    by_cases hnear : (sequence - vc.rcvRing.headSequence).toNat ≤ arqMaximumHorizon
    · rw [if_pos hnear, if_neg (by decide), if_pos rfl]
      constructor
      · intro heq
        exact ⟨fun hyes => absurd hyes hhead, fun _ _ => (congrArg needRecall heq).symm⟩
      · rintro ⟨-, hrecall⟩
        rw [← hrecall hhead hnear]
    · rw [if_neg hnear, if_neg (by decide), if_neg (by decide)]
      exact iff_of_true rfl ⟨fun hyes => absurd hyes hhead, fun _ hyes => absurd hyes hnear⟩

/-- The control extension changes neither ring nor clock. -/
theorem processCtrl_eq_self_iff (vc : SkyVirtualChannel w) (parsed : SkyParsedFrame)
    (now : Int) :
    processCtrl vc parsed now = vc ↔ ∀ ext ∈ parsed.arqCtrl,
      vc.AcknowledgesNothing (ext.arqCtrlSequences (w := w)).2 now ∧
        vc.SyncKnown (ext.arqCtrlSequences (w := w)).1 now := by
  rw [processCtrl]
  cases parsed.arqCtrl with
  | none => exact iff_of_true rfl (by simp)
  | some ext =>
      simp only [Option.mem_some_iff, forall_eq']
      rw [← updateTxSync_eq_self_iff, ← updateRxSync_eq_self_iff]
      constructor
      · intro heq
        have htx : skyVcUpdateTxSync vc (ext.arqCtrlSequences (w := w)).2 now = vc := by
          have hkeeps (vc' : SkyVirtualChannel w) (sequence : BitVec w) :
              { skyVcUpdateRxSync vc' sequence now with
                lastRxTick := vc'.lastRxTick, needRecall := vc'.needRecall } = vc' := by
            rw [skyVcUpdateRxSync]
            split_ifs <;> rfl
          rw [← hkeeps (skyVcUpdateTxSync vc _ now) (ext.arqCtrlSequences (w := w)).1, heq]
          rfl
        exact ⟨htx, by rwa [htx] at heq⟩
      · rintro ⟨htx, hrx⟩
        rw [htx, hrx]

/-- The channel is connected once the handshake of the frame is processed. -/
def Connects (vc : SkyVirtualChannel w) (parsed : SkyParsedFrame) : Prop :=
  vc.arqStateFlag = .on ∨ ∃ ext ∈ parsed.arqHandshake,
    vc.arqStateFlag = .off ∨ vc.arqSessionIdentifier ≤ ext.arqHandshake.2

/-- The handshake repeats the session and finds the reply as it leaves it. -/
def HandshakeKnown (vc : SkyVirtualChannel w) (ext : SkyHeaderExtension) : Prop :=
  ext.arqHandshake.2 = vc.arqSessionIdentifier ∧
    vc.handshakeSend = if ext.arqHandshake.1 = ArqState.inInit.toByte then 1 else 0

/-- The handshake and the control extension of a frame tell the channel nothing new. -/
structure NothingNew (vc : SkyVirtualChannel w) (parsed : SkyParsedFrame) (now : Int) :
    Prop where
  connected : vc.arqStateFlag = .on
  handshake : ∀ ext ∈ parsed.arqHandshake, vc.HandshakeKnown ext
  acknowledge : ∀ ext ∈ parsed.arqCtrl,
    vc.AcknowledgesNothing (ext.arqCtrlSequences (w := w)).2 now
  sync : ∀ ext ∈ parsed.arqCtrl, vc.SyncKnown (ext.arqCtrlSequences (w := w)).1 now

theorem processHandshake_on_iff (tick : Int) (vc : SkyVirtualChannel w)
    (parsed : SkyParsedFrame) :
    (processHandshake tick vc parsed).arqStateFlag = .on ↔ vc.Connects parsed := by
  rw [processHandshake, Connects]
  cases parsed.arqHandshake with
  | none => simp
  | some ext =>
      simp only [Option.mem_some_iff, exists_eq_left']
      rw [skyVcHandleHandshake]
      cases hstate : vc.arqStateFlag with
      | off => exact iff_of_true rfl (.inr (.inl rfl))
      | inInit =>
          dsimp only
          split_ifs with hsame hnewer
          · exact iff_of_true rfl (.inr (.inr (UInt32.le_of_eq hsame.symm)))
          · exact iff_of_true rfl (.inr (.inr (UInt32.le_of_lt hnewer)))
          · apply iff_of_false (by rw [hstate]; decide)
            rintro (h | h | hle)
            · cases h
            · cases h
            · exact hnewer (UInt32.lt_of_le_of_ne hle (Ne.symm hsame))
      | on =>
          dsimp only
          split_ifs <;> exact iff_of_true rfl (.inl rfl)

/-- The handshake of a connected channel. -/
theorem processHandshake_eq_self_iff (tick : Int) {vc : SkyVirtualChannel w}
    (hstate : vc.arqStateFlag = .on) (parsed : SkyParsedFrame) :
    processHandshake tick vc parsed = vc ↔ ∀ ext ∈ parsed.arqHandshake, vc.HandshakeKnown ext := by
  rw [processHandshake]
  cases parsed.arqHandshake with
  | none => exact iff_of_true rfl (by simp)
  | some ext =>
      simp only [Option.mem_some_iff, forall_eq', HandshakeKnown]
      rw [skyVcHandleHandshake, hstate]
      dsimp only
      by_cases hsame : ext.arqHandshake.2 = vc.arqSessionIdentifier
      · rw [if_pos hsame]
        constructor
        · intro heq
          exact ⟨hsame, (congrArg handshakeSend heq).symm⟩
        · rintro ⟨-, hsend⟩
          rw [← hsend, ← hstate]
      · rw [if_neg hsame]
        exact iff_of_false (fun heq => hsame (congrArg arqSessionIdentifier heq))
          fun h => hsame h.1

/-- The control extension keeps what the handshake sets. -/
theorem processCtrl_keeps (vc : SkyVirtualChannel w) (parsed : SkyParsedFrame) (now : Int) :
    (processCtrl vc parsed now).arqStateFlag = vc.arqStateFlag ∧
      (processCtrl vc parsed now).handshakeSend = vc.handshakeSend ∧
      (processCtrl vc parsed now).arqSessionIdentifier = vc.arqSessionIdentifier := by
  rw [processCtrl]
  cases parsed.arqCtrl with
  | none => exact ⟨rfl, rfl, rfl⟩
  | some ext =>
      dsimp only
      rw [skyVcUpdateRxSync]
      split_ifs <;> exact ⟨rfl, rfl, rfl⟩

/-- A frame that lacks its sequence number leaves the channel alone if it tells nothing new. -/
theorem processCtrl_processHandshake_eq_self_iff (tick : Int) {vc : SkyVirtualChannel w}
    {parsed : SkyParsedFrame} (hconnects : vc.Connects parsed) (now : Int) :
    processCtrl (processHandshake tick vc parsed) parsed now = vc ↔
      vc.NothingNew parsed now := by
  obtain ⟨hflag, hsend, hidentifier⟩ :=
    processCtrl_keeps (processHandshake tick vc parsed) parsed now
  constructor
  · intro heq
    have hstate : vc.arqStateFlag = .on := by
      rw [← (processHandshake_on_iff tick vc parsed).mpr hconnects, ← hflag, heq]
    have hhandshake : ∀ ext ∈ parsed.arqHandshake, vc.HandshakeKnown ext := by
      intro ext hext
      rw [heq] at hsend hidentifier
      simp only [processHandshake, Option.mem_def.mp hext, skyVcHandleHandshake, hstate]
        at hsend hidentifier
      split at hidentifier
      · rename_i hsame
        rw [if_pos hsame] at hsend
        exact ⟨hsame, hsend⟩
      · rename_i hother
        exact absurd hidentifier.symm hother
    rw [(processHandshake_eq_self_iff tick hstate parsed).mpr hhandshake,
      processCtrl_eq_self_iff] at heq
    exact ⟨hstate, hhandshake, fun ext hext => (heq ext hext).1, fun ext hext => (heq ext hext).2⟩
  · rintro ⟨hstate, hhandshake, hacknowledge, hsync⟩
    rw [(processHandshake_eq_self_iff tick hstate parsed).mpr hhandshake,
      processCtrl_eq_self_iff]
    exact fun ext hext => ⟨hacknowledge ext hext, hsync ext hext⟩

/-- A connected channel gets a payload without its sequence number. -/
def RefusesPayload (vc : SkyVirtualChannel w) (parsed : SkyParsedFrame) : Prop :=
  vc.Connects parsed ∧ 0 < parsed.payloadLen ∧ parsed.arqSequence = none

theorem skyVcProcessFrame_of_refusesPayload (tick : Int) {vc : SkyVirtualChannel w}
    {parsed : SkyParsedFrame} (h : vc.RefusesPayload parsed) (now : Int) :
    skyVcProcessFrame tick vc parsed now =
      (processCtrl (processHandshake tick vc parsed) parsed now, -1) := by
  obtain ⟨hconnects, hpayload, hsequence⟩ := h
  rw [skyVcProcessFrame, (processHandshake_on_iff tick vc parsed).mpr hconnects]
  dsimp only
  rw [processFrameOn, if_pos hpayload, hsequence]

theorem skyVcProcessFrame_neg_iff (tick : Int) (vc : SkyVirtualChannel w)
    (parsed : SkyParsedFrame) (now : Int) :
    (skyVcProcessFrame tick vc parsed now).2 < 0 ↔ vc.RefusesPayload parsed := by
  constructor
  · intro hneg
    rw [skyVcProcessFrame] at hneg
    cases hstate : (processHandshake tick vc parsed).arqStateFlag with
    | off =>
        simp only [hstate] at hneg
        split at hneg <;> exact absurd hneg (lt_irrefl 0)
    | inInit =>
        simp only [hstate] at hneg
        exact absurd hneg (lt_irrefl 0)
    | on =>
        simp only [hstate, processFrameOn] at hneg
        split at hneg
        · rename_i hpayload
          refine ⟨(processHandshake_on_iff tick vc parsed).mp hstate, hpayload, ?_⟩
          cases hsequence : parsed.arqSequence with
          | none => rfl
          | some ext =>
              simp only [hsequence] at hneg
              exact absurd hneg (lt_irrefl 0)
        · exact absurd hneg (lt_irrefl 0)
  · intro h
    rw [skyVcProcessFrame_of_refusesPayload tick h]
    exact (by decide : (-1 : SkyRet) < 0)

end SkyVirtualChannel

/-! ### What a refused frame does to the node -/

/-- The time division is already where an announcement of the peer puts it. -/
structure SkyMAC.Believes (mac : SkyMAC) (config : SkyMACConfig)
    (now receiveTime length remaining : Int) : Prop where
  lastBeliefUpdate : mac.lastBeliefUpdate = now
  peerWindowLength : mac.peerWindowLength = config.clampWindow length
  t0 : mac.t0 = wrapTimeTicks (max (receiveTime + min remaining (config.clampWindow length))
    (if now < receiveTime then receiveTime + wrapTimeTicks (now - receiveTime) else now) +
      (config.tailConstantTicks - getMacCycle config mac))
  total : mac.totalFramesSentInCurrentWindow = 0
  perVc : mac.framesSentInCurrentWindowPerVc = fun _ => 0

theorem macUpdateBelief_eq_self_iff (config : SkyMACConfig) (mac : SkyMAC)
    (now receiveTime length remaining : Int) :
    macUpdateBelief config mac now receiveTime length remaining = mac ↔
      mac.Believes config now receiveTime length remaining := by
  rw [macUpdateBelief_eq]
  constructor
  · intro heq
    have hpeer : mac.peerWindowLength = config.clampWindow length :=
      (congrArg SkyMAC.peerWindowLength heq).symm
    refine ⟨(congrArg SkyMAC.lastBeliefUpdate heq).symm, hpeer, ?_,
      (congrArg SkyMAC.totalFramesSentInCurrentWindow heq).symm,
      (congrArg SkyMAC.framesSentInCurrentWindowPerVc heq).symm⟩
    have hsame : { mac with peerWindowLength := config.clampWindow length } = mac := by
      rw [← hpeer]
    rw [hsame] at heq
    exact (congrArg SkyMAC.t0 heq).symm
  · rintro ⟨hbelief, hpeer, ht0, htotal, hper⟩
    have hsame : { mac with peerWindowLength := config.clampWindow length } = mac := by
      rw [← hpeer]
    rw [hsame, ← ht0, ← hbelief, ← hpeer, ← hper, ← htotal]

namespace SkyNode

/-- Everything that an accepted frame tells is known already. -/
structure KnowsAlready (node : SkyNode w) (tick rxTimeTicks : Int) (parsed : SkyParsedFrame) :
    Prop where
  sequence : (node.conf.vc parsed.hdr.channel).hasFlag skyConfigFlagRequireAuthentication →
    node.hmac.sequenceRx parsed.hdr.channel = skyNtoh16 parsed.hdr.frameSequence + 1
  window : ∀ ext ∈ parsed.macTdd,
    node.conf.mac.unauthenticatedMacUpdates ≠ 0 ∨ parsed.hdr.hasFlag skyFlagAuthenticated →
      node.mac.Believes node.conf.mac tick rxTimeTicks ext.tddControl.1.toNat
        ext.tddControl.2.toNat
  channel : (node.virtualChannels parsed.hdr.channel).NothingNew parsed tick

/-- A frame is refused with the state kept, or it is handed to its channel. -/
theorem rx_outcome (H : KeyedHash) (tick : Int) (node : SkyNode w) (frame : SkyRadioFrame) :
    (node.accepts H frame = false ∧ node.SameState (skyRx H tick node frame).1) ∨
      ∃ parsed node', node.received frame = .ok parsed ∧ node.accepts H frame = true ∧
        skyRx H tick node frame = acceptFrame tick node' frame.rxTimeTicks parsed.checked ∧
        node'.conf = node.conf ∧ node'.virtualChannels = node.virtualChannels ∧
        node'.mac = node.mac ∧ node'.hmac.sequenceTx = node.hmac.sequenceTx ∧
        node'.hmac.sequenceRx = node.sequencesPassed parsed := by
  by_cases hlen : frame.length < skyFrameMinLen
  · refine .inl ⟨?_, ?_⟩
    · rw [accepts, received, if_pos hlen]
    · rw [skyRx, if_pos hlen]
      exact ⟨rfl, rfl, rfl, rfl⟩
  · rw [skyRx_eq H tick node frame hlen, accepts]
    cases hreceived : node.received frame with
    | error ret => exact .inl ⟨rfl, rfl, rfl, rfl, rfl⟩
    | ok parsed =>
        dsimp only
        obtain ⟨node', ret, hcheck, hsame⟩ | ⟨node', hcheck, hconf, hchannels, hmac, htx, hrx⟩ :=
          @check_outcome w (node.countReceived frame) parsed H frame
            (received_resetShort hreceived)
        · rw [hcheck]
          exact .inl ⟨rfl, hsame.1, hsame.2, hsame.3, hsame.4⟩
        · rw [hcheck]
          exact .inr ⟨parsed, node', rfl, rfl, rfl, hconf, hchannels, hmac, htx, hrx⟩

end SkyNode

/-- The mac extension of an accepted frame. -/
theorem processExtMacControl_eq_self_iff (tick : Int) (node : SkyNode w) (rxTimeTicks : Int)
    (parsed : SkyParsedFrame) :
    (skyRxProcessExtMacControl tick node rxTimeTicks parsed).mac = node.mac ↔
      ∀ ext ∈ parsed.macTdd,
        node.conf.mac.unauthenticatedMacUpdates ≠ 0 ∨ parsed.hdr.hasFlag skyFlagAuthenticated →
          node.mac.Believes node.conf.mac tick rxTimeTicks ext.tddControl.1.toNat
            ext.tddControl.2.toNat := by
  rw [skyRxProcessExtMacControl]
  cases parsed.macTdd with
  | none => exact iff_of_true rfl (by simp)
  | some ext =>
      simp only [Option.mem_some_iff, forall_eq']
      rw [← macUpdateBelief_eq_self_iff]
      split_ifs with hignored
      · apply iff_of_true rfl
        rintro (hhonoured | hhonoured)
        · exact absurd hignored.1 hhonoured
        · exact absurd hhonoured hignored.2
      · have hhonoured : node.conf.mac.unauthenticatedMacUpdates ≠ 0 ∨
            parsed.hdr.hasFlag skyFlagAuthenticated := by
          by_contra hneither
          rw [not_or, not_not] at hneither
          exact hignored hneither
        exact ⟨fun heq _ => heq, fun h => h hhonoured⟩

/-- A frame that passes the check and is refused by its channel. -/
theorem acceptFrame_sameState_iff (tick rxTimeTicks : Int) {node node' : SkyNode w}
    {parsed : SkyParsedFrame} (hconf : node'.conf = node.conf)
    (hchannels : node'.virtualChannels = node.virtualChannels) (hmac : node'.mac = node.mac)
    (htx : node'.hmac.sequenceTx = node.hmac.sequenceTx)
    (hsequences : node'.hmac.sequenceRx = node.sequencesPassed parsed)
    (hrefuses : (node.virtualChannels parsed.hdr.channel).RefusesPayload parsed.checked) :
    node.SameState (acceptFrame tick node' rxTimeTicks parsed.checked).1 ↔
      node.KnowsAlready tick rxTimeTicks parsed := by
  have hfield := acceptFrame_virtualChannels tick node' rxTimeTicks parsed.checked
  have hhmac := acceptFrame_hmac tick node' rxTimeTicks parsed.checked
  have hupdated : (acceptFrame tick node' rxTimeTicks parsed.checked).1.virtualChannels =
      node.virtualChannels ↔
        (node.virtualChannels parsed.hdr.channel).NothingNew parsed.checked tick := by
    have hchannel : parsed.checked.hdr.channel = parsed.hdr.channel := rfl
    rw [hfield, hchannels, hchannel, Function.update_eq_self_iff,
      SkyVirtualChannel.skyVcProcessFrame_of_refusesPayload tick hrefuses,
      SkyVirtualChannel.processCtrl_processHandshake_eq_self_iff tick hrefuses.1]
  have hbelief := processExtMacControl_eq_self_iff tick node' rxTimeTicks parsed.checked
  rw [← acceptFrame_mac, hmac, hconf] at hbelief
  have hsequence : node.sequencesPassed parsed = node.hmac.sequenceRx ↔
      ((node.conf.vc parsed.hdr.channel).hasFlag skyConfigFlagRequireAuthentication →
        node.hmac.sequenceRx parsed.hdr.channel = skyNtoh16 parsed.hdr.frameSequence + 1) := by
    rw [SkyNode.sequencesPassed]
    split_ifs with hrequired
    · rw [Function.update_eq_self_iff]
      exact ⟨fun heq _ => heq.symm, fun h => (h hrequired).symm⟩
    · exact iff_of_true rfl fun hyes => absurd hyes hrequired
  rw [← hsequences] at hsequence
  constructor
  · rintro ⟨hvcs, hm, -, hrx⟩
    rw [hhmac] at hrx
    obtain ⟨h₁, h₂, h₃, h₄⟩ := hupdated.mp hvcs
    exact ⟨hsequence.mp hrx, hbelief.mp hm, ⟨h₁, h₂, h₃, h₄⟩⟩
  · rintro ⟨hrx, hm, ⟨h₁, h₂, h₃, h₄⟩⟩
    refine ⟨hupdated.mpr ⟨h₁, h₂, h₃, h₄⟩, hbelief.mpr hm, ?_, ?_⟩
    · rw [hhmac, htx]
    · rw [hhmac]
      exact hsequence.mpr hrx

/-- A rejected frame leaves the state alone exactly if it was not rejected by its channel,
or all it tells was known. -/
theorem rejected_atomic_iff (H : KeyedHash) (tick : Int) (node : SkyNode w)
    (frame : SkyRadioFrame) :
    ((skyRx H tick node frame).2 < 0 → node.SameState (skyRx H tick node frame).1) ↔
      ∀ parsed, node.received frame = .ok parsed → node.accepts H frame = true →
        (node.virtualChannels parsed.hdr.channel).RefusesPayload parsed.checked →
          node.KnowsAlready tick frame.rxTimeTicks parsed := by
  obtain ⟨haccepts, hsame⟩ |
      ⟨parsed, node', hreceived, haccepts, hrx, hconf, hchannels, hmac, htx, hsequences⟩ :=
    node.rx_outcome H tick frame
  · apply iff_of_true (fun _ => hsame)
    intro _ _ hyes
    rw [haccepts] at hyes
    cases hyes
  · rw [hrx]
    have hret : (acceptFrame tick node' frame.rxTimeTicks parsed.checked).2 =
        (skyVcProcessFrame tick (node.virtualChannels parsed.hdr.channel) parsed.checked
          tick).2 := by
      rw [acceptFrame_eq, hchannels]
      rfl
    have hsame (hrefuses : (node.virtualChannels parsed.hdr.channel).RefusesPayload
        parsed.checked) :=
      acceptFrame_sameState_iff tick frame.rxTimeTicks hconf hchannels hmac htx
        hsequences hrefuses
    rw [hret, SkyVirtualChannel.skyVcProcessFrame_neg_iff]
    constructor
    · intro h parsed' hreceived' _ hrefuses
      rw [hreceived] at hreceived'
      cases hreceived'
      exact (hsame hrefuses).mp (h hrefuses)
    · intro h hrefuses
      exact (hsame hrefuses).mpr (h parsed hreceived haccepts hrefuses)

/-- An offered session and a payload without its sequence number. -/
def exampleRefused : SkyTransmitFrame :=
  (skyFrameAddExtensionArqHandshake (skyTxStartFrame (exampleConfig 0 8) 0)
    ArqState.inInit.toByte 0x01010101).extend [9, 9, 9]

/-- The refused frame has opened the session. -/
theorem not_rejected_atomic :
    let received := skyRx exampleHash 5 (exampleNode 0 7) exampleRefused.frame
    received.2 = -1 ∧ ((exampleNode 0 7).virtualChannels 0).arqStateFlag = .off ∧
      (received.1.virtualChannels 0).arqStateFlag = .on ∧
      ¬(received.2 < 0 → (exampleNode 0 7).SameState received.1) := by
  have hret : (skyRx exampleHash 5 (exampleNode 0 7) exampleRefused.frame).2 = -1 := by
    decide +kernel
  have hoff : ((exampleNode 0 7).virtualChannels 0).arqStateFlag = .off := by decide +kernel
  have hon : ((skyRx exampleHash 5 (exampleNode 0 7) exampleRefused.frame).1.virtualChannels
      0).arqStateFlag = .on := by decide +kernel
  refine ⟨hret, hoff, hon, fun hsame => ?_⟩
  have hchannels := (hsame (by rw [hret]; decide)).virtualChannels
  rw [hchannels, hoff] at hon
  cases hon

end Skylink
