import Skylink.SequenceRing.ReceiveRuns
import Skylink.SequenceRing.ResendRuns
import Skylink.VirtualChannel.Model

/-!
# Requests and their answers

A packet is sent under the sequence that it was pushed with, whether it is new or sent
again, and a request of one endpoint is what the other endpoint schedules.
-/

namespace Skylink

open SerialNumber

variable {w : Nat}

/-! ## Labels -/

theorem SendRingState.Rep.sendRep {c : SendRingState w} {start : BitVec w} {tail tx : Nat}
    {payload : Nat → Bytes} {m : Nat → Option Bytes} {rest : List Nat}
    (h : Rep c start tail tx payload m rest)
    (hpushed : ∀ x ∈ c.pushed, x.2.length ≤ skyPayloadMaxLen) :
    SendRep c.ring start tail tx c.pushed.length payload m :=
  ⟨h.ring, fun u _ hu => hpushed _ (List.mem_of_getElem? (h.pushed u hu))⟩

/-- Peeking and reading meet the same packet, under the sequence that it was pushed with, or
neither of them meets one. -/
theorem SendRingState.Rep.peek_read {c : SendRingState w} {start : BitVec w} {tail tx : Nat}
    {payload : Nat → Bytes} {m : Nat → Option Bytes} {rest : List Nat}
    (h : Rep c start tail tx payload m rest)
    (hpushed : ∀ x ∈ c.pushed, x.2.length ≤ skyPayloadMaxLen) (includeResend : Bool) :
    (∃ p s, sendRingPeekNextTxSizeAndSequence c.ring c.buffer includeResend =
          .ok (p.length, s) ∧
        (sendRingReadToTx c.ring c.buffer includeResend).2 = .ok (p, s) ∧
        c.lastPushed s = some p) ∨
      (sendRingPeekNextTxSizeAndSequence c.ring c.buffer includeResend = .error .ringEmpty ∧
        (sendRingReadToTx c.ring c.buffer includeResend).2 = .error .ringEmpty) := by
  obtain ⟨r', u, tx', hread, hpeek, hrep', -, hu, hu', -⟩ | ⟨r', hread, hpeek, -⟩ :=
    (h.sendRep hpushed).readToTx h.pool.stores includeResend
  · have htx' := hrep'.tx_le_head
    refine .inl ⟨payload u, serial start u, hpeek, ?_, h.lastPushed hu (by omega)⟩
    rw [hread]
  · refine .inr ⟨hpeek, ?_⟩
    rw [hread]

section FillPayload

variable {vc : SkyVirtualChannel w} {tx : SkyTransmitFrame}

theorem fillPayload_ne_one (h : sendRingPeekNextTxSizeAndSequence vc.sendRing vc.elementBuffer
      true = .error .ringEmpty) : (fillPayload vc tx 0).2.2 ≠ 1 := by
  rw [fillPayload, h]
  dsimp only
  split_ifs
  · exact (by decide : SkyRet.ringEmpty ≠ 1)
  · exact (by decide : (0 : SkyRet) ≠ 1)

/-- The extension that labels the payload is written before it. -/
theorem fillPayload_one {p : Bytes} {s : BitVec w}
    (hpeek : sendRingPeekNextTxSizeAndSequence vc.sendRing vc.elementBuffer true =
      .ok (p.length, s))
    (hread : (sendRingReadToTx vc.sendRing vc.elementBuffer true).2 = .ok (p, s))
    (h : (fillPayload vc tx 0).2.2 = 1) :
    (fillPayload vc tx 0).2.1 = (skyFrameAddExtensionArqSequence tx s).extend p := by
  rw [fillPayload, hpeek] at h ⊢
  dsimp only at h ⊢
  split_ifs at h ⊢ with hcount hroom
  · rw [hread]
  · exact absurd h (by decide : SkyRet.noSpaceForPayload ≠ 1)
  · exact absurd h (by decide : (0 : SkyRet) ≠ 1)

end FillPayload

open SendRingState in
/-- What is peeked at is what is read: the same length under the same sequence, and the
payload that was pushed under it. So the extension of a filled frame labels its payload. -/
theorem sendRing_peek_iff_read {c : SendRingState w} (h : c.Reached)
    (hpushed : ∀ x ∈ c.pushed, x.2.length ≤ skyPayloadMaxLen) (includeResend : Bool) :
    (∀ n s, sendRingPeekNextTxSizeAndSequence c.ring c.buffer includeResend = .ok (n, s) ↔
      ∃ p, (sendRingReadToTx c.ring c.buffer includeResend).2 = .ok (p, s) ∧ p.length = n ∧
        c.lastPushed s = some p) ∧
    (∀ p s, (sendRingReadToTx c.ring c.buffer includeResend).2 = .ok (p, s) →
      c.lastPushed s = some p) ∧
    ∀ (vc : SkyVirtualChannel w) (tx : SkyTransmitFrame), vc.sendRing = c.ring →
      vc.elementBuffer = c.buffer → (fillPayload vc tx 0).2.2 = 1 →
      ∃ p s, c.lastPushed s = some p ∧
        (fillPayload vc tx 0).2.1 = (skyFrameAddExtensionArqSequence tx s).extend p := by
  obtain ⟨start, tail, tx, payload, m, rest, hrep⟩ := h.hasRep
  refine ⟨fun n s => ?_, fun p s hread => ?_, fun vc tx hring hbuffer hret => ?_⟩
  · obtain ⟨p, s', hpeek, hread, hlabel⟩ | ⟨hpeek, hread⟩ := hrep.peek_read hpushed includeResend
    · rw [hpeek, hread]
      constructor
      · intro heq
        cases heq
        exact ⟨p, rfl, rfl, hlabel⟩
      · rintro ⟨p', heq, rfl, -⟩
        cases heq
        rfl
    · rw [hpeek, hread]
      constructor
      · intro heq
        cases heq
      · rintro ⟨p, heq, -⟩
        cases heq
  · obtain ⟨p', s', -, hread', hlabel⟩ | ⟨-, hread'⟩ := hrep.peek_read hpushed includeResend
    · rw [hread'] at hread
      cases hread
      exact hlabel
    · rw [hread'] at hread
      cases hread
  · obtain ⟨p, s, hpeek, hread, hlabel⟩ | ⟨hpeek, -⟩ := hrep.peek_read hpushed true
    · rw [← hring, ← hbuffer] at hpeek hread
      exact ⟨p, s, hlabel, fillPayload_one hpeek hread hret⟩
    · rw [← hring, ← hbuffer] at hpeek
      exact absurd hret (fillPayload_ne_one hpeek)

open SendRingState in
/-- A packet that is sent again, in a ring whose sequences overflow. -/
theorem sendRing_peek_iff_read_example :
    let c := exampleTransmittedState.after (.call (.scheduleResend 255))
    sendRingPeekNextTxSizeAndSequence c.ring c.buffer true = .ok (1, 255) ↔
      ∃ p, (sendRingReadToTx c.ring c.buffer true).2 = .ok (p, 255) ∧ p.length = 1 ∧
        c.lastPushed 255 = some p := by
  have hreached : (exampleTransmittedState.after (.call (.scheduleResend 255))).Reached :=
    exampleTransmittedState_reached.after trivial
  exact (sendRing_peek_iff_read hreached (by decide +kernel) true).1 1 255

/-! ## What a request asks for -/

/-- The receive ring holds the packet `i` places after its head, inside the horizon. -/
def SkyRcvRing.holdsAhead (r : SkyRcvRing w) (i : Nat) : Bool :=
  decide (i ≤ r.horizonWidth) &&
    (r.item (ringWrap ((r.head + i : Nat) : Int) r.length)).idx != ebNullIdx

theorem SkyRcvRing.holdsAhead_le (r : SkyRcvRing w) {i : Nat} (h : r.holdsAhead i = true) :
    i ≤ r.horizonWidth :=
  of_decide_eq_true ((Bool.and_eq_true _ _).mp h).1

theorem RcvRep.holdsAhead_iff {r : SkyRcvRing w} {start : BitVec w} {tail head : Nat}
    {held m : Nat → Option Bytes} (h : RcvRep r start tail head held m) (i : Nat) :
    r.holdsAhead i = true ↔ (held (head + i)).isSome := by
  have horder := h.order
  have hroom := h.room
  rw [SkyRcvRing.holdsAhead, Bool.and_eq_true, decide_eq_true_eq, bne_iff_ne]
  by_cases hi : i ≤ r.horizonWidth
  · have hvacant := h.item_vacant_iff (u := head + i) (by omega) (by omega)
    rw [h.headIdx, ringWrap_slot_add h.slots.pos, Ne, hvacant, Option.isSome_iff_ne_none]
    exact and_iff_right hi
  · rw [h.horizon (head + i) (by omega)]
    exact ⟨fun hand => absurd hand.1 hi, fun hnone => by cases hnone⟩

/-- The loop of `rcvRing_get_horizon_bitmap` sets one bit after the other. -/
theorem bitmapLoop_testBit (vacant : Nat → Prop) [DecidablePred vacant] {n : Nat} (hn : n ≤ 16)
    (j : Nat) :
    ((List.range n).foldl (fun (map : UInt16) (i : Nat) =>
      if vacant i then map else map ||| ((1 : UInt16) <<< UInt16.ofNat i)) 0).toNat.testBit j =
      decide (j < n ∧ ¬vacant j) := by
  induction n with
  | zero => simp
  | succ n ih =>
      have hbit : ((1 : UInt16) <<< UInt16.ofNat n).toNat = 2 ^ n := by
        have hpow : 2 ^ n < 2 ^ 16 := Nat.pow_lt_pow_right (by omega) (by omega)
        have hone : (1 : UInt16).toNat * 2 ^ n = 2 ^ n := Nat.one_mul _
        rw [UInt16.toNat_shiftLeft, UInt16.toNat_ofNat_of_lt' (by show n < 65536; omega),
          Nat.mod_eq_of_lt (by omega : n < 16), Nat.shiftLeft_eq, hone, Nat.mod_eq_of_lt hpow]
      rw [List.range_succ, List.foldl_append, List.foldl_cons, List.foldl_nil]
      by_cases hvacant : vacant n
      · rw [if_pos hvacant, ih (by omega)]
        refine decide_eq_decide.mpr ⟨fun h => ⟨by omega, h.2⟩, fun h => ⟨?_, h.2⟩⟩
        have hne : j ≠ n := fun heq => h.2 (heq ▸ hvacant)
        omega
      · rw [if_neg hvacant, UInt16.toNat_or, Nat.testBit_or, ih (by omega), hbit,
          Nat.testBit_two_pow]
        by_cases hj : n = j
        · subst hj
          simp [hvacant]
        · have hlt : j < n + 1 ↔ j < n := by omega
          simp [hj, hlt]

theorem rcvRingGetHorizonBitmap_testBit (r : SkyRcvRing w) {i : Nat} (hi : i < 16) :
    (rcvRingGetHorizonBitmap r).toNat.testBit i = r.holdsAhead (i + 1) := by
  rw [rcvRingGetHorizonBitmap, bitmapLoop_testBit _ (by split <;> omega)]
  have hidx : r.head + 1 + i = r.head + (i + 1) := by omega
  have hscan : i < (if r.horizonWidth < 16 then r.horizonWidth else 16) ↔
      i + 1 ≤ r.horizonWidth := by
    split <;> omega
  rw [SkyRcvRing.holdsAhead, hidx, Bool.eq_iff_iff, decide_eq_true_eq, hscan, Bool.and_eq_true,
    decide_eq_true_eq, bne_iff_ne]

theorem rcvRingGetHorizonBitmap_ne_zero_iff (r : SkyRcvRing w) :
    rcvRingGetHorizonBitmap r ≠ 0 ↔ ∃ i < 16, r.holdsAhead (i + 1) = true := by
  constructor
  · intro hne
    by_contra hnone
    refine hne (UInt16.toNat_inj.mp (Nat.eq_of_testBit_eq fun i => ?_))
    rw [UInt16.toNat_zero, Nat.zero_testBit]
    by_cases hi : i < 16
    · rw [rcvRingGetHorizonBitmap_testBit r hi]
      exact Bool.eq_false_iff.mpr fun hheld => hnone ⟨i, hi, hheld⟩
    · apply Nat.testBit_lt_two_pow
      exact (rcvRingGetHorizonBitmap r).toNat_lt.trans_le
        (Nat.pow_le_pow_right (by decide) (not_lt.mp hi))
  · rintro ⟨i, hi, hheld⟩ hzero
    rw [← rcvRingGetHorizonBitmap_testBit r hi, hzero, UInt16.toNat_zero,
      Nat.zero_testBit] at hheld
    cases hheld

/-- The head and what the ring does not hold, up to sixteen places after it. -/
def SkyRcvRing.requested (r : SkyRcvRing w) : List Nat :=
  (List.range 17).filter fun i => decide (i = 0) || !r.holdsAhead i

theorem requestedSequences_bitmap (r : SkyRcvRing w) (sequence : BitVec w) :
    requestedSequences sequence (rcvRingGetHorizonBitmap r) =
      r.requested.map fun i => sequence + BitVec.ofNat w i := by
  have hbits : clearBits (rcvRingGetHorizonBitmap r) 0 16 =
      (List.range 16).filter fun i => !r.holdsAhead (i + 1) := by
    rw [clearBits, ← List.range_eq_range']
    apply List.filter_congr
    intro i hi
    rw [rcvRingGetHorizonBitmap_testBit r (List.mem_range.mp hi)]
  have hrest : ((List.range 16).map Nat.succ).filter (fun i => decide (i = 0) || !r.holdsAhead i) =
      ((List.range 16).filter fun i => !r.holdsAhead (i + 1)).map Nat.succ := by
    rw [List.filter_map]
    refine congrArg _ (List.filter_congr fun i _ => ?_)
    simp
  have hrange : List.range 17 = 0 :: (List.range 16).map Nat.succ := List.range_succ_eq_map
  have hzero : (decide (0 = 0) || !r.holdsAhead 0) = true := rfl
  rw [requestedSequences, hbits, SkyRcvRing.requested, hrange, List.filter_cons, if_pos hzero,
    hrest, List.map_cons, List.map_map]
  refine congrArg₂ _ ?_ (List.map_congr_left fun i _ => ?_)
  · exact (BitVec.add_zero sequence).symm
  · rw [Function.comp_apply, BitVec.add_assoc, Nat.succ_eq_add_one, Nat.add_comm i 1,
      BitVec.ofNat_add]
    rfl

/-- Of the candidates in ascending order the loop takes those before the first that is out
of reach. -/
theorem takeWhile_ascending {p : Nat → Bool} {l : List Nat} {g : Nat}
    (hl : l.Pairwise (· < ·)) (hbelow : ∀ i ∈ l, i < g → p i = true)
    (hnext : ∀ i ∈ l, g ≤ i → g ∈ l ∧ p g = false) :
    l.takeWhile p = l.filter fun i => decide (i < g) := by
  induction l with
  | nil => rfl
  | cons i l ih =>
      obtain ⟨hi, hl'⟩ := List.pairwise_cons.mp hl
      by_cases hlt : i < g
      · rw [List.takeWhile_cons_of_pos (hbelow i List.mem_cons_self hlt),
          List.filter_cons, if_pos (decide_eq_true hlt)]
        refine congrArg _ (ih hl' (fun j hj => hbelow j (List.mem_cons_of_mem i hj))
          fun j hj hge => ?_)
        obtain ⟨hmem, hstop⟩ := hnext j (List.mem_cons_of_mem i hj) hge
        rcases List.mem_cons.mp hmem with rfl | hmem'
        · exact absurd hlt (lt_irrefl g)
        · exact ⟨hmem', hstop⟩
      · obtain ⟨hmem, hstop⟩ := hnext i List.mem_cons_self (not_lt.mp hlt)
        have heq : g = i := by
          rcases List.mem_cons.mp hmem with heq | hmem'
          · exact heq
          · have := hi g hmem'
            omega
        subst heq
        have hnone : (g :: l).filter (fun i => decide (i < g)) = [] := by
          apply List.filter_eq_nil_iff.mpr
          intro j hj
          have hge : g ≤ j := by
            rcases List.mem_cons.mp hj with rfl | hj'
            · exact le_rfl
            · exact (hi j hj').le
          simpa using hge
        rw [List.takeWhile_cons_of_neg (by rw [hstop]; exact Bool.false_ne_true), hnone]

/-- A request as the other end of the session takes it. The receive ring is asked for its
head, held or not, and for what it does not hold of the sixteen packets after it. -/
theorem scheduleResendsByMask_of_request (hw : ArqSequenceWidth w) {c : SendRingState w}
    (h : c.Reached) (hempty : c.ring.resendCount = 0) {r : SkyRcvRing w}
    (hwindow : (r.headSequence - c.ring.tailSequence).toNat ≤
      (c.ring.txSequence - c.ring.tailSequence).toNat)
    (hsession : ∀ i ≤ r.horizonWidth, r.holdsAhead i = true →
      i < (c.ring.txSequence - r.headSequence).toNat) :
    (sendRingScheduleResendsByMask c.ring r.headSequence
        (rcvRingGetHorizonBitmap r)).1.resends =
      ((r.requested.filter fun i =>
          decide (i < (c.ring.txSequence - r.headSequence).toNat)).map fun i =>
        r.headSequence + BitVec.ofNat w i).take arqResendScheduleDepth := by
  obtain ⟨start, tail, tx, payload, m, rest, hrep⟩ := h.hasRep
  have h250 := hw.bounds.2.2
  have hfit := hrep.ring.resendsFit
  have hahead := hrep.ring.txAhead
  have htail := hrep.ring.tail_le_tx
  have htx := hrep.ring.tx_le_head
  have hroom := hrep.ring.room
  have hlen := hrep.ring.lengthLe
  obtain ⟨r', heq, hentries, -, -⟩ := sendRingScheduleResendsByMask_eq hfit r.headSequence
    (rcvRingGetHorizonBitmap r)
  have hnodup := requestedSequences_nodup (by omega) r.headSequence (rcvRingGetHorizonBitmap r)
  rw [hfit.resends_eq_nil.mpr hempty, scheduled_eq_takeWhile (by rwa [List.nil_append]),
    List.nil_append, List.length_nil, Nat.sub_zero, requestedSequences_bitmap,
    List.takeWhile_map] at hentries
  rw [heq, hentries]
  refine congrArg (List.take _) (congrArg (List.map _) ?_)
  -- In unbounded numbers the head is `d` places after the tail.
  obtain ⟨d, hd⟩ : ∃ d, (r.headSequence - c.ring.tailSequence).toNat = d := ⟨_, rfl⟩
  have hhead : r.headSequence = serial start (tail + d) := by
    rw [← hd, hrep.ring.tailSequence, exists_serial]
  rw [hd, hahead] at hwindow
  have hgap : (c.ring.txSequence - r.headSequence).toNat = tx - (tail + d) := by
    rw [hrep.ring.txSequence, hhead, serial_sub start (by omega) (by omega)]
  have hrecall (i : Nat) (hi : d + i ≤ tx - tail) :
      sendRingCanRecall c.ring (r.headSequence + BitVec.ofNat w i) = true ↔
        i < tx - (tail + d) := by
    rw [hrep.ring.canRecall_iff, hhead, serial_add, hrep.ring.tailSequence,
      serial_sub start (by omega) (by omega)]
    omega
  rw [hgap] at hsession ⊢
  refine takeWhile_ascending (List.pairwise_lt_range.filter _) (fun i _ hi => ?_)
    fun i hmem hi => ⟨?_, ?_⟩
  · exact (hrecall i (by omega)).mpr hi
  · rw [SkyRcvRing.requested, List.mem_filter, List.mem_range] at hmem ⊢
    refine ⟨by omega, ?_⟩
    have hnot : r.holdsAhead (tx - (tail + d)) = false :=
      Bool.eq_false_iff.mpr fun hheld => lt_irrefl _ (hsession _ (r.holdsAhead_le hheld) hheld)
    rw [hnot]
    exact Bool.or_true _
  · exact Bool.eq_false_iff.mpr fun hyes =>
      lt_irrefl _ ((hrecall (tx - (tail + d)) (by omega)).mp hyes)

/-- Six packets, pushed and transmitted across the sequence overflow. -/
def exampleSentSix : SendRingState 8 :=
  ((List.replicate 6 (SendRingEvent.call (SendRingOp.push [1]))) ++
    List.replicate 6 (SendRingEvent.call (SendRingOp.readToTx false))).foldl SendRingState.after
    ⟨(skySendRingCreate 8 254).get rfl, skyElementBufferCreate 4 30, []⟩

theorem exampleSentSix_reached : exampleSentSix.Reached :=
  ⟨_, _, ⟨8, 254, 4, 30, rfl, by decide, by decide, by decide, rfl, rfl⟩, by decide +kernel, rfl⟩

/-- The ring of the receiver after the packets with these sequences. -/
def exampleReceived (sequences : List (BitVec 8)) : SkyRcvRing 8 :=
  (RcvRingState.run ⟨(skyRcvRingCreate 5 2 254).get rfl, skyElementBufferCreate 4 30⟩
    (sequences.map fun s => .push [1] s)).1.ring

/-- The receiver misses the second packet and holds the third. -/
theorem scheduleResendsByMask_of_request_example :
    (sendRingScheduleResendsByMask exampleSentSix.ring (exampleReceived [254, 0]).headSequence
        (rcvRingGetHorizonBitmap (exampleReceived [254, 0]))).1.resends = [255, 1, 2, 3] :=
  (scheduleResendsByMask_of_request (.inl rfl) exampleSentSix_reached (by decide +kernel)
    (by decide +kernel) (by decide +kernel)).trans (by decide +kernel)

/-- The head of the receiver is choked at a packet that it holds, and this packet is sent
again as well. -/
theorem not_scheduleResendsByMask_of_request :
    let r := exampleReceived [254, 255, 0, 2]
    exampleSentSix.Reached ∧ exampleSentSix.ring.resendCount = 0 ∧ r.headSequence = 0 ∧
      r.holdsAhead 0 = true ∧ r.holdsAhead 1 = false ∧ r.holdsAhead 2 = true ∧
      (((List.range 17).filter fun i => !r.holdsAhead i &&
          decide (i < (exampleSentSix.ring.txSequence - r.headSequence).toNat)).map fun i =>
        r.headSequence + BitVec.ofNat 8 i) = [1, 3] ∧
      (sendRingScheduleResendsByMask exampleSentSix.ring r.headSequence
        (rcvRingGetHorizonBitmap r)).1.resends = [0, 1, 3] :=
  ⟨exampleSentSix_reached, by decide +kernel⟩

end Skylink
