import Skylink.SequenceRing.SendRuns

/-!
# The resend list

What scheduling and popping do to the entries of the resend list. A request schedules its
candidates up to the first one that cannot be recalled. A pop counts one entry off before
it shifts the list: the last entry is lost, and the one before it stands twice.
-/

namespace Skylink

open SerialNumber

variable {w : Nat}

/-- The entries of the resend list. -/
def SkySendRing.resends (r : SkySendRing w) : List (BitVec w) := r.resendList.take r.resendCount

structure SkySendRing.ResendsFit (r : SkySendRing w) : Prop where
  count_le : r.resendCount ≤ arqResendScheduleDepth
  length_eq : r.resendList.length = arqResendScheduleDepth

namespace SkySendRing.ResendsFit

variable {r : SkySendRing w}

theorem length_resends (h : r.ResendsFit) : r.resends.length = r.resendCount := by
  rw [resends, List.length_take, h.length_eq, min_eq_left h.count_le]

theorem resends_eq_nil (h : r.ResendsFit) : r.resends = [] ↔ r.resendCount = 0 := by
  rw [← h.length_resends, List.length_eq_zero_iff]

end SkySendRing.ResendsFit

theorem SendWindow.resendsFit {r : SkySendRing w} {start : BitVec w} {tail tx head : Nat}
    {payload : Nat → Bytes} {m : Nat → Option Bytes}
    (h : SendWindow r start tail tx head payload m) : r.ResendsFit :=
  ⟨h.resendLe, h.resendLength⟩

/-! ## Scheduling -/

/-- A sequence is refused, or it is among the entries afterwards. -/
theorem sendRingScheduleResend_cases {r : SkySendRing w} (h : r.ResendsFit) (s : BitVec w) :
    (∃ ret : SkyRet, ret ≠ 0 ∧ sendRingScheduleResend r s = (r, ret) ∧
        ¬(r.resends.length < arqResendScheduleDepth ∧ sendRingCanRecall r s = true)) ∨
      ∃ r' : SkySendRing w, sendRingScheduleResend r s = (r', 0) ∧
        (r.resends.length < arqResendScheduleDepth ∧ sendRingCanRecall r s = true) ∧
        r'.resends = (if s ∈ r.resends then r.resends else r.resends ++ [s]) ∧ r'.ResendsFit ∧
        r' = { r with resendCount := r'.resendCount, resendList := r'.resendList } := by
  have hlength := h.length_resends
  rw [sendRingScheduleResend]
  by_cases hfull : arqResendScheduleDepth ≤ r.resendCount
  · exact .inl ⟨_, by decide, if_pos hfull, fun hroom => by omega⟩
  rw [if_neg hfull]
  cases hrecall : sendRingCanRecall r s with
  | false => exact .inl ⟨_, by decide, rfl, fun hroom => Bool.false_ne_true hroom.2⟩
  | true =>
      rw [Bool.not_true, if_neg Bool.false_ne_true]
      by_cases hdup : s ∈ r.resends
      · exact .inr ⟨r, if_pos hdup, ⟨by omega, rfl⟩, (if_pos hdup).symm, h, rfl⟩
      · have hlt : r.resendCount < r.resendList.length := by rw [h.length_eq]; omega
        refine .inr ⟨_, if_neg hdup, ⟨by omega, rfl⟩, ?_, ⟨?_, ?_⟩, rfl⟩
        · rw [if_neg hdup]
          simp only [SkySendRing.resends]
          rw [List.take_add_one, List.getElem?_set_self hlt, List.take_set_of_le le_rfl]
          rfl
        · show r.resendCount + 1 ≤ _
          omega
        · show (r.resendList.set _ _).length = _
          rw [List.length_set, h.length_eq]

/-- Different sequences that can all be recalled become the last entries. -/
theorem scheduleAll_resends {r : SkySendRing w} (h : r.ResendsFit) {sequences : List (BitVec w)}
    (hrecall : ∀ s ∈ sequences, sendRingCanRecall r s = true)
    (hnodup : (r.resends ++ sequences).Nodup)
    (hroom : r.resends.length + sequences.length ≤ arqResendScheduleDepth) :
    ∃ r' : SkySendRing w, sequences.foldl (fun r s => (sendRingScheduleResend r s).1) r = r' ∧
      r'.resends = r.resends ++ sequences ∧ r'.ResendsFit ∧
      r' = { r with resendCount := r'.resendCount, resendList := r'.resendList } := by
  induction sequences generalizing r with
  | nil => exact ⟨r, rfl, (List.append_nil _).symm, h, rfl⟩
  | cons s sequences ih =>
      rw [List.length_cons] at hroom
      have hs := hrecall s (by simp)
      have hnew : s ∉ r.resends := fun hmem =>
        List.disjoint_of_nodup_append hnodup hmem List.mem_cons_self
      obtain ⟨ret, -, -, hno⟩ | ⟨r₁, heq, -, hentries, hfit, hsame⟩ :=
        sendRingScheduleResend_cases h s
      · exact absurd ⟨by omega, hs⟩ hno
      · have hrest (s' : BitVec w) (hs' : s' ∈ sequences) : sendRingCanRecall r₁ s' = true := by
          rw [hsame]
          exact hrecall s' (List.mem_cons_of_mem _ hs')
        rw [if_neg hnew] at hentries
        rw [List.append_cons, ← hentries] at hnodup
        obtain ⟨r', hfold, hentries', hfit', hsame'⟩ := ih hfit hrest hnodup (by
          rw [hentries, List.length_append, List.length_singleton]
          omega)
        refine ⟨r', ?_, ?_, hfit', ?_⟩
        · rw [List.foldl_cons, heq]
          exact hfold
        · rw [hentries', hentries, ← List.append_cons]
        · rw [hsame', hsame]

/-! ## Requests -/

/-- The entries when the candidates are scheduled until one of them is refused. -/
def scheduled (canRecall : BitVec w → Bool) :
    List (BitVec w) → List (BitVec w) → List (BitVec w)
  | entries, [] => entries
  | entries, s :: candidates =>
      if entries.length < arqResendScheduleDepth ∧ canRecall s = true then
        scheduled canRecall (if s ∈ entries then entries else entries ++ [s]) candidates
      else entries

theorem scheduled_nil (canRecall : BitVec w → Bool) (entries : List (BitVec w)) :
    scheduled canRecall entries [] = entries := rfl

theorem scheduled_cons (canRecall : BitVec w → Bool) (entries : List (BitVec w)) (s : BitVec w)
    (candidates : List (BitVec w)) :
    scheduled canRecall entries (s :: candidates) =
      if entries.length < arqResendScheduleDepth ∧ canRecall s = true then
        scheduled canRecall (if s ∈ entries then entries else entries ++ [s]) candidates
      else entries := rfl

theorem sendRingScheduleResend_eq {r : SkySendRing w} (h : r.ResendsFit) (sequence : BitVec w) :
    ∃ r', (sendRingScheduleResend r sequence).1 = r' ∧
      r'.resends = scheduled (sendRingCanRecall r) r.resends [sequence] ∧ r'.ResendsFit ∧
      r' = { r with resendCount := r'.resendCount, resendList := r'.resendList } := by
  rw [scheduled_cons]
  obtain ⟨ret, -, heq, hno⟩ | ⟨r', heq, hyes, hentries, hfit, hsame⟩ :=
    sendRingScheduleResend_cases h sequence
  · rw [if_neg hno, heq]
    exact ⟨r, rfl, rfl, h, rfl⟩
  · rw [if_pos hyes, heq]
    exact ⟨r', rfl, hentries, hfit, hsame⟩

section Scheduled

variable {canRecall : BitVec w → Bool} {entries candidates : List (BitVec w)}

theorem scheduled_nodup (h : entries.Nodup) : (scheduled canRecall entries candidates).Nodup := by
  induction candidates generalizing entries with
  | nil => exact h
  | cons s candidates ih =>
      rw [scheduled_cons]
      split
      · apply ih
        split_ifs with hmem
        · exact h
        · exact List.nodup_append.mpr ⟨h, List.nodup_singleton s, fun a ha b hb => by
            rw [List.mem_singleton.mp hb]
            exact fun heq => hmem (heq ▸ ha)⟩
      · exact h

theorem mem_scheduled {s : BitVec w} (h : s ∈ scheduled canRecall entries candidates) :
    s ∈ entries ∨ canRecall s = true := by
  induction candidates generalizing entries with
  | nil => exact .inl h
  | cons s' candidates ih =>
      rw [scheduled_cons] at h
      split at h
      · rename_i hyes
        rcases ih h with hmem | hrecall
        · split at hmem
          · exact .inl hmem
          · rcases List.mem_append.mp hmem with hold | hnew
            · exact .inl hold
            · rw [List.mem_singleton.mp hnew]
              exact .inr hyes.2
        · exact .inr hrecall
      · exact .inl h

/-- Different candidates are scheduled up to the first that cannot be recalled. -/
theorem scheduled_eq_takeWhile (hnodup : (entries ++ candidates).Nodup) :
    scheduled canRecall entries candidates =
      entries ++ (candidates.takeWhile canRecall).take
        (arqResendScheduleDepth - entries.length) := by
  induction candidates generalizing entries with
  | nil => simp [scheduled_nil]
  | cons s candidates ih =>
      have hnew : s ∉ entries := fun hmem =>
        List.disjoint_of_nodup_append hnodup hmem List.mem_cons_self
      rw [scheduled_cons, if_neg hnew]
      by_cases hyes : entries.length < arqResendScheduleDepth ∧ canRecall s = true
      · obtain ⟨room, hroom⟩ : ∃ room, arqResendScheduleDepth - entries.length = room + 1 :=
          ⟨_, (Nat.succ_pred_eq_of_pos (Nat.sub_pos_of_lt hyes.1)).symm⟩
        have hroom' : arqResendScheduleDepth - (entries ++ [s]).length = room := by
          rw [List.length_append, List.length_singleton]
          omega
        rw [if_pos hyes, ih (by rwa [← List.append_cons]), List.takeWhile_cons_of_pos hyes.2, hroom,
          hroom', List.take_succ_cons, ← List.append_cons]
      · rw [if_neg hyes]
        by_cases hrecall : canRecall s = true
        · have hfull : arqResendScheduleDepth - entries.length = 0 := by
            have hnot : ¬entries.length < arqResendScheduleDepth := fun hlt => hyes ⟨hlt, hrecall⟩
            omega
          rw [hfull, List.take_zero, List.append_nil]
        · rw [List.takeWhile_cons_of_neg hrecall, List.take_nil, List.append_nil]

end Scheduled

/-- Stopping at the first refusal loses nothing when the list is full by then, or nothing
that follows could be taken. -/
theorem take_takeWhile_eq_filter_iff {α : Type*} (p : α → Bool) (l : List α) (n : Nat) :
    (l.takeWhile p).take n = (l.filter p).take n ↔
      n ≤ (l.takeWhile p).length ∨ ∀ s ∈ l.dropWhile p, p s = false := by
  have hfilter : l.filter p = l.takeWhile p ++ (l.dropWhile p).filter p := by
    conv_lhs => rw [← List.takeWhile_append_dropWhile (p := p) (l := l), List.filter_append]
    rw [List.filter_eq_self.mpr (List.all_eq_true.mp List.all_takeWhile)]
  rw [hfilter, List.take_append, List.self_eq_append_right, List.take_eq_nil_iff,
    Nat.sub_eq_zero_iff_le, List.filter_eq_nil_iff]
  simp only [Bool.not_eq_true]

/-- The bits of a mask that are not set, from bit `i` on. -/
def clearBits (mask : UInt16) (i turns : Nat) : List Nat :=
  (List.range' i turns).filter fun j => !mask.toNat.testBit j

/-- The sequences that a request asks for: its own, and one for each bit that is not set. -/
def requestedSequences (sequence : BitVec w) (mask : UInt16) : List (BitVec w) :=
  sequence :: (clearBits mask 0 16).map fun i => sequence + 1 + BitVec.ofNat w i

theorem requestedSequences_nodup (hw : 17 ≤ 2 ^ w) (sequence : BitVec w) (mask : UInt16) :
    (requestedSequences sequence mask).Nodup := by
  have hserial : requestedSequences sequence mask =
      (0 :: (clearBits mask 0 16).map (· + 1)).map (serial sequence) := by
    rw [requestedSequences, List.map_cons, serial_zero, List.map_map]
    refine congrArg _ (List.map_congr_left fun i _ => ?_)
    rw [Function.comp_apply, ← serial_succ, serial, BitVec.add_assoc, BitVec.add_assoc,
      BitVec.add_comm 1]
  have hbits (i : Nat) (hi : i ∈ clearBits mask 0 16) : i < 16 := by
    have := List.mem_range'_1.mp (List.mem_filter.mp hi).1
    omega
  rw [hserial]
  refine List.Nodup.map_on (fun a ha b hb heq => ?_) ?_
  · have hlt (i : Nat) (hi : i ∈ 0 :: (clearBits mask 0 16).map (· + 1)) : i < 17 := by
      rcases List.mem_cons.mp hi with rfl | hmem
      · omega
      · obtain ⟨j, hj, rfl⟩ := List.mem_map.mp hmem
        have := hbits j hj
        omega
    have ha' := hlt a ha
    have hb' := hlt b hb
    exact serial_inj sequence (Nat.zero_le a) (by omega) (Nat.zero_le b) (by omega) heq
  · refine List.nodup_cons.mpr ⟨by simp, ?_⟩
    exact ((List.nodup_range' 1).filter _).map (fun a b heq => Nat.succ.inj heq)

theorem and_selectMask_eq_zero {mask selectMask : UInt16} {i : Nat}
    (h : selectMask.toNat = 2 ^ i) : mask &&& selectMask = 0 ↔ mask.toNat.testBit i = false := by
  rw [← UInt16.toNat_inj, UInt16.toNat_and, h]
  constructor
  · intro hzero
    have hbit := congrArg (fun n => Nat.testBit n i) hzero
    simpa using hbit
  · intro hclear
    apply Nat.eq_of_testBit_eq
    intro j
    rw [Nat.testBit_and, Nat.testBit_two_pow]
    by_cases hj : i = j
    · subst hj
      simp [hclear]
    · simp [hj]

/-- The loop goes through the clear bits. -/
theorem scheduleMaskLoop_eq (mask : UInt16) {turns i : Nat} (hturns : i + turns = 16)
    {selectMask : UInt16} (hselect : turns ≠ 0 → selectMask.toNat = 2 ^ i) {r : SkySendRing w}
    (h : r.ResendsFit) (base : BitVec w) :
    ∃ r', (scheduleMaskLoop mask turns r (base + BitVec.ofNat w i) selectMask).1 = r' ∧
      r'.resends = scheduled (sendRingCanRecall r) r.resends
        ((clearBits mask i turns).map fun j => base + BitVec.ofNat w j) ∧
      r'.ResendsFit ∧
      r' = { r with resendCount := r'.resendCount, resendList := r'.resendList } := by
  induction turns generalizing r i selectMask with
  | zero => exact ⟨r, rfl, rfl, h, rfl⟩
  | succ turns ih =>
      have hone := hselect (Nat.succ_ne_zero turns)
      have hnext : base + BitVec.ofNat w i + 1 = base + BitVec.ofNat w (i + 1) := by
        rw [BitVec.add_assoc, BitVec.ofNat_add]
        rfl
      have hselect' : turns ≠ 0 → (selectMask <<< 1).toNat = 2 ^ (i + 1) := by
        intro hpos
        have hpow : 2 ^ (i + 1) ≤ 2 ^ 15 := Nat.pow_le_pow_right (by omega) (by omega)
        have hdouble : 2 ^ i * 2 ^ (UInt16.toNat 1 % 16) = 2 ^ (i + 1) := (pow_succ 2 i).symm
        rw [UInt16.toNat_shiftLeft, hone, Nat.shiftLeft_eq, hdouble]
        exact Nat.mod_eq_of_lt (by omega)
      have hbits : clearBits mask i (turns + 1) =
          if mask.toNat.testBit i then clearBits mask (i + 1) turns
          else i :: clearBits mask (i + 1) turns := by
        rw [clearBits, List.range'_succ, List.filter_cons]
        cases mask.toNat.testBit i <;> rfl
      rw [scheduleMaskLoop, hnext, hbits]
      by_cases hclear : mask &&& selectMask = 0
      · rw [if_pos hclear, (and_selectMask_eq_zero hone).mp hclear, if_neg Bool.false_ne_true,
          List.map_cons, scheduled_cons]
        obtain ⟨ret, hret, heq, hno⟩ | ⟨r₁, heq, hyes, hentries, hfit, hsame⟩ :=
          sendRingScheduleResend_cases h (base + BitVec.ofNat w i)
        · rw [if_neg hno, heq]
          exact ⟨r, by simp only [if_pos hret], rfl, h, rfl⟩
        · rw [if_pos hyes, heq]
          simp only [ne_eq, not_true_eq_false, if_false]
          obtain ⟨r', hloop, hrest, hfit', hsame'⟩ := ih (by omega) hselect' hfit
          refine ⟨r', hloop, ?_, hfit', ?_⟩
          · rw [hrest, hentries, hsame]
            rfl
          · rw [hsame', hsame]
      · have hset : mask.toNat.testBit i = true := by
          rw [and_selectMask_eq_zero hone, Bool.not_eq_false] at hclear
          exact hclear
        rw [if_neg hclear, hset, if_pos rfl]
        exact ih (by omega) hselect' h

theorem sendRingScheduleResendsByMask_eq {r : SkySendRing w} (h : r.ResendsFit)
    (sequence : BitVec w) (mask : UInt16) :
    ∃ r', (sendRingScheduleResendsByMask r sequence mask).1 = r' ∧
      r'.resends =
        scheduled (sendRingCanRecall r) r.resends (requestedSequences sequence mask) ∧
      r'.ResendsFit ∧
      r' = { r with resendCount := r'.resendCount, resendList := r'.resendList } := by
  rw [sendRingScheduleResendsByMask, requestedSequences, scheduled_cons]
  obtain ⟨ret, hret, heq, hno⟩ | ⟨r₁, heq, hyes, hentries, hfit, hsame⟩ :=
    sendRingScheduleResend_cases h sequence
  · rw [if_neg hno, heq]
    exact ⟨r, by simp only [if_pos hret], rfl, h, rfl⟩
  · rw [if_pos hyes, heq]
    simp only [ne_eq, not_true_eq_false, if_false]
    obtain ⟨r', hloop, hrest, hfit', hsame'⟩ :=
      scheduleMaskLoop_eq mask (rfl : 0 + 16 = 16) (fun _ => (rfl : UInt16.toNat 1 = 2 ^ 0)) hfit
        (sequence + 1)
    rw [show BitVec.ofNat w 0 = 0#w from rfl, BitVec.add_zero] at hloop
    refine ⟨r', hloop, ?_, hfit', ?_⟩
    · rw [hrest, hentries, hsame]
      rfl
    · rw [hsame', hsame]

/-! ## Popping -/

/-- The loop of the pop moves the elements `s … s + n - 1` one place up. -/
theorem shiftLoop_getElem? (n : Nat) {s : Nat} (hs : 1 ≤ s) {list : List (BitVec w)}
    (hlen : s + n ≤ list.length) (i : Nat) :
    ((List.range' s n).foldl (fun list i => list.set (i - 1) (list.getD i 0)) list)[i]? =
      if s - 1 ≤ i ∧ i < s - 1 + n then list[i + 1]? else list[i]? := by
  induction n generalizing s list with
  | zero => rw [List.range'_zero, List.foldl_nil, if_neg (by omega)]
  | succ n ih =>
      have hget : (list.set (s - 1) (list.getD s 0))[s - 1]? = list[s]? := by
        rw [List.getElem?_set_self (by omega), List.getD_eq_getElem?_getD,
          List.getElem?_eq_getElem (by omega)]
        rfl
      have hne (j : Nat) (hj : j ≠ s - 1) :
          (list.set (s - 1) (list.getD s 0))[j]? = list[j]? :=
        List.getElem?_set_ne (Ne.symm hj)
      rw [List.range'_succ, List.foldl_cons, ih (by omega) (by rw [List.length_set]; omega)]
      by_cases hfirst : i = s - 1
      · rw [hfirst, hget, Nat.sub_add_cancel hs]
        split_ifs with hinner houter
        · omega
        · omega
        · rfl
        · omega
      · rw [hne i hfirst]
        split_ifs with hinner houter
        · rw [hne (i + 1) (by omega)]
        · omega
        · omega
        · rfl

/-- What a pop leaves: the last entry is gone, the one before it is repeated. -/
def poppedEntries (entries : List (BitVec w)) : List (BitVec w) :=
  entries.dropLast.tail ++ entries.dropLast.getLast?.toList

theorem poppedEntries_getElem? {entries : List (BitVec w)} (hpos : entries ≠ []) (i : Nat) :
    (poppedEntries entries)[i]? =
      if i + 2 < entries.length then entries[i + 1]?
      else if i + 2 = entries.length then entries[i]? else none := by
  have hlen := List.length_pos_iff.mpr hpos
  have hlast : entries.dropLast.getLast? = entries.dropLast[entries.length - 2]? := by
    rw [List.getLast?_eq_getElem?, List.length_dropLast]
    rfl
  rw [poppedEntries, List.getElem?_append, List.length_tail, List.length_dropLast, hlast]
  by_cases hinner : i + 2 < entries.length
  · rw [if_pos (by omega), if_pos hinner, List.getElem?_tail, List.getElem?_dropLast,
      if_pos (by omega)]
  · rw [if_neg (by omega), if_neg hinner]
    by_cases hend : i + 2 = entries.length
    · have hzero : i - (entries.length - 1 - 1) = 0 := by omega
      rw [hzero, if_pos hend, List.getElem?_dropLast, if_pos (by omega), ← hend,
        Nat.add_sub_cancel]
      cases entries[i]? <;> rfl
    · have hone (o : Option (BitVec w)) : o.toList.length ≤ 1 := by cases o <;> simp
      rw [if_neg hend]
      by_cases hroom : entries.length = 1
      · rw [List.getElem?_dropLast, if_neg (by omega)]
        rfl
      · exact List.getElem?_eq_none ((hone _).trans (by omega))

theorem sendRingPopResendSequence_eq {r : SkySendRing w} (h : r.ResendsFit)
    (hpos : 0 < r.resendCount) :
    ∃ r', sendRingPopResendSequence r = (r', some (r.resendList.getD 0 0)) ∧
      r.resends.head? = some (r.resendList.getD 0 0) ∧
      r'.resends = poppedEntries r.resends ∧ r'.ResendsFit ∧
      r' = { r with resendCount := r'.resendCount, resendList := r'.resendList } := by
  have hle := h.count_le
  have hlength := h.length_resends
  have hlist := h.length_eq
  have hne : r.resends ≠ [] := fun hnil => by rw [h.resends_eq_nil] at hnil; omega
  have hentry (i : Nat) (hi : i < r.resendCount) : r.resends[i]? = r.resendList[i]? := by
    rw [SkySendRing.resends, List.getElem?_take_of_lt hi]
  rw [sendRingPopResendSequence, if_neg (by omega)]
  refine ⟨_, rfl, ?_, ?_, ⟨?_, ?_⟩, rfl⟩
  · rw [List.head?_eq_getElem?, hentry 0 hpos, List.getD_eq_getElem?_getD,
      List.getElem?_eq_getElem (by omega)]
    rfl
  · apply List.ext_getElem?
    intro i
    rw [poppedEntries_getElem? hne, hlength]
    simp only [SkySendRing.resends]
    rw [List.getElem?_take, shiftLoop_getElem? _ le_rfl (by omega)]
    by_cases hinner : i + 2 < r.resendCount
    · rw [if_pos (by omega), if_pos (by omega), if_pos hinner]
      exact (hentry (i + 1) (by omega)).symm
    · rw [if_neg hinner]
      by_cases hend : i + 2 = r.resendCount
      · rw [if_pos (by omega), if_neg (by omega), if_pos hend]
        exact (hentry i (by omega)).symm
      · rw [if_neg (by omega), if_neg hend]
  · show r.resendCount - 1 ≤ _
    omega
  · exact (SendWindow.foldl_set_length _ _).trans hlist

theorem mem_poppedEntries {entries : List (BitVec w)} {s : BitVec w}
    (h : s ∈ poppedEntries entries) : s ∈ entries.dropLast := by
  rcases List.mem_append.mp h with htail | hlast
  · exact List.mem_of_mem_tail htail
  · exact List.mem_of_getLast? (Option.mem_toList.mp hlast)

theorem last_not_mem_poppedEntries {entries : List (BitVec w)} (h : entries.Nodup)
    (hne : entries ≠ []) : entries.getLast hne ∉ poppedEntries entries := by
  intro hmem
  rw [← List.dropLast_concat_getLast hne] at h
  exact List.disjoint_of_nodup_append h (mem_poppedEntries hmem) (List.mem_singleton_self _)

/-- The shift repeats an entry unless one entry at most is left. -/
theorem poppedEntries_nodup_iff {entries : List (BitVec w)} (h : entries.Nodup) :
    (poppedEntries entries).Nodup ↔ entries.length ≤ 2 := by
  have hrest : entries.dropLast.Nodup := h.sublist (List.dropLast_sublist _)
  have hlen : entries.dropLast.length = entries.length - 1 := List.length_dropLast
  rw [poppedEntries]
  rcases heq : entries.dropLast with _ | ⟨a, _ | ⟨b, rest⟩⟩
  · rw [heq, List.length_nil] at hlen
    exact ⟨fun _ => by omega, fun _ => List.nodup_nil⟩
  · rw [heq, List.length_singleton] at hlen
    exact ⟨fun _ => by omega, fun _ => List.nodup_singleton a⟩
  · rw [heq, List.length_cons, List.length_cons] at hlen
    refine ⟨fun hnodup => ?_, fun hle => by omega⟩
    have hlast : (a :: b :: rest).getLast? = some ((b :: rest).getLast (List.cons_ne_nil b rest)) :=
      List.getLast?_eq_some_getLast (List.cons_ne_nil a (b :: rest))
    rw [hlast] at hnodup
    exact absurd (List.getLast_mem (List.cons_ne_nil b rest))
      fun hmem => List.disjoint_of_nodup_append hnodup hmem (List.mem_singleton_self _)

/-! ## Reading -/

theorem sendRingReadNewPacketToTx_cases (r : SkySendRing w) (eb : SkyElementBuffer) :
    (sendRingReadNewPacketToTx r eb).1.resends = r.resends ∧
      (r.ResendsFit → (sendRingReadNewPacketToTx r eb).1.ResendsFit) ∧
      ∀ p s, (sendRingReadNewPacketToTx r eb).2 = .ok (p, s) → s = r.txSequence := by
  rw [sendRingReadNewPacketToTx]
  split
  · exact ⟨rfl, id, fun p s h => by cases h⟩
  · split
    · exact ⟨rfl, id, fun p s h => by cases h⟩
    · refine ⟨rfl, fun h => ⟨h.count_le, h.length_eq⟩, fun p s h => ?_⟩
      cases h
      rfl

/-- A read takes the first entry off the resend list; where this gives no payload, it
reads the next new packet. -/
theorem sendRingReadToTx_cases {r : SkySendRing w} (h : r.ResendsFit) (eb : SkyElementBuffer)
    (includeResend : Bool) :
    ∃ r' : SkySendRing w,
      r'.resends = (if includeResend then poppedEntries r.resends else r.resends) ∧
        r'.ResendsFit ∧
        r' = { r with resendCount := r'.resendCount, resendList := r'.resendList } ∧
        (sendRingReadToTx r eb includeResend = sendRingReadNewPacketToTx r' eb ∨
          ∃ s i p, r.resends.head? = some s ∧ sendRingGetRecallRingIndex r s = .ok i ∧
            skyElementBufferRead eb (r.item i).idx (skyPayloadMaxLen + 100) = .ok p ∧
            sendRingReadToTx r eb includeResend = (r', .ok (p, s))) ∧
        ∀ s i p, includeResend = true → r.resends.head? = some s →
          sendRingGetRecallRingIndex r s = .ok i →
          skyElementBufferRead eb (r.item i).idx (skyPayloadMaxLen + 100) = .ok p →
          sendRingReadToTx r eb includeResend = (r', .ok (p, s)) := by
  rw [sendRingReadToTx]
  by_cases hresend : includeResend = true ∧ 0 < r.resendCount
  · obtain ⟨rfl, hpos⟩ := hresend
    obtain ⟨r', hpop, hhead, hentries, hfit, hsame⟩ := sendRingPopResendSequence_eq h hpos
    have hindex (s : BitVec w) :
        sendRingGetRecallRingIndex r' s = sendRingGetRecallRingIndex r s := by rw [hsame]; rfl
    have hitem (i : Nat) : r'.item i = r.item i := by rw [hsame]; rfl
    have hturn : true = true ∧ 0 < r.resendCount := ⟨rfl, hpos⟩
    rw [if_pos hturn, if_pos rfl, sendRingReadRecallPacketToTx, hpop]
    refine ⟨r', hentries, hfit, hsame, ?_, fun s i p _ hs hi hp => ?_⟩
    · dsimp only
      cases hi : sendRingGetRecallRingIndex r' (r.resendList.getD 0 0) with
      | error ret => exact .inl rfl
      | ok i =>
          dsimp only
          cases hp : skyElementBufferRead eb (r'.item i).idx (skyPayloadMaxLen + 100) with
          | error ret => exact .inl rfl
          | ok p =>
              rw [hindex] at hi
              rw [hitem] at hp
              exact .inr ⟨_, i, p, hhead, hi, hp, rfl⟩
    · obtain rfl := Option.some.inj (hs.symm.trans hhead)
      rw [← hindex] at hi
      rw [← hitem] at hp
      simp only [hi, hp]
  · rw [if_neg hresend]
    have hnil : includeResend = true → r.resends = [] := by
      rintro rfl
      exact h.resends_eq_nil.mpr (by simpa using hresend)
    refine ⟨r, ?_, h, rfl, .inl rfl, fun s i p hinclude hs => ?_⟩
    · split_ifs with hinclude
      · rw [hnil hinclude]
        rfl
      · rfl
    · rw [hnil hinclude] at hs
      cases hs

theorem sendRingReadToTx_resends {r : SkySendRing w} (h : r.ResendsFit) (eb : SkyElementBuffer)
    (includeResend : Bool) :
    (sendRingReadToTx r eb includeResend).1.resends =
        (if includeResend then poppedEntries r.resends else r.resends) ∧
      (sendRingReadToTx r eb includeResend).1.ResendsFit := by
  obtain ⟨r', hentries, hfit, -, hnew | ⟨s, i, p, -, -, -, hread⟩, -⟩ :=
    sendRingReadToTx_cases h eb includeResend
  · obtain ⟨hsame, hsameFit, -⟩ := sendRingReadNewPacketToTx_cases r' eb
    rw [hnew, hsame]
    exact ⟨hentries, hsameFit hfit⟩
  · rw [hread]
    exact ⟨hentries, hfit⟩

/-- What is read is the first entry of the resend list or the next new packet. -/
theorem sendRingReadToTx_sequence {r : SkySendRing w} (h : r.ResendsFit) {eb : SkyElementBuffer}
    {includeResend : Bool} {p : Bytes} {s : BitVec w}
    (hread : (sendRingReadToTx r eb includeResend).2 = .ok (p, s)) :
    s ∈ r.resends ∨ s = r.txSequence := by
  obtain ⟨r', -, -, hsame, hnew | ⟨s', i, p', hhead, -, -, hrecall⟩, -⟩ :=
    sendRingReadToTx_cases h eb includeResend
  · rw [hnew] at hread
    have hsequence := (sendRingReadNewPacketToTx_cases r' eb).2.2 p s hread
    rw [hsame] at hsequence
    exact .inr hsequence
  · rw [hrecall] at hread
    cases hread
    exact .inl (List.mem_of_head? hhead)

/-! ## The other operations -/

theorem sendRingPushPacketToSend_keeps (r : SkySendRing w) (eb : SkyElementBuffer)
    (payload : Bytes) :
    (sendRingPushPacketToSend r eb payload).1.resends = r.resends ∧
      (sendRingPushPacketToSend r eb payload).1.tailSequence = r.tailSequence ∧
      (sendRingPushPacketToSend r eb payload).1.txSequence = r.txSequence := by
  rw [sendRingPushPacketToSend]
  split
  · exact ⟨rfl, rfl, rfl⟩
  · split <;> exact ⟨rfl, rfl, rfl⟩

theorem cleanTailLoop_resends (newTail : BitVec w) (turns : Nat) (r : SkySendRing w)
    (eb : SkyElementBuffer) (n : Nat) :
    (cleanTailLoop newTail turns r eb n).1.resends = r.resends := by
  induction turns generalizing r eb n with
  | zero => rfl
  | succ turns ih =>
      rw [cleanTailLoop]
      split
      · rfl
      · exact ih _ _ _

theorem sendRingCleanTailUpTo_resends (r : SkySendRing w) (eb : SkyElementBuffer)
    (newTail : BitVec w) : (sendRingCleanTailUpTo r eb newTail).1.resends = r.resends := by
  simp only [sendRingCleanTailUpTo]
  split
  · rfl
  · exact cleanTailLoop_resends newTail _ r eb 0

end Skylink
