import Mathlib.Tactic.Ring
import Skylink.SequenceRing.Slots

/-!
# The send ring

In unbounded sequence numbers the ring is a window of pushed payloads: from the tail,
over the first payload that was never transmitted, to the head. The resend list holds
any sequences; those it can recall lie between the tail and the transmit head.
-/

namespace Skylink

open SerialNumber

variable {w : Nat}

/-- A change of the resend list only. -/
structure SameButResend (r r' : SkySendRing w) : Prop where
  buff : r'.buff = r.buff
  length : r'.length = r.length

/-- The payloads between tail and head. -/
def pendingPayload (tail head : Nat) (payload : Nat → Bytes) (u : Nat) : Option Bytes :=
  if tail ≤ u ∧ u < head then some (payload u) else none

/-- The ring for payloads of any length. -/
structure SendWindow (r : SkySendRing w) (start : BitVec w) (tail tx head : Nat)
    (payload : Nat → Bytes) (m : Nat → Option Bytes) : Prop where
  slots : SlotsHold m r.buff r.length start tail (pendingPayload tail head payload)
  tail_le_tx : tail ≤ tx
  tx_le_head : tx ≤ head
  room : head < tail + r.length
  lengthLe : r.length ≤ 2 ^ w
  tailIdx : r.tail = tail % r.length
  txIdx : r.txHead = tx % r.length
  headIdx : r.head = head % r.length
  tailSequence : r.tailSequence = serial start tail
  txSequence : r.txSequence = serial start tx
  headSequence : r.headSequence = serial start head
  count : r.storageCount = head - tail
  resendLe : r.resendCount ≤ arqResendScheduleDepth
  resendLength : r.resendList.length = arqResendScheduleDepth

/-- The ring as a virtual channel uses it, with payloads that fit into a frame. -/
structure SendRep (r : SkySendRing w) (start : BitVec w) (tail tx head : Nat)
    (payload : Nat → Bytes) (m : Nat → Option Bytes) : Prop
    extends SendWindow r start tail tx head payload m where
  payloadLe : ∀ u, tail ≤ u → u < head → (payload u).length ≤ skyPayloadMaxLen

namespace SendWindow

variable {r : SkySendRing w} {start : BitVec w} {tail tx head : Nat}
  {payload : Nat → Bytes} {m : Nat → Option Bytes} {eb : SkyElementBuffer}
  {rest : List Nat}

theorem mono (h : SendWindow r start tail tx head payload m) {m' : Nat → Option Bytes}
    (hkeep : KeepsRest (ownedIdx r.buff) m m') : SendWindow r start tail tx head payload m' :=
  { h with slots := h.slots.mono hkeep.same }

/-- Where the payload of `u` is stored. -/
theorem stored (h : SendWindow r start tail tx head payload m) {u : Nat} (hu : tail ≤ u)
    (hu' : u < head) :
    (r.item (u % r.length)).idx ≠ ebNullIdx ∧
      (r.item (u % r.length)).sequence = serial start u ∧
      m (r.item (u % r.length)).idx = some (payload u) := by
  have hval : pendingPayload tail head payload u = some (payload u) := by
    simp [pendingPayload, hu, hu']
  exact (h.slots.held hu hval).2

theorem isFull_iff (h : SendWindow r start tail tx head payload m) :
    sendRingIsFull r = true ↔ head + 1 = tail + r.length := by
  have htail := h.tail_le_tx
  have htx := h.tx_le_head
  have hroom := h.room
  have hpos := h.slots.pos
  have hhead : ringWrap ((r.head : Int) + 1) r.length = (head + 1) % r.length := by
    rw [h.headIdx]
    exact_mod_cast ringWrap_slot_add hpos head 1
  have htail' : ringWrap (r.tail : Int) r.length = tail % r.length := by
    rw [h.tailIdx, ringWrap_natCast hpos, Nat.mod_mod]
  rw [sendRingIsFull, hhead, htail', beq_iff_eq]
  constructor
  · intro heq
    by_contra hne
    have := slot_inj (c := tail) (n := r.length) (by omega) (by omega) le_rfl (by omega) heq
    omega
  · intro heq
    rw [heq, Nat.add_mod_right]

theorem countNew (h : SendWindow r start tail tx head payload m) :
    sendRingCountPacketsToSend r false = head - tx := by
  have htail := h.tail_le_tx
  have htx := h.tx_le_head
  have hroom := h.room
  simp only [sendRingCountPacketsToSend, h.headIdx, h.txIdx]
  rw [ringWrap_sub h.tx_le_head (by omega)]
  rfl

theorem countAll (h : SendWindow r start tail tx head payload m) :
    sendRingCountPacketsToSend r true = head - tx + r.resendCount := by
  have htail := h.tail_le_tx
  have htx := h.tx_le_head
  have hroom := h.room
  simp only [sendRingCountPacketsToSend, h.headIdx, h.txIdx, if_true]
  rw [ringWrap_sub h.tx_le_head (by omega)]

theorem txAhead (h : SendWindow r start tail tx head payload m) :
    (r.txSequence - r.tailSequence).toNat = tx - tail := by
  have htail := h.tail_le_tx
  have htx := h.tx_le_head
  have hroom := h.room
  have hlen := h.lengthLe
  rw [h.txSequence, h.tailSequence, serial_sub start h.tail_le_tx (by omega)]

/-- Exactly the sequences between tail and transmit head can be recalled. -/
theorem canRecall_iff (h : SendWindow r start tail tx head payload m) (sequence : BitVec w) :
    sendRingCanRecall r sequence = true ↔
      tail + (sequence - r.tailSequence).toNat < tx := by
  have htail := h.tail_le_tx
  have htx := h.tx_le_head
  have hroom := h.room
  simp only [sendRingCanRecall, h.txIdx, h.tailIdx, decide_eq_true_eq]
  rw [ringWrap_sub h.tail_le_tx (by omega)]
  omega

theorem pendingPayload_push {tail head : Nat} (hle : tail ≤ head) (payload : Nat → Bytes)
    (p : Bytes) :
    Function.update (pendingPayload tail head payload) head (some p) =
      pendingPayload tail (head + 1) (Function.update payload head p) := by
  funext u
  by_cases hu : u = head
  · simp [hu, pendingPayload, hle]
  · have hiff : (tail ≤ u ∧ u < head + 1) ↔ (tail ≤ u ∧ u < head) := by omega
    simp only [pendingPayload, Function.update_of_ne hu, hiff]

theorem pendingPayload_drop (tail head : Nat) (payload : Nat → Bytes) :
    Function.update (pendingPayload tail head payload) tail none =
      pendingPayload (tail + 1) head payload := by
  funext u
  by_cases hu : u = tail
  · simp [hu, pendingPayload]
  · have hiff : (tail + 1 ≤ u ∧ u < head) ↔ (tail ≤ u ∧ u < head) := by omega
    simp only [pendingPayload, Function.update_of_ne hu, hiff]

/-- A payload is stored under a fresh chain at the head, which moves on. -/
theorem fillHead (h : SendWindow r start tail tx head payload m)
    (hroom : head + 1 < tail + r.length) {idx : Nat} (hfresh : m idx = none)
    (hidx : idx ≠ ebNullIdx) (p : Bytes) :
    SendWindow
      { r.setItem r.head ⟨idx, r.headSequence⟩ with
        storageCount := r.storageCount + 1
        head := ringWrap ((r.head : Int) + 1) r.length
        headSequence := r.headSequence + 1 }
      start tail tx (head + 1) (Function.update payload head p)
      (Function.update m idx (some p)) := by
  have htail := h.tail_le_tx
  have htx := h.tx_le_head
  have hslots := h.slots.fill (htail.trans htx) h.room hfresh hidx p
  rw [pendingPayload_push (htail.trans htx), ← h.headIdx, ← h.headSequence] at hslots
  refine ⟨hslots, htail, by omega, hroom, h.lengthLe, h.tailIdx, h.txIdx, ?_, h.tailSequence,
    h.txSequence, ?_, ?_, h.resendLe, h.resendLength⟩
  · show ringWrap ((r.head : Int) + 1) r.length = _
    rw [h.headIdx]
    exact_mod_cast ringWrap_slot_add h.slots.pos head 1
  · show r.headSequence + 1 = _
    rw [h.headSequence, serial_succ]
  · show r.storageCount + 1 = _
    rw [h.count]
    push_cast
    ring

/-- A push appends at the head, unless the ring or the element buffer is full. -/
theorem push (h : SendWindow r start tail tx head payload m)
    (hpool : PoolHolds eb m (ownedIdx r.buff ++ rest)) {p : Bytes} (hp : p.length < 65536) :
    (head + 1 = tail + r.length ∧
        sendRingPushPacketToSend r eb p = (r, eb, .error .ringRingFull)) ∨
      (head + 1 < tail + r.length ∧
        sendRingPushPacketToSend r eb p = (r, eb, .error .ebufferNoSpace)) ∨
      head + 1 < tail + r.length ∧ ∃ r' eb' m',
        sendRingPushPacketToSend r eb p = (r', eb', .ok (serial start head)) ∧
        SendWindow r' start tail tx (head + 1) (Function.update payload head p) m' ∧
        PoolHolds eb' m' (ownedIdx r'.buff ++ rest) ∧ KeepsRest rest m m' ∧
        r'.length = r.length := by
  have htail := h.tail_le_tx
  have htx := h.tx_le_head
  have hroom := h.room
  rw [sendRingPushPacketToSend]
  by_cases hfull : sendRingIsFull r = true
  · rw [if_pos hfull]
    exact .inl ⟨h.isFull_iff.mp hfull, rfl⟩
  · rw [if_neg hfull]
    rw [h.isFull_iff] at hfull
    have hnext : head + 1 < tail + r.length := by omega
    refine .inr ?_
    have hval : pendingPayload tail head payload head = none := by simp [pendingPayload]
    have hhead : tail ≤ head := by omega
    have hnull : (r.item (head % r.length)).idx = ebNullIdx :=
      (h.slots.vacant_iff hhead hroom).mpr hval
    have hlt := h.slots.slot_lt head
    have hvacant : r.buff[head % r.length].idx = ebNullIdx := by
      rwa [SkySendRing.item, List.getD_eq_getElem _ _ hlt] at hnull
    obtain hno | ⟨idx, eb', hstore, hfresh, hidx, hkeep, hpool'⟩ :=
      hpool.store hp hlt hvacant
    · rw [hno]
      exact .inl ⟨hnext, rfl⟩
    · rw [hstore]
      let pushed : SkySendRing w :=
        { r.setItem r.head ⟨idx, r.headSequence⟩ with
          storageCount := r.storageCount + 1
          head := ringWrap ((r.head : Int) + 1) r.length
          headSequence := r.headSequence + 1 }
      have hbuff : pushed.buff = r.buff.set (head % r.length) ⟨idx, serial start head⟩ := by
        rw [← h.headIdx, ← h.headSequence]
        rfl
      refine .inr ⟨hnext, pushed, eb', _, ?_, h.fillHead hnext hfresh hidx p, ?_, hkeep, rfl⟩
      · show (pushed, eb', Except.ok r.headSequence) = _
        rw [h.headSequence]
      · rw [hbuff]
        exact hpool' _

/-! ## The resend list -/

theorem ofResend (h : SendWindow r start tail tx head payload m) {count : Nat}
    {list : List (BitVec w)} (hcount : count ≤ arqResendScheduleDepth)
    (hlist : list.length = arqResendScheduleDepth) :
    SendWindow { r with resendCount := count, resendList := list } start tail tx head payload m :=
  { h with resendLe := hcount, resendLength := hlist }

theorem recallIndex (h : SendWindow r start tail tx head payload m) (sequence : BitVec w) :
    sendRingGetRecallRingIndex r sequence =
      if tail + (sequence - r.tailSequence).toNat < tx then
        .ok ((tail + (sequence - r.tailSequence).toNat) % r.length)
      else .error .ringCannotRecall := by
  have hiff := h.canRecall_iff sequence
  have hslot : ringWrap ((r.tail : Int) + ((sequence - r.tailSequence).toNat : Int)) r.length =
      (tail + (sequence - r.tailSequence).toNat) % r.length := by
    rw [h.tailIdx]
    exact_mod_cast ringWrap_slot_add h.slots.pos tail _
  rw [sendRingGetRecallRingIndex]
  by_cases hlt : tail + (sequence - r.tailSequence).toNat < tx
  · rw [if_pos hlt, hiff.mpr hlt, ← hslot]
    rfl
  · have hnot : sendRingCanRecall r sequence = false :=
      Bool.eq_false_iff.mpr fun hc => hlt (hiff.mp hc)
    rw [if_neg hlt, hnot]
    rfl

theorem foldl_set_length (idxs : List Nat) (list : List (BitVec w)) :
    (idxs.foldl (fun list i => list.set (i - 1) (list.getD i 0)) list).length = list.length := by
  induction idxs generalizing list with
  | nil => rfl
  | cons i idxs ih => rw [List.foldl_cons, ih, List.length_set]

/-- Popping takes the first entry of the resend list. -/
theorem popResend (h : SendWindow r start tail tx head payload m) (hpos : 0 < r.resendCount) :
    ∃ r', sendRingPopResendSequence r = (r', some (r.resendList.getD 0 0)) ∧
      SendWindow r' start tail tx head payload m ∧ SameButResend r r' ∧
      r'.tailSequence = r.tailSequence := by
  have hle := h.resendLe
  rw [sendRingPopResendSequence, if_neg (by omega)]
  refine ⟨_, rfl, h.ofResend (by omega) ?_, ⟨rfl, rfl⟩, rfl⟩
  rw [foldl_set_length, h.resendLength]

theorem readNew_empty (h : SendWindow r start tail tx head payload m) (eb : SkyElementBuffer)
    (hempty : tx = head) :
    sendRingReadNewPacketToTx r eb = (r, .error .ringEmpty) ∧
      sendRingPeekNew r eb = .error .ringEmpty := by
  have hcount : sendRingCountPacketsToSend r false = 0 := by
    rw [h.countNew, hempty, Nat.sub_self]
  rw [sendRingReadNewPacketToTx, sendRingPeekNew, if_pos hcount, if_pos hcount]
  exact ⟨rfl, rfl⟩

/-! ## Acknowledgements -/

/-- Deleting the payload at the tail. -/
theorem dropTail (h : SendWindow r start tail tx head payload m)
    (hpool : PoolHolds eb m (ownedIdx r.buff ++ rest)) (hlt : tail < tx) :
    ∃ m', SendWindow
        { r.setItem r.tail RingItem.vacant with
          storageCount := r.storageCount - 1
          tail := ringWrap ((r.tail : Int) + 1) r.length
          tailSequence := r.tailSequence + 1 } start (tail + 1) tx head payload m' ∧
      PoolHolds (skyElementBufferDelete eb (r.item r.tail).idx) m'
        (ownedIdx (r.buff.set r.tail RingItem.vacant) ++ rest) ∧ KeepsRest rest m m' := by
  have htx := h.tx_le_head
  have hroom := h.room
  have hval : pendingPayload tail head payload tail = some (payload tail) := by
    simp [pendingPayload]
    omega
  obtain ⟨-, hidx, -, -⟩ := h.slots.held le_rfl hval
  have hslot := h.slots.slot_lt tail
  have hget : r.item r.tail = r.buff[tail % r.length] := by
    rw [SkySendRing.item, h.tailIdx, List.getD_eq_getElem _ _ hslot]
  rw [List.getD_eq_getElem _ _ hslot] at hidx
  obtain ⟨hpool', hkeep⟩ := hpool.delete hslot hidx
  have hnodup := (List.nodup_append.mp hpool.owns.nodup).1
  have hslots := (h.slots.clear le_rfl hval hnodup).shift (Function.update_self _ _ _)
  rw [pendingPayload_drop, List.getD_eq_getElem _ _ hslot] at hslots
  refine ⟨_, ⟨?_, hlt, htx, ?_, h.lengthLe, ?_, h.txIdx, h.headIdx, ?_, h.txSequence,
    h.headSequence, ?_, h.resendLe, h.resendLength⟩, ?_, hkeep⟩
  · have hbuff : (r.setItem r.tail RingItem.vacant).buff =
        r.buff.set (tail % r.length) RingItem.vacant := by
      rw [← h.tailIdx]
      rfl
    show SlotsHold _ (r.setItem r.tail RingItem.vacant).buff _ _ _ _
    rw [hbuff]
    exact hslots
  · show head < tail + 1 + r.length
    omega
  · show ringWrap ((r.tail : Int) + 1) r.length = _
    rw [h.tailIdx]
    exact_mod_cast ringWrap_slot_add h.slots.pos tail 1
  · show r.tailSequence + 1 = _
    rw [h.tailSequence, serial_succ]
  · show r.storageCount - 1 = _
    rw [h.count]
    push_cast
    ring
  · rw [hget, h.tailIdx]
    exact hpool'

/-- The loop clears as many payloads as the new tail is ahead; induction on them. -/
theorem cleanLoop (k turns n : Nat) (h : SendWindow r start tail tx head payload m)
    (hpool : PoolHolds eb m (ownedIdx r.buff ++ rest)) (hk : tail + k ≤ tx) (hturns : k ≤ turns) :
    ∃ r' eb' m', cleanTailLoop (serial start (tail + k)) turns r eb n = (r', eb', n + k) ∧
      SendWindow r' start (tail + k) tx head payload m' ∧
      PoolHolds eb' m' (ownedIdx r'.buff ++ rest) ∧ KeepsRest rest m m' ∧
      r'.length = r.length ∧ r'.txSequence = r.txSequence := by
  induction k generalizing r eb m tail turns n with
  | zero =>
      refine ⟨r, eb, m, ?_, h, hpool, .refl rest m, rfl, rfl⟩
      cases turns with
      | zero => rfl
      | succ turns => rw [cleanTailLoop, Nat.add_zero, if_pos h.tailSequence, Nat.add_zero]
  | succ k ih =>
      obtain ⟨turns, rfl⟩ : ∃ t, turns = t + 1 := ⟨turns - 1, by omega⟩
      have htx := h.tx_le_head
      have hroom := h.room
      have hlen := h.lengthLe
      have hne : r.tailSequence ≠ serial start (tail + (k + 1)) := by
        rw [h.tailSequence]
        intro heq
        have := serial_inj (c := tail) start le_rfl (by omega) (by omega) (by omega) heq
        omega
      obtain ⟨m₁, h₁, hpool₁, hkeep₁⟩ := h.dropTail hpool (by omega)
      obtain ⟨r', eb', m', hloop, h', hpool', hkeep', hlen', htx'⟩ :=
        ih turns (n + 1) h₁ hpool₁ (by omega) (by omega)
      refine ⟨r', eb', m', ?_, ?_, hpool', hkeep₁.trans hkeep', hlen', htx'⟩
      · rw [cleanTailLoop, if_neg hne]
        rw [show tail + (k + 1) = tail + 1 + k by omega, show n + (k + 1) = n + 1 + k by omega]
        exact hloop
      · rw [show tail + (k + 1) = tail + 1 + k by omega]
        exact h'

/-- An acknowledgement up to the transmit head moves the tail, any other is refused. -/
theorem cleanTailUpTo (h : SendWindow r start tail tx head payload m)
    (hpool : PoolHolds eb m (ownedIdx r.buff ++ rest)) (sequence : BitVec w) :
    (tx < tail + (sequence - r.tailSequence).toNat ∧
        sendRingCleanTailUpTo r eb sequence = (r, eb, .error .ringInvalidAcknowledge)) ∨
      (tail + (sequence - r.tailSequence).toNat ≤ tx ∧
        ∃ r' eb' m', sendRingCleanTailUpTo r eb sequence =
            (r', eb', .ok (sequence - r.tailSequence).toNat) ∧
          SendWindow r' start (tail + (sequence - r.tailSequence).toNat) tx head payload m' ∧
          PoolHolds eb' m' (ownedIdx r'.buff ++ rest) ∧ KeepsRest rest m m' ∧
          r'.length = r.length ∧ r'.txSequence = r.txSequence) := by
  have htail := h.tail_le_tx
  have hahead := h.txAhead
  have hlt := (sequence - r.tailSequence).isLt
  rcases Nat.lt_or_ge tx (tail + (sequence - r.tailSequence).toNat) with hbeyond | hle
  · refine .inl ⟨hbeyond, ?_⟩
    rw [sendRingCleanTailUpTo]
    exact if_pos (by omega)
  · refine .inr ⟨hle, ?_⟩
    have hseq : serial start (tail + (sequence - r.tailSequence).toNat) = sequence := by
      rw [h.tailSequence, exists_serial]
    obtain ⟨r', eb', m', hloop, hrest⟩ :=
      cleanLoop (sequence - r.tailSequence).toNat (2 ^ w) 0 h hpool hle (by omega)
    rw [hseq, Nat.zero_add] at hloop
    refine ⟨r', eb', m', ?_, hrest⟩
    have hnot : ¬(r.txSequence - r.tailSequence).toNat < (sequence - r.tailSequence).toNat := by
      omega
    rw [sendRingCleanTailUpTo]
    simp only [if_neg hnot, hloop]

/-! ## Scheduling -/

theorem scheduleResend (h : SendWindow r start tail tx head payload m) (sequence : BitVec w) :
    SendWindow (sendRingScheduleResend r sequence).1 start tail tx head payload m ∧
      SameButResend r (sendRingScheduleResend r sequence).1 := by
  have hle := h.resendLe
  rw [sendRingScheduleResend]
  split_ifs with hfull hrecall hdup
  · exact ⟨h, rfl, rfl⟩
  · exact ⟨h, rfl, rfl⟩
  · exact ⟨h, rfl, rfl⟩
  · exact ⟨h.ofResend (by omega) (by rw [List.length_set, h.resendLength]), rfl, rfl⟩

theorem scheduleMask (mask : UInt16) (turns : Nat) (sequence : BitVec w) (selectMask : UInt16)
    (h : SendWindow r start tail tx head payload m) :
    SendWindow (scheduleMaskLoop mask turns r sequence selectMask).1 start tail tx head payload m ∧
      SameButResend r (scheduleMaskLoop mask turns r sequence selectMask).1 := by
  induction turns generalizing r sequence selectMask with
  | zero => exact ⟨h, rfl, rfl⟩
  | succ turns ih =>
      obtain ⟨hone, hsame⟩ := h.scheduleResend sequence
      rw [scheduleMaskLoop]
      split
      · dsimp only
        split
        · exact ⟨hone, hsame⟩
        · obtain ⟨hrest, hsame'⟩ := ih (sequence + 1) (selectMask <<< 1) hone
          exact ⟨hrest, hsame'.buff.trans hsame.buff, hsame'.length.trans hsame.length⟩
      · exact ih (sequence + 1) (selectMask <<< 1) h

/-- A retransmit request changes the resend list only. -/
theorem scheduleResendsByMask (h : SendWindow r start tail tx head payload m)
    (sequence : BitVec w) (mask : UInt16) :
    SendWindow (sendRingScheduleResendsByMask r sequence mask).1 start tail tx head payload m ∧
      SameButResend r (sendRingScheduleResendsByMask r sequence mask).1 := by
  obtain ⟨hone, hsame⟩ := h.scheduleResend sequence
  rw [sendRingScheduleResendsByMask]
  dsimp only
  split
  · exact ⟨hone, hsame⟩
  · obtain ⟨hrest, hsame'⟩ := scheduleMask mask 16 (sequence + 1) 1 hone
    exact ⟨hrest, hsame'.buff.trans hsame.buff, hsame'.length.trans hsame.length⟩

end SendWindow

namespace SendRep

variable {r : SkySendRing w} {start : BitVec w} {tail tx head : Nat}
  {payload : Nat → Bytes} {m : Nat → Option Bytes} {eb : SkyElementBuffer}
  {rest : List Nat}

/-! ## Reading a packet to transmit -/

theorem readStored (h : SendRep r start tail tx head payload m) (hstores : Stores eb m)
    {u : Nat} (hu : tail ≤ u) (hu' : u < head) :
    skyElementBufferRead eb (r.item (u % r.length)).idx (skyPayloadMaxLen + 100) =
      .ok (payload u) := by
  have hle := h.payloadLe u hu hu'
  rw [hstores.read (h.stored hu hu').2.2, if_neg (by omega)]

theorem peekStored (h : SendRep r start tail tx head payload m) (hstores : Stores eb m)
    {u : Nat} (hu : tail ≤ u) (hu' : u < head) :
    ((skyElementBufferGetDataLength eb (r.item (u % r.length)).idx).map fun length =>
        (length, (r.item (u % r.length)).sequence)) =
      .ok ((payload u).length, serial start u) := by
  obtain ⟨-, hseq, hm⟩ := h.stored hu hu'
  rw [hstores.getDataLength hm, hseq]
  rfl

/-- A new packet is the one at the transmit head, which moves on. -/
theorem readNew (h : SendRep r start tail tx head payload m) (hstores : Stores eb m)
    (hlt : tx < head) :
    ∃ r', sendRingReadNewPacketToTx r eb = (r', .ok (payload tx, serial start tx)) ∧
      sendRingPeekNew r eb = .ok ((payload tx).length, serial start tx) ∧
      SendRep r' start tail (tx + 1) head payload m ∧ SameButResend r r' := by
  have hcount : sendRingCountPacketsToSend r false ≠ 0 := by
    rw [h.countNew]
    omega
  have hread := h.readStored hstores h.tail_le_tx hlt
  have hpeek := h.peekStored hstores h.tail_le_tx hlt
  rw [← h.txIdx] at hread hpeek
  have hwrap : ringWrap ((r.txHead : Int) + 1) r.length = (tx + 1) % r.length := by
    rw [h.txIdx]
    exact_mod_cast ringWrap_slot_add h.slots.pos tx 1
  have htail := h.tail_le_tx
  let read : SkySendRing w :=
    { r with txHead := ringWrap ((r.txHead : Int) + 1) r.length, txSequence := r.txSequence + 1 }
  refine ⟨read, ?_, ?_, { h with
    tail_le_tx := by omega, tx_le_head := hlt, txIdx := hwrap, txSequence := ?_ }, ⟨rfl, rfl⟩⟩
  · rw [sendRingReadNewPacketToTx, if_neg hcount, hread]
    show (read, Except.ok (payload tx, r.txSequence)) = _
    rw [h.txSequence]
  · rw [sendRingPeekNew, if_neg hcount]
    exact hpeek
  · show r.txSequence + 1 = _
    rw [h.txSequence, serial_succ]

/-- What is peeked at is what is read: a packet that can be recalled or, failing that,
a new one. -/
theorem readToTx (h : SendRep r start tail tx head payload m) (hstores : Stores eb m)
    (includeResend : Bool) :
    (∃ r' u tx', sendRingReadToTx r eb includeResend =
          (r', .ok (payload u, serial start u)) ∧
        sendRingPeekNextTxSizeAndSequence r eb includeResend =
          .ok ((payload u).length, serial start u) ∧
        SendRep r' start tail tx' head payload m ∧ SameButResend r r' ∧ tail ≤ u ∧ u < tx' ∧
        (tx' = tx ∨ tx' = tx + 1) ∧ (includeResend = false → u = tx ∧ tx' = tx + 1)) ∨
      (∃ r', sendRingReadToTx r eb includeResend = (r', .error .ringEmpty) ∧
        sendRingPeekNextTxSizeAndSequence r eb includeResend = .error .ringEmpty ∧
        SendRep r' start tail tx head payload m ∧ SameButResend r r' ∧ tx = head) := by
  have htail := h.tail_le_tx
  have hall := h.countAll
  have hnew := h.countNew
  by_cases hresend : includeResend = true ∧ 0 < r.resendCount
  · obtain ⟨rfl, hpos⟩ := hresend
    obtain ⟨r₁, hpop, hwindow, hsame, htailSeq⟩ := h.popResend hpos
    have h₁ : SendRep r₁ start tail tx head payload m := ⟨hwindow, h.payloadLe⟩
    have hcount : sendRingCountPacketsToSend r true ≠ 0 := by omega
    have hrecall := h.recallIndex (r.resendList.getD 0 0)
    have hrecall₁ := h₁.recallIndex (r.resendList.getD 0 0)
    rw [htailSeq] at hrecall₁
    by_cases hlt : tail + (r.resendList.getD 0 0 - r.tailSequence).toNat < tx
    · rw [if_pos hlt] at hrecall hrecall₁
      let u := tail + (r.resendList.getD 0 0 - r.tailSequence).toNat
      have hu' : u < head := lt_of_lt_of_le hlt h.tx_le_head
      have hread := h₁.readStored hstores (u := u) (by omega) hu'
      have hpeek := h.peekStored hstores (u := u) (by omega) hu'
      have hseq : serial start u = r.resendList.getD 0 0 := by
        show serial start (tail + (r.resendList.getD 0 0 - r.tailSequence).toNat) = _
        rw [h.tailSequence, exists_serial]
      refine .inl ⟨r₁, u, tx, ?_, ?_, h₁, hsame, by omega, hlt, .inl rfl,
        fun hf => by cases hf⟩
      · rw [sendRingReadToTx, if_pos ⟨rfl, hpos⟩, sendRingReadRecallPacketToTx, hpop]
        simp only [hrecall₁]
        rw [hread, hseq]
      · rw [sendRingPeekNextTxSizeAndSequence, if_neg hcount, if_pos ⟨rfl, hpos⟩, hrecall]
        exact hpeek
    · rw [if_neg hlt] at hrecall hrecall₁
      have hfall : sendRingReadToTx r eb true = sendRingReadNewPacketToTx r₁ eb := by
        rw [sendRingReadToTx, if_pos ⟨rfl, hpos⟩, sendRingReadRecallPacketToTx, hpop]
        simp only [hrecall₁]
      have hfall' : sendRingPeekNextTxSizeAndSequence r eb true = sendRingPeekNew r eb := by
        rw [sendRingPeekNextTxSizeAndSequence, if_neg hcount, if_pos ⟨rfl, hpos⟩, hrecall]
      rw [hfall, hfall']
      rcases Nat.lt_or_ge tx head with hnext | hge
      · obtain ⟨r₂, hread, -, h₂, hsame₂⟩ := h₁.readNew hstores hnext
        obtain ⟨-, -, hpeek, -, -⟩ := h.readNew hstores hnext
        exact .inl ⟨r₂, tx, tx + 1, hread, hpeek, h₂,
          ⟨hsame₂.buff.trans hsame.buff, hsame₂.length.trans hsame.length⟩, htail, by omega,
          .inr rfl, fun hf => by cases hf⟩
      · have heq : tx = head := le_antisymm h.tx_le_head hge
        exact .inr ⟨r₁, (h₁.readNew_empty eb heq).1, (h.readNew_empty eb heq).2, h₁, hsame, heq⟩
  · have hfall : sendRingReadToTx r eb includeResend = sendRingReadNewPacketToTx r eb := by
      rw [sendRingReadToTx, if_neg hresend]
    rcases Nat.lt_or_ge tx head with hnext | hge
    · obtain ⟨r₂, hread, hpeek, h₂, hsame₂⟩ := h.readNew hstores hnext
      have hcount : sendRingCountPacketsToSend r includeResend ≠ 0 := by
        cases includeResend <;> omega
      refine .inl ⟨r₂, tx, tx + 1, hfall.trans hread, ?_, h₂, hsame₂, htail, by omega, .inr rfl,
        fun _ => ⟨rfl, rfl⟩⟩
      rw [sendRingPeekNextTxSizeAndSequence, if_neg hcount, if_neg hresend, hpeek]
    · have heq : tx = head := le_antisymm h.tx_le_head hge
      obtain ⟨hread, hpeek⟩ := h.readNew_empty eb heq
      refine .inr ⟨r, hfall.trans hread, ?_, h, ⟨rfl, rfl⟩, heq⟩
      rw [sendRingPeekNextTxSizeAndSequence, if_neg hresend, hpeek]
      exact ite_self _

/-! ## The other operations -/

theorem mono (h : SendRep r start tail tx head payload m) {m' : Nat → Option Bytes}
    (hkeep : KeepsRest (ownedIdx r.buff) m m') : SendRep r start tail tx head payload m' :=
  ⟨h.toSendWindow.mono hkeep, h.payloadLe⟩

/-- A push appends at the head, unless the ring or the element buffer is full. -/
theorem push (h : SendRep r start tail tx head payload m)
    (hpool : PoolHolds eb m (ownedIdx r.buff ++ rest)) {p : Bytes}
    (hp : p.length ≤ skyPayloadMaxLen) :
    (∃ ret, sendRingPushPacketToSend r eb p = (r, eb, .error ret)) ∨
      ∃ r' eb' m', sendRingPushPacketToSend r eb p = (r', eb', .ok (serial start head)) ∧
        SendRep r' start tail tx (head + 1) (Function.update payload head p) m' ∧
        PoolHolds eb' m' (ownedIdx r'.buff ++ rest) ∧ KeepsRest rest m m' ∧
        r'.length = r.length := by
  have hp' : p.length < 65536 := by
    simp only [skyPayloadMaxLen] at hp
    omega
  obtain ⟨-, hfull⟩ | ⟨-, hno⟩ | ⟨-, r', eb', m', hpush, hwindow, hrest⟩ :=
    h.toSendWindow.push hpool hp'
  · exact .inl ⟨_, hfull⟩
  · exact .inl ⟨_, hno⟩
  · refine .inr ⟨r', eb', m', hpush, ⟨hwindow, fun u hu hu' => ?_⟩, hrest⟩
    by_cases heq : u = head
    · rwa [heq, Function.update_self]
    · rw [Function.update_of_ne heq]
      exact h.payloadLe u hu (by omega)

/-- An acknowledgement up to the transmit head moves the tail, any other is refused. -/
theorem cleanTailUpTo (h : SendRep r start tail tx head payload m)
    (hpool : PoolHolds eb m (ownedIdx r.buff ++ rest)) (sequence : BitVec w) :
    (tx < tail + (sequence - r.tailSequence).toNat ∧
        sendRingCleanTailUpTo r eb sequence = (r, eb, .error .ringInvalidAcknowledge)) ∨
      (tail + (sequence - r.tailSequence).toNat ≤ tx ∧
        ∃ r' eb' m', sendRingCleanTailUpTo r eb sequence =
            (r', eb', .ok (sequence - r.tailSequence).toNat) ∧
          SendRep r' start (tail + (sequence - r.tailSequence).toNat) tx head payload m' ∧
          PoolHolds eb' m' (ownedIdx r'.buff ++ rest) ∧ KeepsRest rest m m' ∧
          r'.length = r.length ∧ r'.txSequence = r.txSequence) := by
  obtain hbeyond | ⟨hle, r', eb', m', hclean, hwindow, hrest⟩ :=
    h.toSendWindow.cleanTailUpTo hpool sequence
  · exact .inl hbeyond
  · exact .inr ⟨hle, r', eb', m', hclean,
      ⟨hwindow, fun u hu hu' => h.payloadLe u (by omega) hu'⟩, hrest⟩

/-- A retransmit request changes the resend list only. -/
theorem scheduleResendsByMask (h : SendRep r start tail tx head payload m)
    (sequence : BitVec w) (mask : UInt16) :
    SendRep (sendRingScheduleResendsByMask r sequence mask).1 start tail tx head payload m ∧
      SameButResend r (sendRingScheduleResendsByMask r sequence mask).1 := by
  obtain ⟨hwindow, hsame⟩ := h.toSendWindow.scheduleResendsByMask sequence mask
  exact ⟨⟨hwindow, h.payloadLe⟩, hsame⟩

theorem reset (r : SkySendRing w) (start : BitVec w) (payload : Nat → Bytes)
    (m : Nat → Option Bytes) (hpos : 0 < r.length) (hle : r.length ≤ 2 ^ w) :
    SendRep (r.reset start) start 0 0 0 payload m := by
  have hnone : pendingPayload 0 0 payload = fun _ => none := by
    funext u
    simp [pendingPayload]
  refine ⟨⟨?_, le_rfl, le_rfl, by simpa [SkySendRing.reset] using hpos, hle, ?_, ?_, ?_, ?_, ?_,
    ?_, rfl, by simp [SkySendRing.reset], by simp [SkySendRing.reset]⟩, fun u _ hu => by omega⟩
  · rw [hnone]
    exact .vacant m start hpos
  all_goals simp [SkySendRing.reset]

/-- A wipe empties the ring and frees its chains. -/
theorem wipe (h : SendRep r start tail tx head payload m)
    (hpool : PoolHolds eb m (ownedIdx r.buff ++ rest)) (start' : BitVec w)
    (payload' : Nat → Bytes) :
    ∃ eb' m', skySendRingWipe r eb start' = (r.reset start', eb') ∧
      SendRep (r.reset start') start' 0 0 0 payload' m' ∧
      PoolHolds eb' m' (ownedIdx (r.reset start').buff ++ rest) ∧ KeepsRest rest m m' := by
  obtain ⟨m', hpool', hkeep⟩ := hpool.wipe
  refine ⟨_, m', rfl, reset r start' payload' m' h.slots.pos h.lengthLe, ?_, hkeep⟩
  rw [SkySendRing.reset, ownedIdx_replicate_vacant]
  exact hpool'

end SendRep

/-- The rings that `sky_send_ring_create` returns. -/
theorem skySendRingCreate_eq_some {length : Int} (hlength : 4 ≤ length) (start : BitVec w) :
    ∃ r : SkySendRing w, skySendRingCreate length start = some (r.reset start) ∧
      r.length = length.toNat := by
  rw [skySendRingCreate, if_neg (by omega)]
  exact ⟨_, rfl, rfl⟩

/-- A new ring is empty. -/
theorem skySendRingCreate_reset {length : Int} {start : BitVec w} {ring : SkySendRing w}
    (h : skySendRingCreate length start = some ring) :
    ∃ r : SkySendRing w, ring = r.reset start ∧ 0 < r.length ∧ r.length = length := by
  rw [skySendRingCreate] at h
  split at h
  · cases h
  · exact ⟨_, (Option.some.inj h).symm, by simp only; omega, by simp only; omega⟩

end Skylink
