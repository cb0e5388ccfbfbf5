import Mathlib.Data.Finset.Card
import Skylink.SequenceRing.Slots

/-!
# The receive ring

In unbounded sequence numbers the ring is a window of packets: those between the tail
and the head can be read, those up to the horizon may be missing. The head stops at
the first missing packet, or where the horizon would reach the tail.
-/

namespace Skylink

open SerialNumber

variable {w : Nat}

/-- The ring without the position of its head: `RcvRep` adds that the head is as far
as it can be. -/
structure RcvWindow (r : SkyRcvRing w) (start : BitVec w) (tail head : Nat)
    (held : Nat → Option Bytes) (m : Nat → Option Bytes) : Prop where
  slots : SlotsHold m r.buff r.length start tail held
  order : tail ≤ head
  room : head + r.horizonWidth + 1 ≤ tail + r.length
  tailIdx : r.tail = tail % r.length
  headIdx : r.head = head % r.length
  tailSequence : r.tailSequence = serial start tail
  headSequence : r.headSequence = serial start head
  readable : ∀ u, tail ≤ u → u < head → (held u).isSome
  before : ∀ u < tail, held u = none
  horizon : ∀ u, head + r.horizonWidth < u → held u = none
  count : ∃ s : Finset Nat, (∀ u, u ∈ s ↔ (held u).isSome) ∧ r.storageCount = s.card

/-- The head is at the first missing packet, or the horizon stalls it. -/
structure RcvRep (r : SkyRcvRing w) (start : BitVec w) (tail head : Nat)
    (held : Nat → Option Bytes) (m : Nat → Option Bytes) : Prop
    extends RcvWindow r start tail head held m where
  stop : held head = none ∨ head + r.horizonWidth + 1 = tail + r.length

namespace RcvWindow

variable {r : SkyRcvRing w} {start : BitVec w} {tail head : Nat}
  {held m : Nat → Option Bytes}

theorem mono (h : RcvWindow r start tail head held m) {m' : Nat → Option Bytes}
    (hkeep : KeepsRest (ownedIdx r.buff) m m') : RcvWindow r start tail head held m' :=
  { h with slots := h.slots.mono hkeep.same }

theorem countReadable (h : RcvWindow r start tail head held m) :
    rcvRingCountReadablePackets r = head - tail := by
  have horder := h.order
  have hroom := h.room
  rw [rcvRingCountReadablePackets, h.headIdx, h.tailIdx, ringWrap_sub h.order (by omega)]

theorem item_vacant_iff (h : RcvWindow r start tail head held m) {u : Nat} (hu : tail ≤ u)
    (hu' : u < tail + r.length) :
    (r.item (u % r.length)).idx = ebNullIdx ↔ held u = none :=
  h.slots.vacant_iff hu hu'

/-- A packet is stored under a fresh chain in an empty slot inside the horizon. -/
theorem fill (h : RcvWindow r start tail head held m) {u idx : Nat} (hu : head ≤ u)
    (hu' : u ≤ head + r.horizonWidth) (hfree : held u = none) (hfresh : m idx = none)
    (hidx : idx ≠ ebNullIdx) (src : Bytes) :
    RcvWindow
      { r.setItem (u % r.length) ⟨idx, serial start u⟩ with storageCount := r.storageCount + 1 }
      start tail head (Function.update held u (some src)) (Function.update m idx (some src)) := by
  have hroom := h.room
  have horder := h.order
  have hwindow : u < tail + r.length := by omega
  have hslots := h.slots.fill (horder.trans hu) hwindow hfresh hidx src
  refine ⟨hslots, horder, hroom, h.tailIdx, h.headIdx, h.tailSequence, h.headSequence,
    fun v hv hv' => ?_, fun v hv => ?_, fun v hv => ?_, ?_⟩
  · rw [Function.update_of_ne (by omega)]
    exact h.readable v hv hv'
  · rw [Function.update_of_ne (by omega)]
    exact h.before v hv
  · have hv' : head + r.horizonWidth < v := hv
    rw [Function.update_of_ne (by omega)]
    exact h.horizon v hv'
  · obtain ⟨s, hs, hcount⟩ := h.count
    have hnot : u ∉ s := by
      rw [hs u, hfree]
      simp
    refine ⟨insert u s, fun v => ?_, ?_⟩
    · by_cases hvu : v = u
      · simp [hvu]
      · simp [hvu, hs v]
    · simp [Finset.card_insert_of_notMem hnot, hcount]

/-- The packet at the tail is deleted, and the tail moves on. -/
theorem dropTail (h : RcvWindow r start tail head held m) (hlt : tail < head) {p : Bytes}
    (hp : held tail = some p) (hnodup : (ownedIdx r.buff).Nodup) :
    RcvWindow
      { r.setItem r.tail RingItem.vacant with
        storageCount := r.storageCount - 1
        tail := ringWrap ((r.tail : Int) + 1) r.length
        tailSequence := r.tailSequence + 1 }
      start (tail + 1) head (Function.update held tail none)
      (Function.update m (r.buff.getD (tail % r.length) RingItem.vacant).idx none) := by
  have hroom := h.room
  have hslots := (h.slots.clear le_rfl hp hnodup).shift (Function.update_self _ _ _)
  rw [← h.tailIdx] at hslots
  refine ⟨?_, hlt, ?_, ?_, h.headIdx, ?_, h.headSequence, fun v hv hv' => ?_, fun v hv => ?_,
    fun v hv => ?_, ?_⟩
  · rw [← h.tailIdx]
    exact hslots
  · show head + r.horizonWidth + 1 ≤ tail + 1 + r.length
    omega
  · show ringWrap ((r.tail : Int) + 1) r.length = (tail + 1) % r.length
    rw [h.tailIdx]
    exact_mod_cast ringWrap_slot_add h.slots.pos tail 1
  · show r.tailSequence + 1 = _
    rw [h.tailSequence, serial_succ]
  · rw [Function.update_of_ne (by omega)]
    exact h.readable v (by omega) hv'
  · by_cases hvt : v = tail
    · rw [hvt, Function.update_self]
    · rw [Function.update_of_ne hvt]
      exact h.before v (by omega)
  · have hv' : head + r.horizonWidth < v := hv
    rw [Function.update_of_ne (by omega)]
    exact h.horizon v hv'
  · obtain ⟨s, hs, hcount⟩ := h.count
    have hmem : tail ∈ s := by
      rw [hs tail, hp]
      rfl
    refine ⟨s.erase tail, fun v => ?_, ?_⟩
    · by_cases hvt : v = tail
      · simp [hvt]
      · simp [hvt, hs v]
    · have hpos : 0 < s.card := Finset.card_pos.mpr ⟨tail, hmem⟩
      simp only [hcount, Finset.card_erase_of_mem hmem]
      omega

/-- One turn of the loop that advances the head. -/
theorem advance (h : RcvWindow r start tail head held m) (hheld : (held head).isSome)
    (hroom : head + r.horizonWidth + 1 < tail + r.length) :
    RcvWindow
      { r with
        head := ringWrap (r.head + 1 : Nat) r.length
        headSequence := r.headSequence + 1 } start tail (head + 1) held m := by
  have horder := h.order
  have hidx : ringWrap ((r.head + 1 : Nat) : Int) r.length = (head + 1) % r.length := by
    rw [h.headIdx, ringWrap_slot_add h.slots.pos]
  have hseq : r.headSequence + 1 = serial start (head + 1) := by
    rw [h.headSequence, serial_succ]
  have hreadable : ∀ u, tail ≤ u → u < head + 1 → (held u).isSome := by
    intro u hu hu'
    by_cases hlast : u = head
    · rwa [hlast]
    · exact h.readable u hu (by omega)
  have hhorizon : ∀ u, head + 1 + r.horizonWidth < u → held u = none :=
    fun u hu => h.horizon u (by omega)
  exact ⟨h.slots, by omega, by simp only; omega, h.tailIdx, hidx, h.tailSequence, hseq,
    hreadable, h.before, hhorizon, h.count⟩

/-- The loop moves the head as far as it can go; induction on the turns left. -/
theorem advanceLoop (h : RcvWindow r start tail head held m) (advanced turns : Nat)
    (hturns : tail + r.length ≤ head + r.horizonWidth + 1 + turns) :
    ∃ r' n, rcvRingAdvanceHeadLoop turns r advanced = (r', advanced + n) ∧
      RcvRep r' start tail (head + n) held m ∧ r'.buff = r.buff ∧ r'.length = r.length ∧
      r'.horizonWidth = r.horizonWidth := by
  have hroom := h.room
  have horder := h.order
  induction turns generalizing r head advanced with
  | zero =>
      refine ⟨r, 0, rfl, ⟨h, .inr ?_⟩, rfl, rfl, rfl⟩
      show head + r.horizonWidth + 1 = tail + r.length
      omega
  | succ turns ih =>
      rw [rcvRingAdvanceHeadLoop]
      by_cases hnull : (r.item r.head).idx = ebNullIdx
      · rw [if_pos hnull]
        rw [h.headIdx, h.item_vacant_iff horder (by omega)] at hnull
        exact ⟨r, 0, rfl, ⟨h, .inl hnull⟩, rfl, rfl, rfl⟩
      · rw [if_neg hnull]
        have hsome : (held head).isSome := by
          rw [h.headIdx, h.item_vacant_iff horder (by omega)] at hnull
          exact Option.isSome_iff_ne_none.mpr hnull
        have hslot : ringWrap ((r.head + r.horizonWidth + 1 : Nat) : Int) r.length =
            (head + r.horizonWidth + 1) % r.length := by
          rw [h.headIdx, Nat.add_assoc, ringWrap_slot_add h.slots.pos, Nat.add_assoc]
        by_cases hstall : head + r.horizonWidth + 1 = tail + r.length
        · have heq : ringWrap ((r.head + r.horizonWidth + 1 : Nat) : Int) r.length = r.tail := by
            rw [hslot, h.tailIdx, hstall, Nat.add_mod_right]
          rw [if_pos (by exact_mod_cast heq)]
          exact ⟨r, 0, rfl, ⟨h, .inr hstall⟩, rfl, rfl, rfl⟩
        · have hne : ringWrap ((r.head + r.horizonWidth + 1 : Nat) : Int) r.length ≠ r.tail := by
            rw [hslot, h.tailIdx]
            intro heq
            have := slot_inj (c := tail) (n := r.length) (by omega) (by omega) le_rfl
              (by have := h.slots.pos; omega) heq
            omega
          rw [if_neg (by exact_mod_cast hne)]
          have hnext := h.advance hsome (by omega)
          obtain ⟨r', n, hloop, hrep, hbuff, hlen, hwidth⟩ := ih hnext (advanced + 1)
            (by simp only; omega) hnext.room hnext.order
          refine ⟨r', n + 1, ?_, ?_, hbuff, hlen, hwidth⟩
          · rw [← Nat.add_assoc, Nat.add_right_comm]
            exact_mod_cast hloop
          · rw [Nat.add_comm n 1, ← Nat.add_assoc]
            exact hrep

/-- After an operation has filled or cleared a slot the head moves on. -/
theorem advanceHead (h : RcvWindow r start tail head held m) :
    ∃ r' n, rcvRingAdvanceHead r = (r', n) ∧ RcvRep r' start tail (head + n) held m ∧
      r'.buff = r.buff ∧ r'.length = r.length ∧ r'.horizonWidth = r.horizonWidth := by
  have horder := h.order
  obtain ⟨r', n, hloop, hrest⟩ := h.advanceLoop 0 r.length (by omega)
  rw [Nat.zero_add] at hloop
  exact ⟨r', n, hloop, hrest⟩

/-- The slot of a packet inside the horizon. -/
theorem slot_ahead (h : RcvWindow r start tail head held m) (d : Nat) :
    ringWrap ((r.head + d : Nat) : Int) r.length = (head + d) % r.length := by
  rw [h.headIdx, ringWrap_slot_add h.slots.pos]

end RcvWindow

theorem RcvRep.mono {r : SkyRcvRing w} {start : BitVec w} {tail head : Nat}
    {held m m' : Nat → Option Bytes} (h : RcvRep r start tail head held m)
    (hkeep : KeepsRest (ownedIdx r.buff) m m') : RcvRep r start tail head held m' :=
  ⟨h.toRcvWindow.mono hkeep, h.stop⟩

/-- What a wipe and a fresh ring represent. -/
theorem rcvRep_reset (r : SkyRcvRing w) (start : BitVec w) (m : Nat → Option Bytes)
    (hroom : r.horizonWidth + 1 ≤ r.length) :
    RcvRep (r.reset start) start 0 0 (fun _ => none) m := by
  refine ⟨⟨.vacant m start (by omega), le_rfl, ?_, ?_, ?_, ?_, ?_, ?_, ?_, ?_,
    ⟨∅, by simp, rfl⟩⟩, .inl rfl⟩
  · simpa [SkyRcvRing.reset] using hroom
  · simp [SkyRcvRing.reset]
  · simp [SkyRcvRing.reset]
  · simp [SkyRcvRing.reset]
  · simp [SkyRcvRing.reset]
  · intro u _ hu
    omega
  · intro u hu
    omega
  · intro u _
    rfl

/-- A wipe empties the ring and frees its chains. -/
theorem RcvWindow.wipe {r : SkyRcvRing w} {start : BitVec w} {tail head : Nat}
    {held m : Nat → Option Bytes} {eb : SkyElementBuffer} {rest : List Nat}
    (h : RcvWindow r start tail head held m)
    (hpool : PoolHolds eb m (ownedIdx r.buff ++ rest)) (start' : BitVec w) :
    ∃ eb' m', skyRcvRingWipe r eb start' = (r.reset start', eb') ∧
      RcvRep (r.reset start') start' 0 0 (fun _ => none) m' ∧
      PoolHolds eb' m' (ownedIdx (r.reset start').buff ++ rest) ∧ KeepsRest rest m m' := by
  have horder := h.order
  have hroom := h.room
  obtain ⟨m', hpool', hkeep⟩ := hpool.wipe
  refine ⟨_, m', rfl, rcvRep_reset r start' m' (by omega), ?_, hkeep⟩
  rw [SkyRcvRing.reset, ownedIdx_replicate_vacant]
  exact hpool'

/-- The rings that `sky_rcv_ring_create` returns. -/
theorem skyRcvRingCreate_eq_some {length horizonWidth : Int} (hwidth : 0 ≤ horizonWidth)
    (hroom : horizonWidth + 3 ≤ length) (start : BitVec w) :
    ∃ r : SkyRcvRing w, skyRcvRingCreate length horizonWidth start = some (r.reset start) ∧
      r.length = length.toNat ∧ r.horizonWidth = min horizonWidth.toNat arqMaximumHorizon := by
  rw [skyRcvRingCreate, if_neg (by omega), if_neg (by omega)]
  exact ⟨_, rfl, rfl, rfl⟩

/-- A new ring is empty and has room behind the horizon. -/
theorem skyRcvRingCreate_reset {length horizonWidth : Int} {start : BitVec w}
    {ring : SkyRcvRing w} (h : skyRcvRingCreate length horizonWidth start = some ring) :
    ∃ r : SkyRcvRing w, ring = r.reset start ∧ r.horizonWidth + 1 ≤ r.length := by
  rw [skyRcvRingCreate] at h
  split at h
  · cases h
  · split at h
    · cases h
    · refine ⟨_, (Option.some.inj h).symm, ?_⟩
      simp only
      omega

section Push

variable {r : SkyRcvRing w} {start : BitVec w} {tail head : Nat}
  {held m : Nat → Option Bytes} {eb : SkyElementBuffer} {rest : List Nat} {src : Bytes}
  {sequence : BitVec w}

/-- Sequences beyond the horizon are refused. -/
theorem rcvRingPush_beyond (hd : r.horizonWidth < (sequence - r.headSequence).toNat) :
    rcvRingPushRxPacket r eb src sequence = (r, eb, .error .ringInvalidSequence) := by
  rw [rcvRingPushRxPacket]
  simp only [hd, if_true]

/-- A packet that is held already is refused. -/
theorem RcvRep.push_held (h : RcvRep r start tail head held m)
    (hd : (sequence - r.headSequence).toNat ≤ r.horizonWidth)
    (hheld : (held (head + (sequence - r.headSequence).toNat)).isSome) :
    rcvRingPushRxPacket r eb src sequence = (r, eb, .error .ringPacketAlreadyIn) := by
  have hroom := h.room
  have horder := h.order
  have hitem : (r.item ((head + (sequence - r.headSequence).toNat) % r.length)).idx ≠
      ebNullIdx := by
    rw [Ne, h.item_vacant_iff (by omega) (by omega)]
    exact Option.isSome_iff_ne_none.mp hheld
  rw [rcvRingPushRxPacket, if_neg (by omega)]
  have hslot := h.slot_ahead (sequence - r.headSequence).toNat
  push_cast at hslot
  simp only [hslot]
  rw [if_pos hitem]

/-- A new packet inside the horizon is stored under its sequence, space permitting. -/
theorem RcvRep.push_new (h : RcvRep r start tail head held m)
    (hpool : PoolHolds eb m (ownedIdx r.buff ++ rest)) (hsrc : src.length < 65536)
    (hd : (sequence - r.headSequence).toNat ≤ r.horizonWidth)
    (hfree : held (head + (sequence - r.headSequence).toNat) = none) :
    rcvRingPushRxPacket r eb src sequence = (r, eb, .error .ebufferNoSpace) ∨
      ∃ r' eb' n m', rcvRingPushRxPacket r eb src sequence = (r', eb', .ok n) ∧
        RcvRep r' start tail (head + n)
          (Function.update held (head + (sequence - r.headSequence).toNat) (some src)) m' ∧
        PoolHolds eb' m' (ownedIdx r'.buff ++ rest) ∧ KeepsRest rest m m' ∧
        r'.length = r.length ∧ r'.horizonWidth = r.horizonWidth := by
  have hroom := h.room
  have horder := h.order
  let u := head + (sequence - r.headSequence).toNat
  have hu : tail ≤ u := by omega
  have hu' : u < tail + r.length := by omega
  have hslot : ringWrap ((r.head : Int) + ((sequence - r.headSequence).toNat : Int)) r.length =
      u % r.length := by
    exact_mod_cast h.slot_ahead (sequence - r.headSequence).toNat
  have hnull : (r.item (u % r.length)).idx = ebNullIdx := (h.item_vacant_iff hu hu').mpr hfree
  have hseq : serial start u = sequence := by
    show serial start (head + (sequence - r.headSequence).toNat) = sequence
    rw [h.headSequence, exists_serial]
  have hlt := h.slots.slot_lt u
  have hvacant : r.buff[u % r.length].idx = ebNullIdx := by
    rwa [SkyRcvRing.item, List.getD_eq_getElem _ _ hlt] at hnull
  rw [rcvRingPushRxPacket, if_neg (by omega), hslot, if_neg (not_not_intro hnull)]
  obtain hno | ⟨idx, eb', hstore, hfresh, hidx, hkeep, hpool'⟩ := hpool.store hsrc hlt hvacant
  · rw [hno]
    exact .inl rfl
  · rw [hstore]
    let filled : SkyRcvRing w :=
      { r.setItem (u % r.length) ⟨idx, sequence⟩ with storageCount := r.storageCount + 1 }
    have hwindow : RcvWindow filled start tail head (Function.update held u (some src))
        (Function.update m idx (some src)) := by
      have hfilled := h.toRcvWindow.fill (Nat.le_add_right _ _) (Nat.add_le_add_left hd _) hfree
        hfresh hidx src
      rwa [hseq] at hfilled
    obtain ⟨r', n, hadvance, hrep, hbuff, hlen, hwidth⟩ := hwindow.advanceHead
    refine .inr ⟨r', eb', n, _, ?_, hrep, ?_, hkeep, hlen, hwidth⟩
    · show ((rcvRingAdvanceHead filled).1, eb', Except.ok (rcvRingAdvanceHead filled).2) = _
      rw [hadvance]
    · rw [hbuff]
      exact hpool' sequence

end Push

section Read

variable {r : SkyRcvRing w} {start : BitVec w} {tail head : Nat}
  {held m : Nat → Option Bytes} {eb : SkyElementBuffer} {rest : List Nat}

theorem RcvRep.read_empty (h : RcvRep r start tail head held m) (hempty : head = tail)
    (maxLength : Nat) :
    rcvRingReadNextReceived r eb maxLength = (r, eb, .error .ringEmpty) := by
  rw [rcvRingReadNextReceived, h.countReadable, hempty, Nat.sub_self]
  rfl

/-- The packet at the tail is returned, unless the target is too short. -/
theorem RcvRep.read (h : RcvRep r start tail head held m)
    (hpool : PoolHolds eb m (ownedIdx r.buff ++ rest)) (hlt : tail < head) {p : Bytes}
    (hp : held tail = some p) (maxLength : Nat) :
    (maxLength < p.length ∧ rcvRingReadNextReceived r eb maxLength =
        (r, eb, .error .ebufferTooLongPayload)) ∨
      (p.length ≤ maxLength ∧ ∃ r' eb' n m',
        rcvRingReadNextReceived r eb maxLength = (r', eb', .ok (0, p)) ∧
        RcvRep r' start (tail + 1) (head + n) (Function.update held tail none) m' ∧
        PoolHolds eb' m' (ownedIdx r'.buff ++ rest) ∧ KeepsRest rest m m' ∧
        r'.length = r.length ∧ r'.horizonWidth = r.horizonWidth) := by
  obtain ⟨hwin, hidx, hseq, hm⟩ := h.slots.held le_rfl hp
  have hroom := h.room
  have hcount : rcvRingCountReadablePackets r ≠ 0 := by
    rw [h.countReadable]
    omega
  have hitem : r.item r.tail = r.buff.getD (tail % r.length) RingItem.vacant := by
    rw [SkyRcvRing.item, h.tailIdx]
  have hread := hpool.stores.read hm maxLength
  rw [rcvRingReadNextReceived, if_neg hcount]
  simp only [hitem, hread]
  by_cases hshort : maxLength < p.length
  · rw [if_pos hshort]
    exact .inl ⟨hshort, rfl⟩
  · rw [if_neg hshort]
    refine .inr ⟨by omega, ?_⟩
    have hslot := h.slots.slot_lt tail
    have hget : r.buff.getD (tail % r.length) RingItem.vacant = r.buff[tail % r.length] :=
      List.getD_eq_getElem _ _ hslot
    rw [hget] at hidx
    obtain ⟨hpool', hkeep⟩ := hpool.delete hslot hidx
    rw [← hget] at hpool' hkeep
    let cleared : SkyRcvRing w :=
      { r.setItem r.tail RingItem.vacant with
        storageCount := r.storageCount - 1
        tail := ringWrap ((r.tail : Int) + 1) r.length
        tailSequence := r.tailSequence + 1 }
    have hnodup := (List.nodup_append.mp hpool.owns.nodup).1
    have hwindow : RcvWindow cleared start (tail + 1) head (Function.update held tail none)
        (Function.update m (r.buff.getD (tail % r.length) RingItem.vacant).idx none) :=
      h.toRcvWindow.dropTail hlt hp hnodup
    obtain ⟨r', n, hadvance, hrep, hbuff, hlen, hwidth⟩ := hwindow.advanceHead
    let eb' := skyElementBufferDelete eb (r.buff.getD (tail % r.length) RingItem.vacant).idx
    refine ⟨r', eb', n, _, ?_, hrep, ?_, hkeep, hlen, hwidth⟩
    · show ((rcvRingAdvanceHead cleared).1, eb', Except.ok (0, p)) = _
      rw [hadvance]
    · rw [hbuff]
      show PoolHolds _ _ (ownedIdx (r.buff.set r.tail RingItem.vacant) ++ rest)
      rw [h.tailIdx]
      exact hpool'

end Read

end Skylink
