import Mathlib.Data.List.GetD
import Mathlib.Data.List.Perm.Basic
import Mathlib.Logic.Function.Basic
import Skylink.ElementBuffer.Runs
import Skylink.Library.SerialNumber
import Skylink.SequenceRing.Model

/-!
# What the slots of a ring hold

The slots of a ring are read as a window of an unbounded sequence of optional
payloads. The payloads live in the element buffer; the rings of a channel share it,
and every stored chain belongs to one slot.
-/

namespace Skylink

open SerialNumber

variable {w : Nat}

theorem ringWrap_natCast {len : Nat} (hlen : 0 < len) (n : Nat) :
    ringWrap (n : Int) len = n % len := by
  rw [ringWrap, positiveModulo_eq_emod (by omega)]
  norm_cast

theorem ringWrap_sub {len a b : Nat} (hba : b ≤ a) (hlt : a - b < len) :
    ringWrap (((a % len : Nat) : Int) - ((b % len : Nat) : Int)) len = a - b := by
  rw [ringWrap, positiveModulo_eq_emod (by omega), slot_sub hba hlt]
  rfl

theorem ringWrap_slot_add {len : Nat} (hlen : 0 < len) (a k : Nat) :
    ringWrap ((a % len + k : Nat) : Int) len = (a + k) % len := by
  rw [ringWrap_natCast hlen, slot_add]

/-! ## Ownership of chains -/

/-- The chains that the items of a ring refer to. -/
def ownedIdx (items : List (RingItem w)) : List Nat :=
  (items.map RingItem.idx).filter fun idx => decide (idx ≠ ebNullIdx)

/-- The stored chains are exactly those in the list, each once. -/
structure Owns (idxs : List Nat) (m : Nat → Option Bytes) : Prop where
  nodup : idxs.Nodup
  stored : ∀ i, i ∈ idxs ↔ (m i).isSome

theorem PoolOk.owns {b : SkyElementBuffer} {live : List Chain} {m : Nat → Option Bytes}
    (h : PoolOk b live) (hmap : ∀ idx p, m idx = some p ↔ Holds live idx p) :
    Owns (liveHeads live) m := by
  refine ⟨h.liveHeads_nodup, fun i => ?_⟩
  rw [PoolOk.mem_liveHeads, Option.isSome_iff_exists]
  simp only [hmap, Holds]
  constructor
  · rintro ⟨c, hc, hidx⟩
    exact ⟨c.payload, c, hc, hidx, rfl⟩
  · rintro ⟨_, c, hc, hidx, -⟩
    exact ⟨c, hc, hidx⟩

/-- The indices that are stored are the heads of the live chains. -/
theorem Stores.exists_owns {b : SkyElementBuffer} {m : Nat → Option Bytes} (h : Stores b m) :
    ∃ idxs, Owns idxs m := by
  obtain ⟨live, hok, hmap⟩ := h
  exact ⟨liveHeads live, hok.owns hmap⟩

theorem ownedIdx_set_perm {items : List (RingItem w)} {i : Nat} (hi : i < items.length)
    (item : RingItem w) :
    (ownedIdx (items.set i item)).Perm (ownedIdx (item :: items.eraseIdx i)) :=
  ((List.set_perm_cons_eraseIdx hi item).map _).filter _

theorem ownedIdx_getElem_perm {items : List (RingItem w)} {i : Nat} (hi : i < items.length) :
    (ownedIdx items).Perm (ownedIdx (items[i] :: items.eraseIdx i)) :=
  ((List.getElem_cons_eraseIdx_perm hi).symm.map _).filter _

theorem ownedIdx_cons_vacant {item : RingItem w} (items : List (RingItem w))
    (h : item.idx = ebNullIdx) : ownedIdx (item :: items) = ownedIdx items := by
  simp [ownedIdx, h]

theorem ownedIdx_cons_held {item : RingItem w} (items : List (RingItem w))
    (h : item.idx ≠ ebNullIdx) : ownedIdx (item :: items) = item.idx :: ownedIdx items := by
  simp [ownedIdx, h]

theorem ownedIdx_replicate_vacant (n : Nat) :
    ownedIdx (List.replicate n (RingItem.vacant : RingItem w)) = [] := by
  simp [ownedIdx, RingItem.vacant]

/-- Filling a vacant slot. -/
theorem ownedIdx_fill_perm {items : List (RingItem w)} {i : Nat} (hi : i < items.length)
    (hvacant : items[i].idx = ebNullIdx) (item : RingItem w) (h : item.idx ≠ ebNullIdx) :
    (ownedIdx (items.set i item)).Perm (item.idx :: ownedIdx items) := by
  have herase := ownedIdx_getElem_perm hi
  rw [ownedIdx_cons_vacant _ hvacant] at herase
  have hset := ownedIdx_set_perm hi item
  rw [ownedIdx_cons_held _ h] at hset
  exact hset.trans (herase.symm.cons _)

/-- Clearing a slot. -/
theorem ownedIdx_clear_perm {items : List (RingItem w)} {i : Nat} (hi : i < items.length)
    (hheld : items[i].idx ≠ ebNullIdx) :
    (ownedIdx items).Perm (items[i].idx :: ownedIdx (items.set i RingItem.vacant)) := by
  have herase := ownedIdx_getElem_perm hi
  rw [ownedIdx_cons_held _ hheld] at herase
  have hset := ownedIdx_set_perm hi RingItem.vacant
  rw [ownedIdx_cons_vacant _ rfl] at hset
  exact herase.trans (hset.symm.cons _)

theorem Owns.store {idxs idxs' : List Nat} {m : Nat → Option Bytes} (h : Owns idxs m) {idx : Nat}
    (hfresh : m idx = none) (hperm : idxs'.Perm (idx :: idxs)) (p : Bytes) :
    Owns idxs' (Function.update m idx (some p)) := by
  have hnot : idx ∉ idxs := by
    rw [h.stored, hfresh]
    simp
  refine ⟨hperm.nodup_iff.mpr (List.nodup_cons.mpr ⟨hnot, h.nodup⟩), fun i => ?_⟩
  rw [hperm.mem_iff, List.mem_cons]
  by_cases hi : i = idx
  · simp [hi]
  · simp [hi, h.stored]

theorem Owns.delete {idxs idxs' : List Nat} {m : Nat → Option Bytes} (h : Owns idxs m) {idx : Nat}
    (hperm : idxs.Perm (idx :: idxs')) : Owns idxs' (Function.update m idx none) := by
  have hnodup := List.nodup_cons.mp (hperm.nodup_iff.mp h.nodup)
  refine ⟨hnodup.2, fun i => ?_⟩
  by_cases hi : i = idx
  · simp [hi, hnodup.1]
  · rw [Function.update_of_ne hi, ← h.stored, hperm.mem_iff, List.mem_cons]
    simp [hi]

/-- The element buffer stores `m`, whose chains are owned as listed. -/
structure PoolHolds (eb : SkyElementBuffer) (m : Nat → Option Bytes) (idxs : List Nat) :
    Prop where
  stores : Stores eb m
  owns : Owns idxs m

theorem PoolHolds.perm {eb : SkyElementBuffer} {m : Nat → Option Bytes} {idxs idxs' : List Nat}
    (h : PoolHolds eb m idxs) (hperm : idxs.Perm idxs') : PoolHolds eb m idxs' :=
  ⟨h.stores, hperm.nodup_iff.mp h.owns.nodup,
    fun i => hperm.mem_iff.symm.trans (h.owns.stored i)⟩

/-- A buffer after any use: its live payloads belong to someone. -/
theorem TrackedBuffer.exists_poolHolds {usableElementSize elementCount : Nat}
    (hu : 2 ≤ usableElementSize) (hc : elementCount ≤ 65530) (ops : List BufferOp)
    (hops : ∀ op ∈ ops, op.Valid (skyElementBufferCreate usableElementSize elementCount)) :
    ∃ rest m, PoolHolds ((TrackedBuffer.create usableElementSize elementCount).run ops).buffer
        m rest ∧
      SameShape (skyElementBufferCreate usableElementSize elementCount)
        ((TrackedBuffer.create usableElementSize elementCount).run ops).buffer := by
  have hstores := TrackedBuffer.run_stores (t := .create usableElementSize elementCount)
    (Stores.create hu hc) hops
  obtain ⟨rest, howns⟩ := hstores.exists_owns
  exact ⟨rest, _, ⟨hstores, howns⟩, TrackedBuffer.run_sameShape _ ops⟩

/-- An operation of one ring keeps the chains of the rest of the channel. -/
structure KeepsRest (rest : List Nat) (m m' : Nat → Option Bytes) : Prop where
  same : ∀ i ∈ rest, m' i = m i

theorem KeepsRest.refl (rest : List Nat) (m : Nat → Option Bytes) : KeepsRest rest m m :=
  ⟨fun _ _ => rfl⟩

theorem KeepsRest.trans {rest : List Nat} {m m' m'' : Nat → Option Bytes}
    (h : KeepsRest rest m m') (h' : KeepsRest rest m' m'') : KeepsRest rest m m'' :=
  ⟨fun i hi => (h'.same i hi).trans (h.same i hi)⟩

/-- Storing a payload fills a vacant slot or finds no space. -/
theorem PoolHolds.store {eb : SkyElementBuffer} {m : Nat → Option Bytes}
    {items : List (RingItem w)} {rest : List Nat} (h : PoolHolds eb m (ownedIdx items ++ rest))
    {p : Bytes} (hp : p.length < 65536) {i : Nat} (hi : i < items.length)
    (hvacant : items[i].idx = ebNullIdx) :
    skyElementBufferStore eb p = (eb, .error .ebufferNoSpace) ∨
      ∃ idx eb', skyElementBufferStore eb p = (eb', .ok idx) ∧ m idx = none ∧
        idx ≠ ebNullIdx ∧ KeepsRest rest m (Function.update m idx (some p)) ∧
        ∀ sequence, PoolHolds eb' (Function.update m idx (some p))
          (ownedIdx (items.set i ⟨idx, sequence⟩) ++ rest) := by
  obtain hno | ⟨idx, eb', hstore, hfresh, hlt, hstores, -⟩ := h.stores.store hp
  · exact .inl hno
  · have hnull : idx ≠ ebNullIdx := by
      simp only [ebNullIdx]
      omega
    refine .inr ⟨idx, eb', hstore, hfresh, hnull, ⟨fun j hj => ?_⟩, fun sequence => ?_⟩
    · have hstored := (h.owns.stored j).mp (List.mem_append_right _ hj)
      rw [Function.update_of_ne]
      rintro rfl
      simp [hfresh] at hstored
    · refine ⟨hstores, h.owns.store hfresh ?_ p⟩
      exact (ownedIdx_fill_perm hi hvacant ⟨idx, sequence⟩ hnull).append_right rest

/-- Deleting the chain of a slot clears the slot. -/
theorem PoolHolds.delete {eb : SkyElementBuffer} {m : Nat → Option Bytes}
    {items : List (RingItem w)} {rest : List Nat} (h : PoolHolds eb m (ownedIdx items ++ rest))
    {i : Nat} (hi : i < items.length) (hheld : items[i].idx ≠ ebNullIdx) :
    PoolHolds (skyElementBufferDelete eb items[i].idx) (Function.update m items[i].idx none)
        (ownedIdx (items.set i RingItem.vacant) ++ rest) ∧
      KeepsRest rest m (Function.update m items[i].idx none) := by
  have hperm := (ownedIdx_clear_perm hi hheld).append_right rest
  have hmem : items[i].idx ∈ ownedIdx items ++ rest :=
    hperm.mem_iff.mpr List.mem_cons_self
  obtain ⟨p, hp⟩ := Option.isSome_iff_exists.mp ((h.owns.stored _).mp hmem)
  refine ⟨⟨h.stores.delete hp, h.owns.delete hperm⟩, ⟨fun j hj => ?_⟩⟩
  rw [Function.update_of_ne]
  rintro rfl
  exact (List.nodup_cons.mp (hperm.nodup_iff.mp h.owns.nodup)).1 (List.mem_append_right _ hj)

/-- A wipe deletes the chains of its ring and no others; induction on the slots. -/
theorem PoolHolds.wipe {eb : SkyElementBuffer} {m : Nat → Option Bytes} {rest : List Nat}
    (items : List (RingItem w)) (h : PoolHolds eb m (ownedIdx items ++ rest)) :
    ∃ m', PoolHolds (wipePayloads items eb) m' rest ∧ KeepsRest rest m m' := by
  induction items generalizing eb m with
  | nil => exact ⟨m, h, .refl rest m⟩
  | cons item items ih =>
      by_cases hnull : item.idx = ebNullIdx
      · rw [ownedIdx_cons_vacant _ hnull] at h
        have hstep : wipePayloads (item :: items) eb = wipePayloads items eb := by
          simp [wipePayloads, hnull]
        rw [hstep]
        exact ih h
      · obtain ⟨hpool, hkeep⟩ := h.delete (i := 0) (by simp) hnull
        have howned : ownedIdx ((item :: items).set 0 RingItem.vacant) = ownedIdx items :=
          ownedIdx_cons_vacant _ rfl
        rw [howned] at hpool
        obtain ⟨m', hpool', hkeep'⟩ := ih hpool
        have hstep : wipePayloads (item :: items) eb =
            wipePayloads items (skyElementBufferDelete eb item.idx) := by
          simp [wipePayloads, hnull]
        rw [hstep]
        exact ⟨m', hpool', hkeep.trans hkeep'⟩

/-! ## Slots -/

/-- What a slot looks like that holds nothing, or a payload under a sequence. -/
def HoldsItem (m : Nat → Option Bytes) (item : RingItem w) (sequence : BitVec w) :
    Option Bytes → Prop
  | none => item = RingItem.vacant
  | some p => item.idx ≠ ebNullIdx ∧ item.sequence = sequence ∧ m item.idx = some p

/-- The slots hold the values of the window of full length that starts at `base`. -/
structure SlotsHold (m : Nat → Option Bytes) (buff : List (RingItem w)) (len : Nat)
    (start : BitVec w) (base : Nat) (val : Nat → Option Bytes) : Prop where
  length : buff.length = len
  pos : 0 < len
  item : ∀ u, base ≤ u → u < base + len →
    HoldsItem m (buff.getD (u % len) RingItem.vacant) (serial start u) (val u)
  outside : ∀ u, base + len ≤ u → val u = none

namespace SlotsHold

variable {m : Nat → Option Bytes} {buff : List (RingItem w)} {len base : Nat}
  {start : BitVec w} {val : Nat → Option Bytes}

theorem slot_lt (h : SlotsHold m buff len start base val) (u : Nat) : u % len < buff.length := by
  rw [h.length]
  exact Nat.mod_lt _ h.pos

/-- A slot is vacant exactly when its value is absent. -/
theorem vacant_iff (h : SlotsHold m buff len start base val) {u : Nat} (hu : base ≤ u)
    (hu' : u < base + len) :
    (buff.getD (u % len) RingItem.vacant).idx = ebNullIdx ↔ val u = none := by
  have hitem := h.item u hu hu'
  cases hval : val u with
  | none =>
      rw [hval] at hitem
      exact ⟨fun _ => rfl, fun _ => by rw [show _ = RingItem.vacant from hitem]; rfl⟩
  | some p =>
      rw [hval] at hitem
      exact ⟨fun hnull => absurd hnull hitem.1, fun hnone => by cases hnone⟩

theorem held (h : SlotsHold m buff len start base val) {u : Nat} {p : Bytes} (hu : base ≤ u)
    (hp : val u = some p) :
    u < base + len ∧ (buff.getD (u % len) RingItem.vacant).idx ≠ ebNullIdx ∧
      (buff.getD (u % len) RingItem.vacant).sequence = serial start u ∧
      m (buff.getD (u % len) RingItem.vacant).idx = some p := by
  have hlt : u < base + len := by
    by_contra hge
    rw [h.outside u (by omega)] at hp
    cases hp
  have hitem := h.item u hu hlt
  rw [hp] at hitem
  exact ⟨hlt, hitem⟩

/-- Changes of the store that keep the chains of the ring do not matter. -/
theorem mono (h : SlotsHold m buff len start base val) {m' : Nat → Option Bytes}
    (hsame : ∀ i ∈ ownedIdx buff, m' i = m i) : SlotsHold m' buff len start base val := by
  refine ⟨h.length, h.pos, fun u hu hu' => ?_, h.outside⟩
  have hitem := h.item u hu hu'
  cases hval : val u with
  | none =>
      rw [hval] at hitem
      exact hitem
  | some p =>
      rw [hval] at hitem
      have hmem : (buff.getD (u % len) RingItem.vacant).idx ∈ ownedIdx buff := by
        simp only [ownedIdx, List.mem_filter, decide_eq_true_eq]
        refine ⟨?_, hitem.1⟩
        rw [List.getD_eq_getElem _ _ (h.slot_lt u)]
        exact List.mem_map_of_mem (List.getElem_mem _)
      exact ⟨hitem.1, hitem.2.1, (hsame _ hmem).trans hitem.2.2⟩

/-- Writing to the slot of `u` leaves the other slots of the window alone. -/
theorem getD_set_of_ne (buff : List (RingItem w)) {len base u v : Nat} (hu : base ≤ u)
    (hu' : u < base + len) (hv : base ≤ v) (hv' : v < base + len) (hne : v ≠ u)
    (item : RingItem w) :
    (buff.set (u % len) item).getD (v % len) RingItem.vacant =
      buff.getD (v % len) RingItem.vacant := by
  have hslot : u % len ≠ v % len := fun hs => hne (slot_inj hv hv' hu hu' hs.symm)
  simp [List.getD_eq_getElem?_getD, List.getElem?_set_ne hslot]

theorem getD_set_self (h : SlotsHold m buff len start base val) (u : Nat) (item : RingItem w) :
    (buff.set (u % len) item).getD (u % len) RingItem.vacant = item := by
  simp [List.getD_eq_getElem?_getD, h.slot_lt u]

/-- Another item in the slot of `u`, with a store that keeps the chains of the others. -/
theorem setItem (h : SlotsHold m buff len start base val) {u : Nat} (hu : base ≤ u)
    (hu' : u < base + len) {item : RingItem w} {p : Option Bytes} {m' : Nat → Option Bytes}
    (hitem : HoldsItem m' item (serial start u) p)
    (hsame : ∀ v q, base ≤ v → v < base + len → v ≠ u → val v = some q →
      m' (buff.getD (v % len) RingItem.vacant).idx = some q) :
    SlotsHold m' (buff.set (u % len) item) len start base (Function.update val u p) := by
  refine ⟨by simp [h.length], h.pos, fun v hv hv' => ?_, fun v hv => ?_⟩
  · by_cases hne : v = u
    · subst hne
      rw [h.getD_set_self, Function.update_self]
      exact hitem
    · rw [getD_set_of_ne buff hu hu' hv hv' hne, Function.update_of_ne hne]
      have hold := h.item v hv hv'
      cases hval : val v with
      | none => rwa [hval] at hold
      | some q =>
          rw [hval] at hold
          exact ⟨hold.1, hold.2.1, hsame v q hv hv' hne hval⟩
  · rw [Function.update_of_ne (by omega), h.outside v hv]

/-- A payload stored under a fresh chain fills a vacant slot. -/
theorem fill (h : SlotsHold m buff len start base val) {u idx : Nat} (hu : base ≤ u)
    (hu' : u < base + len) (hfresh : m idx = none) (hidx : idx ≠ ebNullIdx) (p : Bytes) :
    SlotsHold (Function.update m idx (some p)) (buff.set (u % len) ⟨idx, serial start u⟩) len
      start base (Function.update val u (some p)) := by
  refine h.setItem hu hu' ⟨hidx, rfl, Function.update_self _ _ _⟩ fun v q hv _ _ hq => ?_
  obtain ⟨-, -, -, hheld⟩ := h.held hv hq
  rw [Function.update_of_ne, hheld]
  intro heq
  rw [heq, hfresh] at hheld
  cases hheld

/-- Clearing a slot deletes its chain. -/
theorem clear (h : SlotsHold m buff len start base val) {u : Nat} {p : Bytes} (hu : base ≤ u)
    (hp : val u = some p) (hnodup : (ownedIdx buff).Nodup) :
    SlotsHold (Function.update m (buff.getD (u % len) RingItem.vacant).idx none)
      (buff.set (u % len) RingItem.vacant) len start base (Function.update val u none) := by
  obtain ⟨hu', hidx, -, -⟩ := h.held hu hp
  refine h.setItem hu hu' rfl fun v q hv hv' hne hq => ?_
  obtain ⟨-, -, -, hheld⟩ := h.held hv hq
  rw [Function.update_of_ne, hheld]
  intro heq
  -- A chain in two slots would be owned twice.
  have hslot := h.slot_lt u
  rw [List.getD_eq_getElem _ _ hslot] at heq hidx
  have hperm := (ownedIdx_clear_perm hslot hidx).nodup_iff.mp hnodup
  refine (List.nodup_cons.mp hperm).1 ?_
  simp only [ownedIdx, List.mem_filter, decide_eq_true_eq]
  refine ⟨?_, hidx⟩
  rw [← heq, ← getD_set_of_ne buff hu hu' hv hv' hne RingItem.vacant,
    List.getD_eq_getElem _ _ (by simpa using h.slot_lt v)]
  exact List.mem_map_of_mem (List.getElem_mem _)

/-- The window moves past an absent value. -/
theorem shift (h : SlotsHold m buff len start base val) (hnone : val base = none) :
    SlotsHold m buff len start (base + 1) val := by
  refine ⟨h.length, h.pos, fun u hu hu' => ?_, fun u hu => h.outside u (by omega)⟩
  by_cases hlast : u = base + len
  · have hpos := h.pos
    have hitem := h.item base le_rfl (by omega)
    rw [hnone] at hitem
    rw [hlast, Nat.add_mod_right, h.outside (base + len) le_rfl]
    exact hitem
  · exact h.item u (by omega) (by omega)

/-- A ring of vacant slots. -/
theorem vacant (m : Nat → Option Bytes) (start : BitVec w) {len : Nat} (hlen : 0 < len) :
    SlotsHold m (List.replicate len (RingItem.vacant : RingItem w)) len start 0
      fun _ => none := by
  refine ⟨by simp, hlen, fun u _ _ => ?_, fun _ _ => rfl⟩
  have hslot : u % len < (List.replicate len (RingItem.vacant : RingItem w)).length := by
    simpa using Nat.mod_lt u hlen
  rw [List.getD_eq_getElem _ _ hslot, List.getElem_replicate]
  rfl

end SlotsHold

end Skylink
