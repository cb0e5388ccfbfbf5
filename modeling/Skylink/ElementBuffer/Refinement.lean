import Skylink.ElementBuffer.Model
import Mathlib.Data.Finset.Card
import Mathlib.Data.Nat.ModEq
import Mathlib.Data.Finset.Interval
import Mathlib.Order.Interval.Finset.Nat

/-!
# The element buffer as a finite map

The live chains of a pool are disjoint lists of cells. Under the invariant
`PoolOk` the buffer behaves as a map from the first cell of a chain to the
bytes stored in it; the operations are specified on that map.
-/

namespace Skylink

namespace SkyElementBuffer

/-! ## Cells -/

@[simp] theorem setElement_elementCount (b : SkyElementBuffer) (i : Nat) (el : BufferElement) :
    (b.setElement i el).elementCount = b.elementCount := rfl

@[simp] theorem setElement_elementUsableSpace (b : SkyElementBuffer) (i : Nat)
    (el : BufferElement) : (b.setElement i el).elementUsableSpace = b.elementUsableSpace := rfl

@[simp] theorem setElement_pool_length (b : SkyElementBuffer) (i : Nat) (el : BufferElement) :
    (b.setElement i el).pool.length = b.pool.length := by
  simp [setElement]

theorem elementI_setElement_self (b : SkyElementBuffer) {i : Nat} (el : BufferElement)
    (hi : i < b.pool.length) : (b.setElement i el).elementI i = el := by
  simp [elementI, setElement, hi]

theorem elementI_setElement_ne (b : SkyElementBuffer) {i j : Nat} (el : BufferElement)
    (hij : i ≠ j) : (b.setElement i el).elementI j = b.elementI j := by
  simp [elementI, setElement, List.getD_eq_getElem?_getD, List.getElem?_set_ne hij]

/-- The cells of a chain are linked in order, starting after `prev`. -/
def Linked (b : SkyElementBuffer) : Nat → List Nat → Prop
  | _, [] => True
  | prev, [i] => (b.elementI i).previous = prev ∧ (b.elementI i).next = ebEndIdx
  | prev, i :: j :: rest =>
      (b.elementI i).previous = prev ∧ (b.elementI i).next = j ∧ Linked b i (j :: rest)

/-- The data sections of a list of cells, one after the other. -/
def contents (b : SkyElementBuffer) (cells : List Nat) : Bytes :=
  cells.flatMap fun i => (b.elementI i).data

theorem linked_congr {b b' : SkyElementBuffer} {prev : Nat} {cells : List Nat}
    (h : ∀ i ∈ cells, b'.elementI i = b.elementI i) :
    Linked b' prev cells ↔ Linked b prev cells := by
  induction cells generalizing prev with
  | nil => simp [Linked]
  | cons i rest ih =>
      have hi := h i (by simp)
      have hrest : ∀ j ∈ rest, b'.elementI j = b.elementI j := fun j hj => h j (by simp [hj])
      cases rest with
      | nil => simp [Linked, hi]
      | cons j rest => simp only [Linked, hi, ih hrest]

theorem Linked.of_pool_eq {b b' : SkyElementBuffer} {prev : Nat} {cells : List Nat}
    (h : Linked b prev cells) (hpool : b'.pool = b.pool) : Linked b' prev cells :=
  (linked_congr fun i _ => by simp [elementI, hpool]).mpr h

theorem contents_congr {b b' : SkyElementBuffer} {cells : List Nat}
    (h : ∀ i ∈ cells, b'.elementI i = b.elementI i) :
    contents b' cells = contents b cells := by
  simp only [contents, List.flatMap_def]
  congr 1
  exact List.map_congr_left fun i hi => by rw [h i hi]

theorem Linked.head_previous {b : SkyElementBuffer} {prev i : Nat} {rest : List Nat}
    (h : Linked b prev (i :: rest)) : (b.elementI i).previous = prev := by
  cases rest with
  | nil => exact h.1
  | cons j rest => exact h.1

theorem Linked.head_next {b : SkyElementBuffer} {prev i : Nat} {rest : List Nat}
    (h : Linked b prev (i :: rest)) : (b.elementI i).next = rest.headD ebEndIdx := by
  cases rest with
  | nil => exact h.2
  | cons j rest => exact h.2.1

theorem Linked.tail {b : SkyElementBuffer} {prev i : Nat} {rest : List Nat}
    (h : Linked b prev (i :: rest)) : Linked b i rest := by
  cases rest with
  | nil => trivial
  | cons j rest => exact h.2.2

end SkyElementBuffer

/-- A live chain: its cells in order and the payload they hold. -/
structure Chain where
  cells : List Nat
  payload : Bytes

open SkyElementBuffer

structure ChainOk (b : SkyElementBuffer) (c : Chain) : Prop where
  size : c.cells.length = skyElementBufferElementRequirementFor b c.payload.length
  short : c.payload.length < 65536
  bound : ∀ i ∈ c.cells, i < b.elementCount
  linked : Linked b ebEndIdx c.cells
  data : storeU16 (UInt16.ofNat c.payload.length) ++ c.payload <+: contents b c.cells

/-- All cells in use, chain after chain. -/
def liveCells (live : List Chain) : List Nat := live.flatMap Chain.cells

structure PoolOk (b : SkyElementBuffer) (live : List Chain) : Prop where
  poolLength : b.pool.length = b.elementCount
  countLe : b.elementCount ≤ ebMaxElementCount
  usable : ebLenBytes ≤ b.elementUsableSpace
  dataLength : ∀ i < b.elementCount, (b.elementI i).data.length = b.elementUsableSpace
  chains : ∀ c ∈ live, ChainOk b c
  nodup : (liveCells live).Nodup
  free : ∀ i < b.elementCount, i ∉ liveCells live → (b.elementI i).isFree
  freeElements : b.freeElements = (b.elementCount : Int) - (liveCells live).length

/-- The payload of the chain that starts at a cell. -/
def Holds (live : List Chain) (idx : Nat) (p : Bytes) : Prop :=
  ∃ c ∈ live, c.cells.head? = some idx ∧ c.payload = p

/-- The buffer stores exactly the payloads of the map, under their first cells. -/
def Stores (b : SkyElementBuffer) (m : Nat → Option Bytes) : Prop :=
  ∃ live, PoolOk b live ∧ ∀ idx p, m idx = some p ↔ Holds live idx p

/-! ## Chain sizes -/

theorem requirement_pos {b : SkyElementBuffer} (hu : ebLenBytes ≤ b.elementUsableSpace)
    (n : Nat) : 0 < skyElementBufferElementRequirementFor b n := by
  simp only [ebLenBytes] at hu
  rw [skyElementBufferElementRequirementFor, ebLenBytes]
  exact Nat.div_pos (by omega) (by omega)

/-- The cells of a chain have room for the length field and the payload, and a
chain with one cell less has not. -/
theorem requirement_room {b : SkyElementBuffer} (hu : ebLenBytes ≤ b.elementUsableSpace)
    (n : Nat) :
    n + ebLenBytes ≤ skyElementBufferElementRequirementFor b n * b.elementUsableSpace := by
  simp only [ebLenBytes] at hu
  rw [skyElementBufferElementRequirementFor]
  have hmod := Nat.div_add_mod (n + ebLenBytes + b.elementUsableSpace - 1) b.elementUsableSpace
  have hlt := Nat.mod_lt (n + ebLenBytes + b.elementUsableSpace - 1)
    (show 0 < b.elementUsableSpace by omega)
  rw [Nat.mul_comm] at hmod
  omega

theorem requirement_congr {b b' : SkyElementBuffer}
    (h : b'.elementUsableSpace = b.elementUsableSpace) (n : Nat) :
    skyElementBufferElementRequirementFor b' n = skyElementBufferElementRequirementFor b n := by
  simp [skyElementBufferElementRequirementFor, h]

theorem ChainOk.cells_ne_nil {b : SkyElementBuffer} {c : Chain} (h : ChainOk b c)
    (hu : ebLenBytes ≤ b.elementUsableSpace) : c.cells ≠ [] := by
  have hpos := requirement_pos hu c.payload.length
  rw [← h.size] at hpos
  exact List.ne_nil_of_length_pos hpos

theorem ChainOk.congr {b b' : SkyElementBuffer} {c : Chain} (h : ChainOk b c)
    (hcount : b'.elementCount = b.elementCount)
    (husable : b'.elementUsableSpace = b.elementUsableSpace)
    (hcells : ∀ i ∈ c.cells, b'.elementI i = b.elementI i) : ChainOk b' c where
  size := by rw [h.size, requirement_congr husable]
  short := h.short
  bound i hi := hcount ▸ h.bound i hi
  linked := (linked_congr hcells).mpr h.linked
  data := by rw [contents_congr hcells]; exact h.data

/-! ## Finding free elements -/

theorem wrapElement_natCast {b : SkyElementBuffer} (hc : 0 < b.elementCount) (n : Nat) :
    b.wrapElement n = n % b.elementCount := by
  rw [wrapElement, positiveModulo_eq_emod (by omega)]
  omega

theorem nextFreeLoop_spec {b : SkyElementBuffer} (hc : 0 < b.elementCount)
    (start turns i : Nat) :
    match b.nextFreeLoop start turns i with
    | some idx => ∃ k, i ≤ k ∧ k < i + turns ∧ idx = (start + k) % b.elementCount ∧
        (b.elementI idx).isFree ∧
        ∀ j, i ≤ j → j < k → ¬(b.elementI ((start + j) % b.elementCount)).isFree
    | none => ∀ j, i ≤ j → j < i + turns →
        ¬(b.elementI ((start + j) % b.elementCount)).isFree := by
  induction turns generalizing i with
  | zero =>
      simp only [nextFreeLoop]
      intro j hj hlt
      omega
  | succ turns ih =>
      have hwrap : b.wrapElement ((start : Int) + i) = (start + i) % b.elementCount := by
        exact_mod_cast wrapElement_natCast hc (start + i)
      simp only [nextFreeLoop, hwrap]
      split
      next idx hres =>
        split at hres
        case isTrue hfree =>
          cases hres
          exact ⟨i, le_rfl, by omega, rfl, hfree, fun j h1 h2 => by omega⟩
        case isFalse hbusy =>
          have hrec := ih (i + 1)
          rw [hres] at hrec
          obtain ⟨k, hik, hk, hidx, hfree, hbefore⟩ := hrec
          refine ⟨k, by omega, by omega, hidx, hfree, fun j h1 h2 => ?_⟩
          obtain rfl | hlt := Nat.eq_or_lt_of_le h1
          · exact hbusy
          · exact hbefore j hlt h2
      next hres =>
        split at hres
        case isTrue => cases hres
        case isFalse hbusy =>
          have hrec := ih (i + 1)
          rw [hres] at hrec
          intro j h1 h2
          obtain rfl | hlt := Nat.eq_or_lt_of_le h1
          · exact hbusy
          · exact hrec j hlt (by omega)

/-- The offsets from `idx0`, past `o`, at which a free element lies. -/
def freeOffsets (b : SkyElementBuffer) (idx0 o : Nat) : Finset Nat :=
  (Finset.Ioo o b.elementCount).filter fun k =>
    (b.elementI ((idx0 + k) % b.elementCount)).isFree

theorem mem_freeOffsets {b : SkyElementBuffer} {idx0 o k : Nat} :
    k ∈ freeOffsets b idx0 o ↔ (o < k ∧ k < b.elementCount) ∧
      (b.elementI ((idx0 + k) % b.elementCount)).isFree := by
  rw [freeOffsets, Finset.mem_filter, Finset.mem_Ioo]

/-- Wherever the search starts, it finds a free element if there is one. -/
theorem getNextFree_eq_some {b : SkyElementBuffer} {i : Nat} (hi : i < b.elementCount)
    (hfree : (b.elementI i).isFree) (start : Nat) :
    ∃ idx < b.elementCount, b.getNextFree start = some idx ∧ (b.elementI idx).isFree := by
  have hc : 0 < b.elementCount := Nat.zero_lt_of_lt hi
  have hspec := nextFreeLoop_spec hc start b.elementCount 0
  rw [getNextFree]
  cases hnext : b.nextFreeLoop start b.elementCount 0 with
  | none =>
      rw [hnext] at hspec
      have hlt := Nat.mod_lt start hc
      have hbusy := hspec ((i + (b.elementCount - start % b.elementCount)) % b.elementCount)
        (Nat.zero_le _) ((Nat.mod_lt _ hc).trans_eq (Nat.zero_add _).symm)
      rw [Nat.add_mod_mod, ← Nat.mod_add_mod, show start % b.elementCount +
        (i + (b.elementCount - start % b.elementCount)) = i + b.elementCount by omega,
        Nat.add_mod_right, Nat.mod_eq_of_lt hi] at hbusy
      exact absurd hfree hbusy
  | some idx =>
      rw [hnext] at hspec
      obtain ⟨k, -, -, rfl, hidx, -⟩ := hspec
      exact ⟨_, Nat.mod_lt _ hc, rfl, hidx⟩

/-- The search that goes on from an element finds the next offset of a free one. -/
theorem getNextFree_offset {b : SkyElementBuffer} {idx0 o : Nat} (hc : 0 < b.elementCount)
    (hfree : (freeOffsets b idx0 o).Nonempty) :
    ∃ k ∈ freeOffsets b idx0 o,
      b.getNextFree (b.wrapElement (((idx0 + o) % b.elementCount : Nat) + 1)) =
        some ((idx0 + k) % b.elementCount) ∧
      ∀ j ∈ freeOffsets b idx0 o, k ≤ j := by
  have hstart : b.wrapElement (((idx0 + o) % b.elementCount : Nat) + 1) =
      (idx0 + o + 1) % b.elementCount := by
    have := wrapElement_natCast hc ((idx0 + o) % b.elementCount + 1)
    rw [Nat.mod_add_mod] at this
    exact_mod_cast this
  have hshift {j : Nat} (hj : o < j) :
      ((idx0 + o + 1) % b.elementCount + (j - (o + 1))) % b.elementCount =
        (idx0 + j) % b.elementCount := by
    rw [Nat.mod_add_mod]
    congr 1
    omega
  have hspec := nextFreeLoop_spec (b := b) hc ((idx0 + o + 1) % b.elementCount) b.elementCount 0
  rw [hstart, getNextFree]
  cases hnext : b.nextFreeLoop ((idx0 + o + 1) % b.elementCount) b.elementCount 0 with
  | none =>
      rw [hnext] at hspec
      obtain ⟨j, hj⟩ := hfree
      obtain ⟨⟨hlo, hhi⟩, hjfree⟩ := mem_freeOffsets.mp hj
      have hbusy := hspec (j - (o + 1)) (by omega) (by omega)
      rw [hshift hlo] at hbusy
      exact absurd hjfree hbusy
  | some idx =>
      rw [hnext] at hspec
      obtain ⟨k, -, -, hidx, hkfree, hbefore⟩ := hspec
      have hfirst : ∀ j ∈ freeOffsets b idx0 o, o + 1 + k ≤ j := by
        intro j hj
        obtain ⟨⟨hlo, -⟩, hjfree⟩ := mem_freeOffsets.mp hj
        by_contra hlt
        have hbusy := hbefore (j - (o + 1)) (by omega) (by omega)
        rw [hshift hlo] at hbusy
        exact hbusy hjfree
      have hplace := hshift (j := o + 1 + k) (by omega)
      rw [Nat.add_sub_cancel_left, ← hidx] at hplace
      obtain ⟨j, hj⟩ := hfree
      have hjk := hfirst j hj
      have hjlt := (mem_freeOffsets.mp hj).1.2
      exact ⟨o + 1 + k, mem_freeOffsets.mpr ⟨⟨by omega, by omega⟩, hplace ▸ hkfree⟩,
        congrArg some hplace, hfirst⟩

/-- Two offsets below the element count reach the same element only if equal. -/
theorem offset_inj {n i j k : Nat} (hj : j < n) (hk : k < n)
    (h : (i + j) % n = (i + k) % n) : j = k := by
  have hmod : j ≡ k [MOD n] := Nat.ModEq.add_left_cancel' i h
  rw [Nat.ModEq, Nat.mod_eq_of_lt hj, Nat.mod_eq_of_lt hk] at hmod
  exact hmod

theorem offset_ne {n i k : Nat} (hi : i < n) (hpos : 0 < k) (hk : k < n) : (i + k) % n ≠ i := by
  intro heq
  have hzero : k = 0 :=
    offset_inj hk (hpos.trans hk) (by rw [heq, Nat.add_zero, Nat.mod_eq_of_lt hi])
  omega

theorem getNFreeLoop_spec {b : SkyElementBuffer} {idx0 : Nat} (h0 : idx0 < b.elementCount)
    (count o : Nat) (henough : count ≤ (freeOffsets b idx0 o).card) :
    ∃ offs : List Nat, offs.length = count ∧ offs.Pairwise (· < ·) ∧
      (∀ k ∈ offs, k ∈ freeOffsets b idx0 o) ∧
      b.getNFreeLoop idx0 count ((idx0 + o) % b.elementCount) =
        some (offs.map fun k => (idx0 + k) % b.elementCount) := by
  induction count generalizing o with
  | zero => exact ⟨[], rfl, List.Pairwise.nil, by simp, by simp [getNFreeLoop]⟩
  | succ count ih =>
      obtain ⟨k, hk, hnext, hfirst⟩ := getNextFree_offset (by omega)
        (Finset.card_pos.mp ((Nat.succ_pos count).trans_le henough))
      obtain ⟨⟨hok, hkn⟩, hkfree⟩ := mem_freeOffsets.mp hk
      have hne : (idx0 + k) % b.elementCount ≠ idx0 := offset_ne h0 (Nat.zero_lt_of_lt hok) hkn
      -- No free offset lies strictly between `o` and the one just found.
      have hsplit : freeOffsets b idx0 o = insert k (freeOffsets b idx0 k) := by
        ext j
        rw [Finset.mem_insert, mem_freeOffsets, mem_freeOffsets]
        constructor
        · rintro ⟨⟨hlo, hhi⟩, hjfree⟩
          obtain heq | hlt := Nat.eq_or_lt_of_le
            (hfirst j (mem_freeOffsets.mpr ⟨⟨hlo, hhi⟩, hjfree⟩))
          · exact .inl heq.symm
          · exact .inr ⟨⟨hlt, hhi⟩, hjfree⟩
        · rintro (rfl | ⟨⟨hlo, hhi⟩, hjfree⟩)
          · exact ⟨⟨hok, hkn⟩, hkfree⟩
          · exact ⟨⟨hok.trans hlo, hhi⟩, hjfree⟩
      have hcard : (freeOffsets b idx0 o).card = (freeOffsets b idx0 k).card + 1 := by
        rw [hsplit, Finset.card_insert_of_notMem (by simp [freeOffsets])]
      obtain ⟨offs, hlen, hsorted, hoffs, hloop⟩ := ih k (by omega)
      refine ⟨k :: offs, by simp [hlen], ?_, fun j hj => ?_, ?_⟩
      · exact hsorted.cons fun j hj => (mem_freeOffsets.mp (hoffs j hj)).1.1
      · rw [hsplit, Finset.mem_insert]
        exact (List.mem_cons.mp hj).imp_right (hoffs j)
      · rw [getNFreeLoop, hnext]
        simp only [Option.bind_eq_bind, Option.bind_some, if_neg hne]
        rw [hloop]
        simp

namespace PoolOk

variable {b : SkyElementBuffer} {live : List Chain}

theorem mem_liveCells {i : Nat} : i ∈ liveCells live ↔ ∃ c ∈ live, i ∈ c.cells := by
  simp [liveCells, List.mem_flatMap]

theorem liveCells_lt (h : PoolOk b live) {i : Nat} (hi : i ∈ liveCells live) :
    i < b.elementCount := by
  obtain ⟨c, hc, hic⟩ := mem_liveCells.mp hi
  exact (h.chains c hc).bound i hic

theorem linked_not_free {prev : Nat} {cells : List Nat}
    (hlink : Linked b prev cells) (hprev : prev ≠ ebNullIdx)
    (hbound : ∀ i ∈ cells, i < ebNullIdx) {i : Nat} (hi : i ∈ cells) :
    ¬(b.elementI i).isFree := by
  induction cells generalizing prev with
  | nil => simp at hi
  | cons j rest ih =>
      cases List.mem_cons.mp hi with
      | inl heq =>
          subst heq
          simp [BufferElement.isFree, hlink.head_previous, hprev]
      | inr hrest =>
          have hj := hbound j (by simp)
          exact ih hlink.tail (by omega) (fun k hk => hbound k (by simp [hk])) hrest

theorem live_not_free (h : PoolOk b live) {i : Nat} (hi : i ∈ liveCells live) :
    ¬(b.elementI i).isFree := by
  obtain ⟨c, hc, hic⟩ := mem_liveCells.mp hi
  have hle := h.countLe
  refine linked_not_free (h.chains c hc).linked (by decide) (fun j hj => ?_) hic
  have := (h.chains c hc).bound j hj
  simp only [ebNullIdx]
  omega

/-- The free elements are the cells outside every live chain. -/
theorem free_card (h : PoolOk b live) :
    ((Finset.range b.elementCount).filter fun i => (b.elementI i).isFree).card =
      b.elementCount - (liveCells live).length := by
  have hset : ((Finset.range b.elementCount).filter fun i => (b.elementI i).isFree) =
      Finset.range b.elementCount \ (liveCells live).toFinset := by
    ext i
    simp only [Finset.mem_filter, Finset.mem_range, Finset.mem_sdiff, List.mem_toFinset]
    constructor
    · rintro ⟨hi, hfree⟩
      exact ⟨hi, fun hlive => h.live_not_free hlive hfree⟩
    · rintro ⟨hi, hnot⟩
      exact ⟨hi, h.free i hi hnot⟩
  have hsub : (liveCells live).toFinset ⊆ Finset.range b.elementCount := by
    intro i hi
    simpa using h.liveCells_lt (List.mem_toFinset.mp hi)
  rw [hset, Finset.card_sdiff_of_subset hsub, Finset.card_range,
    List.toFinset_card_of_nodup h.nodup]

theorem liveCells_length_le (h : PoolOk b live) :
    (liveCells live).length ≤ b.elementCount := by
  have hsub : (liveCells live).toFinset ⊆ Finset.range b.elementCount := by
    intro i hi
    simpa using h.liveCells_lt (List.mem_toFinset.mp hi)
  have hcard := Finset.card_le_card hsub
  rwa [List.toFinset_card_of_nodup h.nodup, Finset.card_range] at hcard

/-- All free elements but the first are met at a positive offset. -/
theorem freeOffsets_card (h : PoolOk b live) {idx0 : Nat} (h0 : idx0 < b.elementCount) :
    b.elementCount - (liveCells live).length ≤ (freeOffsets b idx0 0).card + 1 := by
  rw [← h.free_card]
  have hinj : (((Finset.range b.elementCount).filter fun i =>
      (b.elementI i).isFree).erase idx0).card ≤ (freeOffsets b idx0 0).card := by
    apply Finset.card_le_card_of_injOn fun i => (i + (b.elementCount - idx0)) % b.elementCount
    · intro i hi
      simp only [Finset.coe_erase, Set.mem_sdiff, Finset.mem_coe, Finset.mem_filter,
        Finset.mem_range, Set.mem_singleton_iff] at hi
      obtain ⟨⟨hilt, hfree⟩, hne⟩ := hi
      have hpos : 0 < b.elementCount := by omega
      have hback : (idx0 + (i + (b.elementCount - idx0)) % b.elementCount) % b.elementCount =
          i := by
        rw [Nat.add_mod_mod, show idx0 + (i + (b.elementCount - idx0)) =
          i + b.elementCount by omega, Nat.add_mod_right, Nat.mod_eq_of_lt hilt]
      simp only [freeOffsets, Finset.coe_filter, Finset.mem_Ioo, Set.mem_ofPred_eq, hback]
      refine ⟨⟨?_, Nat.mod_lt _ hpos⟩, hfree⟩
      by_contra hzero
      have hz : (i + (b.elementCount - idx0)) % b.elementCount = 0 := by omega
      rw [hz, Nat.add_zero, Nat.mod_eq_of_lt h0] at hback
      exact hne hback.symm
    · intro i hi j hj hij
      simp only [Finset.coe_erase, Set.mem_sdiff, Finset.mem_coe, Finset.mem_filter,
        Finset.mem_range, Set.mem_singleton_iff] at hi hj
      have hij' : (b.elementCount - idx0 + i) % b.elementCount =
          (b.elementCount - idx0 + j) % b.elementCount := by
        simpa only [Nat.add_comm] using hij
      exact offset_inj hi.1.1 hj.1.1 hij'
  have herase : ((Finset.range b.elementCount).filter fun i =>
      (b.elementI i).isFree).card - 1 ≤ _ := Finset.pred_card_le_card_erase (a := idx0)
  omega

/-- With enough free elements the search returns distinct free cells. -/
theorem getNFree_spec (h : PoolOk b live) {n : Nat} (start : Nat) (hn : 0 < n)
    (henough : n ≤ b.elementCount - (liveCells live).length) :
    ∃ idx0 idxs, b.getNFree n start = some (idx0 :: idxs) ∧ (idx0 :: idxs).length = n ∧
      (idx0 :: idxs).Nodup ∧
      ∀ i ∈ idx0 :: idxs, i < b.elementCount ∧ i ∉ liveCells live := by
  obtain ⟨i, hi⟩ : ((Finset.range b.elementCount).filter fun i =>
      (b.elementI i).isFree).Nonempty := by
    rw [← Finset.card_pos, h.free_card]
    omega
  rw [Finset.mem_filter, Finset.mem_range] at hi
  obtain ⟨idx0, h0, hnext, hfree⟩ := getNextFree_eq_some hi.1 hi.2 start
  have hcard := h.freeOffsets_card h0
  obtain ⟨offs, hlen, hsorted, hoffs, hloop⟩ := getNFreeLoop_spec h0 (n - 1) 0 (by omega)
  rw [Nat.add_zero, Nat.mod_eq_of_lt h0] at hloop
  have hnotlive : ∀ i < b.elementCount, (b.elementI i).isFree → i ∉ liveCells live :=
    fun i _ hf hlive => h.live_not_free hlive hf
  refine ⟨idx0, offs.map fun k => (idx0 + k) % b.elementCount, ?_, ?_, ?_, ?_⟩
  · simp [getNFree, hnext, hloop]
  · simp [hlen]
    omega
  · rw [List.nodup_cons]
    constructor
    · simp only [List.mem_map, not_exists, not_and]
      intro k hk
      obtain ⟨hpos, hlt⟩ := (mem_freeOffsets.mp (hoffs k hk)).1
      exact offset_ne h0 hpos hlt
    · refine List.Nodup.map_on (fun j hj k hk hjk => ?_) (hsorted.imp Nat.ne_of_lt)
      exact offset_inj (mem_freeOffsets.mp (hoffs j hj)).1.2
        (mem_freeOffsets.mp (hoffs k hk)).1.2 hjk
  · intro i hi
    cases List.mem_cons.mp hi with
    | inl heq => exact heq ▸ ⟨h0, hnotlive idx0 h0 hfree⟩
    | inr hmem =>
        obtain ⟨k, hk, rfl⟩ := List.mem_map.mp hmem
        have hlt := Nat.mod_lt (idx0 + k) (Nat.zero_lt_of_lt h0)
        exact ⟨hlt, hnotlive _ hlt (mem_freeOffsets.mp (hoffs k hk)).2⟩

end PoolOk

end Skylink
