import Skylink.ElementBuffer.Operations

/-!
# Runs of the element buffer

Any sequence of store, read and delete operations on a new buffer, with the map
from chain heads to payloads that the results of the operations describe.
-/

namespace Skylink

open SkyElementBuffer

/-! ## Chains that can be followed -/

namespace SkyElementBuffer

/-- The elements from `i` on, up to the last one of the chain. -/
def chainLoop (b : SkyElementBuffer) : Nat → Nat → List Nat
  | 0, _ => []
  | turns + 1, i =>
      let el := b.elementI i
      if b.elementIsLast el then [i] else i :: chainLoop b turns el.next

/-- The elements of the chain that starts at `idx`. -/
def chainOf (b : SkyElementBuffer) (idx : Nat) : List Nat := b.chainLoop b.elementCount idx

/-- The elements that start a chain. -/
def chainHeads (b : SkyElementBuffer) : List Nat :=
  (List.range b.elementCount).filter fun i => b.elementIsFirst (b.elementI i)

/-- The elements that are free. -/
def freeIndices (b : SkyElementBuffer) : List Nat :=
  (List.range b.elementCount).filter fun i => (b.elementI i).isFree

theorem Linked.chainLoop {b : SkyElementBuffer} {prev i : Nat} {rest : List Nat}
    (h : Linked b prev (i :: rest)) (hprev : prev = ebEndIdx ∨ prev < b.elementCount)
    (hcount : b.elementCount ≤ ebMaxElementCount) (hbound : ∀ j ∈ i :: rest, j < b.elementCount)
    {turns : Nat} (hturns : (i :: rest).length ≤ turns) :
    b.chainLoop turns i = i :: rest := by
  induction rest generalizing prev i turns with
  | nil =>
      obtain ⟨turns, rfl⟩ : ∃ n, turns = n + 1 := ⟨turns - 1, by simp at hturns; omega⟩
      have hlast := h.isLast_iff hprev hcount (by simp)
      simp [SkyElementBuffer.chainLoop, hlast]
  | cons j rest ih =>
      obtain ⟨turns, rfl⟩ : ∃ n, turns = n + 1 := ⟨turns - 1, by simp at hturns; omega⟩
      have hi := hbound i (by simp)
      have hlast := h.isLast_iff hprev hcount
        fun k hk => hbound k (List.mem_cons_of_mem _ hk)
      have hnext : (b.elementI i).next = j := h.head_next
      have hrest := ih h.tail (Or.inr hi) (fun k hk => hbound k (List.mem_cons_of_mem _ hk))
        (by simpa using hturns)
      simp [SkyElementBuffer.chainLoop, hlast, hnext, hrest]

/-- Every element of a chain but the first points back into the chain. -/
theorem Linked.previous_mem {b : SkyElementBuffer} {prev i : Nat} {rest : List Nat}
    (h : Linked b prev (i :: rest)) {j : Nat} (hj : j ∈ rest) :
    (b.elementI j).previous ∈ i :: rest := by
  induction rest generalizing prev i with
  | nil => simp at hj
  | cons k rest ih =>
      cases List.mem_cons.mp hj with
      | inl heq => simp [heq, h.tail.head_previous]
      | inr hmem => exact List.mem_cons_of_mem _ (ih h.tail hmem)

end SkyElementBuffer

/-- The heads of the live chains. -/
def liveHeads (live : List Chain) : List Nat := live.filterMap fun c => c.cells.head?

namespace PoolOk

variable {b : SkyElementBuffer} {live : List Chain}

theorem elementI_free (h : PoolOk b live) {i : Nat} (hi : i ∉ liveCells live) :
    (b.elementI i).isFree := by
  by_cases hlt : i < b.elementCount
  · exact h.free i hlt hi
  · have hout : b.pool[i]? = none := List.getElem?_eq_none (by rw [h.poolLength]; omega)
    simp [elementI, List.getD_eq_getElem?_getD, hout, BufferElement.isFree]

/-- Only the heads of the live chains look like the first element of a chain. -/
theorem isFirst_iff (h : PoolOk b live) (i : Nat) :
    b.elementIsFirst (b.elementI i) ↔ ∃ c ∈ live, c.cells.head? = some i := by
  refine ⟨fun hfirst => ?_, fun ⟨c, hc, hidx⟩ => h.head_isFirst hc hidx⟩
  have hprev : (b.elementI i).previous = ebEndIdx := by
    simp only [elementIsFirst, Bool.or_eq_true, Bool.and_eq_true, beq_iff_eq] at hfirst
    exact hfirst.elim And.left And.left
  by_cases hlive : i ∈ liveCells live
  · obtain ⟨c, hc, hic⟩ := mem_liveCells.mp hlive
    refine ⟨c, hc, ?_⟩
    have hok := h.chains c hc
    cases hcells : c.cells with
    | nil => simp [hcells] at hic
    | cons j rest =>
        rw [hcells] at hic
        cases List.mem_cons.mp hic with
        | inl heq => simp [heq]
        | inr hmem =>
            have hlink := hok.linked
            rw [hcells] at hlink
            have hback := hok.bound _ (hcells ▸ hlink.previous_mem hmem)
            have hle := h.countLe
            rw [hprev] at hback
            simp only [ebEndIdx] at hback
            omega
  · have hfree := h.elementI_free hlive
    simp [BufferElement.isFree, hprev] at hfree
    exact absurd hfree.1 (by decide)

theorem chainOf (h : PoolOk b live) {c : Chain} (hc : c ∈ live) {idx : Nat}
    (hidx : c.cells.head? = some idx) : b.chainOf idx = c.cells := by
  obtain ⟨rest, hcells⟩ := List.head?_eq_some_iff.mp hidx
  have hok := h.chains c hc
  have hlink := hok.linked
  have hbound := hok.bound
  have hlength : c.cells.length ≤ b.elementCount := by
    obtain ⟨l₁, l₂, rfl⟩ := List.append_of_mem hc
    have hle := h.liveCells_length_le
    simp only [liveCells, List.flatMap_append, List.flatMap_cons, List.length_append] at hle
    omega
  rw [hcells] at hlink hbound hlength ⊢
  exact hlink.chainLoop (Or.inl rfl) h.countLe hbound hlength

theorem freeIndices_length (h : PoolOk b live) :
    (b.freeIndices.length : Int) = b.freeElements := by
  have hcard := h.free_card
  have hle := h.liveCells_length_le
  have hlist : ((Finset.range b.elementCount).filter fun i => (b.elementI i).isFree).card =
      b.freeIndices.length := by
    rw [freeIndices, ← List.toFinset_card_of_nodup (List.nodup_range.filter _),
      List.toFinset_filter, List.toFinset_range]
  rw [h.freeElements]
  omega

theorem isFree_iff (h : PoolOk b live) (i : Nat) :
    (b.elementI i).isFree ↔ i ∉ liveCells live :=
  ⟨fun hfree hlive => h.live_not_free hlive hfree, h.elementI_free⟩

theorem mem_liveHeads {i : Nat} : i ∈ liveHeads live ↔ ∃ c ∈ live, c.cells.head? = some i := by
  simp [liveHeads]

theorem liveHeads_nodup (h : PoolOk b live) : (liveHeads live).Nodup := by
  have hnodup := h.nodup
  rw [liveCells, List.nodup_flatMap] at hnodup
  rw [liveHeads, List.Nodup, List.pairwise_filterMap]
  refine hnodup.2.imp fun hdisjoint i hi j hj heq => ?_
  exact hdisjoint (List.mem_of_mem_head? hi) (heq ▸ List.mem_of_mem_head? hj)

theorem liveHeads_perm (h : PoolOk b live) : (liveHeads live).Perm b.chainHeads := by
  refine (List.perm_ext_iff_of_nodup h.liveHeads_nodup (List.nodup_range.filter _)).mpr
    fun i => ?_
  rw [mem_liveHeads, List.mem_filter, h.isFirst_iff, List.mem_range]
  refine ⟨fun hhead => ⟨?_, hhead⟩, And.right⟩
  obtain ⟨c, hc, hidx⟩ := hhead
  exact (h.chains c hc).bound i (List.mem_of_mem_head? hidx)

/-- Following some of the live chains from their heads gives their cells. -/
theorem flatMap_chainOf (h : PoolOk b live) {part : List Chain} (hpart : ∀ c ∈ part, c ∈ live) :
    (liveHeads part).flatMap b.chainOf = liveCells part := by
  induction part with
  | nil => rfl
  | cons c rest ih =>
      have hc := hpart c (by simp)
      obtain ⟨idx, tail, hcells⟩ :=
        List.exists_cons_of_ne_nil ((h.chains c hc).cells_ne_nil h.usable)
      have hidx : c.cells.head? = some idx := by rw [hcells]; rfl
      have hheads : liveHeads (c :: rest) = idx :: liveHeads rest := by
        simp [liveHeads, hidx]
      rw [hheads, List.flatMap_cons, h.chainOf hc hidx, ih fun d hd => hpart d (by simp [hd])]
      simp [liveCells]

end PoolOk

theorem SkyElementBuffer.deleteLoop_sameShape (b : SkyElementBuffer) (turns i : Nat) :
    SameShape b (b.deleteLoop turns i) := by
  induction turns generalizing b i with
  | zero => exact ⟨rfl, rfl⟩
  | succ turns ih =>
      simp only [deleteLoop]
      split
      · exact ⟨rfl, rfl⟩
      · exact SameShape.trans ⟨rfl, rfl⟩ (ih _ _)

theorem skyElementBufferDelete_sameShape (b : SkyElementBuffer) (idx : Nat) :
    SameShape b (skyElementBufferDelete b idx) := by
  rw [skyElementBufferDelete]
  split
  · exact b.deleteLoop_sameShape _ _
  · exact ⟨rfl, rfl⟩

theorem SkyElementBuffer.storeLoop_sameShape (data : Bytes) (b : SkyElementBuffer) (prev : Nat)
    (idxs : List Nat) (cursor : Nat) : SameShape b (storeLoop data b prev idxs cursor) := by
  induction idxs generalizing b prev cursor with
  | nil => exact ⟨rfl, rfl⟩
  | cons idx idxs ih => exact SameShape.trans ⟨rfl, rfl⟩ (ih _ _ _)

theorem skyElementBufferStore_sameShape (b : SkyElementBuffer) (src : Bytes) :
    SameShape b (skyElementBufferStore b src).1 := by
  simp only [skyElementBufferStore]
  split
  · exact ⟨rfl, rfl⟩
  · split
    · exact ⟨rfl, rfl⟩
    · exact ⟨rfl, rfl⟩
    · rename_i idx0 idxs _
      exact SameShape.trans ⟨rfl, rfl⟩ (storeLoop_sameShape _ _ idx0 idxs _)

/-! ## Operations -/

/-- The calls of the interface. -/
inductive BufferOp
  | store (payload : Bytes)
  | read (idx maxLen : Nat)
  | delete (idx : Nat)

/-- The payloads a store can be called with: the length has type `uint16_t`, and the
index array has room for 42 elements. -/
def Storable (b : SkyElementBuffer) (p : Bytes) : Prop :=
  p.length < 65536 ∧ skyElementBufferElementRequirementFor b p.length ≤ 42

def BufferOp.Valid (b : SkyElementBuffer) : BufferOp → Prop
  | .store payload => Storable b payload
  | .read _ _ => True
  | .delete _ => True

instance (b : SkyElementBuffer) (p : Bytes) : Decidable (Storable b p) :=
  inferInstanceAs (Decidable (_ ∧ _))

instance BufferOp.decidableValid (b : SkyElementBuffer) (op : BufferOp) : Decidable (op.Valid b) :=
  match op with
  | .store payload => inferInstanceAs (Decidable (Storable b payload))
  | .read _ _ => inferInstanceAs (Decidable True)
  | .delete _ => inferInstanceAs (Decidable True)

/-- A buffer with the payloads that were stored in it and not deleted again. -/
structure TrackedBuffer where
  buffer : SkyElementBuffer
  stored : Nat → Option Bytes

namespace TrackedBuffer

def create (usableElementSize elementCount : Nat) : TrackedBuffer :=
  ⟨skyElementBufferCreate usableElementSize elementCount, fun _ => none⟩

def step (t : TrackedBuffer) : BufferOp → TrackedBuffer
  | .store payload =>
      match skyElementBufferStore t.buffer payload with
      | (buffer, .ok idx) => ⟨buffer, Function.update t.stored idx (some payload)⟩
      | (buffer, .error _) => ⟨buffer, t.stored⟩
  | .read _ _ => t
  | .delete idx => ⟨skyElementBufferDelete t.buffer idx, Function.update t.stored idx none⟩

def run (t : TrackedBuffer) (ops : List BufferOp) : TrackedBuffer := ops.foldl step t

end TrackedBuffer

/-- The buffer behaves as the map: what the operations return, what they free and
what they leave of the other payloads. -/
structure RefinesMap (b : SkyElementBuffer) (m : Nat → Option Bytes) : Prop where
  freeElements : b.freeElements = b.freeIndices.length
  read_live : ∀ idx p maxLen, m idx = some p → p.length ≤ maxLen →
    skyElementBufferRead b idx maxLen = .ok p
  read_dead : ∀ idx maxLen, m idx = none →
    skyElementBufferRead b idx maxLen = .error .ebufferInvalidIndex
  store_fails : ∀ p, Storable b p → ((∃ ret, (skyElementBufferStore b p).2 = .error ret) ↔
    b.freeElements < skyElementBufferElementRequirementFor b p.length)
  store_failed : ∀ p ret, Storable b p → (skyElementBufferStore b p).2 = .error ret →
    (skyElementBufferStore b p).1 = b
  store_fresh : ∀ p idx, Storable b p → (skyElementBufferStore b p).2 = .ok idx →
    m idx = none
  store_others : ∀ p i q maxLen, Storable b p → m i = some q → q.length ≤ maxLen →
    skyElementBufferRead (skyElementBufferStore b p).1 i maxLen = .ok q
  delete_frees : ∀ idx p, m idx = some p → ∀ i < b.elementCount,
    (((skyElementBufferDelete b idx).elementI i).isFree ↔
      (b.elementI i).isFree ∨ i ∈ b.chainOf idx)
  delete_count : ∀ idx p, m idx = some p →
    (skyElementBufferDelete b idx).freeElements = b.freeElements + (b.chainOf idx).length
  delete_dead : ∀ idx, m idx = none → skyElementBufferDelete b idx = b
  delete_others : ∀ idx i q maxLen, i ≠ idx → m i = some q → q.length ≤ maxLen →
    skyElementBufferRead (skyElementBufferDelete b idx) i maxLen = .ok q

namespace Stores

variable {b : SkyElementBuffer} {m : Nat → Option Bytes}

theorem read_ok (h : Stores b m) {idx maxLen : Nat} {p : Bytes} (hm : m idx = some p)
    (hlen : p.length ≤ maxLen) : skyElementBufferRead b idx maxLen = .ok p := by
  rw [h.read hm, if_neg (not_lt.mpr hlen)]

theorem not_first (h : Stores b m) {idx : Nat} (hm : m idx = none) :
    b.elementIsFirst (b.elementI idx) = false := by
  obtain ⟨live, hok, hmap⟩ := h
  by_contra hfirst
  obtain ⟨c, hc, hidx⟩ := (hok.isFirst_iff idx).mp (by simpa using hfirst)
  have hsome := (hmap idx c.payload).mpr ⟨c, hc, hidx, rfl⟩
  rw [hm] at hsome
  cases hsome

theorem read_dead (h : Stores b m) {idx : Nat} (hm : m idx = none) (maxLen : Nat) :
    skyElementBufferRead b idx maxLen = .error .ebufferInvalidIndex := by
  simp [skyElementBufferRead, h.not_first hm]

theorem delete_dead (h : Stores b m) {idx : Nat} (hm : m idx = none) :
    skyElementBufferDelete b idx = b := by
  simp [skyElementBufferDelete, h.not_first hm]

theorem delete_any (h : Stores b m) (idx : Nat) :
    Stores (skyElementBufferDelete b idx) (Function.update m idx none) := by
  cases hm : m idx with
  | some p => exact h.delete hm
  | none =>
      rw [h.delete_dead hm, ← hm, Function.update_eq_self]
      exact h

theorem delete_others (h : Stores b m) {idx i maxLen : Nat} {q : Bytes} (hne : i ≠ idx)
    (hm : m i = some q) (hlen : q.length ≤ maxLen) :
    skyElementBufferRead (skyElementBufferDelete b idx) i maxLen = .ok q :=
  (h.delete_any idx).read_ok (by rw [Function.update_of_ne hne, hm]) hlen

theorem store_others (h : Stores b m) {i maxLen : Nat} {p q : Bytes} (hp : p.length < 65536)
    (hm : m i = some q) (hlen : q.length ≤ maxLen) :
    skyElementBufferRead (skyElementBufferStore b p).1 i maxLen = .ok q := by
  obtain hfull | ⟨idx, b', hstore, hfresh, -, hstores, -⟩ := h.store hp
  · rw [hfull]
    exact h.read_ok hm hlen
  · have hne : i ≠ idx := fun heq => by rw [heq, hfresh] at hm; cases hm
    rw [hstore]
    exact hstores.read_ok (by rw [Function.update_of_ne hne, hm]) hlen

theorem delete_frees (h : Stores b m) {idx : Nat} {p : Bytes} (hm : m idx = some p) (i : Nat) :
    ((skyElementBufferDelete b idx).elementI i).isFree ↔
      (b.elementI i).isFree ∨ i ∈ b.chainOf idx := by
  obtain ⟨c, rest, hok, hidx, -, -⟩ := h.exists_chain hm
  have hnodup := hok.nodup
  have hcells : liveCells (c :: rest) = c.cells ++ liveCells rest := by simp [liveCells]
  rw [hcells] at hnodup
  have hdisjoint := List.disjoint_of_nodup_append hnodup
  rw [(hok.delete hidx).isFree_iff, hok.isFree_iff, hok.chainOf (by simp) hidx, hcells,
    List.mem_append]
  have hnot : i ∈ c.cells → i ∉ liveCells rest := fun h1 h2 => hdisjoint h1 h2
  tauto

theorem delete_count (h : Stores b m) {idx : Nat} {p : Bytes} (hm : m idx = some p) :
    (skyElementBufferDelete b idx).freeElements =
      b.freeElements + (b.chainOf idx).length := by
  obtain ⟨c, rest, hok, hidx, -, -⟩ := h.exists_chain hm
  have hcells : liveCells (c :: rest) = c.cells ++ liveCells rest := by simp [liveCells]
  rw [(hok.delete hidx).freeElements, (skyElementBufferDelete_sameShape b idx).1,
    hok.freeElements, hok.chainOf (by simp) hidx, hcells, List.length_append]
  push_cast
  ring

theorem store_fails (h : Stores b m) {p : Bytes} (hp : p.length < 65536) :
    (∃ ret, (skyElementBufferStore b p).2 = .error ret) ↔
      b.freeElements < skyElementBufferElementRequirementFor b p.length := by
  constructor
  · rintro ⟨ret, hret⟩
    by_contra hroom
    obtain ⟨idx, b', hstore, -⟩ := h.store_room hp (not_lt.mp hroom)
    rw [hstore] at hret
    cases hret
  · intro hfull
    exact ⟨.ebufferNoSpace, by rw [store_noSpace hp hfull]⟩

theorem refinesMap (h : Stores b m) : RefinesMap b m where
  freeElements := by
    obtain ⟨live, hok, -⟩ := h
    exact hok.freeIndices_length.symm
  read_live _ _ _ hm hlen := h.read_ok hm hlen
  read_dead _ maxLen hm := h.read_dead hm maxLen
  store_fails _ hp := h.store_fails hp.1
  store_failed p ret hp hret := by
    rw [store_noSpace hp.1 ((h.store_fails hp.1).mp ⟨ret, hret⟩)]
  store_fresh p idx hp hret := by
    obtain hfull | ⟨idx', b', hstore, hfresh, -⟩ := h.store hp.1
    · rw [hfull] at hret
      cases hret
    · rw [hstore] at hret
      cases hret
      exact hfresh
  store_others _ _ _ _ hp hm hlen := h.store_others hp.1 hm hlen
  delete_frees _ _ hm i _ := h.delete_frees hm i
  delete_count _ _ hm := h.delete_count hm
  delete_dead _ hm := h.delete_dead hm
  delete_others _ _ _ _ hne hm hlen := h.delete_others hne hm hlen

end Stores

/-! ## Runs -/

theorem Storable.congr {b b' : SkyElementBuffer} {p : Bytes} (h : Storable b p)
    (hshape : SameShape b b') : Storable b' p :=
  ⟨h.1, by rw [requirement_congr hshape.2]; exact h.2⟩

theorem BufferOp.Valid.congr {b b' : SkyElementBuffer} {op : BufferOp} (h : op.Valid b)
    (hshape : SameShape b b') : op.Valid b' := by
  cases op with
  | store payload => exact Storable.congr h hshape
  | read idx maxLen => trivial
  | delete idx => trivial

namespace TrackedBuffer

theorem step_sameShape (t : TrackedBuffer) (op : BufferOp) :
    SameShape t.buffer (t.step op).buffer := by
  cases op with
  | store payload =>
      have hstore := skyElementBufferStore_sameShape t.buffer payload
      simp only [step]
      split
      · rename_i heq
        rwa [heq] at hstore
      · rename_i heq
        rwa [heq] at hstore
  | read idx maxLen => exact ⟨rfl, rfl⟩
  | delete idx => exact skyElementBufferDelete_sameShape _ _

/-- One operation keeps the correspondence. -/
theorem step_stores {t : TrackedBuffer} (h : Stores t.buffer t.stored) {op : BufferOp}
    (hop : op.Valid t.buffer) : Stores (t.step op).buffer (t.step op).stored := by
  cases op with
  | store payload =>
      obtain hfull | ⟨idx, b', hstore, -, -, hstores, -⟩ := h.store hop.1
      · rw [step, hfull]
        exact h
      · rw [step, hstore]
        exact hstores
  | read idx maxLen => exact h
  | delete idx => exact h.delete_any idx

theorem run_stores {t : TrackedBuffer} (h : Stores t.buffer t.stored) {ops : List BufferOp}
    (hops : ∀ op ∈ ops, op.Valid t.buffer) :
    Stores (t.run ops).buffer (t.run ops).stored := by
  induction ops generalizing t with
  | nil => exact h
  | cons op rest ih =>
      have hstep := step_stores h (hops op (by simp))
      exact ih hstep fun op' hop' => (hops op' (by simp [hop'])).congr (t.step_sameShape op)

theorem run_sameShape (t : TrackedBuffer) (ops : List BufferOp) :
    SameShape t.buffer (t.run ops).buffer := by
  induction ops generalizing t with
  | nil => exact ⟨rfl, rfl⟩
  | cons op rest ih => exact (t.step_sameShape op).trans (ih _)

/-- Every run on a new buffer leaves it in agreement with the map of its live payloads. -/
theorem run_refinesMap {usableElementSize elementCount : Nat}
    (hu : 2 ≤ usableElementSize) (hc : elementCount ≤ 65530) (ops : List BufferOp)
    (hops : ∀ op ∈ ops, op.Valid (create usableElementSize elementCount).buffer) :
    RefinesMap ((create usableElementSize elementCount).run ops).buffer
      ((create usableElementSize elementCount).run ops).stored :=
  (run_stores (Stores.create hu hc) hops).refinesMap

/-- The payloads of the second and third store share the elements of the first. -/
def exampleOps : List BufferOp :=
  [.store [1, 2, 3, 4, 5, 6], .store [7], .delete 0, .store [8, 9, 10, 11, 12, 13, 14], .delete 3]

theorem run_refinesMap_example :
    RefinesMap ((create 4 4).run exampleOps).buffer ((create 4 4).run exampleOps).stored :=
  run_refinesMap (by decide) (by decide) exampleOps (by decide)

end TrackedBuffer

end Skylink
