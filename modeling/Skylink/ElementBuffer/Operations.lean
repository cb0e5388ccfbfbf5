import Skylink.ElementBuffer.Refinement
import Mathlib.Tactic.Ring

/-!
# Store, read and delete on the finite map

Each operation of the buffer is described by its effect on the stored map:
a store adds a fresh index, a read returns the bytes under an index, a delete
removes it, and every other payload stays as it is.
-/

namespace Skylink

open SkyElementBuffer

@[simp] theorem copyTo_zero (block src : Bytes) :
    copyTo block 0 src = src ++ block.drop src.length := by
  simp [copyTo]

theorem copyTo_length {block src : Bytes} {off : Nat} (h : off + src.length ≤ block.length) :
    (copyTo block off src).length = block.length := by
  simp [copyTo]
  omega

/-! ## Store -/

/-- Every cell lies in the pool and has the full data section. -/
structure CellsOk (b : SkyElementBuffer) : Prop where
  poolLength : b.pool.length = b.elementCount
  dataLength : ∀ i < b.elementCount, (b.elementI i).data.length = b.elementUsableSpace

theorem CellsOk.setElement {b : SkyElementBuffer} (h : CellsOk b) {i : Nat}
    (hi : i < b.elementCount) (el : BufferElement)
    (hel : el.data.length = b.elementUsableSpace) : CellsOk (b.setElement i el) where
  poolLength := by simpa using h.poolLength
  dataLength j hj := by
    by_cases hij : i = j
    · subst hij
      rw [elementI_setElement_self b el (by rw [h.poolLength]; exact hi)]
      exact hel
    · rw [elementI_setElement_ne b el hij]
      exact h.dataLength j hj

/-- What the loop over the elements after `prev` does: it links them behind
`prev`, fills them with the rest of the data and touches no other element. -/
structure StoreLoopSpec (data : Bytes) (b : SkyElementBuffer) (prev pp : Nat)
    (idxs : List Nat) (cursor : Nat) (b' : SkyElementBuffer) : Prop where
  elementCount : b'.elementCount = b.elementCount
  usable : b'.elementUsableSpace = b.elementUsableSpace
  freeElements : b'.freeElements = b.freeElements
  cells : CellsOk b'
  frame : ∀ i, i ∉ prev :: idxs → b'.elementI i = b.elementI i
  prevData : (b'.elementI prev).data = (b.elementI prev).data
  linked : Linked b' pp (prev :: idxs)
  written : data.drop cursor <+: contents b' idxs

theorem storeLoop_spec (data : Bytes) {b : SkyElementBuffer} {prev pp : Nat}
    (idxs : List Nat) (cursor : Nat) (hcells : CellsOk b)
    (hbound : ∀ i ∈ prev :: idxs, i < b.elementCount) (hnodup : (prev :: idxs).Nodup)
    (hprev : (b.elementI prev).previous = pp) (hnext : (b.elementI prev).next = ebEndIdx)
    (hroom : data.length - cursor ≤ idxs.length * b.elementUsableSpace) :
    StoreLoopSpec data b prev pp idxs cursor (storeLoop data b prev idxs cursor) := by
  induction idxs generalizing b prev pp cursor with
  | nil =>
      refine ⟨rfl, rfl, rfl, hcells, fun _ _ => rfl, rfl, ⟨hprev, hnext⟩, ?_⟩
      have hzero : data.drop cursor = [] := List.drop_eq_nil_of_le (by simp at hroom; omega)
      rw [hzero]
      exact List.nil_prefix
  | cons idx idxs ih =>
      have hp : prev < b.elementCount := hbound prev (by simp)
      have hi : idx < b.elementCount := hbound idx (by simp)
      have hne : prev ≠ idx := fun h => by simp [h] at hnodup
      have hpl : prev < b.pool.length := by rw [hcells.poolLength]; exact hp
      have hil : idx < b.pool.length := by rw [hcells.poolLength]; exact hi
      generalize hchunk : (data.drop cursor).take
        (min b.elementUsableSpace (data.length - cursor)) = chunk
      have hlen : chunk.length = min b.elementUsableSpace (data.length - cursor) := by
        rw [← hchunk]
        simp
      generalize hb1 : b.setElement prev { b.elementI prev with next := idx } = b1
      have hcells1 : CellsOk b1 := hb1 ▸ hcells.setElement hp _ (hcells.dataLength prev hp)
      have hcount1 : b1.elementCount = b.elementCount := by rw [← hb1]; rfl
      have husable1 : b1.elementUsableSpace = b.elementUsableSpace := by rw [← hb1]; rfl
      have hpool1 : b1.pool.length = b.pool.length := by rw [← hb1]; simp
      have hblock : (copyTo (b1.elementI idx).data 0 chunk).length = b1.elementUsableSpace := by
        have hdata := hcells1.dataLength idx (by omega)
        rw [copyTo_length (by rw [hdata]; omega), hdata]
      generalize hb2 : b1.setElement idx
        { previous := prev, next := ebEndIdx, data := copyTo (b1.elementI idx).data 0 chunk } = b2
      have hcells2 : CellsOk b2 := hb2 ▸ hcells1.setElement (by omega) _ hblock
      have hcount2 : b2.elementCount = b.elementCount := by rw [← hb2]; exact hcount1
      have husable2 : b2.elementUsableSpace = b.elementUsableSpace := by rw [← hb2]; exact husable1
      have hidx2 : b2.elementI idx =
          ⟨prev, ebEndIdx, copyTo (b1.elementI idx).data 0 chunk⟩ := by
        rw [← hb2]
        exact elementI_setElement_self b1 _ (by omega)
      have hprev2 : b2.elementI prev = { b.elementI prev with next := idx } := by
        rw [← hb2, elementI_setElement_ne b1 _ hne.symm, ← hb1,
          elementI_setElement_self b _ hpl]
      have hother2 : ∀ i, i ≠ prev → i ≠ idx → b2.elementI i = b.elementI i := by
        intro i h1 h2
        rw [← hb2, elementI_setElement_ne b1 _ h2.symm, ← hb1,
          elementI_setElement_ne b _ h1.symm]
      have hstep : storeLoop data b prev (idx :: idxs) cursor =
          storeLoop data b2 idx idxs (cursor + chunk.length) := by
        rw [storeLoop, hb1, husable1, hchunk, hb2, hlen]
      rw [hstep]
      have hnodup' : (idx :: idxs).Nodup := (List.nodup_cons.mp hnodup).2
      have hprevnot : prev ∉ idx :: idxs := (List.nodup_cons.mp hnodup).1
      have hrec := ih (cursor + chunk.length)
        hcells2 (fun i hi => by rw [hcount2]; exact hbound i (by simp [List.mem_cons.mp hi]))
        hnodup' (congrArg _ hidx2) (congrArg _ hidx2) (by
          rw [husable2, hlen]
          simp only [List.length_cons, Nat.succ_mul] at hroom
          omega)
      have hprev' : (storeLoop data b2 idx idxs (cursor + chunk.length)).elementI prev =
          { b.elementI prev with next := idx } := by
        rw [hrec.frame prev hprevnot, hprev2]
      refine ⟨hrec.elementCount.trans hcount2, hrec.usable.trans husable2, ?_, hrec.cells, ?_,
        by rw [hprev'], ⟨by rw [hprev', ← hprev], by rw [hprev'], hrec.linked⟩, ?_⟩
      · rw [hrec.freeElements, ← hb2, ← hb1]
        rfl
      · intro i hi
        simp only [List.mem_cons, not_or] at hi
        rw [hrec.frame i (by simp [hi.2.1, hi.2.2]), hother2 i hi.1 hi.2.1]
      · -- The chunk either fills the element or is all that is left of the data.
        have hdata : contents (storeLoop data b2 idx idxs (cursor + chunk.length))
            (idx :: idxs) = chunk ++ (b1.elementI idx).data.drop chunk.length ++
              contents (storeLoop data b2 idx idxs (cursor + chunk.length)) idxs := by
          simp only [contents, List.flatMap_cons, hrec.prevData, hidx2, copyTo_zero]
        have hsplit : data.drop cursor = chunk ++ data.drop (cursor + chunk.length) := by
          rw [← List.drop_drop, ← hchunk]
          simp
        rw [hdata, hsplit]
        by_cases hfull : chunk.length = b.elementUsableSpace
        · have hd := hcells1.dataLength idx (by omega)
          have hnil : (b1.elementI idx).data.drop chunk.length = [] :=
            List.drop_eq_nil_of_le (by omega)
          rw [hnil, List.append_nil]
          exact (List.prefix_append_right_inj chunk).mpr hrec.written
        · have hnil : data.drop (cursor + chunk.length) = [] :=
            List.drop_eq_nil_of_le (by omega)
          rw [hnil, List.append_nil, List.append_assoc]
          exact List.prefix_append _ _

theorem PoolOk.cellsOk {b : SkyElementBuffer} {live : List Chain} (h : PoolOk b live) :
    CellsOk b := ⟨h.poolLength, h.dataLength⟩

/-- The shape of a buffer, which no operation changes. -/
def SameShape (b b' : SkyElementBuffer) : Prop :=
  b'.elementCount = b.elementCount ∧ b'.elementUsableSpace = b.elementUsableSpace

theorem SameShape.trans {a b c : SkyElementBuffer} (h : SameShape a b) (h' : SameShape b c) :
    SameShape a c := ⟨h'.1.trans h.1, h'.2.trans h.2⟩

section FirstElement

variable {old p : Bytes} {usable toCopy : Nat}

theorem firstElement_length (n : UInt16) (hold : old.length = usable)
    (husable : ebLenBytes ≤ usable)
    (htoCopy : min p.length (usable - ebLenBytes) = toCopy) :
    (copyTo (copyTo old 0 (storeU16 n)) ebLenBytes (p.take toCopy)).length = usable := by
  have hblock : (copyTo old 0 (storeU16 n)).length = usable := by
    rw [copyTo_length (by simpa [hold, ebLenBytes] using husable), hold]
  rw [copyTo_length ?_, hblock]
  simp only [hblock, List.length_take]
  simp only [ebLenBytes] at husable htoCopy ⊢
  omega

/-- The first element holds the length and the first bytes of the payload, the others hold
what does not fit in it. -/
theorem firstElement_prefix (n : UInt16) (hold : old.length = usable)
    (htoCopy : min p.length (usable - ebLenBytes) = toCopy) {rest : Bytes}
    (hrest : p.drop toCopy <+: rest) :
    storeU16 n ++ p <+:
      copyTo (copyTo old 0 (storeU16 n)) ebLenBytes (p.take toCopy) ++ rest := by
  have hdata : copyTo (copyTo old 0 (storeU16 n)) ebLenBytes (p.take toCopy) =
      storeU16 n ++ p.take toCopy ++ old.drop (ebLenBytes + (p.take toCopy).length) := by
    rw [copyTo, copyTo_zero]
    simp only [storeU16_length, ebLenBytes]
    rw [List.take_left' (by simp), List.drop_append]
    simp [Nat.add_comm]
  rw [hdata]
  by_cases hall : p.length ≤ toCopy
  · rw [List.take_of_length_le hall, List.append_assoc]
    exact List.prefix_append _ _
  · have hnil : old.drop (ebLenBytes + (p.take toCopy).length) = [] := by
      apply List.drop_eq_nil_of_le
      simp only [List.length_take, ebLenBytes] at htoCopy ⊢
      omega
    have hsplit : p = p.take toCopy ++ p.drop toCopy := (List.take_append_drop _ _).symm
    rw [hnil, List.append_nil, List.append_assoc]
    conv_lhs => rw [hsplit]
    exact (List.prefix_append_right_inj _).mpr ((List.prefix_append_right_inj _).mpr hrest)

end FirstElement

/-- A further chain in cells that were free, while all the others stay as they are. -/
theorem PoolOk.addChain {b b' : SkyElementBuffer} {live : List Chain} (h : PoolOk b live)
    {c : Chain} (hcells : CellsOk b') (hshape : SameShape b b')
    (hfresh : ∀ i ∈ c.cells, i ∉ liveCells live) (hnodup : c.cells.Nodup)
    (hframe : ∀ i, i ∉ c.cells → b'.elementI i = b.elementI i) (hchain : ChainOk b' c)
    (hfree : b'.freeElements = b.freeElements - c.cells.length) : PoolOk b' (c :: live) := by
  obtain ⟨hcount, husable⟩ := hshape
  have hlive : liveCells (c :: live) = c.cells ++ liveCells live := List.flatMap_cons
  refine ⟨hcells.poolLength, hcount.trans_le h.countLe, husable.symm ▸ h.usable,
    hcells.dataLength, fun d hd => ?_, ?_, fun i hi hnot => ?_, ?_⟩
  · rcases List.mem_cons.mp hd with rfl | hmem
    · exact hchain
    · exact (h.chains d hmem).congr hcount husable fun i hi =>
        hframe i fun hc => hfresh i hc (PoolOk.mem_liveCells.mpr ⟨d, hmem, hi⟩)
  · rw [hlive]
    exact List.Nodup.append hnodup h.nodup fun i hi hi' => hfresh i hi hi'
  · rw [hlive, List.mem_append, not_or] at hnot
    rw [hframe i hnot.1]
    exact h.free i (hcount ▸ hi) hnot.2
  · rw [hfree, h.freeElements, hcount, hlive, List.length_append]
    push_cast
    ring

theorem PoolOk.store {b : SkyElementBuffer} {live : List Chain} (h : PoolOk b live)
    {p : Bytes} (hp : p.length < 65536)
    (hroom : (skyElementBufferElementRequirementFor b p.length : Int) ≤ b.freeElements) :
    ∃ idx c b', skyElementBufferStore b p = (b', .ok idx) ∧ c.payload = p ∧
      c.cells.head? = some idx ∧ PoolOk b' (c :: live) ∧ SameShape b b' := by
  have hpos := requirement_pos h.usable p.length
  have hle := h.liveCells_length_le
  have hfreeEq := h.freeElements
  obtain ⟨idx0, idxs, hget, hlen, hnodup, hcells⟩ :=
    h.getNFree_spec (n := skyElementBufferElementRequirementFor b p.length) b.lastWriteIndex
      hpos (by omega)
  have husable := h.usable
  have h0 : idx0 < b.elementCount := (hcells idx0 (by simp)).1
  have hlenmod : p.length % 65536 = p.length := Nat.mod_eq_of_lt hp
  generalize htoCopy : min p.length (b.elementUsableSpace - ebLenBytes) = toCopy
  have hold := h.dataLength idx0 h0
  have hel0 := firstElement_length (UInt16.ofNat p.length) hold husable htoCopy
  generalize hd0 : copyTo (copyTo (b.elementI idx0).data 0 (storeU16 (UInt16.ofNat p.length)))
    ebLenBytes (p.take toCopy) = data0 at hel0
  generalize hb1 : b.setElement idx0 ⟨ebEndIdx, ebEndIdx, data0⟩ = b1
  have hcells1 : CellsOk b1 := hb1 ▸ h.cellsOk.setElement h0 _ hel0
  have hcount1 : b1.elementCount = b.elementCount := by rw [← hb1]; rfl
  have husable1 : b1.elementUsableSpace = b.elementUsableSpace := by rw [← hb1]; rfl
  have hfree1 : b1.freeElements = b.freeElements := by rw [← hb1]; rfl
  have hidx0 : b1.elementI idx0 = ⟨ebEndIdx, ebEndIdx, data0⟩ := by
    rw [← hb1]
    exact elementI_setElement_self b _ (by rw [h.poolLength]; exact h0)
  have hother1 : ∀ i, i ≠ idx0 → b1.elementI i = b.elementI i := by
    intro i hi
    rw [← hb1, elementI_setElement_ne b _ hi.symm]
  have hroomBytes := requirement_room h.usable p.length
  have hloop := storeLoop_spec p idxs toCopy hcells1
    (fun i hi => by rw [hcount1]; exact (hcells i hi).1) hnodup
    (congrArg _ hidx0) (congrArg _ hidx0) (by
      rw [husable1]
      have hlen' : idxs.length + 1 = skyElementBufferElementRequirementFor b p.length := by
        simpa using hlen
      rw [← hlen', Nat.succ_mul] at hroomBytes
      simp only [ebLenBytes] at hroomBytes htoCopy
      omega)
  generalize hb2 : storeLoop p b1 idx0 idxs toCopy = b2 at hloop
  have hstore : skyElementBufferStore b p =
      ({ b2 with
          lastWriteIndex := (idx0 :: idxs).getLastD idx0
          freeElements := b2.freeElements - skyElementBufferElementRequirementFor b p.length },
        .ok idx0) := by
    simp only [skyElementBufferStore, hlenmod, List.take_length, if_neg (not_lt.mpr hroom),
      if_neg hpos.ne', hget, htoCopy, hd0, hb1, hb2]
  have hshape : SameShape b b2 := ⟨hloop.elementCount.trans hcount1, hloop.usable.trans husable1⟩
  refine ⟨idx0, ⟨idx0 :: idxs, p⟩, _, hstore, rfl, rfl, ?_, hshape⟩
  refine h.addChain ⟨hloop.cells.poolLength, hloop.cells.dataLength⟩ hshape
    (fun i hi => (hcells i hi).2) hnodup (fun i hi => ?_) ?_ ?_
  · show b2.elementI i = b.elementI i
    rw [hloop.frame i hi, hother1 i fun heq => hi (by simp [heq])]
  · refine ⟨?_, hp, fun i hi => ?_, hloop.linked.of_pool_eq rfl, ?_⟩
    · rw [hlen]
      exact (requirement_congr hshape.2 p.length).symm
    · exact hshape.1.symm ▸ (hcells i hi).1
    · have hhead : contents b2 (idx0 :: idxs) = data0 ++ contents b2 idxs := by
        simp only [contents, List.flatMap_cons, hloop.prevData, hidx0]
      show storeU16 (UInt16.ofNat p.length) ++ p <+: contents b2 (idx0 :: idxs)
      rw [hhead, ← hd0]
      exact firstElement_prefix _ hold htoCopy hloop.written
  · rw [hlen, ← hfree1, ← hloop.freeElements]

theorem store_noSpace {b : SkyElementBuffer} {p : Bytes} (hp : p.length < 65536)
    (hfull : b.freeElements < skyElementBufferElementRequirementFor b p.length) :
    skyElementBufferStore b p = (b, .error .ebufferNoSpace) := by
  simp [skyElementBufferStore, Nat.mod_eq_of_lt hp, hfull]

/-! ## Read -/

theorem SkyElementBuffer.Linked.isFirst {b : SkyElementBuffer} {i : Nat} {rest : List Nat}
    (h : Linked b ebEndIdx (i :: rest)) (hbound : ∀ j ∈ rest, j < b.elementCount) :
    b.elementIsFirst (b.elementI i) := by
  have hnext := h.head_next
  cases rest with
  | nil => simp [elementIsFirst, h.head_previous, hnext]
  | cons j rest => simp [elementIsFirst, h.head_previous, hnext, hbound j (by simp)]

theorem SkyElementBuffer.Linked.isLast_iff {b : SkyElementBuffer} {prev i : Nat} {rest : List Nat}
    (h : Linked b prev (i :: rest)) (hprev : prev = ebEndIdx ∨ prev < b.elementCount)
    (hcount : b.elementCount ≤ ebMaxElementCount) (hbound : ∀ j ∈ rest, j < b.elementCount) :
    b.elementIsLast (b.elementI i) = rest.isEmpty := by
  have hnext := h.head_next
  have hp := h.head_previous
  cases rest with
  | nil => cases hprev <;> simp_all [elementIsLast]
  | cons j rest =>
      have hj := hbound j (by simp)
      have hne : j ≠ ebEndIdx := by simp only [ebEndIdx]; omega
      simp [elementIsLast, hnext, hne]

theorem readLoop_spec {b : SkyElementBuffer} (hcells : CellsOk b)
    (hcount : b.elementCount ≤ ebMaxElementCount) (p : Bytes) {rest : List Nat}
    {prev i cursor : Nat} (hlink : Linked b prev (i :: rest))
    (hprev : prev = ebEndIdx ∨ prev < b.elementCount)
    (hbound : ∀ j ∈ i :: rest, j < b.elementCount) (hcursor : cursor ≤ p.length)
    (hroom : p.length - cursor ≤ rest.length * b.elementUsableSpace)
    (hdata : p.drop cursor <+: contents b rest) :
    b.readLoop p.length rest.length (b.elementI i) cursor (p.take cursor) = .ok p := by
  induction rest generalizing prev i cursor with
  | nil =>
      have hlast := hlink.isLast_iff hprev hcount (by simp)
      have hall : p.length ≤ cursor := by simp at hroom; omega
      simp [readLoop, hlast, List.take_of_length_le hall]
  | cons j rest ih =>
      have hi := hbound i (by simp)
      have hj := hbound j (by simp)
      have hnext : (b.elementI i).next = j := hlink.head_next
      have hfree : (b.elementI j).isFree = false := by
        have hpj := hlink.tail.head_previous
        have hne : i ≠ ebNullIdx := by simp only [ebNullIdx]; omega
        simp [BufferElement.isFree, hpj, hne]
      have hlen := hcells.dataLength j hj
      simp only [List.length_cons, Nat.succ_mul] at hroom
      have hcontents : contents b (j :: rest) = (b.elementI j).data ++ contents b rest := by
        simp [contents]
      rw [hcontents] at hdata
      generalize htoRead : min b.elementUsableSpace (p.length - cursor) = toRead
      have hchunk : (b.elementI j).data.take toRead = (p.drop cursor).take toRead := by
        obtain ⟨t, ht⟩ := hdata
        have htake := congrArg (List.take toRead) ht
        rw [List.take_append_of_le_length (by rw [List.length_drop]; omega),
          List.take_append_of_le_length (by omega)] at htake
        exact htake.symm
      have hstep : b.readLoop p.length (j :: rest).length (b.elementI i) cursor
          (p.take cursor) = b.readLoop p.length rest.length (b.elementI j) (cursor + toRead)
            (p.take (cursor + toRead)) := by
        simp only [List.length_cons, readLoop, hnext, hfree, htoRead, hchunk,
          Bool.false_eq_true, if_false, List.take_add]
      rw [hstep]
      refine ih hlink.tail (Or.inr hi) (fun k hk => hbound k (by simp [List.mem_cons.mp hk]))
        (by omega) (by omega) ?_
      by_cases hfull : toRead = b.elementUsableSpace
      · have hdj : p.drop cursor = (b.elementI j).data ++ p.drop (cursor + toRead) := by
          have hall : (b.elementI j).data = (p.drop cursor).take toRead := by
            rw [← hchunk, List.take_of_length_le (by omega)]
          rw [← List.drop_drop, hall, List.take_append_drop]
        rw [hdj] at hdata
        exact (List.prefix_append_right_inj _).mp hdata
      · rw [List.drop_eq_nil_of_le (by omega)]
        exact List.nil_prefix

namespace PoolOk

variable {b : SkyElementBuffer} {live : List Chain}

/-- The first element of a chain starts with the length field. -/
theorem head_data (h : PoolOk b live) {c : Chain} (hc : c ∈ live) {idx : Nat}
    {rest : List Nat} (hcells : c.cells = idx :: rest) :
    storeU16 (UInt16.ofNat c.payload.length) ++
        c.payload.take (b.elementUsableSpace - ebLenBytes) <+: (b.elementI idx).data := by
  have hok := h.chains c hc
  have husable := h.usable
  have hdata := hok.data
  have hcontents : contents b c.cells = (b.elementI idx).data ++ contents b rest := by
    simp [hcells, contents]
  rw [hcontents] at hdata
  have hlen := h.dataLength idx (hok.bound idx (by simp [hcells]))
  have hle : (storeU16 (UInt16.ofNat c.payload.length) ++
      c.payload.take (b.elementUsableSpace - ebLenBytes)).length ≤
        (b.elementI idx).data.length := by
    simp only [List.length_append, storeU16_length, List.length_take]
    simp only [ebLenBytes] at husable ⊢
    omega
  have hpre : storeU16 (UInt16.ofNat c.payload.length) ++
      c.payload.take (b.elementUsableSpace - ebLenBytes) <+:
        (b.elementI idx).data ++ contents b rest :=
    ((List.prefix_append_right_inj _).mpr (List.take_prefix _ _)).trans hdata
  exact List.prefix_of_prefix_length_le hpre (List.prefix_append _ _) hle

theorem length_field (h : PoolOk b live) {c : Chain} (hc : c ∈ live) {idx : Nat}
    (hidx : c.cells.head? = some idx) :
    (loadU16 (b.elementI idx).data).toNat = c.payload.length := by
  obtain ⟨rest, hcells⟩ := List.head?_eq_some_iff.mp hidx
  obtain ⟨t, ht⟩ := h.head_data hc hcells
  have hshort := (h.chains c hc).short
  rw [← ht, List.append_assoc, loadU16_storeU16_append,
    UInt16.toNat_ofNat_of_lt' (by simpa using hshort)]

theorem head_isFirst (h : PoolOk b live) {c : Chain} (hc : c ∈ live) {idx : Nat}
    (hidx : c.cells.head? = some idx) : b.elementIsFirst (b.elementI idx) := by
  obtain ⟨rest, hcells⟩ := List.head?_eq_some_iff.mp hidx
  have hok := h.chains c hc
  exact Linked.isFirst (hcells ▸ hok.linked) fun j hj => hok.bound j (by simp [hcells, hj])

theorem getDataLength (h : PoolOk b live) {c : Chain} (hc : c ∈ live) {idx : Nat}
    (hidx : c.cells.head? = some idx) :
    skyElementBufferGetDataLength b idx = .ok c.payload.length := by
  simp [skyElementBufferGetDataLength, h.head_isFirst hc hidx, h.length_field hc hidx]

theorem read (h : PoolOk b live) {c : Chain} (hc : c ∈ live) {idx : Nat}
    (hidx : c.cells.head? = some idx) (maxLen : Nat) :
    skyElementBufferRead b idx maxLen =
      if maxLen < c.payload.length then .error .ebufferTooLongPayload else .ok c.payload := by
  have hfirst := h.head_isFirst hc hidx
  have hlength := h.length_field hc hidx
  obtain ⟨rest, hcells⟩ := List.head?_eq_some_iff.mp hidx
  have hok := h.chains c hc
  have husable := h.usable
  simp only [skyElementBufferRead, hfirst, hlength, Bool.not_true, Bool.false_eq_true, if_false]
  split
  case isTrue => rfl
  case isFalse hfit =>
    obtain ⟨t, ht⟩ := h.head_data hc hcells
    have hsize := hok.size
    rw [hcells, List.length_cons] at hsize
    have hroom := requirement_room h.usable c.payload.length
    rw [← hsize, Nat.succ_mul] at hroom
    have hdata := hok.data
    have hcontents : contents b c.cells = (b.elementI idx).data ++ contents b rest := by
      simp [hcells, contents]
    rw [hcontents] at hdata
    have hlen := h.dataLength idx (hok.bound idx (by simp [hcells]))
    generalize htoRead : min (b.elementUsableSpace - ebLenBytes) c.payload.length = toRead
    have htake : c.payload.take (b.elementUsableSpace - ebLenBytes) = c.payload.take toRead := by
      rw [← htoRead]
      simp [List.take_eq_take_iff]
    rw [htake] at ht
    have hfirstBytes : ((b.elementI idx).data.drop ebLenBytes).take toRead =
        c.payload.take toRead := by
      rw [← ht, List.append_assoc, ebLenBytes, List.drop_left' (by simp),
        List.take_append_of_le_length (by simp; omega), List.take_take, Nat.min_self]
    rw [hfirstBytes, show skyElementBufferElementRequirementFor b c.payload.length - 1 =
      rest.length by omega]
    have hlink := hok.linked
    rw [hcells] at hlink
    refine readLoop_spec h.cellsOk h.countLe c.payload hlink (Or.inl rfl)
      (fun j hj => hok.bound j (by rw [hcells]; exact hj)) (by omega) ?_ ?_
    · simp only [ebLenBytes] at hroom htoRead
      omega
    · by_cases hall : c.payload.length ≤ toRead
      · rw [List.drop_eq_nil_of_le hall]
        exact List.nil_prefix
      · have hnil : t = [] := by
          have := congrArg List.length ht
          simp only [List.length_append, storeU16_length, List.length_take] at this
          simp only [ebLenBytes] at htoRead husable
          exact List.eq_nil_of_length_eq_zero (by omega)
        rw [hnil, List.append_nil] at ht
        rw [← ht, List.append_assoc] at hdata
        have hrest := (List.prefix_append_right_inj _).mp hdata
        conv at hrest => lhs; rw [← List.take_append_drop toRead c.payload]
        exact (List.prefix_append_right_inj _).mp hrest

end PoolOk

/-! ## Delete -/

/-- Deleting wipes exactly the cells of the chain. -/
structure DeleteLoopSpec (b : SkyElementBuffer) (cells : List Nat) (b' : SkyElementBuffer) :
    Prop where
  elementCount : b'.elementCount = b.elementCount
  usable : b'.elementUsableSpace = b.elementUsableSpace
  freeElements : b'.freeElements = b.freeElements + cells.length
  cellsOk : CellsOk b'
  frame : ∀ i, i ∉ cells → b'.elementI i = b.elementI i
  wiped : ∀ i ∈ cells, (b'.elementI i).isFree

theorem deleteLoop_spec {b : SkyElementBuffer} {prev i : Nat} (turns : Nat) {rest : List Nat}
    (hcells : CellsOk b) (hcount : b.elementCount ≤ ebMaxElementCount)
    (hlink : Linked b prev (i :: rest)) (hprev : prev = ebEndIdx ∨ prev < b.elementCount)
    (hbound : ∀ j ∈ i :: rest, j < b.elementCount) (hnodup : (i :: rest).Nodup)
    (hturns : (i :: rest).length ≤ turns) :
    DeleteLoopSpec b (i :: rest) (b.deleteLoop turns i) := by
  induction rest generalizing b prev i turns with
  | nil =>
      obtain ⟨turns, rfl⟩ : ∃ n, turns = n + 1 := ⟨turns - 1, by simp at hturns; omega⟩
      have hi := hbound i (by simp)
      have hlast : b.elementIsLast (b.elementI i) = true := by
        simpa using hlink.isLast_iff hprev hcount (by simp)
      have hself := elementI_setElement_self b (b.elementI i).wipe
        (show i < b.pool.length by rw [hcells.poolLength]; exact hi)
      have hok := hcells.setElement hi (b.elementI i).wipe (hcells.dataLength i hi)
      simp only [deleteLoop, hlast, if_true]
      refine ⟨rfl, rfl, by simp [setElement], ⟨hok.poolLength, hok.dataLength⟩, ?_, ?_⟩
      · intro j hj
        exact elementI_setElement_ne b _ fun h => hj (by simp [h])
      · intro j hj
        have hji : j = i := by simpa using hj
        subst hji
        change ((b.setElement j _).elementI j).isFree = true
        rw [hself]
        rfl
  | cons k rest ih =>
      obtain ⟨turns, rfl⟩ : ∃ n, turns = n + 1 := ⟨turns - 1, by simp at hturns; omega⟩
      have hi := hbound i (by simp)
      have hlast : b.elementIsLast (b.elementI i) = false := by
        simpa using hlink.isLast_iff hprev hcount fun j hj =>
          hbound j (by simp [List.mem_cons.mp hj])
      have hnext : (b.elementI i).next = k := hlink.head_next
      have hok := hcells.setElement hi (b.elementI i).wipe (hcells.dataLength i hi)
      generalize hb1 : ({ b.setElement i (b.elementI i).wipe with
        freeElements := (b.setElement i (b.elementI i).wipe).freeElements + 1 } :
          SkyElementBuffer) = b1
      have hpool1 : b1.pool = (b.setElement i (b.elementI i).wipe).pool := by rw [← hb1]
      have hcount1 : b1.elementCount = b.elementCount := by rw [← hb1]; rfl
      have husable1 : b1.elementUsableSpace = b.elementUsableSpace := by rw [← hb1]; rfl
      have hfree1 : b1.freeElements = b.freeElements + 1 := by rw [← hb1]; rfl
      have hok1 : CellsOk b1 := by
        rw [← hb1]
        exact ⟨hok.poolLength, hok.dataLength⟩
      have helement1 : ∀ j, b1.elementI j = (b.setElement i (b.elementI i).wipe).elementI j := by
        intro j
        simp [elementI, hpool1]
      have hnot : i ∉ k :: rest := (List.nodup_cons.mp hnodup).1
      have hother1 : ∀ j, j ≠ i → b1.elementI j = b.elementI j := by
        intro j hj
        rw [helement1, elementI_setElement_ne b _ hj.symm]
      have hlink1 : Linked b1 i (k :: rest) :=
        (linked_congr fun j hj => hother1 j fun h => hnot (h ▸ hj)).mpr hlink.tail
      have hstep : b.deleteLoop (turns + 1) i = b1.deleteLoop turns k := by
        rw [← hb1]
        simp only [deleteLoop, hlast, hnext, Bool.false_eq_true, if_false]
      rw [hstep]
      have hrec := ih turns hok1 (by omega) hlink1
        (Or.inr (by omega))
        (fun j hj => by rw [hcount1]; exact hbound j (List.mem_cons_of_mem _ hj))
        (List.nodup_cons.mp hnodup).2 (by simpa using hturns)
      refine ⟨hrec.elementCount.trans hcount1, hrec.usable.trans husable1, ?_, hrec.cellsOk,
        ?_, ?_⟩
      · rw [hrec.freeElements, hfree1]
        simp only [List.length_cons]
        push_cast
        ring
      · intro j hj
        rw [List.mem_cons, not_or] at hj
        rw [hrec.frame j hj.2, hother1 j hj.1]
      · intro j hj
        cases List.mem_cons.mp hj with
        | inl heq =>
            rw [heq, hrec.frame i hnot, helement1, elementI_setElement_self b _
              (by rw [hcells.poolLength]; exact hi)]
            rfl
        | inr hmem => exact hrec.wiped j hmem

namespace PoolOk

variable {b : SkyElementBuffer} {live : List Chain}

theorem perm (h : PoolOk b live) {live' : List Chain} (hperm : live.Perm live') :
    PoolOk b live' := by
  have hcells : (liveCells live).Perm (liveCells live') := hperm.flatMap_right _
  refine ⟨h.poolLength, h.countLe, h.usable, h.dataLength,
    fun c hc => h.chains c (hperm.mem_iff.mpr hc), hcells.nodup_iff.mp h.nodup,
    fun i hi hnot => h.free i hi fun hmem => hnot (hcells.mem_iff.mp hmem), ?_⟩
  rw [h.freeElements, hcells.length_eq]

theorem delete {c : Chain} (h : PoolOk b (c :: live)) {idx : Nat}
    (hidx : c.cells.head? = some idx) : PoolOk (skyElementBufferDelete b idx) live := by
  have hfirst := h.head_isFirst (by simp) hidx
  obtain ⟨rest, hcells⟩ := List.head?_eq_some_iff.mp hidx
  have hok := h.chains c (by simp)
  have hlink := hok.linked
  have hlive : liveCells (c :: live) = (idx :: rest) ++ liveCells live := by
    simp [liveCells, hcells]
  have hnodup := h.nodup
  rw [hlive] at hnodup
  have hdisjoint := List.disjoint_of_nodup_append hnodup
  have hlength := h.liveCells_length_le
  rw [hlive, List.length_append] at hlength
  rw [hcells] at hlink
  have hspec := deleteLoop_spec b.elementCount h.cellsOk h.countLe hlink (Or.inl rfl)
    (fun j hj => hok.bound j (by rw [hcells]; exact hj)) (List.nodup_append.mp hnodup).1
    (by omega)
  rw [skyElementBufferDelete, if_pos hfirst]
  have hframe : ∀ i ∈ liveCells live,
      (b.deleteLoop b.elementCount idx).elementI i = b.elementI i :=
    fun i hi => hspec.frame i fun hmem => hdisjoint hmem hi
  refine ⟨hspec.cellsOk.poolLength, hspec.elementCount.trans_le h.countLe,
    hspec.usable.symm ▸ h.usable, hspec.cellsOk.dataLength, ?_,
    (List.nodup_append.mp hnodup).2.1, ?_, ?_⟩
  · intro d hd
    exact (h.chains d (by simp [hd])).congr hspec.elementCount hspec.usable
      fun i hi => hframe i (mem_liveCells.mpr ⟨d, hd, hi⟩)
  · intro i hi hnot
    by_cases hmem : i ∈ idx :: rest
    · exact hspec.wiped i hmem
    · rw [hspec.frame i hmem]
      exact h.free i (hspec.elementCount ▸ hi) (by rw [hlive, List.mem_append]; tauto)
  · rw [hspec.freeElements, hspec.elementCount, h.freeElements, hlive, List.length_append]
    push_cast
    ring

end PoolOk

/-! ## Wipe and create -/

theorem elementI_wipe (b : SkyElementBuffer) (i : Nat) :
    (skyElementBufferWipe b).elementI i = (b.elementI i).wipe := by
  simp only [elementI, skyElementBufferWipe, List.getD_eq_getElem?_getD, List.getElem?_map]
  cases b.pool[i]? <;> rfl

theorem PoolOk.wipe {b : SkyElementBuffer} {live : List Chain} (h : PoolOk b live) :
    PoolOk (skyElementBufferWipe b) [] := by
  refine ⟨?_, h.countLe, h.usable, ?_, by simp, by simp [liveCells], ?_, ?_⟩
  · simpa [skyElementBufferWipe] using h.poolLength
  · intro i hi
    rw [elementI_wipe]
    exact h.dataLength i hi
  · intro i _ _
    rw [elementI_wipe]
    rfl
  · simp [skyElementBufferWipe, liveCells]

theorem PoolOk.create {usableElementSize elementCount : Nat}
    (hu : ebLenBytes ≤ usableElementSize) (hc : elementCount ≤ ebMaxElementCount) :
    PoolOk (skyElementBufferCreate usableElementSize elementCount) [] := by
  refine ⟨by simp [skyElementBufferCreate, skyElementBufferWipe], hc, hu, ?_, by simp,
    by simp [liveCells], ?_, by simp [skyElementBufferCreate, skyElementBufferWipe, liveCells]⟩
  · intro i hi
    have hi' : i < elementCount := hi
    rw [skyElementBufferCreate, elementI_wipe]
    simp [elementI, BufferElement.wipe, hi', skyElementBufferWipe]
  · intro i _ _
    rw [skyElementBufferCreate, elementI_wipe]
    rfl

/-! ## The stored map -/

theorem holds_cons {c : Chain} {live : List Chain} {idx : Nat} {p : Bytes} :
    Holds (c :: live) idx p ↔
      (c.cells.head? = some idx ∧ c.payload = p) ∨ Holds live idx p := by
  simp [Holds]

theorem Holds.mem_liveCells {live : List Chain} {idx : Nat} {p : Bytes} (h : Holds live idx p) :
    idx ∈ liveCells live := by
  obtain ⟨c, hc, hidx, -⟩ := h
  exact PoolOk.mem_liveCells.mpr ⟨c, hc, List.mem_of_mem_head? hidx⟩

theorem PoolOk.not_holds_tail {b : SkyElementBuffer} {c : Chain} {live : List Chain}
    (h : PoolOk b (c :: live)) {idx : Nat} (hidx : c.cells.head? = some idx) (p : Bytes) :
    ¬Holds live idx p := by
  intro hold
  have hnodup := h.nodup
  simp only [liveCells, List.flatMap_cons] at hnodup
  exact List.disjoint_of_nodup_append hnodup (List.mem_of_mem_head? hidx) hold.mem_liveCells

namespace Stores

variable {b : SkyElementBuffer} {m : Nat → Option Bytes}

theorem exists_chain (h : Stores b m) {idx : Nat} {p : Bytes} (hm : m idx = some p) :
    ∃ c rest, PoolOk b (c :: rest) ∧ c.cells.head? = some idx ∧ c.payload = p ∧
      ∀ i q, m i = some q ↔ Holds (c :: rest) i q := by
  obtain ⟨live, hok, hmap⟩ := h
  obtain ⟨c, hc, hidx, hpay⟩ := (hmap idx p).mp hm
  obtain ⟨l₁, l₂, rfl⟩ := List.append_of_mem hc
  have hperm : (l₁ ++ c :: l₂).Perm (c :: (l₁ ++ l₂)) := List.perm_middle
  refine ⟨c, l₁ ++ l₂, hok.perm hperm, hidx, hpay, fun i q => ?_⟩
  rw [hmap i q]
  simp only [Holds, hperm.mem_iff]

theorem store_room (h : Stores b m) {p : Bytes} (hp : p.length < 65536)
    (hroom : (skyElementBufferElementRequirementFor b p.length : Int) ≤ b.freeElements) :
    ∃ idx b', skyElementBufferStore b p = (b', .ok idx) ∧ m idx = none ∧
      idx < ebMaxElementCount ∧ Stores b' (Function.update m idx (some p)) ∧
      SameShape b b' := by
  obtain ⟨live, hok, hmap⟩ := h
  obtain ⟨idx, c, b', hstore, hpay, hidx, hok', hshape⟩ := hok.store hp hroom
  have hfresh : ∀ q, ¬Holds live idx q := hok'.not_holds_tail hidx
  have hbound : idx < b'.elementCount :=
    (hok'.chains c (by simp)).bound idx (List.mem_of_mem_head? hidx)
  refine ⟨idx, b', hstore, ?_, hbound.trans_le hok'.countLe, ⟨c :: live, hok', ?_⟩, hshape⟩
  · cases hm : m idx with
    | none => rfl
    | some q => exact absurd ((hmap idx q).mp hm) (hfresh q)
  · intro i q
    rw [holds_cons, hidx, hpay, ← hmap i q]
    by_cases hi : i = idx
    · subst hi
      have hnot : m i ≠ some q := fun hm => hfresh q ((hmap i q).mp hm)
      simp [hnot]
    · simp [Function.update_of_ne hi, Ne.symm hi]

theorem store (h : Stores b m) {p : Bytes} (hp : p.length < 65536) :
    skyElementBufferStore b p = (b, .error .ebufferNoSpace) ∨
      ∃ idx b', skyElementBufferStore b p = (b', .ok idx) ∧ m idx = none ∧
        idx < ebMaxElementCount ∧ Stores b' (Function.update m idx (some p)) ∧
        SameShape b b' := by
  by_cases hroom : (skyElementBufferElementRequirementFor b p.length : Int) ≤ b.freeElements
  · exact Or.inr (h.store_room hp hroom)
  · exact Or.inl (store_noSpace hp (not_le.mp hroom))

theorem read (h : Stores b m) {idx : Nat} {p : Bytes} (hm : m idx = some p) (maxLen : Nat) :
    skyElementBufferRead b idx maxLen =
      if maxLen < p.length then .error .ebufferTooLongPayload else .ok p := by
  obtain ⟨c, rest, hok, hidx, rfl, -⟩ := h.exists_chain hm
  exact hok.read (by simp) hidx maxLen

/-- What is stored has a length that the field for it can hold. -/
theorem length_lt (h : Stores b m) {idx : Nat} {p : Bytes} (hm : m idx = some p) :
    p.length < 65536 := by
  obtain ⟨c, rest, hok, -, rfl, -⟩ := h.exists_chain hm
  exact (hok.chains c (by simp)).short

theorem getDataLength (h : Stores b m) {idx : Nat} {p : Bytes} (hm : m idx = some p) :
    skyElementBufferGetDataLength b idx = .ok p.length := by
  obtain ⟨c, rest, hok, hidx, rfl, -⟩ := h.exists_chain hm
  exact hok.getDataLength (by simp) hidx

theorem delete (h : Stores b m) {idx : Nat} {p : Bytes} (hm : m idx = some p) :
    Stores (skyElementBufferDelete b idx) (Function.update m idx none) := by
  obtain ⟨c, rest, hok, hidx, -, hmap⟩ := h.exists_chain hm
  refine ⟨rest, hok.delete hidx, fun i q => ?_⟩
  by_cases hi : i = idx
  · subst hi
    simp [hok.not_holds_tail hidx q]
  · rw [Function.update_of_ne hi, hmap i q, holds_cons, hidx]
    simp [Ne.symm hi]

theorem wipe (h : Stores b m) : Stores (skyElementBufferWipe b) fun _ => none := by
  obtain ⟨live, hok, -⟩ := h
  exact ⟨[], hok.wipe, by simp [Holds]⟩

theorem create {usableElementSize elementCount : Nat} (hu : ebLenBytes ≤ usableElementSize)
    (hc : elementCount ≤ ebMaxElementCount) :
    Stores (skyElementBufferCreate usableElementSize elementCount) fun _ => none :=
  ⟨[], PoolOk.create hu hc, by simp [Holds]⟩

end Stores

end Skylink
