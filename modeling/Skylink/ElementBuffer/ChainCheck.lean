import Skylink.ElementBuffer.Refinement
import Skylink.Library.Iteration

/-!
# The check of the chains

The check walks along the links in both directions, on memory that may hold anything. It
tells the cells of a chain from all others, but on a ring of cells it never comes to an end.
-/

namespace Skylink

open Iteration

namespace SkyElementBuffer

def elementIsInChain (b : SkyElementBuffer) (el : BufferElement) : Bool :=
  (el.previous == ebEndIdx && el.next == ebEndIdx) ||
    (decide (el.previous < b.elementCount) && decide (el.next < b.elementCount)) ||
    (el.previous == ebEndIdx && decide (el.next < b.elementCount)) ||
    (decide (el.previous < b.elementCount) && el.next == ebEndIdx)

/-- A turn of a walk along the links `ahead` up to an element at the end. -/
def chainTurn (b : SkyElementBuffer) (ahead behind : BufferElement → Nat)
    (isEnd : BufferElement → Bool) (idx : Nat) : Bool ⊕ Nat :=
  let el := b.elementI idx
  if !b.elementIsInChain el then .inl false
  else if isEnd el then .inl true
  else
    let idxOld := idx
    let idx := ahead el
    if behind (b.elementI idx) ≠ idxOld then .inl false else .inr idx

def chainIsOkBackwards (b : SkyElementBuffer) : Nat → Nat → Option Bool :=
  run (b.chainTurn BufferElement.previous BufferElement.next b.elementIsFirst)

def chainIsOkForward (b : SkyElementBuffer) : Nat → Nat → Option Bool :=
  run (b.chainTurn BufferElement.next BufferElement.previous b.elementIsLast)

end SkyElementBuffer

/-- `sky_element_buffer_valid_chain`; `none` where a walk is not over after `fuel` turns. -/
def skyElementBufferValidChain (fuel : Nat) (b : SkyElementBuffer) (idx : Nat) : Option Bool :=
  if !b.elementIsInChain (b.elementI idx) then some false
  else do
    let backwards ← b.chainIsOkBackwards fuel idx
    let forward ← b.chainIsOkForward fuel idx
    some (backwards && forward)

/-- The loop of `sky_element_buffer_entire_buffer_is_ok`, from the element `i` on. -/
def entireBufferLoop (fuel : Nat) (b : SkyElementBuffer) : (turns i : Nat) → Int → Option Bool
  | 0, _, countedFree => some (countedFree == b.freeElements)
  | turns + 1, i, countedFree =>
      if (b.elementI i).isFree then entireBufferLoop fuel b turns (i + 1) (countedFree + 1)
      else do
        let valid ← skyElementBufferValidChain fuel b i
        if valid then entireBufferLoop fuel b turns (i + 1) countedFree else some false

/-- `sky_element_buffer_entire_buffer_is_ok`. -/
def skyElementBufferEntireBufferIsOk (fuel : Nat) (b : SkyElementBuffer) : Option Bool :=
  entireBufferLoop fuel b b.elementCount 0 0

namespace SkyElementBuffer

/-! ## The two directions -/

/-- A link that an element of a chain may have. -/
def LinkOk (b : SkyElementBuffer) (link : Nat) : Prop := link = ebEndIdx ∨ link < b.elementCount

/-- A direction in which a chain is walked. -/
structure Direction (b : SkyElementBuffer) where
  ahead : BufferElement → Nat
  behind : BufferElement → Nat
  isEnd : BufferElement → Bool
  inChain_iff : ∀ el, b.elementIsInChain el ↔ b.LinkOk (ahead el) ∧ b.LinkOk (behind el)
  isEnd_iff : ∀ el, isEnd el ↔ ahead el = ebEndIdx ∧ b.LinkOk (behind el)

theorem elementIsInChain_iff {b : SkyElementBuffer} {el : BufferElement} :
    b.elementIsInChain el ↔ b.LinkOk el.previous ∧ b.LinkOk el.next := by
  simp only [elementIsInChain, LinkOk, Bool.or_eq_true, Bool.and_eq_true, beq_iff_eq,
    decide_eq_true_eq]
  tauto

def backwards (b : SkyElementBuffer) : Direction b where
  ahead := BufferElement.previous
  behind := BufferElement.next
  isEnd := b.elementIsFirst
  inChain_iff _ := elementIsInChain_iff
  isEnd_iff el := by
    simp only [elementIsFirst, LinkOk, Bool.or_eq_true, Bool.and_eq_true, beq_iff_eq,
      decide_eq_true_eq]
    tauto

def forward (b : SkyElementBuffer) : Direction b where
  ahead := BufferElement.next
  behind := BufferElement.previous
  isEnd := b.elementIsLast
  inChain_iff _ := elementIsInChain_iff.trans And.comm
  isEnd_iff el := by
    simp only [elementIsLast, LinkOk, Bool.or_eq_true, Bool.and_eq_true, beq_iff_eq,
      decide_eq_true_eq]
    tauto

namespace Direction

variable {b : SkyElementBuffer} (d : Direction b)

def turn : Nat → Bool ⊕ Nat := b.chainTurn d.ahead d.behind d.isEnd

/-- The cell after the given one. -/
def step (i : Nat) : Nat := d.ahead (b.elementI i)

/-- The cell before the given one. -/
def back (i : Nat) : Nat := d.behind (b.elementI i)

theorem turn_eq_inr_iff (hcount : b.elementCount ≤ ebMaxElementCount) {i j : Nat} :
    d.turn i = .inr j ↔
      d.step i = j ∧ j < b.elementCount ∧ b.LinkOk (d.back i) ∧ d.back j = i := by
  have hend : ebMaxElementCount < ebEndIdx := by decide
  rw [turn, chainTurn]
  dsimp only
  split
  case isTrue hchain =>
    rw [Bool.not_eq_true', ← Bool.not_eq_true, d.inChain_iff] at hchain
    refine ⟨fun h => (by cases h), ?_⟩
    rintro ⟨rfl, hlt, hback, -⟩
    exact absurd ⟨Or.inr hlt, hback⟩ hchain
  case isFalse hchain =>
    rw [Bool.not_eq_true', Bool.not_eq_false, d.inChain_iff] at hchain
    split
    case isTrue hlast =>
      refine ⟨fun h => (by cases h), ?_⟩
      rintro ⟨rfl, hlt, -, -⟩
      have hstep : d.step i = ebEndIdx := ((d.isEnd_iff _).mp hlast).1
      omega
    case isFalse hlast =>
      have hlt : d.step i < b.elementCount :=
        hchain.1.resolve_left fun h => hlast ((d.isEnd_iff _).mpr ⟨h, hchain.2⟩)
      split
      case isTrue hne =>
        refine ⟨fun h => (by cases h), ?_⟩
        rintro ⟨rfl, -, -, hback⟩
        exact absurd hback hne
      case isFalse heq =>
        constructor
        · intro h
          cases h
          exact ⟨rfl, hlt, hchain.2, not_not.mp heq⟩
        · rintro ⟨rfl, -, -, -⟩
          rfl

theorem turn_eq_inl_true_iff {i : Nat} :
    d.turn i = .inl true ↔ d.step i = ebEndIdx ∧ b.LinkOk (d.back i) := by
  rw [turn, chainTurn]
  dsimp only
  split
  case isTrue hchain =>
    rw [Bool.not_eq_true', ← Bool.not_eq_true, d.inChain_iff] at hchain
    refine ⟨fun h => (by cases h), ?_⟩
    rintro ⟨hstep, hback⟩
    exact absurd ⟨Or.inl hstep, hback⟩ hchain
  case isFalse hchain =>
    split
    case isTrue hlast => exact ⟨fun _ => (d.isEnd_iff _).mp hlast, fun _ => rfl⟩
    case isFalse hlast =>
      refine ⟨fun h => ?_, fun h => absurd ((d.isEnd_iff _).mpr h) hlast⟩
      split at h <;> cases h

theorem tracedBack (hcount : b.elementCount ≤ ebMaxElementCount) : TracedBack d.turn := by
  intro i j k hi hj
  rw [← ((d.turn_eq_inr_iff hcount).mp hi).2.2.2, ((d.turn_eq_inr_iff hcount).mp hj).2.2.2]

/-- The cells that the links lead to, up to the end of the chain. -/
def Path : Nat → List Nat → Prop
  | i, [] => d.step i = ebEndIdx
  | i, j :: cells => d.step i = j ∧ j < b.elementCount ∧ d.back j = i ∧ Path j cells

/-- The walk finds the end where there is one. -/
theorem run_eq_true_iff (hcount : b.elementCount ≤ ebMaxElementCount) {i : Nat}
    (hi : i < b.elementCount) :
    (∃ fuel, run d.turn fuel i = some true) ↔ b.LinkOk (d.back i) ∧ ∃ cells, d.Path i cells := by
  constructor
  · rintro ⟨fuel, hrun⟩
    induction fuel generalizing i with
    | zero => cases hrun
    | succ fuel ih =>
        cases hturn : d.turn i with
        | inl ok =>
            rw [run_of_inl hturn] at hrun
            rw [Option.some.inj hrun, d.turn_eq_inl_true_iff] at hturn
            exact ⟨hturn.2, [], hturn.1⟩
        | inr j =>
            rw [run_of_inr hturn] at hrun
            obtain ⟨hstep, hj, hback, hbackj⟩ := (d.turn_eq_inr_iff hcount).mp hturn
            obtain ⟨-, cells, hpath⟩ := ih hj hrun
            exact ⟨hback, j :: cells, hstep, hj, hbackj, hpath⟩
  · rintro ⟨hback, cells, hpath⟩
    induction cells generalizing i with
    | nil => exact ⟨1, run_of_inl (d.turn_eq_inl_true_iff.mpr ⟨hpath, hback⟩)⟩
    | cons j cells ih =>
        obtain ⟨hstep, hj, hbackj, hrest⟩ := hpath
        obtain ⟨fuel, hrun⟩ := ih hj (Or.inr (hbackj ▸ hi)) hrest
        have hturn := (d.turn_eq_inr_iff hcount).mpr ⟨hstep, hj, hback, hbackj⟩
        exact ⟨fuel + 1, (run_of_inr hturn).trans hrun⟩

/-- The cell lies on a ring of cells that are linked in both directions. -/
def OnRing (i : Nat) : Prop := Ring (· < b.elementCount) d.step d.back i

theorem turn_of_onRing (hcount : b.elementCount ≤ ebMaxElementCount) {i : Nat} (h : d.OnRing i)
    (k : Nat) : d.turn (d.step^[k] i) = .inr (d.step^[k + 1] i) := by
  obtain ⟨⟨n, hn, hself⟩, hring⟩ := h
  have hback : d.back (d.step^[k] i) < b.elementCount := by
    have hround : d.step^[k] i = d.step^[k + n - 1 + 1] i := by
      rw [Nat.sub_add_cancel (by omega), Function.iterate_add_apply, hself]
    rw [hround, (hring (k + n - 1)).2]
    exact (hring (k + n - 1)).1
  refine (d.turn_eq_inr_iff hcount).mpr ⟨?_, (hring (k + 1)).1, Or.inr hback, (hring k).2⟩
  exact (Function.iterate_succ_apply' d.step k i).symm

/-- On a ring the walk never ends. -/
theorem run_of_onRing (hcount : b.elementCount ≤ ebMaxElementCount) {i : Nat} (h : d.OnRing i)
    (fuel : Nat) : run d.turn fuel i = none := by
  have hafter : after d.turn fuel i = some (d.step^[fuel] i) := by
    induction fuel with
    | zero => rfl
    | succ fuel ih => exact after_succ_iff.mpr ⟨_, ih, d.turn_of_onRing hcount h fuel⟩
  exact run_eq_none_iff.mpr ⟨_, hafter⟩

/-- A walk that is not over after as many turns as there are elements is on a ring. -/
theorem onRing_of_run (hcount : b.elementCount ≤ ebMaxElementCount) {i : Nat}
    (hi : i < b.elementCount) (h : run d.turn b.elementCount i = none) : d.OnRing i := by
  have hclosed : ∀ j ∈ Finset.range b.elementCount, ∀ k, d.turn j = .inr k →
      k ∈ Finset.range b.elementCount := fun j _ k hturn =>
    Finset.mem_range.mpr ((d.turn_eq_inr_iff hcount).mp hturn).2.1
  obtain ⟨n, hn, hself⟩ := exists_after_self (d.tracedBack hcount) hclosed
    (Finset.mem_range.mpr hi) (by rwa [Finset.card_range])
  have hafter (k : Nat) : after d.turn k i = some (d.step^[k] i) := by
    induction k with
    | zero => rfl
    | succ k ih =>
        obtain ⟨j, hj⟩ := run_eq_none_iff.mp (run_eq_none_of_after_self hn hself (k + 1))
        obtain ⟨t, ht, hturn⟩ := after_succ_iff.mp hj
        rw [ih] at ht
        cases ht
        rw [hj, Function.iterate_succ_apply', ((d.turn_eq_inr_iff hcount).mp hturn).1]
  have hturn (k : Nat) : d.turn (d.step^[k] i) = .inr (d.step^[k + 1] i) := by
    obtain ⟨t, ht, hturn⟩ := after_succ_iff.mp (hafter (k + 1))
    rw [hafter k] at ht
    cases ht
    exact hturn
  refine ⟨⟨n, hn, ?_⟩, fun k => ⟨?_, ((d.turn_eq_inr_iff hcount).mp (hturn k)).2.2.2⟩⟩
  · rw [hafter n] at hself
    exact Option.some.inj hself
  · cases k with
    | zero => exact hi
    | succ k => exact ((d.turn_eq_inr_iff hcount).mp (hturn k)).2.1

end Direction

/-! ## Chains -/

/-- The cell belongs to a chain: its cells are linked in both directions, from an element
with `EB_END_IDX` before it to one with `EB_END_IDX` after it. -/
def InChain (b : SkyElementBuffer) (i : Nat) : Prop :=
  ∃ cells, i ∈ cells ∧ Linked b ebEndIdx cells ∧ ∀ j ∈ cells, j < b.elementCount

/-- The cells from the given one on are what is ahead of it. -/
theorem linked_cons_iff {b : SkyElementBuffer} {prev i : Nat} {cells : List Nat} :
    (Linked b prev (i :: cells) ∧ ∀ j ∈ cells, j < b.elementCount) ↔
      b.backwards.step i = prev ∧ b.forward.Path i cells := by
  induction cells generalizing prev i with
  | nil => simp [Linked, Direction.Path, Direction.step, backwards, forward]
  | cons j cells ih =>
      have hrest := @ih i j
      rw [Linked, Direction.Path, List.forall_mem_cons]
      constructor
      · rintro ⟨⟨hprev, hnext, hlinked⟩, hj, hcells⟩
        obtain ⟨hback, hpath⟩ := hrest.mp ⟨hlinked, hcells⟩
        exact ⟨hprev, hnext, hj, hback, hpath⟩
      · rintro ⟨hprev, hnext, hj, hback, hpath⟩
        obtain ⟨hlinked, hcells⟩ := hrest.mpr ⟨hback, hpath⟩
        exact ⟨⟨hprev, hnext, hlinked⟩, hj, hcells⟩

/-- Going on along a chain puts the cell that was left in front of those behind. -/
theorem exists_paths_of_mem {b : SkyElementBuffer} {first : Nat} {cells : List Nat} {i : Nat}
    (hmem : i ∈ first :: cells) (hfirst : first < b.elementCount) (before : List Nat)
    (hbefore : b.backwards.Path first before) (hcells : b.forward.Path first cells) :
    i < b.elementCount ∧ (∃ l, b.backwards.Path i l) ∧ ∃ l, b.forward.Path i l := by
  induction cells generalizing first before with
  | nil =>
      rw [List.mem_singleton.mp hmem]
      exact ⟨hfirst, ⟨before, hbefore⟩, [], hcells⟩
  | cons j cells ih =>
      rcases List.mem_cons.mp hmem with rfl | hrest
      · exact ⟨hfirst, ⟨before, hbefore⟩, j :: cells, hcells⟩
      · obtain ⟨hstep, hj, hback, hpath⟩ := hcells
        exact ih hrest hj (first :: before) ⟨hback, hfirst, hstep, hbefore⟩ hpath

/-- The cells behind, turned round, and those ahead make up the chain. -/
theorem linked_of_paths {b : SkyElementBuffer} {i : Nat} (hi : i < b.elementCount)
    {before cells : List Nat} (hbefore : b.backwards.Path i before)
    (hcells : b.forward.Path i cells) :
    Linked b ebEndIdx (before.reverse ++ i :: cells) ∧
      ∀ j ∈ before.reverse ++ i :: cells, j < b.elementCount := by
  induction before generalizing i cells with
  | nil =>
      obtain ⟨hlinked, hbound⟩ := linked_cons_iff.mpr ⟨hbefore, hcells⟩
      exact ⟨hlinked, List.forall_mem_cons.mpr ⟨hi, hbound⟩⟩
  | cons j before ih =>
      obtain ⟨hstep, hj, hback, hpath⟩ := hbefore
      rw [List.reverse_cons, List.append_assoc]
      exact ih hj hpath ⟨hback, hi, hstep, hcells⟩

theorem inChain_iff {b : SkyElementBuffer} {i : Nat} :
    InChain b i ↔
      i < b.elementCount ∧ (∃ l, b.backwards.Path i l) ∧ ∃ l, b.forward.Path i l := by
  constructor
  · rintro ⟨cells, hmem, hlinked, hbound⟩
    cases cells with
    | nil => cases hmem
    | cons first cells =>
        obtain ⟨hfirst, hrest⟩ := List.forall_mem_cons.mp hbound
        obtain ⟨hprev, hpath⟩ := linked_cons_iff.mp ⟨hlinked, hrest⟩
        exact exists_paths_of_mem hmem hfirst [] hprev hpath
  · rintro ⟨hi, ⟨before, hbefore⟩, cells, hcells⟩
    obtain ⟨hlinked, hbound⟩ := linked_of_paths hi hbefore hcells
    exact ⟨_, List.mem_append_right _ List.mem_cons_self, hlinked, hbound⟩

/-! ## The check of one cell -/

/-- The cell lies on a ring: its links lead along cells that are linked in both directions
back to itself. -/
def OnRing (b : SkyElementBuffer) (i : Nat) : Prop := b.forward.OnRing i

/-- The check comes to an end, and with the answer whether the cell is in a chain. -/
def ValidChainExact (b : SkyElementBuffer) (i : Nat) : Prop :=
  ∃ r, Returns (fun fuel => skyElementBufferValidChain fuel b i) r ∧ (r = true ↔ InChain b i)

theorem validChain_of_onRing {b : SkyElementBuffer} (hcount : b.elementCount ≤ ebMaxElementCount)
    {i : Nat} (h : OnRing b i) (fuel : Nat) : skyElementBufferValidChain fuel b i = none := by
  have hback : b.backwards.OnRing i := Ring.symm h
  have hchain : b.elementIsInChain (b.elementI i) :=
    elementIsInChain_iff.mpr ⟨Or.inr (hback.2 1).1, Or.inr (h.2 1).1⟩
  have hrun : b.chainIsOkBackwards fuel i = none := b.backwards.run_of_onRing hcount hback fuel
  rw [skyElementBufferValidChain, hchain, hrun]
  rfl

/-- Off the rings both walks are over after as many turns as there are elements. -/
theorem validChain_of_not_onRing {b : SkyElementBuffer}
    (hcount : b.elementCount ≤ ebMaxElementCount) {i : Nat} (hi : i < b.elementCount)
    (h : ¬ OnRing b i) {fuel : Nat} (hfuel : b.elementCount ≤ fuel) :
    ∃ r, skyElementBufferValidChain fuel b i = some r ∧ (r = true ↔ InChain b i) := by
  have hends (d : Direction b) (hd : ¬ d.OnRing i) : ∃ r, run d.turn fuel i = some r := by
    obtain ⟨r, hr⟩ := Option.ne_none_iff_exists'.mp (mt (d.onRing_of_run hcount hi) hd)
    exact ⟨r, run_mono hfuel hr⟩
  obtain ⟨r, hbackwards⟩ := hends b.backwards fun hring => h hring.symm
  obtain ⟨r', hforward⟩ := hends b.forward h
  have htrue (d : Direction b) {ok : Bool} (hd : run d.turn fuel i = some ok) :
      ok = true ↔ b.LinkOk (d.back i) ∧ ∃ cells, d.Path i cells := by
    rw [← d.run_eq_true_iff hcount hi]
    refine ⟨fun hok => ⟨fuel, hok ▸ hd⟩, ?_⟩
    rintro ⟨fuel', hd'⟩
    have hmore := run_mono (le_max_right fuel fuel') hd'
    rw [run_mono (le_max_left fuel fuel') hd] at hmore
    exact Option.some.inj hmore
  by_cases hchain : b.elementIsInChain (b.elementI i)
  · refine ⟨r && r', ?_, ?_⟩
    · rw [skyElementBufferValidChain, hchain]
      change (run b.backwards.turn fuel i).bind (fun ok =>
        (run b.forward.turn fuel i).bind fun ok' => some (ok && ok')) = _
      rw [hbackwards, hforward]
      rfl
    · obtain ⟨hprev, hnext⟩ := elementIsInChain_iff.mp hchain
      rw [Bool.and_eq_true, htrue b.backwards hbackwards, htrue b.forward hforward, inChain_iff]
      constructor
      · rintro ⟨⟨-, hbefore⟩, -, hcells⟩
        exact ⟨hi, hbefore, hcells⟩
      · rintro ⟨-, hbefore, hcells⟩
        exact ⟨⟨hnext, hbefore⟩, hprev, hcells⟩
  · refine ⟨false, ?_, ⟨fun hf => (by cases hf), fun hin => absurd ?_ hchain⟩⟩
    · rw [skyElementBufferValidChain, Bool.eq_false_iff.mpr hchain]
      rfl
    · have hlink (d : Direction b) : (∃ l, d.Path i l) → b.LinkOk (d.step i) := by
        rintro ⟨cells, hpath⟩
        cases cells with
        | nil => exact Or.inl hpath
        | cons j cells => exact Or.inr (hpath.1 ▸ hpath.2.1)
      obtain ⟨-, hbefore, hcells⟩ := inChain_iff.mp hin
      exact elementIsInChain_iff.mpr ⟨hlink b.backwards hbefore, hlink b.forward hcells⟩

theorem validChainExact_iff {b : SkyElementBuffer} (hcount : b.elementCount ≤ ebMaxElementCount)
    {i : Nat} (hi : i < b.elementCount) : ValidChainExact b i ↔ ¬ OnRing b i := by
  constructor
  · rintro ⟨r, hr, -⟩ hring
    exact Returns.not_of_none (m := 0) (fun fuel _ => validChain_of_onRing hcount hring fuel) r hr
  · intro h
    obtain ⟨r, -, hiff⟩ := validChain_of_not_onRing hcount hi h le_rfl
    refine ⟨r, ⟨b.elementCount, fun fuel hfuel => ?_⟩, hiff⟩
    obtain ⟨r', hr', hiff'⟩ := validChain_of_not_onRing hcount hi h hfuel
    exact hr'.trans (congrArg some (Bool.eq_iff_iff.mpr (hiff'.trans hiff.symm)))

/-! ## The check of the whole buffer -/

/-- The element is free or in a chain. -/
def Accounted (b : SkyElementBuffer) (i : Nat) : Prop := (b.elementI i).isFree ∨ InChain b i

/-- From the element on, a ring comes before the first element that is found to be wrong. -/
def StuckFrom (b : SkyElementBuffer) (i : Nat) : Prop :=
  ∃ j ≥ i, j < b.elementCount ∧ OnRing b j ∧ ∀ k ≥ i, k < j → Accounted b k

/-- The check comes to an end, and with the answer whether every element is free or in a
chain and the number of free elements is right. -/
def EntireBufferExact (b : SkyElementBuffer) : Prop :=
  ∃ r, Returns (fun fuel => skyElementBufferEntireBufferIsOk fuel b) r ∧
    (r = true ↔ (∀ i < b.elementCount, Accounted b i) ∧
      ((List.range b.elementCount).countP fun i => (b.elementI i).isFree) = b.freeElements)

theorem not_onRing_of_isFree {b : SkyElementBuffer} (hcount : b.elementCount ≤ ebMaxElementCount)
    {i : Nat} (h : (b.elementI i).isFree) : ¬ OnRing b i := by
  rintro ⟨-, hring⟩
  rw [BufferElement.isFree, Bool.and_eq_true, beq_iff_eq, beq_iff_eq] at h
  have hnext : (b.elementI i).next < b.elementCount := (hring 1).1
  have hnull : ebMaxElementCount < ebNullIdx := by decide
  omega

theorem not_onRing_of_inChain {b : SkyElementBuffer} (hcount : b.elementCount ≤ ebMaxElementCount)
    {i : Nat} (h : InChain b i) : ¬ OnRing b i := by
  intro hring
  obtain ⟨hi, -, hcells⟩ := inChain_iff.mp h
  have hback : b.backwards.OnRing i := Ring.symm hring
  obtain ⟨fuel, hrun⟩ :=
    (b.forward.run_eq_true_iff hcount hi).mpr ⟨Or.inr (hback.2 1).1, hcells⟩
  rw [b.forward.run_of_onRing hcount hring] at hrun
  cases hrun

theorem stuckFrom_iff {b : SkyElementBuffer} {i : Nat} (hi : i < b.elementCount) :
    StuckFrom b i ↔ OnRing b i ∨ Accounted b i ∧ StuckFrom b (i + 1) := by
  constructor
  · rintro ⟨j, hij, hj, hring, hall⟩
    rcases Nat.eq_or_lt_of_le hij with rfl | hlt
    · exact Or.inl hring
    · exact Or.inr ⟨hall i le_rfl hlt, j, hlt, hj, hring, fun k hk => hall k (by omega)⟩
  · rintro (hring | ⟨hacc, j, hij, hj, hring, hall⟩)
    · exact ⟨i, le_rfl, hi, hring, fun k hk hlt => absurd hlt (by omega)⟩
    · refine ⟨j, by omega, hj, hring, fun k hk hlt => ?_⟩
      rcases Nat.eq_or_lt_of_le hk with rfl | hgt
      · exact hacc
      · exact hall k hgt hlt

/-- What the loop does with one element that is not free. -/
theorem entireBufferLoop_of_not_free {fuel : Nat} {b : SkyElementBuffer} {i turns : Nat}
    {counted : Int} (hfree : ¬ (b.elementI i).isFree) :
    entireBufferLoop fuel b (turns + 1) i counted =
      (skyElementBufferValidChain fuel b i).bind fun valid =>
        if valid then entireBufferLoop fuel b turns (i + 1) counted else some false := by
  rw [entireBufferLoop, if_neg hfree]
  rfl

theorem entireBufferLoop_eq_none {b : SkyElementBuffer}
    (hcount : b.elementCount ≤ ebMaxElementCount) {fuel : Nat}
    (hfuel : b.elementCount ≤ fuel) {turns i : Nat} {counted : Int}
    (hturns : i + turns = b.elementCount) (h : StuckFrom b i) :
    entireBufferLoop fuel b turns i counted = none := by
  induction turns generalizing i counted with
  | zero =>
      obtain ⟨j, hij, hj, -⟩ := h
      omega
  | succ turns ih =>
      by_cases hfree : (b.elementI i).isFree
      · have hrest := (stuckFrom_iff (by omega)).mp h |>.resolve_left
          (not_onRing_of_isFree hcount hfree)
        rw [entireBufferLoop, if_pos hfree]
        exact ih (by omega) hrest.2
      · rw [entireBufferLoop_of_not_free hfree]
        rcases (stuckFrom_iff (by omega)).mp h with hring | ⟨hacc, hrest⟩
        · rw [validChain_of_onRing hcount hring]
          rfl
        · have hin := hacc.resolve_left hfree
          obtain ⟨r, hr, hiff⟩ := validChain_of_not_onRing hcount (by omega)
            (not_onRing_of_inChain hcount hin) hfuel
          rw [hr, Option.bind_some, if_pos (hiff.mpr hin)]
          exact ih (by omega) hrest

theorem entireBufferLoop_eq_some {b : SkyElementBuffer}
    (hcount : b.elementCount ≤ ebMaxElementCount) {fuel : Nat}
    (hfuel : b.elementCount ≤ fuel) {turns i : Nat} {counted : Int}
    (hturns : i + turns = b.elementCount) (h : ¬ StuckFrom b i) :
    ∃ r, entireBufferLoop fuel b turns i counted = some r ∧
      (r = true ↔ (∀ j ∈ List.range' i turns, Accounted b j) ∧
        counted + ((List.range' i turns).countP fun j => (b.elementI j).isFree) =
          b.freeElements) := by
  induction turns generalizing i counted with
  | zero => exact ⟨_, rfl, by simp⟩
  | succ turns ih =>
      rw [stuckFrom_iff (by omega), not_or, not_and] at h
      obtain ⟨hring, hrest⟩ := h
      rw [List.range'_succ, List.forall_mem_cons, List.countP_cons]
      by_cases hfree : (b.elementI i).isFree
      · obtain ⟨r, hr, hiff⟩ := @ih (i + 1) (counted + 1) (by omega) (hrest (Or.inl hfree))
        refine ⟨r, ?_, hiff.trans ?_⟩
        · rw [entireBufferLoop, if_pos hfree, hr]
        · rw [if_pos hfree]
          push_cast
          constructor
          · rintro ⟨hall, hsum⟩
            exact ⟨⟨Or.inl hfree, hall⟩, by omega⟩
          · rintro ⟨⟨-, hall⟩, hsum⟩
            exact ⟨hall, by omega⟩
      · obtain ⟨valid, hvalid, hvalid_iff⟩ := validChain_of_not_onRing hcount (by omega) hring hfuel
        rw [entireBufferLoop_of_not_free hfree, hvalid, Option.bind_some, if_neg hfree]
        by_cases hin : InChain b i
        · obtain ⟨r, hr, hiff⟩ := ih (by omega) (hrest (Or.inr hin))
          rw [if_pos (hvalid_iff.mpr hin)]
          refine ⟨r, hr, hiff.trans ?_⟩
          rw [Nat.add_zero]
          exact and_congr_left fun _ => ⟨fun hall => ⟨Or.inr hin, hall⟩, And.right⟩
        · rw [if_neg fun hv => hin (hvalid_iff.mp hv)]
          refine ⟨false, rfl, ⟨fun hf => (by cases hf), ?_⟩⟩
          rintro ⟨⟨hacc, -⟩, -⟩
          exact absurd hacc (not_or.mpr ⟨hfree, hin⟩)

theorem entireBufferExact_iff {b : SkyElementBuffer} (hcount : b.elementCount ≤ ebMaxElementCount) :
    EntireBufferExact b ↔ ¬ StuckFrom b 0 := by
  constructor
  · rintro ⟨r, hr, -⟩ hstuck
    refine Returns.not_of_none (m := b.elementCount) (fun fuel hfuel => ?_) r hr
    exact entireBufferLoop_eq_none hcount hfuel (Nat.zero_add _) hstuck
  · intro h
    have hresult {fuel : Nat} (hfuel : b.elementCount ≤ fuel) :
        ∃ r, skyElementBufferEntireBufferIsOk fuel b = some r ∧
          (r = true ↔ (∀ i < b.elementCount, Accounted b i) ∧
            ((List.range b.elementCount).countP fun i => (b.elementI i).isFree) =
              b.freeElements) := by
      obtain ⟨r, hr, hiff⟩ :=
        @entireBufferLoop_eq_some b hcount fuel hfuel b.elementCount 0 0 (Nat.zero_add _) h
      simp only [← List.range_eq_range', List.mem_range, Int.zero_add] at hiff
      exact ⟨r, hr, hiff⟩
    obtain ⟨r, -, hiff⟩ := hresult le_rfl
    refine ⟨r, ⟨b.elementCount, fun fuel hfuel => ?_⟩, hiff⟩
    obtain ⟨r', hr', hiff'⟩ := hresult hfuel
    exact hr'.trans (congrArg some (Bool.eq_iff_iff.mpr (hiff'.trans hiff.symm)))

end SkyElementBuffer

open SkyElementBuffer

/-- The checks of arbitrary memory end, and answer exactly, as long as no walk starts on a
ring of elements. -/
theorem chainCheck_exact_iff {b : SkyElementBuffer} (hcount : b.elementCount ≤ ebMaxElementCount) :
    (∀ i < b.elementCount, ValidChainExact b i ↔ ¬ OnRing b i) ∧
      (EntireBufferExact b ↔ ¬ StuckFrom b 0) :=
  ⟨fun _ hi => validChainExact_iff hcount hi, entireBufferExact_iff hcount⟩

/-- An element that is linked to itself. -/
def selfLinked : SkyElementBuffer :=
  { pool := [⟨0, 0, []⟩]
    lastWriteIndex := 0
    freeElements := 0
    elementCount := 1
    elementUsableSpace := 36 }

theorem selfLinked_onRing : OnRing selfLinked 0 := by
  have hfixed (k : Nat) : selfLinked.forward.step^[k] 0 = 0 :=
    Function.iterate_fixed (x := 0) rfl k
  refine ⟨⟨1, Nat.one_pos, rfl⟩, fun k => ?_⟩
  rw [hfixed, hfixed]
  exact ⟨Nat.one_pos, rfl⟩

theorem chainCheck_exact_iff_example :
    (∀ i < selfLinked.elementCount, ValidChainExact selfLinked i ↔ ¬ OnRing selfLinked i) ∧
      (EntireBufferExact selfLinked ↔ ¬ StuckFrom selfLinked 0) :=
  chainCheck_exact_iff (by decide)

theorem not_chainCheck_exact :
    ¬ ∀ b : SkyElementBuffer, b.elementCount ≤ ebMaxElementCount →
      (∀ i < b.elementCount, ValidChainExact b i) ∧ EntireBufferExact b := by
  intro h
  obtain ⟨r, hr, -⟩ := (h selfLinked (by decide)).1 0 Nat.one_pos
  exact Returns.not_of_none (m := 0)
    (fun fuel _ => validChain_of_onRing (by decide) selfLinked_onRing fuel) r hr

end Skylink
