import Mathlib.Data.Finset.Card

/-!
# Loops that may not end

A turn of a loop ends it with a result or leaves the state of the next turn. A loop whose
turns can be traced back runs on for ever just if it comes back to its first state, and
among finitely many states that is decided after as many turns as there are states.
-/

namespace Iteration

variable {σ β : Type*}

/-- A computation on fuel ends with the result, and more fuel does not change it. -/
def Returns (f : Nat → Option β) (r : β) : Prop := ∃ n, ∀ fuel ≥ n, f fuel = some r

theorem Returns.not_of_none {f : Nat → Option β} {m : Nat} (h : ∀ fuel ≥ m, f fuel = none)
    (r : β) : ¬ Returns f r := by
  rintro ⟨n, hn⟩
  have heq := (h (max n m) (le_max_right n m)).symm.trans (hn (max n m) (le_max_left n m))
  cases heq

def run (turn : σ → β ⊕ σ) : Nat → σ → Option β
  | 0, _ => none
  | fuel + 1, s =>
      match turn s with
      | .inl r => some r
      | .inr t => run turn fuel t

/-- The state after `n` turns, where the loop is not over by then. -/
def after (turn : σ → β ⊕ σ) : Nat → σ → Option σ
  | 0, s => some s
  | n + 1, s =>
      match turn s with
      | .inl _ => none
      | .inr t => after turn n t

variable {turn : σ → β ⊕ σ}

theorem run_of_inl {fuel : Nat} {s : σ} {r : β} (h : turn s = .inl r) :
    run turn (fuel + 1) s = some r := by rw [run, h]

theorem run_of_inr {fuel : Nat} {s t : σ} (h : turn s = .inr t) :
    run turn (fuel + 1) s = run turn fuel t := by rw [run, h]

theorem after_of_inr {n : Nat} {s t : σ} (h : turn s = .inr t) :
    after turn (n + 1) s = after turn n t := by rw [after, h]

theorem run_eq_none_iff {fuel : Nat} {s : σ} :
    run turn fuel s = none ↔ ∃ t, after turn fuel s = some t := by
  induction fuel generalizing s with
  | zero => exact ⟨fun _ => ⟨s, rfl⟩, fun _ => rfl⟩
  | succ fuel ih =>
      cases h : turn s with
      | inl r => simp [run, after, h]
      | inr t => rw [run_of_inr h, after_of_inr h, ih]

theorem run_mono {m n : Nat} (hmn : m ≤ n) {s : σ} {r : β} (h : run turn m s = some r) :
    run turn n s = some r := by
  induction m generalizing n s with
  | zero => cases h
  | succ m ih =>
      obtain ⟨n, rfl⟩ := Nat.exists_eq_succ_of_ne_zero (by omega : n ≠ 0)
      cases hturn : turn s with
      | inl r' =>
          rw [run_of_inl hturn] at h ⊢
          exact h
      | inr t =>
          rw [run_of_inr hturn] at h ⊢
          exact ih (Nat.le_of_succ_le_succ hmn) h

theorem after_add (m n : Nat) (s : σ) :
    after turn (m + n) s = (after turn m s).bind (after turn n) := by
  induction m generalizing s with
  | zero => rw [Nat.zero_add]; rfl
  | succ m ih =>
      rw [Nat.succ_add]
      cases h : turn s with
      | inl r => simp [after, h]
      | inr t => rw [after_of_inr h, after_of_inr h, ih]

theorem after_succ_iff {n : Nat} {s u : σ} :
    after turn (n + 1) s = some u ↔ ∃ t, after turn n s = some t ∧ turn t = .inr u := by
  have hone (t : σ) : after turn 1 t = some u ↔ turn t = .inr u := by
    cases h : turn t <;> simp [after, h]
  rw [after_add, Option.bind_eq_some_iff]
  exact exists_congr fun t => and_congr_right fun _ => hone t

/-! ## Loops that come back -/

/-- A loop that comes back to its first state never ends. -/
theorem run_eq_none_of_after_self {n : Nat} (hn : 0 < n) {s : σ}
    (h : after turn n s = some s) (fuel : Nat) : run turn fuel s = none := by
  have hrounds : ∀ k, after turn (k * n) s = some s := by
    intro k
    induction k with
    | zero => rw [Nat.zero_mul]; rfl
    | succ k ih => rw [Nat.succ_mul, after_add, ih, Option.bind_some, h]
  by_contra hne
  obtain ⟨r, hr⟩ := Option.ne_none_iff_exists'.mp hne
  have hmore := run_mono (Nat.le_mul_of_pos_right fuel hn) hr
  rw [run_eq_none_iff.mpr ⟨s, hrounds fuel⟩] at hmore
  cases hmore

/-- No two states have the same successor. -/
def TracedBack (turn : σ → β ⊕ σ) : Prop :=
  ∀ s t u, turn s = .inr u → turn t = .inr u → s = t

/-- Two visits to a state are traced back to the first state. -/
theorem after_self_of_revisit (hback : TracedBack turn) {i k : Nat} {s t : σ}
    (hi : after turn i s = some t) (hk : after turn (i + k) s = some t) :
    after turn k s = some s := by
  induction i generalizing t with
  | zero =>
      rw [Nat.zero_add] at hk
      cases hi
      exact hk
  | succ i ih =>
      rw [Nat.succ_add] at hk
      obtain ⟨u, hu, hturn⟩ := after_succ_iff.mp hi
      obtain ⟨v, hv, hturn'⟩ := after_succ_iff.mp hk
      rw [hback v u t hturn' hturn] at hv
      exact ih hu hv

theorem after_mem {S : Finset σ} (hS : ∀ s ∈ S, ∀ t, turn s = .inr t → t ∈ S) {s : σ}
    (hs : s ∈ S) {n : Nat} {t : σ} (h : after turn n s = some t) : t ∈ S := by
  induction n generalizing t with
  | zero =>
      cases h
      exact hs
  | succ n ih =>
      obtain ⟨u, hu, hturn⟩ := after_succ_iff.mp h
      exact hS u (ih hu) t hturn

/-- Among finitely many states a loop either ends within as many turns, or comes back. -/
theorem exists_after_self (hback : TracedBack turn) {S : Finset σ}
    (hS : ∀ s ∈ S, ∀ t, turn s = .inr t → t ∈ S) {s : σ} (hs : s ∈ S)
    (h : run turn S.card s = none) : ∃ n > 0, after turn n s = some s := by
  -- The states of the turns up to this one are one more than there are.
  have hvisit : ∀ k, k ∈ Finset.range (S.card + 1) → ∃ t, after turn k s = some t := by
    intro k hk
    rw [Finset.mem_range] at hk
    apply run_eq_none_iff.mp
    by_contra hne
    obtain ⟨r, hr⟩ := Option.ne_none_iff_exists'.mp hne
    rw [run_mono (by omega) hr] at h
    cases h
  obtain ⟨i, hi, j, hj, hne, heq⟩ := Finset.exists_ne_map_eq_of_card_lt_of_maps_to
    (f := fun k => (after turn k s).getD s) (by rw [Finset.card_range]; exact S.card.lt_succ_self)
    (fun k hk => by
      obtain ⟨t, ht⟩ := hvisit k hk
      simp only [ht, Option.getD_some]
      exact after_mem hS hs ht)
  obtain ⟨t, ht⟩ := hvisit i hi
  obtain ⟨u, hu⟩ := hvisit j hj
  simp only [ht, hu, Option.getD_some] at heq
  subst heq
  rcases Nat.lt_or_gt_of_ne hne with hlt | hlt
  · obtain ⟨k, rfl⟩ := Nat.exists_eq_add_of_lt hlt
    exact ⟨k + 1, k.succ_pos, after_self_of_revisit hback ht hu⟩
  · obtain ⟨k, rfl⟩ := Nat.exists_eq_add_of_lt hlt
    exact ⟨k + 1, k.succ_pos, after_self_of_revisit hback hu ht⟩

/-! ## Rings -/

/-- Going on by `f` leads back to the start, along states with the property `P`, and `g`
undoes every step. -/
def Ring (P : σ → Prop) (f g : σ → σ) (s : σ) : Prop :=
  (∃ n > 0, f^[n] s = s) ∧ ∀ k, P (f^[k] s) ∧ g (f^[k + 1] s) = f^[k] s

/-- A ring is a ring in the other direction. -/
theorem Ring.symm {P : σ → Prop} {f g : σ → σ} {s : σ} (h : Ring P f g s) : Ring P g f s := by
  obtain ⟨⟨n, hn, hself⟩, hring⟩ := h
  have hround (k : Nat) : f^[k + n] s = f^[k] s := by rw [Function.iterate_add_apply, hself]
  -- Every step back from the ring is undone by the step that led there.
  have hprev (k : Nat) : ∃ m, g (f^[k] s) = f^[m] s ∧ f (f^[m] s) = f^[k] s := by
    refine ⟨k + n - 1, ?_, ?_⟩
    · rw [← hround k, ← (hring (k + n - 1)).2, Nat.sub_add_cancel (by omega)]
    · rw [← Function.iterate_succ_apply' f, Nat.succ_eq_add_one, Nat.sub_add_cancel (by omega),
        hround]
  have hvisit (k : Nat) : ∃ m, g^[k] s = f^[m] s := by
    induction k with
    | zero => exact ⟨0, rfl⟩
    | succ k ih =>
        obtain ⟨m, hm⟩ := ih
        obtain ⟨m', hm', -⟩ := hprev m
        exact ⟨m', by rw [Function.iterate_succ_apply', hm, hm']⟩
  have hundo (k : Nat) : g^[k] (f^[k] s) = s := by
    induction k with
    | zero => rfl
    | succ k ih => rw [Function.iterate_succ_apply, (hring k).2, ih]
  refine ⟨⟨n, hn, ?_⟩, fun k => ?_⟩
  · have hback := hundo n
    rwa [hself] at hback
  · obtain ⟨m, hm⟩ := hvisit k
    obtain ⟨m', hm', hnext⟩ := hprev m
    refine ⟨hm ▸ (hring m).1, ?_⟩
    rw [Function.iterate_succ_apply', hm, hm', hnext]

end Iteration
