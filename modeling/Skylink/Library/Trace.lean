import Mathlib.Algebra.BigOperators.Group.Finset.Basic
import Mathlib.Data.Nat.ModEq
import Mathlib.Data.List.Basic

/-!
# Runs of a step function

A run takes one event after the other. A property of every state and a condition on every
step are both told by recursion on the events.
-/

namespace Trace

variable {σ ε : Type*}

/-- Every step is taken where its condition holds. -/
def AllSteps (step : σ → ε → σ) (condition : σ → ε → Prop) : σ → List ε → Prop
  | _, [] => True
  | s, e :: events => condition s e ∧ AllSteps step condition (step s e) events

/-- The property holds before, between and after the steps. -/
def AllStates (step : σ → ε → σ) (property : σ → Prop) : σ → List ε → Prop
  | s, [] => property s
  | s, e :: events => property s ∧ AllStates step property (step s e) events

instance AllSteps.decidable {step : σ → ε → σ} {condition : σ → ε → Prop}
    [∀ s e, Decidable (condition s e)] :
    (s : σ) → (events : List ε) → Decidable (AllSteps step condition s events)
  | _, [] => inferInstanceAs (Decidable True)
  | s, e :: events =>
      haveI : Decidable (AllSteps step condition (step s e) events) :=
        AllSteps.decidable (step s e) events
      inferInstanceAs (Decidable (condition s e ∧ AllSteps step condition (step s e) events))

variable {step : σ → ε → σ} {allowed condition : σ → ε → Prop} {property : σ → Prop}

theorem allSteps_append {s : σ} {events events' : List ε} :
    AllSteps step condition s (events ++ events') ↔
      AllSteps step condition s events ∧ AllSteps step condition (events.foldl step s) events' := by
  induction events generalizing s with
  | nil => exact (and_iff_right trivial).symm
  | cons e events ih =>
      rw [List.cons_append, AllSteps, ih, AllSteps, and_assoc, List.foldl_cons]

/-- The rule of invariants: each allowed step keeps the property. -/
theorem AllSteps.keeps (hstep : ∀ s e, property s → allowed s e → property (step s e))
    {s : σ} {events : List ε} (h : AllSteps step allowed s events) (hs : property s) :
    property (events.foldl step s) := by
  induction events generalizing s with
  | nil => exact hs
  | cons e events ih => exact ih h.2 (hstep s e hs h.1)

/-- Where the condition tells exactly which steps keep the property, it tells exactly
which runs keep it. -/
theorem allStates_iff {kept : σ → Prop}
    (hkept : ∀ s e, kept s → allowed s e → kept (step s e))
    (hstep : ∀ s e, kept s → allowed s e → property s → (property (step s e) ↔ condition s e))
    {s : σ} {events : List ε} (h : AllSteps step allowed s events) (hs : kept s)
    (hproperty : property s) :
    AllStates step property s events ↔ AllSteps step condition s events := by
  induction events generalizing s with
  | nil => exact iff_of_true hproperty trivial
  | cons e events ih =>
      have hone := hstep s e hs h.1 hproperty
      constructor
      · rintro ⟨-, hrest⟩
        have hnext : property (step s e) := by
          cases events with
          | nil => exact hrest
          | cons e' events => exact hrest.1
        exact ⟨hone.mp hnext, (ih h.2 (hkept s e hs h.1) hnext).mp hrest⟩
      · rintro ⟨hcondition, hrest⟩
        have hnext := hone.mpr hcondition
        exact ⟨hproperty, (ih h.2 (hkept s e hs h.1) hnext).mpr hrest⟩

/-! ## Counters -/

/-- The weights of the steps of a run, added up. -/
def total (step : σ → ε → σ) (weight : σ → ε → Nat) : σ → List ε → Nat
  | _, [] => 0
  | s, e :: events => weight s e + total step weight (step s e) events

theorem total_sum {ι : Type*} (S : Finset ι) (weight : ι → σ → ε → Nat) (s : σ)
    (events : List ε) :
    total step (fun s e => ∑ i ∈ S, weight i s e) s events =
      ∑ i ∈ S, total step (weight i) s events := by
  induction events generalizing s with
  | nil => exact Finset.sum_const_zero.symm
  | cons e events ih =>
      rw [total, ih, ← Finset.sum_add_distrib]
      rfl

theorem total_add (weight weight' : σ → ε → Nat) (s : σ) (events : List ε) :
    total step (fun s e => weight s e + weight' s e) s events =
      total step weight s events + total step weight' s events := by
  induction events generalizing s with
  | nil => rfl
  | cons e events ih =>
      rw [total, ih, total, total]
      omega

/-- A counter that wraps around and that each step moves by its weight tells the weight of
the run. -/
theorem total_modEq {n : Nat} (counter : σ → Nat) {weight : σ → ε → Nat}
    (hstep : ∀ s e, counter (step s e) ≡ counter s + weight s e [MOD n]) (s : σ)
    (events : List ε) :
    counter (events.foldl step s) ≡ counter s + total step weight s events [MOD n] := by
  induction events generalizing s with
  | nil => exact Nat.ModEq.refl _
  | cons e events ih =>
      calc counter (events.foldl step (step s e))
          ≡ counter (step s e) + total step weight (step s e) events [MOD n] := ih (step s e)
        _ ≡ counter s + weight s e + total step weight (step s e) events [MOD n] :=
            (hstep s e).add_right _
        _ = counter s + total step weight s (e :: events) := Nat.add_assoc _ _ _

end Trace
