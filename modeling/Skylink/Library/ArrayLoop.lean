import Mathlib.Data.List.Basic

/-!
# Loops over an array in place

An array of fixed length is a list, and an access outside of it gives `none`. The loops
copy the array onto itself at a distance, or change one element after the other; what
they leave behind is stated index by index.
-/

namespace ArrayLoop

variable {α : Type*}

/-- `a[i] = x`. -/
def write (xs : List α) (i : Nat) (x : α) : Option (List α) :=
  if i < xs.length then some (xs.set i x) else none

/-- The elements `a[start], …, a[start + n - 1]`. -/
def slice (xs : List α) (start n : Nat) : Option (List α) :=
  if start + n ≤ xs.length then some ((xs.drop start).take n) else none

/-- `memcpy(&a[start], ys, n)` for the `n` elements `ys`. -/
def copyIn (xs : List α) (start : Nat) (ys : List α) : Option (List α) :=
  if start + ys.length ≤ xs.length then
    some (xs.take start ++ ys ++ xs.drop (start + ys.length))
  else none

/-- `for (i = n; i != 0; i--) a[i + k] = a[i]`. -/
def copyDown (k : Nat) : Nat → List α → Option (List α)
  | 0, xs => some xs
  | i + 1, xs => do
      let x ← xs[i + 1]?
      let xs ← write xs (i + 1 + k) x
      copyDown k i xs

/-- The turns that are left of `for (i = 0; i < n; i++) a[i] = a[i + k]`. -/
def copyUp (k : Nat) : (turns i : Nat) → List α → Option (List α)
  | 0, _, xs => some xs
  | turns + 1, i, xs => do
      let x ← xs[i + k]?
      let xs ← write xs i x
      copyUp k turns (i + 1) xs

/-- The turns that are left of `for (i = 0; i < n; i++) a[i] = f(i, a[i])`. -/
def update (f : Nat → α → α) : (turns i : Nat) → List α → Option (List α)
  | 0, _, xs => some xs
  | turns + 1, i, xs => do
      let x ← xs[i]?
      let xs ← write xs i (f i x)
      update f turns (i + 1) xs

theorem write_eq_some {xs : List α} {i : Nat} (h : i < xs.length) (x : α) :
    write xs i x = some (xs.set i x) := if_pos h

theorem slice_eq_some {xs : List α} {start n : Nat} (h : start + n ≤ xs.length) :
    slice xs start n = some ((xs.drop start).take n) := if_pos h

theorem copyIn_eq_some {xs ys : List α} {start : Nat} (h : start + ys.length ≤ xs.length) :
    copyIn xs start ys = some (xs.take start ++ ys ++ xs.drop (start + ys.length)) := if_pos h

theorem getElem?_set {xs : List α} {i : Nat} (h : i < xs.length) (x : α) (j : Nat) :
    (xs.set i x)[j]? = if j = i then some x else xs[j]? := by
  rw [List.getElem?_set]
  by_cases hji : i = j
  · rw [if_pos hji, if_pos hji.symm, if_pos h]
  · rw [if_neg hji, if_neg (Ne.symm hji)]

/-- Copying down from `n` moves the elements `1 … n`; the element `0` stays. -/
theorem copyDown_spec {k n : Nat} {xs : List α} (h : n + k < xs.length) :
    ∃ ys, copyDown k n xs = some ys ∧ ys.length = xs.length ∧
      ∀ j : Nat, ys[j]? = if k < j ∧ j ≤ n + k then xs[j - k]? else xs[j]? := by
  induction n generalizing xs with
  | zero =>
      refine ⟨xs, rfl, rfl, fun j => ?_⟩
      rw [if_neg (by omega)]
  | succ n ih =>
      have hread : xs[n + 1]? = some xs[n + 1] := List.getElem?_eq_getElem (by omega)
      obtain ⟨ys, heq, hlen, hget⟩ := @ih (xs.set (n + 1 + k) xs[n + 1])
        (by rw [List.length_set]; omega)
      refine ⟨ys, ?_, by rw [hlen, List.length_set], fun j => ?_⟩
      · rw [copyDown, hread]
        simp only [Option.bind_eq_bind, Option.bind_some, write_eq_some h]
        exact heq
      · rw [hget, getElem?_set h, getElem?_set h]
        by_cases hlast : j = n + 1 + k
        · subst hlast
          rw [if_neg (by omega), if_pos rfl, if_pos (by omega), Nat.add_sub_cancel, hread]
        · by_cases hmoved : k < j ∧ j ≤ n + k
          · rw [if_pos hmoved, if_neg (by omega), if_pos (by omega)]
          · rw [if_neg hmoved, if_neg hlast, if_neg (by omega)]

theorem copyDown_eq_none {k n : Nat} {xs : List α} (hn : n ≠ 0) (h : xs.length ≤ n + k) :
    copyDown k n xs = none := by
  cases n with
  | zero => exact absurd rfl hn
  | succ n =>
      rw [copyDown]
      cases hread : xs[n + 1]? with
      | none => rfl
      | some x => simp [write, Nat.not_lt.mpr h]

/-- Copying up moves the elements at a distance onto the first ones. -/
theorem copyUp_spec {k turns i : Nat} {xs : List α} (h : i + turns + k ≤ xs.length) :
    ∃ ys, copyUp k turns i xs = some ys ∧ ys.length = xs.length ∧
      ∀ j : Nat, ys[j]? = if i ≤ j ∧ j < i + turns then xs[j + k]? else xs[j]? := by
  induction turns generalizing i xs with
  | zero =>
      refine ⟨xs, rfl, rfl, fun j => ?_⟩
      rw [if_neg (by omega)]
  | succ turns ih =>
      have hi : i < xs.length := by omega
      have hread : xs[i + k]? = some xs[i + k] := List.getElem?_eq_getElem (by omega)
      obtain ⟨ys, heq, hlen, hget⟩ := @ih (i + 1) (xs.set i xs[i + k])
        (by rw [List.length_set]; omega)
      refine ⟨ys, ?_, by rw [hlen, List.length_set], fun j => ?_⟩
      · rw [copyUp, hread]
        simp only [Option.bind_eq_bind, Option.bind_some, write_eq_some hi]
        exact heq
      · rw [hget, getElem?_set hi, getElem?_set hi]
        by_cases hfirst : j = i
        · subst hfirst
          rw [if_neg (by omega), if_pos rfl, if_pos (by omega), hread]
        · by_cases hmoved : i + 1 ≤ j ∧ j < i + 1 + turns
          · rw [if_pos hmoved, if_neg (by omega), if_pos (by omega)]
          · rw [if_neg hmoved, if_neg hfirst, if_neg (by omega)]

/-- The first turn that reads behind the last element ends the loop. -/
theorem copyUp_eq_none {k turns i : Nat} {xs : List α} (hi : i + k ≤ xs.length)
    (h : xs.length < i + turns + k) : copyUp k turns i xs = none := by
  induction turns generalizing i xs with
  | zero => omega
  | succ turns ih =>
      rw [copyUp]
      rcases Nat.lt_or_ge (i + k) xs.length with hlt | hge
      · rw [List.getElem?_eq_getElem hlt]
        simp only [Option.bind_eq_bind, Option.bind_some, write_eq_some (by omega : i < xs.length)]
        refine ih ?_ ?_
        · rw [List.length_set]
          omega
        · rw [List.length_set]
          omega
      · rw [List.getElem?_eq_none hge]
        rfl

theorem copyUp_length {k turns i : Nat} {xs ys : List α} (h : copyUp k turns i xs = some ys) :
    ys.length = xs.length := by
  induction turns generalizing i xs with
  | zero => rw [← Option.some.inj h]
  | succ turns ih =>
      simp only [copyUp, Option.bind_eq_bind, Option.bind_eq_some_iff] at h
      obtain ⟨x, -, zs, hwrite, hrest⟩ := h
      rw [write] at hwrite
      split at hwrite
      · rw [ih hrest, ← Option.some.inj hwrite, List.length_set]
      · cases hwrite

theorem update_spec {f : Nat → α → α} {turns i : Nat} {xs : List α}
    (h : i + turns ≤ xs.length) :
    ∃ ys, update f turns i xs = some ys ∧ ys.length = xs.length ∧
      ∀ j : Nat, ys[j]? = if i ≤ j ∧ j < i + turns then xs[j]?.map (f j) else xs[j]? := by
  induction turns generalizing i xs with
  | zero =>
      refine ⟨xs, rfl, rfl, fun j => ?_⟩
      rw [if_neg (by omega)]
  | succ turns ih =>
      have hi : i < xs.length := by omega
      have hread : xs[i]? = some xs[i] := List.getElem?_eq_getElem hi
      obtain ⟨ys, heq, hlen, hget⟩ := @ih (i + 1) (xs.set i (f i xs[i]))
        (by rw [List.length_set]; omega)
      refine ⟨ys, ?_, by rw [hlen, List.length_set], fun j => ?_⟩
      · rw [update, hread]
        simp only [Option.bind_eq_bind, Option.bind_some, write_eq_some hi]
        exact heq
      · rw [hget, getElem?_set hi]
        by_cases hfirst : j = i
        · subst hfirst
          rw [if_neg (by omega), if_pos rfl, if_pos (by omega), hread]
          rfl
        · rw [if_neg hfirst]
          by_cases hmoved : i + 1 ≤ j ∧ j < i + 1 + turns
          · rw [if_pos hmoved, if_pos (by omega)]
          · rw [if_neg hmoved, if_neg (by omega)]

end ArrayLoop
