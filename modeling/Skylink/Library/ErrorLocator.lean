import Mathlib.Algebra.Polynomial.Derivative
import Mathlib.Algebra.Polynomial.Roots
import Mathlib.RingTheory.PowerSeries.Trunc
import Mathlib.Tactic.FieldSimp
import Skylink.Library.KeyEquation

/-!
# Locating errors

Errors of the values `a l` at the locations `x l` show in the sums `∑ l, a l * x l ^ n`.
The shortest recurrence for the sums has the inverse locations as its roots, and what is
left of its product with the sums tells the values.
-/

open Polynomial

namespace ErrorLocator

variable {F ι : Type*} [Field F] (errors : Finset ι) (x a : ι → F)

noncomputable def powerSums : PowerSeries F :=
  PowerSeries.mk fun n => ∑ l ∈ errors, a l * x l ^ n

/-- The polynomial with the inverse locations as its roots. -/
noncomputable def locator : F[X] := ∏ l ∈ errors, (1 - C (x l) * X)

/-- The product of the locator with the sums. -/
noncomputable def evaluator [DecidableEq ι] : F[X] :=
  ∑ l ∈ errors, C (a l) * ∏ m ∈ errors.erase l, (1 - C (x m) * X)

theorem natDegree_factor_le (c : F) : (1 - C c * X : F[X]).natDegree ≤ 1 := by
  apply (Polynomial.natDegree_sub_le _ _).trans
  rw [Polynomial.natDegree_one]
  apply max_le (Nat.zero_le 1)
  exact (Polynomial.natDegree_C_mul_le c X).trans Polynomial.natDegree_X_le

theorem coeff_factor_zero (c : F) : (1 - C c * X : F[X]).coeff 0 = 1 := by simp

theorem natDegree_prod_factor_le (s : Finset ι) :
    (∏ l ∈ s, (1 - C (x l) * X)).natDegree ≤ s.card := by
  apply (Polynomial.natDegree_prod_le _ _).trans
  exact (Finset.sum_le_card_nsmul _ _ 1 fun l _ => natDegree_factor_le (x l)).trans (by simp)

theorem locator_coeff_zero : (locator errors x).coeff 0 = 1 := by
  rw [locator, Polynomial.coeff_zero_prod]
  exact Finset.prod_eq_one fun l _ => coeff_factor_zero (x l)

theorem factor_mul_geometric (c : F) :
    ((1 - C c * X : F[X]) : PowerSeries F) * PowerSeries.mk (fun n => c ^ n) = 1 := by
  ext n
  rw [Polynomial.coe_sub, Polynomial.coe_one, Polynomial.coe_mul, Polynomial.coe_C,
    Polynomial.coe_X, sub_mul, one_mul, mul_assoc, map_sub, PowerSeries.coeff_C_mul,
    PowerSeries.coeff_mk]
  cases n with
  | zero => simp
  | succ n =>
      rw [PowerSeries.coeff_succ_X_mul, PowerSeries.coeff_mk, pow_succ', sub_self,
        PowerSeries.coeff_one, if_neg (Nat.succ_ne_zero n)]

section Evaluator

variable [DecidableEq ι]

theorem locator_mul_powerSums :
    (locator errors x : PowerSeries F) * powerSums errors x a =
      (evaluator errors x a : PowerSeries F) := by
  have hsum : powerSums errors x a =
      ∑ l ∈ errors, PowerSeries.C (a l) * PowerSeries.mk (fun n => x l ^ n) := by
    ext n
    simp [powerSums]
  have hcoe : (evaluator errors x a : PowerSeries F) = ∑ l ∈ errors,
      ((C (a l) * ∏ m ∈ errors.erase l, (1 - C (x m) * X) : F[X]) : PowerSeries F) := by
    rw [evaluator, ← Polynomial.coeToPowerSeries.ringHom_apply, map_sum]
    rfl
  rw [hsum, hcoe, Finset.mul_sum]
  apply Finset.sum_congr rfl
  intro l hl
  calc (locator errors x : PowerSeries F) *
      (PowerSeries.C (a l) * PowerSeries.mk fun n => x l ^ n)
    _ = PowerSeries.C (a l) * (∏ m ∈ errors.erase l, (1 - C (x m) * X) : F[X]) *
          (((1 - C (x l) * X : F[X]) : PowerSeries F) * PowerSeries.mk fun n => x l ^ n) := by
      rw [locator, ← Finset.mul_prod_erase errors _ hl, Polynomial.coe_mul]
      ring
    _ = ((C (a l) * ∏ m ∈ errors.erase l, (1 - C (x m) * X) : F[X]) : PowerSeries F) := by
      rw [factor_mul_geometric, mul_one, Polynomial.coe_mul, Polynomial.coe_C]

theorem evaluator_coeff (i : ℕ) :
    (evaluator errors x a).coeff i =
      KeyEquation.discrepancy (powerSums errors x a) (locator errors x) i := by
  rw [KeyEquation.discrepancy, locator_mul_powerSums, Polynomial.coeff_coe]

theorem evaluator_coeff_eq_zero {i : ℕ} (hi : errors.card ≤ i) :
    (evaluator errors x a).coeff i = 0 := by
  rw [evaluator, Polynomial.finsetSum_coeff]
  apply Finset.sum_eq_zero
  intro l hl
  have hcard := Finset.card_erase_lt_of_mem hl
  rw [Polynomial.coeff_C_mul, Polynomial.coeff_eq_zero_of_natDegree_lt, mul_zero]
  exact (natDegree_prod_factor_le x _).trans_lt (by omega)

/-- The locator is a recurrence for the sums. -/
theorem locator_generates (r : ℕ) :
    KeyEquation.Generates (powerSums errors x a) (locator errors x) errors.card r :=
  ⟨locator_coeff_zero errors x, natDegree_prod_factor_le x errors, fun i hi _ => by
    rw [← evaluator_coeff, evaluator_coeff_eq_zero errors x a hi]⟩

end Evaluator

/-! ## Roots and values -/

section Roots

variable {errors x} (hx : ∀ l ∈ errors, x l ≠ 0)
include hx

theorem eval_locator_eq_zero_iff {z : F} :
    (locator errors x).eval z = 0 ↔ ∃ l ∈ errors, z = (x l)⁻¹ := by
  rw [locator, Polynomial.eval_prod, Finset.prod_eq_zero_iff]
  refine exists_congr fun l => and_congr_right fun hl => ?_
  rw [Polynomial.eval_sub, Polynomial.eval_one, Polynomial.eval_C_mul, Polynomial.eval_X,
    sub_eq_zero, eq_comm, mul_eq_one_iff_inv_eq₀ (hx l hl), eq_comm]

variable [DecidableEq ι]

theorem eval_evaluator {l : ι} (hl : l ∈ errors) :
    (evaluator errors x a).eval (x l)⁻¹ =
      a l * ∏ m ∈ errors.erase l, (1 - x m * (x l)⁻¹) := by
  rw [evaluator, Polynomial.eval_finsetSum, Finset.sum_eq_single l]
  · simp [Polynomial.eval_prod]
  · intro k _ hkl
    have hzero : ∏ m ∈ errors.erase k, (1 - x m * (x l)⁻¹) = 0 := by
      apply Finset.prod_eq_zero (Finset.mem_erase.mpr ⟨hkl.symm, hl⟩)
      rw [mul_inv_cancel₀ (hx l hl), sub_self]
    simp [Polynomial.eval_prod, hzero]
  · intro hnot
    exact absurd hl hnot

theorem eval_derivative {l : ι} (hl : l ∈ errors) :
    (derivative (locator errors x)).eval (x l)⁻¹ =
      -(x l * ∏ m ∈ errors.erase l, (1 - x m * (x l)⁻¹)) := by
  rw [locator, Polynomial.derivative_prod_finset, Polynomial.eval_finsetSum,
    Finset.sum_eq_single l]
  · rw [Polynomial.eval_mul, Polynomial.eval_prod]
    simp [mul_comm (x l)]
  · intro k _ hkl
    have hzero : ∏ m ∈ errors.erase k, (1 - x m * (x l)⁻¹) = 0 := by
      apply Finset.prod_eq_zero (Finset.mem_erase.mpr ⟨hkl.symm, hl⟩)
      rw [mul_inv_cancel₀ (hx l hl), sub_self]
    simp [Polynomial.eval_prod, hzero]
  · intro hnot
    exact absurd hl hnot

variable (hinj : Set.InjOn x errors)
include hinj

theorem prod_erase_ne_zero {l : ι} (hl : l ∈ errors) :
    ∏ m ∈ errors.erase l, (1 - x m * (x l)⁻¹) ≠ 0 := by
  apply Finset.prod_ne_zero_iff.mpr
  intro m hm hzero
  obtain ⟨hne, hmem⟩ := Finset.mem_erase.mp hm
  have heq : x m * (x l)⁻¹ = 1 := (eq_of_sub_eq_zero hzero).symm
  exact hne (hinj hmem hl ((mul_inv_eq_one₀ (hx l hl)).mp heq))

/-- The value at a location, told by the evaluator and the derivative of the locator. -/
theorem value_eq {l : ι} (hl : l ∈ errors) :
    a l = -(x l * (evaluator errors x a).eval (x l)⁻¹ /
      (derivative (locator errors x)).eval (x l)⁻¹) := by
  have hprod := prod_erase_ne_zero hx hinj hl
  have hloc := hx l hl
  rw [eval_evaluator a hx hl, eval_derivative hx hl]
  generalize ∏ m ∈ errors.erase l, (1 - x m * (x l)⁻¹) = p at hprod ⊢
  field_simp

variable {a} (ha : ∀ l ∈ errors, a l ≠ 0)
include ha

/-- A recurrence no longer than the number of errors is the locator, once twice as many
sums are covered. -/
theorem eq_locator {p : F[X]} {n r : ℕ}
    (hp : KeyEquation.Generates (powerSums errors x a) p n r) (hn : n ≤ errors.card)
    (hr : 2 * errors.card ≤ r) : p = locator errors x := by
  set S := powerSums errors x a
  -- What is left of the product with the sums before the recurrence sets in.
  let q : F[X] := PowerSeries.trunc errors.card ((p : PowerSeries F) * S)
  have hdegree : p.natDegree ≤ errors.card := hp.degree.trans hn
  have hkey (hpos : 0 < errors.card) : p * evaluator errors x a = locator errors x * q := by
    have hq : q.natDegree < errors.card := by
      obtain ⟨k, hk⟩ := Nat.exists_eq_succ_of_ne_zero hpos.ne'
      show (PowerSeries.trunc errors.card _).natDegree < _
      rw [hk]
      exact PowerSeries.natDegree_trunc_lt _ k
    ext i
    rcases Nat.lt_or_ge i (2 * errors.card) with hlt | hge
    · have hcoe : (p * evaluator errors x a).coeff i =
          PowerSeries.coeff i ((locator errors x : PowerSeries F) * ((p : PowerSeries F) * S)) := by
        rw [← Polynomial.coeff_coe, Polynomial.coe_mul, ← locator_mul_powerSums, mul_left_comm]
      rw [hcoe, ← Polynomial.coeff_coe (locator errors x * q), Polynomial.coe_mul,
        PowerSeries.coeff_mul, PowerSeries.coeff_mul]
      apply Finset.sum_congr rfl
      rintro ⟨j, k⟩ hjk
      rw [Finset.HasAntidiagonal.mem_antidiagonal] at hjk
      dsimp only at hjk ⊢
      rw [Polynomial.coeff_coe q, PowerSeries.coeff_trunc]
      split_ifs with hk
      · rfl
      · have hzero := hp.vanishes k (by omega) (by omega)
        rw [KeyEquation.discrepancy] at hzero
        rw [hzero]
    · have hevaluator : (evaluator errors x a).natDegree < errors.card := by
        apply Nat.lt_of_le_of_lt _ (Nat.sub_lt hpos one_pos)
        apply Polynomial.natDegree_le_iff_coeff_eq_zero.mpr
        intro k hk
        exact evaluator_coeff_eq_zero errors x a (by omega)
      have hloc := natDegree_prod_factor_le x errors
      rw [Polynomial.coeff_eq_zero_of_natDegree_lt, Polynomial.coeff_eq_zero_of_natDegree_lt]
      · exact Polynomial.natDegree_mul_le.trans_lt (by rw [locator]; omega)
      · exact Polynomial.natDegree_mul_le.trans_lt (by omega)
  have hroot (l : ι) (hl : l ∈ errors) : p.eval (x l)⁻¹ = 0 := by
    have heval := congrArg (Polynomial.eval (x l)⁻¹) (hkey (Finset.card_pos.mpr ⟨l, hl⟩))
    rw [Polynomial.eval_mul, Polynomial.eval_mul,
      (eval_locator_eq_zero_iff hx).mpr ⟨l, hl, rfl⟩, zero_mul, eval_evaluator a hx hl] at heval
    exact (mul_eq_zero.mp heval).resolve_right
      (mul_ne_zero (ha l hl) (prod_erase_ne_zero hx hinj hl))
  classical
  apply Polynomial.eq_of_natDegree_lt_card_of_eval_eq' p (locator errors x)
    (insert 0 (errors.image fun l => (x l)⁻¹))
  · intro z hz
    rcases Finset.mem_insert.mp hz with rfl | hz
    · rw [← Polynomial.coeff_zero_eq_eval_zero, ← Polynomial.coeff_zero_eq_eval_zero, hp.constant,
        locator_coeff_zero]
    · obtain ⟨l, hl, rfl⟩ := Finset.mem_image.mp hz
      rw [hroot l hl, (eval_locator_eq_zero_iff hx).mpr ⟨l, hl, rfl⟩]
  · rw [Finset.card_insert_of_notMem, Finset.card_image_of_injOn]
    · exact (max_le hdegree (natDegree_prod_factor_le x errors)).trans_lt (Nat.lt_succ_self _)
    · exact fun l hl m hm h => hinj hl hm (inv_injective h)
    · intro hmem
      obtain ⟨l, hl, hzero⟩ := Finset.mem_image.mp hmem
      exact hx l hl (inv_eq_zero.mp hzero)

/-- The algorithm finds the locator. -/
theorem run_locator {r : ℕ} (hr : 2 * errors.card ≤ r) :
    (KeyEquation.run (powerSums errors x a) r).locator = locator errors x :=
  eq_locator hx hinj ha (KeyEquation.run_holds _ r).generates
    (KeyEquation.run_length_le (locator_generates errors x a) r) hr

/-- Errors show in one of the sums. -/
theorem exists_powerSums_ne_zero (hne : errors.Nonempty) :
    ∃ i < 2 * errors.card, PowerSeries.coeff i (powerSums errors x a) ≠ 0 := by
  by_contra hnone
  push Not at hnone
  have hone : KeyEquation.Generates (powerSums errors x a) (1 : F[X]) 0 (2 * errors.card) := by
    refine ⟨Polynomial.coeff_one_zero, by simp, fun i _ hi => ?_⟩
    rw [KeyEquation.discrepancy, Polynomial.coe_one, one_mul, hnone i hi]
  obtain ⟨l, hl⟩ := hne
  have hroot := (eval_locator_eq_zero_iff hx).mpr ⟨l, hl, rfl⟩
  rw [← eq_locator hx hinj ha hone (Nat.zero_le _) le_rfl, Polynomial.eval_one] at hroot
  exact one_ne_zero hroot

end Roots

end ErrorLocator
