import Mathlib.RingTheory.PowerSeries.Basic

/-!
# Shortest recurrences

A recurrence for a sequence is a polynomial whose product with the power series of the
sequence vanishes from some coefficient on. The Berlekamp-Massey algorithm keeps the
shortest recurrence for the part of the sequence that it has read, together with the one
before the length last changed.
-/

open Polynomial

namespace KeyEquation

variable {F : Type*} [Field F]

/-- The coefficient of the product that should vanish. -/
noncomputable def discrepancy (S : PowerSeries F) (locator : F[X]) (r : ℕ) : F :=
  PowerSeries.coeff r ((locator : PowerSeries F) * S)

theorem discrepancy_C_mul (S : PowerSeries F) (a : F) (p : F[X]) (r : ℕ) :
    discrepancy S (C a * p) r = a * discrepancy S p r := by
  rw [discrepancy, Polynomial.coe_mul, Polynomial.coe_C, mul_assoc, PowerSeries.coeff_C_mul,
    discrepancy]

theorem discrepancy_X_mul (S : PowerSeries F) (p : F[X]) (r : ℕ) :
    discrepancy S (X * p) (r + 1) = discrepancy S p r := by
  rw [discrepancy, Polynomial.coe_mul, Polynomial.coe_X, mul_assoc, PowerSeries.coeff_succ_X_mul,
    discrepancy]

theorem discrepancy_sub (S : PowerSeries F) (p q : F[X]) (r : ℕ) :
    discrepancy S (p - q) r = discrepancy S p r - discrepancy S q r := by
  rw [discrepancy, Polynomial.coe_sub, sub_mul, map_sub, discrepancy, discrepancy]

/-- A recurrence of the length `n` for the first `r` terms. -/
structure Generates (S : PowerSeries F) (p : F[X]) (n r : ℕ) : Prop where
  constant : p.coeff 0 = 1
  degree : p.natDegree ≤ n
  vanishes : ∀ i, n ≤ i → i < r → discrepancy S p i = 0

/-- The only term of a product that two recurrences leave. -/
theorem discrepancy_mul {S : PowerSeries F} {p q : F[X]} {n r : ℕ} (hq : q.coeff 0 = 1)
    (hdegree : q.natDegree ≤ n) (hvanishes : ∀ i, i < r → r ≤ i + n → discrepancy S p i = 0) :
    discrepancy S (q * p) r = discrepancy S p r := by
  rw [discrepancy, Polynomial.coe_mul, mul_assoc, PowerSeries.coeff_mul,
    Finset.sum_eq_single (0, r)]
  · rw [Polynomial.coeff_coe, hq, one_mul, discrepancy]
  · rintro ⟨i, j⟩ hij hne
    rw [Finset.HasAntidiagonal.mem_antidiagonal] at hij
    dsimp only at hij ⊢
    rw [Polynomial.coeff_coe]
    rcases Nat.eq_zero_or_pos i with rfl | hi
    · rw [zero_add] at hij
      exact absurd (by rw [hij]) hne
    · rcases Nat.lt_or_ge n i with hlarge | hsmall
      · rw [Polynomial.coeff_eq_zero_of_natDegree_lt (hdegree.trans_lt hlarge), zero_mul]
      · have hzero := hvanishes j (by omega) (by omega)
        rw [discrepancy] at hzero
        rw [hzero, mul_zero]
  · intro hnot
    exact absurd (Finset.HasAntidiagonal.mem_antidiagonal.mpr (zero_add r)) hnot

/-- Where a recurrence fails, every one that does not fail is longer: the two lengths
exceed the number of terms. -/
theorem Generates.lt_add {S : PowerSeries F} {p q : F[X]} {m n r : ℕ} (hp : Generates S p m r)
    (hfails : discrepancy S p r ≠ 0) (hq : Generates S q n (r + 1)) : r < m + n := by
  by_contra hle
  have hleft : discrepancy S (q * p) r = discrepancy S p r :=
    discrepancy_mul hq.constant hq.degree fun i hi hir => hp.vanishes i (by omega) hi
  have hright : discrepancy S (p * q) r = discrepancy S q r :=
    discrepancy_mul hp.constant hp.degree fun i hi hir => hq.vanishes i (by omega) (by omega)
  rw [mul_comm, hright, hq.vanishes r (by omega) (by omega)] at hleft
  exact hfails hleft.symm

/-! ## The algorithm -/

/-- What the algorithm remembers. -/
structure Register (F : Type*) [Field F] where
  locator : F[X]
  auxiliary : F[X]
  length : ℕ

/-- Before the first term. -/
noncomputable def start : Register F := ⟨1, 1, 0⟩

open Classical in
/-- One more term is read. -/
noncomputable def step (S : PowerSeries F) (r : ℕ) (reg : Register F) : Register F :=
  let d := discrepancy S reg.locator r
  if d = 0 then { reg with auxiliary := X * reg.auxiliary }
  else
    let locator := reg.locator - C d * (X * reg.auxiliary)
    if 2 * reg.length ≤ r then ⟨locator, C d⁻¹ * reg.locator, r + 1 - reg.length⟩
    else ⟨locator, X * reg.auxiliary, reg.length⟩

/-- The first `r` terms are read. -/
noncomputable def run (S : PowerSeries F) : ℕ → Register F
  | 0 => start
  | r + 1 => step S r (run S r)

/-- The auxiliary polynomial fails for the first time at the last term, by one, unless the
length has never changed. -/
structure Register.Holds (S : PowerSeries F) (r : ℕ) (reg : Register F) : Prop where
  generates : Generates S reg.locator reg.length r
  length_le : reg.length ≤ r
  auxiliary_degree : reg.auxiliary.natDegree + reg.length ≤ r
  auxiliary_vanishes : reg.length ≠ 0 →
    ∀ i, r ≤ i + reg.length → i + 1 < r → discrepancy S reg.auxiliary i = 0
  auxiliary_one : ∀ i, reg.length ≠ 0 → i + 1 = r → discrepancy S reg.auxiliary i = 1

namespace Register.Holds

variable {S : PowerSeries F} {r : ℕ} {reg : Register F}

theorem natDegree_X_mul_le (p : F[X]) : (X * p).natDegree ≤ p.natDegree + 1 := by
  rw [add_comm]
  exact Polynomial.natDegree_mul_le.trans (Nat.add_le_add_right Polynomial.natDegree_X_le _)

/-- The auxiliary polynomial moves on by one term. -/
theorem shifted (h : reg.Holds S r) :
    (X * reg.auxiliary).natDegree + reg.length ≤ r + 1 ∧
      (reg.length ≠ 0 → ∀ i, r + 1 ≤ i + reg.length → i + 1 < r + 1 →
        discrepancy S (X * reg.auxiliary) i = 0) ∧
      ∀ i, reg.length ≠ 0 → i + 1 = r + 1 → discrepancy S (X * reg.auxiliary) i = 1 := by
  have hdegree := natDegree_X_mul_le reg.auxiliary
  have hold := h.auxiliary_degree
  have hlength := h.length_le
  refine ⟨by omega, ?_, ?_⟩
  · intro hne i hi hir
    obtain ⟨j, rfl⟩ : ∃ j, i = j + 1 := Nat.exists_eq_succ_of_ne_zero (by omega)
    rw [discrepancy_X_mul]
    exact h.auxiliary_vanishes hne j (by omega) (by omega)
  · intro i hne hir
    obtain ⟨j, rfl⟩ : ∃ j, i = j + 1 := Nat.exists_eq_succ_of_ne_zero (by omega)
    rw [discrepancy_X_mul]
    exact h.auxiliary_one j hne (by omega)

/-- The corrected recurrence, of any length that leaves room for the auxiliary one. -/
theorem corrected (h : reg.Holds S r) {n : ℕ} (hn : reg.length ≤ n) (hnr : r + 1 ≤ n + reg.length) :
    Generates S (reg.locator - C (discrepancy S reg.locator r) * (X * reg.auxiliary)) n
      (r + 1) := by
  obtain ⟨hdegree, hvanishes, hone⟩ := h.shifted
  refine ⟨?_, ?_, ?_⟩
  · rw [Polynomial.coeff_sub, Polynomial.coeff_C_mul, Polynomial.coeff_X_mul_zero, mul_zero,
      sub_zero, h.generates.constant]
  · apply (Polynomial.natDegree_sub_le _ _).trans
    apply max_le (h.generates.degree.trans hn)
    exact (Polynomial.natDegree_C_mul_le _ _).trans (by omega)
  · intro i hi hir
    have hlength : reg.length ≠ 0 := by omega
    rw [discrepancy_sub, discrepancy_C_mul]
    rcases Nat.lt_or_ge i r with hlt | hge
    · rw [h.generates.vanishes i (by omega) hlt, hvanishes hlength i (by omega) (by omega),
        mul_zero, sub_zero]
    · obtain rfl : i = r := by omega
      rw [hone i hlength rfl, mul_one, sub_self]

theorem step (h : reg.Holds S r) : (step S r reg).Holds S (r + 1) := by
  obtain ⟨hdegree, hvanishes, hone⟩ := h.shifted
  have hlength := h.length_le
  simp only [KeyEquation.step]
  split_ifs with hzero hshort
  · refine ⟨⟨h.generates.constant, h.generates.degree, fun i hi hir => ?_⟩, by dsimp only; omega,
      hdegree, hvanishes, hone⟩
    rcases Nat.lt_or_ge i r with hlt | hge
    · exact h.generates.vanishes i hi hlt
    · obtain rfl : i = r := by omega
      exact hzero
  · have hold : (C (discrepancy S reg.locator r)⁻¹ * reg.locator).natDegree ≤ reg.length :=
      (Polynomial.natDegree_C_mul_le _ _).trans h.generates.degree
    refine ⟨h.corrected (n := r + 1 - reg.length) (by omega) (by omega), ?_, ?_, ?_, ?_⟩
    · exact Nat.sub_le _ _
    · dsimp only
      omega
    · intro _ i hi hir
      dsimp only at hi ⊢
      rw [discrepancy_C_mul, h.generates.vanishes i (by omega) (by omega), mul_zero]
    · intro i _ hir
      obtain rfl : i = r := by omega
      rw [discrepancy_C_mul, inv_mul_cancel₀ hzero]
  · exact ⟨h.corrected (n := reg.length) le_rfl (by omega), hlength.trans (Nat.le_succ r),
      hdegree, hvanishes, hone⟩

end Register.Holds

theorem run_holds (S : PowerSeries F) (r : ℕ) : (run S r).Holds S r := by
  induction r with
  | zero =>
      refine ⟨⟨Polynomial.coeff_one_zero, by simp [run, start], fun i _ hi => ?_⟩, le_rfl,
        by simp [run, start], fun hne => absurd rfl hne, fun i hne => absurd rfl hne⟩
      exact absurd hi (Nat.not_lt_zero i)
  | succ r ih => exact ih.step

/-- The algorithm never keeps a longer recurrence than the sequence has. -/
theorem run_length_le {S : PowerSeries F} {q : F[X]} {n : ℕ} (hq : ∀ r, Generates S q n r) (r : ℕ) :
    (run S r).length ≤ n := by
  induction r with
  | zero => exact Nat.zero_le n
  | succ r ih =>
      rw [run, step]
      dsimp only
      split_ifs with hzero hshort
      · exact ih
      · have hlt := (run_holds S r).generates.lt_add hzero (hq (r + 1))
        dsimp only
        omega
      · exact ih

end KeyEquation
