import Skylink.Library.ErrorLocator
import Skylink.Phy.RsCode

/-!
# From the arrays to the polynomials

An array of coefficients stands for a polynomial, as it is or by indices. The steps of
the decoder are those of the Berlekamp-Massey algorithm, and its search finds the roots
of the locator among the powers of the generator.
-/

namespace Skylink

open GF256 Polynomial

/-! ## Coefficients in arrays -/

/-- The coefficients that fit. -/
def PolyForm (coefficients : Bytes) (p : GF256[X]) : Prop :=
  ∀ i ≤ rsParitys, (⟨coefficients.getD i 0⟩ : GF256) = p.coeff i

/-- The same by indices. -/
def IndexForm (indices : Bytes) (p : GF256[X]) : Prop :=
  ∀ i ≤ rsParitys, ofIndex (indices.getD i rsA0) = p.coeff i

theorem PolyForm.map_indexOf {coefficients : Bytes} {p : GF256[X]}
    (h : PolyForm coefficients p) : IndexForm (coefficients.map indexOf) p := by
  intro i hi
  have hget : (coefficients.map indexOf).getD i rsA0 = indexOf (coefficients.getD i 0) :=
    List.getD_map coefficients 0 indexOf
  rw [hget, ofIndex_indexOf, h i hi]

theorem mk_add_byte (a b : UInt8) : (⟨a ^^^ b⟩ : GF256) = ⟨a⟩ + ⟨b⟩ := rfl

/-- What a turn of a loop adds if it multiplies an index by a power. -/
theorem mk_add_ofIndex_mul (sum u : UInt8) (n : Nat) :
    (⟨if u ≠ rsA0 then sum ^^^ alphaToMod (u.toNat + n) else sum⟩ : GF256) =
      ⟨sum⟩ + ofIndex u * alpha ^ n := by
  split_ifs with hu
  · rw [mk_add_byte, mk_alphaToMod, pow_add, ofIndex_of_ne hu]
  · rw [not_not.mp hu, rsA0, ofIndex_a0, zero_mul, add_zero]

/-- What a turn of a loop adds if it multiplies two indices. -/
theorem mk_add_mul (sum u v : UInt8) :
    (⟨if u ≠ rsA0 ∧ v ≠ rsA0 then sum ^^^ alphaToMod (u.toNat + v.toNat) else sum⟩ : GF256) =
      ⟨sum⟩ + ofIndex u * ofIndex v := by
  by_cases hv : v = rsA0
  · rw [if_neg fun h => h.2 hv, hv, rsA0, ofIndex_a0, mul_zero, add_zero]
  · rw [ofIndex_of_ne hv, ← mk_add_ofIndex_mul]
    simp only [hv, ne_eq, not_false_eq_true, and_true]

/-! ## Berlekamp-Massey algorithm -/

section Massey

variable {S : PowerSeries GF256} {s : Bytes}

/-- The syndromes in index form are the first terms of the sequence. -/
def SyndromesOf (s : Bytes) (S : PowerSeries GF256) : Prop :=
  ∀ i < rsParitys, ofIndex (s.getD i rsA0) = PowerSeries.coeff i S

theorem mk_discrepancyAt (hs : SyndromesOf s S) {lambda : Bytes} {p : GF256[X]}
    (hlambda : PolyForm lambda p) {r : Nat} (hr : r < rsParitys) :
    (⟨discrepancyAt s lambda (r + 1)⟩ : GF256) = KeyEquation.discrepancy S p r := by
  have hterm (sum : UInt8) (i : Nat) (hi : i ∈ List.range (r + 1)) :
      (⟨if lambda.getD i 0 ≠ 0 ∧ s.getD (r + 1 - i - 1) rsA0 ≠ rsA0 then
          sum ^^^ alphaToMod ((indexOf (lambda.getD i 0)).toNat +
            (s.getD (r + 1 - i - 1) rsA0).toNat) else sum⟩ : GF256) =
        ⟨sum⟩ + p.coeff i * PowerSeries.coeff (r - i) S := by
    have hi' := List.mem_range.mp hi
    have hindex : r + 1 - i - 1 = r - i := by omega
    have hiff : lambda.getD i 0 ≠ 0 ↔ indexOf (lambda.getD i 0) ≠ rsA0 := indexOf_eq_iff.not.symm
    simp only [hindex, hiff]
    rw [mk_add_mul, ofIndex_indexOf, hlambda i (by omega), hs (r - i) (by omega)]
  rw [discrepancyAt, mk_foldl_add hterm, sum_map_range, KeyEquation.discrepancy,
    PowerSeries.coeff_mul, Finset.Nat.sum_antidiagonal_eq_sum_range_succ_mk]
  simp only [Polynomial.coeff_coe]
  exact zero_add _

namespace BerlekampMassey

variable {state : BerlekampMassey}

/-- The state stands for a register of the algorithm. -/
structure Represents (state : BerlekampMassey) (reg : KeyEquation.Register GF256) : Prop where
  lambda : PolyForm state.lambda reg.locator
  b : IndexForm state.b reg.auxiliary
  el : state.el = reg.length

variable {reg : KeyEquation.Register GF256}

theorem corrected_spec (h : state.Represents reg) {discr : UInt8} (hdiscr : discr ≠ rsA0) :
    PolyForm (state.corrected discr)
      (reg.locator - C (ofIndex discr) * (X * reg.auxiliary)) := by
  intro i hi
  rw [Polynomial.coeff_sub, Polynomial.coeff_C_mul, sub_eq_add, corrected,
    List.getD_eq_getElem _ _ (by simpa using Nat.lt_succ_of_le hi), List.getElem_map,
    List.getElem_range]
  cases i with
  | zero =>
      rw [if_pos rfl, h.lambda 0 hi, Polynomial.coeff_X_mul_zero, mul_zero, add_zero]
  | succ i =>
      rw [if_neg (Nat.succ_ne_zero i), Nat.add_sub_cancel, Nat.add_comm discr.toNat,
        mk_add_ofIndex_mul, h.lambda _ hi, Polynomial.coeff_X_mul, h.b i (by omega),
        ofIndex_of_ne hdiscr, mul_comm]

theorem shiftedB_spec (h : state.Represents reg) :
    IndexForm state.shiftedB (X * reg.auxiliary) := by
  intro i hi
  rw [shiftedB]
  cases i with
  | zero =>
      rw [Polynomial.coeff_X_mul_zero]
      rfl
  | succ i =>
      rw [List.getD_cons_succ, Polynomial.coeff_X_mul, ← h.b i (by omega)]
      congr 1
      rw [List.getD_eq_getElem?_getD, List.getD_eq_getElem?_getD, List.getElem?_take,
        if_pos (Nat.lt_of_succ_le hi)]

theorem scaledLambda_spec (h : state.Represents reg) {discr : UInt8} (hdiscr : discr ≠ rsA0) :
    IndexForm (state.scaledLambda discr) (C (ofIndex discr)⁻¹ * reg.locator) := by
  intro i hi
  have hget : (state.scaledLambda discr).getD i rsA0 =
      if state.lambda.getD i 0 = 0 then rsA0
      else UInt8.ofNat (mod255 ((indexOf (state.lambda.getD i 0)).toNat + 255 - discr.toNat)) :=
    List.getD_map state.lambda 0 fun l => if l = 0 then rsA0
      else UInt8.ofNat (mod255 ((indexOf l).toNat + 255 - discr.toNat))
  rw [Polynomial.coeff_C_mul, ← h.lambda i hi, hget]
  split_ifs with hzero
  · rw [hzero]
    exact (mul_zero _).symm
  · have hlt := toNat_lt_of_ne hdiscr
    have hmod := (mod255_lt ((indexOf (state.lambda.getD i 0)).toNat + 255 - discr.toNat)).trans
      (by decide : 255 < UInt8.size)
    rw [ofIndex, UInt8.toNat_ofNat_of_lt' hmod, alphaTo_mod255, ← alpha_pow_indexOf hzero,
      ofIndex_of_ne hdiscr, eq_inv_mul_iff_mul_eq₀ (pow_ne_zero _ alpha_ne_zero), ← pow_add,
      alpha_pow_eq_iff]
    omega

/-- A step of the decoder is a step of the algorithm. -/
theorem step_represents (hs : SyndromesOf s S) (h : state.Represents reg) {r : Nat}
    (hr : r < rsParitys) : (state.step s (r + 1)).Represents (KeyEquation.step S r reg) := by
  have hdiscr := mk_discrepancyAt hs h.lambda hr
  rw [← ofIndex_indexOf] at hdiscr
  rw [BerlekampMassey.step, KeyEquation.step]
  dsimp only
  rw [Nat.add_sub_cancel, h.el, ← hdiscr]
  by_cases hzero : indexOf (discrepancyAt s state.lambda (r + 1)) = rsA0
  · rw [if_pos hzero, if_pos (ofIndex_eq_zero_iff.mpr hzero)]
    exact ⟨h.lambda, shiftedB_spec h, rfl⟩
  · rw [if_neg hzero, if_neg (ofIndex_eq_zero_iff.not.mpr hzero)]
    split_ifs with hshort
    · exact ⟨corrected_spec h hzero, scaledLambda_spec h hzero, rfl⟩
    · exact ⟨corrected_spec h hzero, shiftedB_spec h, rfl⟩

theorem start_represents : start.Represents KeyEquation.start := by
  have hone : PolyForm start.lambda 1 := by
    intro i hi
    cases i with
    | zero => exact Polynomial.coeff_one_zero.symm
    | succ i =>
        rw [start, List.getD_cons_succ, Polynomial.coeff_one, if_neg (Nat.succ_ne_zero i),
          List.getD_replicate _ (Nat.lt_of_succ_le hi)]
        rfl
  exact ⟨hone, hone.map_indexOf, rfl⟩

theorem run_represents (hs : SyndromesOf s S) {r : Nat} (hr : r ≤ rsParitys) :
    (run s r).Represents (KeyEquation.run S r) := by
  induction r with
  | zero => exact start_represents
  | succ r ih => exact step_represents hs (ih (Nat.le_of_succ_le hr)) hr

end BerlekampMassey

end Massey

/-! ## Degree -/

theorem degLambda_eq {lambda : Bytes} {p : GF256[X]} (hlambda : IndexForm lambda p)
    (hdegree : p.natDegree ≤ rsParitys) : degLambda lambda = p.natDegree := by
  -- The largest index below the bound that is not zero.
  have hfold (n : Nat) :
      let degree := (List.range n).foldl
        (fun degree i => if lambda.getD i rsA0 ≠ rsA0 then i else degree) 0
      (∀ i < n, degree < i → lambda.getD i rsA0 = rsA0) ∧
        (degree = 0 ∨ degree < n ∧ lambda.getD degree rsA0 ≠ rsA0) := by
    induction n with
    | zero => exact ⟨fun i hi => absurd hi (Nat.not_lt_zero i), .inl rfl⟩
    | succ n ih =>
        obtain ⟨hbeyond, hdegree⟩ := ih
        rw [List.range_succ, List.foldl_append, List.foldl_cons, List.foldl_nil]
        dsimp only at hbeyond hdegree ⊢
        split_ifs with hn
        · exact ⟨fun i hi hlt => by omega, .inr ⟨Nat.lt_succ_self n, hn⟩⟩
        · refine ⟨fun i hi hlt => ?_, hdegree.imp_right fun h => ⟨by omega, h.2⟩⟩
          rcases Nat.lt_succ_iff_lt_or_eq.mp hi with hi | rfl
          · exact hbeyond i hi hlt
          · exact not_not.mp hn
  obtain ⟨hbeyond, hlast⟩ :
      (∀ i < rsParitys + 1, degLambda lambda < i → lambda.getD i rsA0 = rsA0) ∧
        (degLambda lambda = 0 ∨ degLambda lambda < rsParitys + 1 ∧
          lambda.getD (degLambda lambda) rsA0 ≠ rsA0) :=
    hfold (rsParitys + 1)
  have hzero (i : Nat) (hi : degLambda lambda < i) : p.coeff i = 0 := by
    rcases Nat.lt_or_ge rsParitys i with hlarge | hsmall
    · exact Polynomial.coeff_eq_zero_of_natDegree_lt (hdegree.trans_lt hlarge)
    · rw [← hlambda i hsmall, hbeyond i (Nat.lt_succ_of_le hsmall) hi, rsA0, ofIndex_a0]
  apply le_antisymm
  · rcases hlast with hlast | ⟨hlt, hne⟩
    · exact hlast.trans_le (Nat.zero_le _)
    · apply Polynomial.le_natDegree_of_ne_zero
      rw [← hlambda _ (Nat.le_of_lt_succ hlt)]
      exact ofIndex_eq_zero_iff.not.mpr hne
  · exact Polynomial.natDegree_le_iff_coeff_eq_zero.mpr fun i hi => hzero i hi

/-! ## Chien search -/

section Chien

variable {p : GF256[X]} {reg : Bytes} {i : Nat}

/-- The terms of the polynomial at a power of the generator. -/
def TermsAt (reg : Bytes) (p : GF256[X]) (i : Nat) : Prop :=
  ∀ j, 1 ≤ j → j ≤ p.natDegree → ofIndex (reg.getD j rsA0) = p.coeff j * alpha ^ (j * i)

theorem IndexForm.termsAt (h : IndexForm reg p) (hdegree : p.natDegree ≤ rsParitys) :
    TermsAt reg p 0 := by
  intro j _ hj
  rw [h j (hj.trans hdegree), Nat.mul_zero, pow_zero, mul_one]

theorem TermsAt.advance (h : TermsAt reg p i) :
    TermsAt (chienAdvance p.natDegree reg) p (i + 1) := by
  intro j hone hj
  have hget : (chienAdvance p.natDegree reg).getD j rsA0 =
      if reg.getD j rsA0 ≠ rsA0 then UInt8.ofNat (mod255 ((reg.getD j rsA0).toNat + j))
      else reg.getD j rsA0 := by
    rcases Nat.lt_or_ge j reg.length with hlt | hge
    · rw [List.getD_eq_getElem _ _ (by simpa [chienAdvance] using hlt),
        List.getD_eq_getElem _ _ hlt]
      simp only [chienAdvance, List.getElem_mapIdx, hone, hj, true_and]
    · rw [List.getD_eq_default _ _ (by simpa [chienAdvance] using hge),
        List.getD_eq_default _ _ hge, if_neg fun h => h rfl]
  rw [hget, Nat.mul_succ, pow_add, ← mul_assoc, ← h j hone hj]
  split_ifs with hzero
  · have hmod := (mod255_lt ((reg.getD j rsA0).toNat + j)).trans (by decide : 255 < UInt8.size)
    rw [ofIndex, UInt8.toNat_ofNat_of_lt' hmod, alphaTo_mod255, pow_add, ofIndex_of_ne hzero]
  · rw [not_not.mp hzero, rsA0, ofIndex_a0, zero_mul]

/-- The sum of the terms is the value of the polynomial. -/
theorem TermsAt.mk_chienValue (h : TermsAt reg p i) (hconstant : p.coeff 0 = 1) :
    (⟨chienValue p.natDegree reg⟩ : GF256) = p.eval (alpha ^ i) := by
  have hterm (q : UInt8) (j : Nat) (hj : j ∈ (List.range p.natDegree).reverse) :
      (⟨if reg.getD (j + 1) rsA0 ≠ rsA0 then q ^^^ alphaTo (reg.getD (j + 1) rsA0).toNat
          else q⟩ : GF256) = ⟨q⟩ + p.coeff (j + 1) * (alpha ^ i) ^ (j + 1) := by
    have hj' := List.mem_range.mp (List.mem_reverse.mp hj)
    have hvalue : ofIndex (reg.getD (j + 1) rsA0) = p.coeff (j + 1) * (alpha ^ i) ^ (j + 1) := by
      rw [h (j + 1) (Nat.succ_pos j) hj', ← pow_mul, Nat.mul_comm i]
    rw [← hvalue]
    split_ifs with hzero
    · rfl
    · rw [not_not.mp hzero, rsA0, ofIndex_a0, add_zero]
  rw [chienValue, mk_foldl_add hterm, List.map_reverse, List.sum_reverse, sum_map_range,
    Polynomial.eval_eq_sum_range, Finset.sum_range_succ', hconstant, pow_zero, mul_one, add_comm]
  rfl

/-- The roots among the powers from a given one on. -/
def rootsFrom (p : GF256[X]) (i turns : Nat) : List Nat :=
  (List.range' i turns).filter fun i => p.eval (alpha ^ i) = 0

/-- The location that is stored with a root. -/
def rsLocation (i : Nat) : Nat := (rsIprim * i + 254) % 255

/-- The search gives all roots, although it stops at the last one. -/
theorem chienSearch_eq (turns : Nat) (found : List (Nat × Nat)) (h : TermsAt reg p i)
    (hconstant : p.coeff 0 = 1)
    (hfew : found.length + (rootsFrom p (i + 1) turns).length ≤ p.natDegree) :
    chienSearch p.natDegree turns (i + 1) (rsLocation (i + 1)) reg found =
      found ++ (rootsFrom p (i + 1) turns).map fun i => (i, rsLocation i) := by
  induction turns generalizing i reg found with
  | zero => exact (List.append_nil _).symm
  | succ turns ih =>
      have hlocation : mod255 (rsLocation (i + 1) + rsIprim) = rsLocation (i + 1 + 1) := by
        rw [mod255_eq, rsLocation, rsLocation, rsIprim]
        omega
      have hadvance := h.advance
      have hvalue : chienValue p.natDegree (chienAdvance p.natDegree reg) ≠ 0 ↔
          p.eval (alpha ^ (i + 1)) ≠ 0 := by
        rw [← hadvance.mk_chienValue hconstant]
        exact not_congr ⟨congrArg mk, congrArg byte⟩
      rw [chienSearch, hlocation]
      by_cases hroot : p.eval (alpha ^ (i + 1)) = 0
      · have hroots :
            rootsFrom p (i + 1) (turns + 1) = (i + 1) :: rootsFrom p (i + 1 + 1) turns := by
          rw [rootsFrom, List.range'_succ, List.filter_cons, if_pos (decide_eq_true hroot)]
          rfl
        rw [hroots, List.length_cons] at hfew
        rw [if_neg (hvalue.not.mpr (not_not.mpr hroot)), hroots, List.map_cons]
        split_ifs with hlast
        · rw [List.length_append, List.length_singleton] at hlast
          have hnone : rootsFrom p (i + 1 + 1) turns = [] :=
            List.eq_nil_of_length_eq_zero (by omega)
          rw [hnone, List.map_nil]
        · rw [ih _ hadvance (by simp only [List.length_append, List.length_singleton]; omega),
            List.append_assoc, List.singleton_append]
      · have hroots : rootsFrom p (i + 1) (turns + 1) = rootsFrom p (i + 1 + 1) turns := by
          rw [rootsFrom, List.range'_succ, List.filter_cons,
            if_neg (fun h => hroot (of_decide_eq_true h))]
          rfl
        rw [hroots] at hfew
        rw [if_pos (hvalue.mpr hroot), hroots, ih _ hadvance hfew]

end Chien

end Skylink
