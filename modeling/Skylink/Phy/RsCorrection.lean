import Mathlib.Data.Nat.Count
import Skylink.Frame.Model
import Skylink.Phy.RsLocator

/-!
# Correction of byte errors

Up to sixteen wrong bytes of a codeword are found and put right, whatever they are and
wherever they stand.
-/

namespace Skylink

open GF256 Polynomial

/-! ## The errors of a received word -/

section Errors

variable (received codeword : Bytes)

/-- Where the received word differs from the codeword. -/
def errorPositions : Finset Nat :=
  (Finset.range codeword.length).filter fun j => received.getD j 0 ≠ codeword.getD j 0

/-- By how much. -/
def errorByte (j : Nat) : UInt8 := received.getD j 0 ^^^ codeword.getD j 0

/-- The location of a position in a word of the length `n`. -/
def locationOf (n j : Nat) : GF256 := alpha ^ (rsPrim * (n - 1 - j))

/-- The value of an error in the sums. -/
def errorValue (j : Nat) : GF256 :=
  ⟨errorByte received codeword j⟩ * locationOf codeword.length j ^ rsFcr

variable {received codeword}

theorem mem_errorPositions {j : Nat} :
    j ∈ errorPositions received codeword ↔
      j < codeword.length ∧ received.getD j 0 ≠ codeword.getD j 0 := by
  rw [errorPositions, Finset.mem_filter, Finset.mem_range]

theorem card_errorPositions (hlen : received.length = codeword.length) :
    (errorPositions received codeword).card = byteErrors received codeword := by
  rw [errorPositions, ← Nat.count_eq_card_filter_range]
  induction codeword generalizing received with
  | nil => rw [List.eq_nil_of_length_eq_zero hlen]; rfl
  | cons c codeword ih =>
      obtain ⟨r, received, rfl⟩ := List.exists_cons_of_length_eq_add_one hlen
      have hrest := ih (Nat.succ.inj hlen)
      simp only [byteErrors] at hrest
      simp only [List.length_cons, Nat.count_succ', List.getD_cons_succ, List.getD_cons_zero,
        byteErrors, List.zip_cons_cons, List.countP_cons, hrest, bne_iff_ne]

theorem errorByte_ne_zero {j : Nat} (hj : j ∈ errorPositions received codeword) :
    errorByte received codeword j ≠ 0 :=
  fun hzero => (mem_errorPositions.mp hj).2 (UInt8.xor_eq_zero_iff.mp hzero)

theorem locationOf_ne_zero (n j : Nat) : locationOf n j ≠ 0 := pow_ne_zero _ alpha_ne_zero

theorem locationOf_injOn (h : codeword.length ≤ 255) :
    Set.InjOn (locationOf codeword.length) (errorPositions received codeword) := by
  intro j hj k hk heq
  have hj' := (mem_errorPositions.mp hj).1
  have hk' := (mem_errorPositions.mp hk).1
  have hmod := alpha_pow_eq_iff.mp heq
  rw [rsPrim] at hmod
  omega

theorem errorValue_ne_zero {j : Nat} (hj : j ∈ errorPositions received codeword) :
    errorValue received codeword j ≠ 0 :=
  mul_ne_zero (fun hzero => errorByte_ne_zero hj (congrArg byte hzero))
    (pow_ne_zero _ (locationOf_ne_zero _ _))

/-- The syndromes of a received word are the power sums of its errors. -/
theorem syndromesOf_received (hlen : received.length = codeword.length)
    (hcodeword : ∀ i < rsParitys, wordValue (rsRoot i) codeword = 0) :
    SyndromesOf ((syndromes received).map indexOf)
      (ErrorLocator.powerSums (errorPositions received codeword) (locationOf codeword.length)
        (errorValue received codeword)) := by
  intro i hi
  have hget : ((syndromes received).map indexOf).getD i rsA0 =
      indexOf ((syndromes received).getD i 0) :=
    List.getD_map _ 0 indexOf
  have hvalue := hcodeword i hi
  rw [hget, ofIndex_indexOf, (syndromes_spec received).2 i hi, ErrorLocator.powerSums,
    PowerSeries.coeff_mk]
  rw [wordValue_eq_sum] at hvalue ⊢
  calc ∑ j ∈ Finset.range received.length,
      (⟨received.getD j 0⟩ : GF256) * rsRoot i ^ (received.length - 1 - j)
    _ = ∑ j ∈ Finset.range codeword.length,
          (⟨errorByte received codeword j⟩ : GF256) * rsRoot i ^ (codeword.length - 1 - j) := by
      rw [hlen, ← add_zero (∑ j ∈ Finset.range codeword.length,
          (⟨received.getD j 0⟩ : GF256) * rsRoot i ^ (codeword.length - 1 - j)), ← hvalue,
        ← Finset.sum_add_distrib]
      apply Finset.sum_congr rfl
      intro j _
      rw [errorByte, mk_add_byte, add_mul]
    _ = ∑ j ∈ errorPositions received codeword,
          (⟨errorByte received codeword j⟩ : GF256) * rsRoot i ^ (codeword.length - 1 - j) := by
      symm
      apply Finset.sum_subset (Finset.filter_subset _ _)
      intro j hj hnot
      have heq : received.getD j 0 = codeword.getD j 0 :=
        not_not.mp fun hne => hnot (mem_errorPositions.mpr ⟨Finset.mem_range.mp hj, hne⟩)
      rw [errorByte, heq, UInt8.xor_self]
      exact zero_mul _
    _ = ∑ j ∈ errorPositions received codeword,
          errorValue received codeword j * locationOf codeword.length j ^ i := by
      apply Finset.sum_congr rfl
      intro j _
      rw [errorValue, rsRoot, locationOf, mul_assoc, ← pow_add, ← pow_mul, ← pow_mul]
      congr 2
      ring

end Errors

/-! ## The roots of the locator -/

section Roots

variable {errors : Finset Nat} {n : Nat}

/-- The exponent of the root that belongs to a position. -/
def rootOf (n j : Nat) : Nat := 255 - rsPrim * (n - 1 - j) % 255

theorem alpha_pow_rootOf (n j : Nat) : alpha ^ rootOf n j = (locationOf n j)⁻¹ := by
  have hmod := Nat.mod_lt (rsPrim * (n - 1 - j)) (by decide : 255 > 0)
  rw [← mul_eq_one_iff_eq_inv₀ (locationOf_ne_zero n j), locationOf, ← pow_add,
    ← pow_zero alpha, alpha_pow_eq_iff, rootOf]
  omega

/-- The location that is stored with a root leads back to the position. -/
theorem rsLocation_rootOf {j : Nat} (hj : j < n) (hn : n ≤ 255) :
    rsLocation (rootOf n j) = j + (255 - n) := by
  rw [rsLocation, rootOf, rsIprim, rsPrim]
  omega

theorem natDegree_locator {x : Nat → GF256} (hx : ∀ l, x l ≠ 0) :
    (ErrorLocator.locator errors x).natDegree = errors.card := by
  have hfactor (l : Nat) : (1 - C (x l) * X : GF256[X]).natDegree = 1 := by
    have heq : (1 - C (x l) * X : GF256[X]) = C (-x l) * X + C 1 := by
      rw [C_neg, C_1]
      ring
    rw [heq]
    exact natDegree_linear (neg_ne_zero.mpr (hx l))
  rw [ErrorLocator.locator, Polynomial.natDegree_prod]
  · simp [hfactor]
  · intro l _ hzero
    have hdegree := hfactor l
    rw [hzero, Polynomial.natDegree_zero] at hdegree
    exact zero_ne_one hdegree

/-- The search gives every position once, with its root. -/
theorem roots_locator (hn : n ≤ 255) (herrors : ∀ j ∈ errors, j < n) :
    ∃ positions : List Nat, positions.Nodup ∧ (∀ j, j ∈ positions ↔ j ∈ errors) ∧
      rootsFrom (ErrorLocator.locator errors (locationOf n)) 1 255 = positions.map (rootOf n) := by
  set p := ErrorLocator.locator errors (locationOf n)
  have hmem (i : Nat) : i ∈ rootsFrom p 1 255 ↔ ∃ j ∈ errors, i = rootOf n j := by
    have hroot : p.eval (alpha ^ i) = 0 ↔ ∃ j ∈ errors, alpha ^ i = alpha ^ rootOf n j := by
      rw [ErrorLocator.eval_locator_eq_zero_iff fun l _ => locationOf_ne_zero n l]
      simp only [alpha_pow_rootOf]
    rw [rootsFrom, List.mem_filter, decide_eq_true_iff, hroot, List.mem_range'_1]
    constructor
    · rintro ⟨hi, j, hj, heq⟩
      refine ⟨j, hj, ?_⟩
      have hmod := alpha_pow_eq_iff.mp heq
      rw [rootOf] at hmod ⊢
      omega
    · rintro ⟨j, hj, rfl⟩
      exact ⟨by rw [rootOf]; omega, j, hj, rfl⟩
  have hinverse {j : Nat} (hj : j ∈ errors) : rsLocation (rootOf n j) - (255 - n) = j := by
    rw [rsLocation_rootOf (herrors j hj) hn, Nat.add_sub_cancel]
  have hmap : ((rootsFrom p 1 255).map fun i => rsLocation i - (255 - n)).map (rootOf n) =
      rootsFrom p 1 255 := by
    rw [List.map_map]
    apply (List.map_congr_left _).trans (List.map_id _)
    intro i hi
    obtain ⟨j, hj, rfl⟩ := (hmem i).mp hi
    rw [Function.comp_apply, hinverse hj, id_eq]
  refine ⟨(rootsFrom p 1 255).map fun i => rsLocation i - (255 - n), ?_, ?_, hmap.symm⟩
  · apply List.Nodup.of_map (rootOf n)
    rw [hmap]
    exact (List.nodup_range' _).filter _
  · intro j
    rw [List.mem_map]
    constructor
    · rintro ⟨i, hi, rfl⟩
      obtain ⟨j, hj, rfl⟩ := (hmem i).mp hi
      rwa [hinverse hj]
    · intro hj
      exact ⟨rootOf n j, (hmem _).mpr ⟨j, hj, rfl⟩, hinverse hj⟩

end Roots

/-! ## Error values -/

section Values

variable {S : PowerSeries GF256} {s lambda : Bytes} {p : GF256[X]}

theorem ofIndex_rsOmega (hs : SyndromesOf s S) (hlambda : IndexForm lambda p) {degree : Nat}
    (hdegree : degree ≤ rsParitys) {i : Nat} (hi : i < degree) :
    ofIndex ((rsOmega s lambda degree).getD i rsA0) = KeyEquation.discrepancy S p i := by
  have hterm (tmp : UInt8) (j : Nat) (hj : j ∈ (List.range (i + 1)).reverse) :
      (⟨if s.getD (i - j) rsA0 ≠ rsA0 ∧ lambda.getD j rsA0 ≠ rsA0 then
          tmp ^^^ alphaToMod ((s.getD (i - j) rsA0).toNat + (lambda.getD j rsA0).toNat)
        else tmp⟩ : GF256) = ⟨tmp⟩ + p.coeff j * PowerSeries.coeff (i - j) S := by
    have hj' := List.mem_range.mp (List.mem_reverse.mp hj)
    rw [mk_add_mul, hs _ (by omega), hlambda j (by omega), mul_comm]
  rw [rsOmega, List.getD_eq_getElem _ _ (by simpa using hi), List.getElem_map, List.getElem_range,
    ofIndex_indexOf, mk_foldl_add hterm, List.map_reverse, List.sum_reverse, sum_map_range,
    KeyEquation.discrepancy, PowerSeries.coeff_mul,
    Finset.Nat.sum_antidiagonal_eq_sum_range_succ_mk]
  simp only [Polynomial.coeff_coe]
  exact zero_add _

theorem mk_rsNum1 {omega : Bytes} {q : GF256[X]}
    (homega : ∀ i < omega.length, ofIndex (omega.getD i rsA0) = q.coeff i)
    (hq : ∀ i, omega.length ≤ i → q.coeff i = 0) (root : Nat) :
    (⟨rsNum1 omega root⟩ : GF256) = q.eval (alpha ^ root) := by
  have hterm (num : UInt8) (i : Nat) (hi : i ∈ (List.range omega.length).reverse) :
      (⟨if omega.getD i rsA0 ≠ rsA0 then num ^^^ alphaToMod ((omega.getD i rsA0).toNat + i * root)
        else num⟩ : GF256) = ⟨num⟩ + q.coeff i * (alpha ^ root) ^ i := by
    rw [mk_add_ofIndex_mul, homega i (List.mem_range.mp (List.mem_reverse.mp hi)), ← pow_mul,
      Nat.mul_comm i]
  have hdegree : q.natDegree < omega.length + 1 := by
    apply Nat.lt_succ_of_le
    exact Polynomial.natDegree_le_iff_coeff_eq_zero.mpr fun i hi => hq i hi.le
  rw [rsNum1, mk_foldl_add hterm, List.map_reverse, List.sum_reverse, sum_map_range,
    Polynomial.eval_eq_sum_range' hdegree, Finset.sum_range_succ, hq _ le_rfl, zero_mul, add_zero]
  exact zero_add _

/-- Only the odd coefficients are left in the derivative. -/
theorem eval_derivative_eq_sum {n : Nat} (hdegree : p.natDegree ≤ 2 * n) (z : GF256) :
    (derivative p).eval z = ∑ m ∈ Finset.range n, p.coeff (2 * m + 1) * z ^ (2 * m) := by
  have htwo : (2 : GF256) = 0 := by
    rw [← one_add_one_eq_two]
    exact add_self 1
  have hpairs (f : Nat → GF256) (n : Nat) :
      ∑ i ∈ Finset.range (2 * n), f i =
        ∑ m ∈ Finset.range n, (f (2 * m) + f (2 * m + 1)) := by
    induction n with
    | zero => rfl
    | succ n ih =>
        rw [Nat.mul_succ, Finset.sum_range_succ, Finset.sum_range_succ, ih, Finset.sum_range_succ,
          add_assoc]
  have hlt : (derivative p).natDegree < 2 * n + 1 :=
    (Polynomial.natDegree_derivative_le p).trans_lt (by omega)
  have hlast : (derivative p).coeff (2 * n) = 0 := by
    rw [Polynomial.coeff_derivative, Polynomial.coeff_eq_zero_of_natDegree_lt (by omega), zero_mul]
  rw [Polynomial.eval_eq_sum_range' hlt, Finset.sum_range_succ, hlast, zero_mul, add_zero, hpairs]
  apply Finset.sum_congr rfl
  intro m _
  rw [Polynomial.coeff_derivative, Polynomial.coeff_derivative]
  push_cast
  rw [htwo, zero_mul, zero_add, mul_one, one_add_one_eq_two, htwo, mul_zero, zero_mul,
    add_zero]

theorem mk_rsDen (hlambda : IndexForm lambda p) (hdegree : p.natDegree ≤ rsParitys) (root : Nat) :
    (⟨rsDen lambda p.natDegree root⟩ : GF256) = (derivative p).eval (alpha ^ root) := by
  have hbound : p.natDegree ≤ 2 * (min p.natDegree (rsParitys - 1) / 2 + 1) := by
    rw [rsParitys] at hdegree ⊢
    omega
  have hterm (den : UInt8) (m : Nat)
      (hm : m ∈ (List.range (min p.natDegree (rsParitys - 1) / 2 + 1)).reverse) :
      (⟨if lambda.getD (2 * m + 1) rsA0 ≠ rsA0 then
          den ^^^ alphaToMod ((lambda.getD (2 * m + 1) rsA0).toNat + 2 * m * root)
        else den⟩ : GF256) = ⟨den⟩ + p.coeff (2 * m + 1) * (alpha ^ root) ^ (2 * m) := by
    have hm' := List.mem_range.mp (List.mem_reverse.mp hm)
    have hfits : 2 * m + 1 ≤ rsParitys := by
      rw [rsParitys] at hm' ⊢
      omega
    rw [mk_add_ofIndex_mul, hlambda _ hfits, ← pow_mul, Nat.mul_comm root]
  rw [rsDen, mk_foldl_add hterm, List.map_reverse, List.sum_reverse, sum_map_range,
    eval_derivative_eq_sum hbound]
  exact zero_add _

/-- A quotient by indices. -/
theorem mk_quotient {a b c : UInt8} (ha : a ≠ 0) (hb : b ≠ 0) (hc : c ≠ 0) :
    (⟨alphaToMod ((indexOf a).toNat + (indexOf b).toNat + 255 - (indexOf c).toNat)⟩ : GF256) =
      ⟨a⟩ * ⟨b⟩ / ⟨c⟩ := by
  have hlt := toNat_lt_of_ne (indexOf_eq_iff.not.mpr hc)
  rw [← alpha_pow_indexOf ha, ← alpha_pow_indexOf hb, ← alpha_pow_indexOf hc,
    eq_div_iff (pow_ne_zero _ alpha_ne_zero), mk_alphaToMod, ← pow_add, ← pow_add,
    alpha_pow_eq_iff]
  omega

end Values

/-! ## Correction -/

section Correction

variable {received codeword lambda : Bytes}

/-- The three factors of an error, in front of the location to the power of `FCR`. -/
theorem factors_of_error {e x num1 num2 den : GF256} (hx : x ≠ 0) (he : e ≠ 0)
    (hvalue : e * x ^ rsFcr = x * num1 / den) (hnum2 : num2 = x⁻¹ ^ (rsFcr - 1)) :
    num1 ≠ 0 ∧ num2 ≠ 0 ∧ den ≠ 0 ∧ num1 * num2 / den = e := by
  have hne : x * num1 / den ≠ 0 := hvalue ▸ mul_ne_zero he (pow_ne_zero _ hx)
  have hden : den ≠ 0 := (div_ne_zero_iff.mp hne).2
  refine ⟨right_ne_zero_of_mul (div_ne_zero_iff.mp hne).1, ?_, hden, ?_⟩
  · rw [hnum2]
    exact pow_ne_zero _ (inv_ne_zero hx)
  · have hpow : x ^ rsFcr = x * x ^ (rsFcr - 1) := (pow_succ' x 111)
    have hcancel : e * x ^ (rsFcr - 1) = num1 / den := by
      apply mul_left_cancel₀ hx
      rw [← mul_div_assoc, ← hvalue, hpow]
      ring
    rw [mul_div_right_comm, ← hcancel, hnum2, inv_pow, mul_assoc,
      mul_inv_cancel₀ (pow_ne_zero _ hx), mul_one]

/-- The error at a position is taken away at its root. -/
theorem applyError_rootOf (hlen : received.length = codeword.length)
    (hlong : codeword.length ≤ 255)
    (hcodeword : ∀ i < rsParitys, wordValue (rsRoot i) codeword = 0)
    (hfew : (errorPositions received codeword).card ≤ rsParitys)
    (hlambda : IndexForm lambda
      (ErrorLocator.locator (errorPositions received codeword) (locationOf codeword.length)))
    {j : Nat} (hj : j ∈ errorPositions received codeword) (pad : Nat) (data : Bytes) :
    applyError lambda
        (rsOmega ((syndromes received).map indexOf) lambda (errorPositions received codeword).card)
        (errorPositions received codeword).card pad data (rootOf codeword.length j, j + pad) =
      data.modify j fun byte => byte ^^^ errorByte received codeword j := by
  set errors := errorPositions received codeword
  set x := locationOf codeword.length
  have hx (l : Nat) : x l ≠ 0 := locationOf_ne_zero _ l
  have hdegree : (ErrorLocator.locator errors x).natDegree = errors.card := natDegree_locator hx
  set omega := rsOmega ((syndromes received).map indexOf) lambda errors.card
  have homega_length : omega.length = errors.card := by simp [omega, rsOmega]
  have hnum1 : (⟨rsNum1 omega (rootOf codeword.length j)⟩ : GF256) =
      (ErrorLocator.evaluator errors x (errorValue received codeword)).eval (x j)⁻¹ := by
    rw [← alpha_pow_rootOf]
    apply mk_rsNum1
    · intro i hi
      rw [ErrorLocator.evaluator_coeff]
      exact ofIndex_rsOmega (syndromesOf_received hlen hcodeword) hlambda hfew
        (homega_length ▸ hi)
    · intro i hi
      exact ErrorLocator.evaluator_coeff_eq_zero _ _ _ (homega_length ▸ hi)
  have hnum2 : (⟨rsNum2 (rootOf codeword.length j)⟩ : GF256) = (x j)⁻¹ ^ (rsFcr - 1) := by
    rw [rsNum2, mk_alphaToMod, ← alpha_pow_rootOf, ← pow_mul, alpha_pow_eq_iff]
    omega
  have hden : (⟨rsDen lambda errors.card (rootOf codeword.length j)⟩ : GF256) =
      (derivative (ErrorLocator.locator errors x)).eval (x j)⁻¹ := by
    rw [← hdegree, mk_rsDen hlambda (hdegree.trans_le hfew), alpha_pow_rootOf]
  have hvalue := ErrorLocator.value_eq (errorValue received codeword) (fun l _ => hx l)
    (locationOf_injOn hlong) hj
  rw [← hnum1, ← hden, neg_eq] at hvalue
  obtain ⟨hne1, hne2, hne3, herror⟩ :=
    factors_of_error (e := ⟨errorByte received codeword j⟩) (hx j)
    (fun hzero => errorByte_ne_zero hj (congrArg byte hzero)) hvalue hnum2
  have hbyte := mk_quotient (fun h => hne1 (congrArg mk h)) (fun h => hne2 (congrArg mk h))
    fun h => hne3 (congrArg mk h)
  rw [herror] at hbyte
  have hquotient := congrArg byte hbyte
  dsimp only at hquotient
  rw [applyError]
  dsimp only
  rw [if_pos ⟨fun h => hne1 (congrArg mk h), Nat.le_add_left pad j⟩, Nat.add_sub_cancel, hquotient]

/-- The errors at different positions are taken away independently. -/
theorem getElem?_foldl_modify {e : Nat → UInt8} {positions : List Nat} (hnodup : positions.Nodup)
    (data : Bytes) (m : Nat) :
    (positions.foldl (fun data j => data.modify j fun byte => byte ^^^ e j) data)[m]? =
      if m ∈ positions then data[m]?.map fun byte => byte ^^^ e m else data[m]? := by
  induction positions generalizing data with
  | nil => rfl
  | cons j positions ih =>
      obtain ⟨hnot, hrest⟩ := List.nodup_cons.mp hnodup
      rw [List.foldl_cons, ih hrest, List.getElem?_modify]
      by_cases hjm : j = m
      · subst hjm
        simp [hnot]
      · simp [hjm, Ne.symm hjm]

theorem eq_of_errorPositions_eq_empty (hlen : received.length = codeword.length)
    (hnone : errorPositions received codeword = ∅) : received = codeword := by
  apply List.ext_getElem hlen
  intro j hj hj'
  by_contra hne
  have hmem : j ∈ errorPositions received codeword := by
    rw [mem_errorPositions, List.getD_eq_getElem _ _ hj, List.getD_eq_getElem _ _ hj']
    exact ⟨hj', hne⟩
  rw [hnone] at hmem
  exact Finset.notMem_empty j hmem

/-- The syndromes tell whether there are errors. -/
theorem syndromes_all_iff (hlen : received.length = codeword.length)
    (hlong : codeword.length ≤ 255)
    (hcodeword : ∀ i < rsParitys, wordValue (rsRoot i) codeword = 0)
    (hfew : (errorPositions received codeword).card ≤ 16) :
    (syndromes received).all (· = 0) = true ↔ errorPositions received codeword = ∅ := by
  obtain ⟨hlength, hvalue⟩ := syndromes_spec received
  have hall : (syndromes received).all (· = 0) = true ↔
      ∀ i < rsParitys, (syndromes received).getD i 0 = 0 := by
    rw [List.all_eq_true, ← hlength]
    constructor
    · intro h i hi
      rw [List.getD_eq_getElem _ _ hi]
      exact of_decide_eq_true (h _ (List.getElem_mem hi))
    · intro h v hv
      obtain ⟨i, hi, rfl⟩ := List.getElem_of_mem hv
      have hzero := h i hi
      rw [List.getD_eq_getElem _ _ hi] at hzero
      exact decide_eq_true hzero
  rw [hall]
  constructor
  · intro hzero
    by_contra hne
    obtain ⟨i, hi, hsum⟩ := ErrorLocator.exists_powerSums_ne_zero
      (fun l _ => locationOf_ne_zero codeword.length l) (locationOf_injOn hlong)
      (fun l hl => errorValue_ne_zero hl) (Finset.nonempty_of_ne_empty hne)
    have hi' : i < rsParitys := by
      rw [rsParitys]
      omega
    apply hsum
    rw [← syndromesOf_received hlen hcodeword i hi', ofIndex_eq_zero_iff]
    have hget : ((syndromes received).map indexOf).getD i rsA0 =
        indexOf ((syndromes received).getD i 0) :=
      List.getD_map _ 0 indexOf
    rw [hget, hzero i hi', indexOf_eq_iff]
  · intro hnone i hi
    rw [← eq_of_errorPositions_eq_empty hlen hnone] at hcodeword
    exact congrArg byte ((hvalue i hi).trans (hcodeword i hi))

/-- The locator of a received word, in index form. -/
def receivedLambda (received : Bytes) : Bytes :=
  (BerlekampMassey.run ((syndromes received).map indexOf) rsParitys).lambda.map indexOf

theorem receivedLambda_spec (hlen : received.length = codeword.length)
    (hlong : codeword.length ≤ 255)
    (hcodeword : ∀ i < rsParitys, wordValue (rsRoot i) codeword = 0)
    (hfew : (errorPositions received codeword).card ≤ 16) :
    IndexForm (receivedLambda received)
      (ErrorLocator.locator (errorPositions received codeword) (locationOf codeword.length)) := by
  have htwice : 2 * (errorPositions received codeword).card ≤ rsParitys :=
    Nat.mul_le_mul_left 2 hfew
  rw [← ErrorLocator.run_locator (fun l _ => locationOf_ne_zero codeword.length l)
    (locationOf_injOn hlong) (fun l hl => errorValue_ne_zero hl) htwice]
  exact (BerlekampMassey.run_represents (syndromesOf_received hlen hcodeword)
    le_rfl).lambda.map_indexOf

/-- The search finds the errors. -/
theorem chienSearch_received {n : Nat} {errors : Finset Nat} (hn : n ≤ 255)
    (herrors : ∀ j ∈ errors, j < n) (hfew : errors.card ≤ rsParitys)
    (hlambda : IndexForm lambda (ErrorLocator.locator errors (locationOf n))) :
    degLambda lambda = errors.card ∧
      ∃ positions : List Nat, positions.Nodup ∧ (∀ j, j ∈ positions ↔ j ∈ errors) ∧
        positions.length = errors.card ∧
        chienSearch errors.card 255 1 (rsIprim - 1) lambda [] =
          positions.map fun j => (rootOf n j, j + (255 - n)) := by
  have hdegree : (ErrorLocator.locator errors (locationOf n)).natDegree = errors.card :=
    natDegree_locator (locationOf_ne_zero n)
  have hfits := hdegree.trans_le hfew
  obtain ⟨positions, hnodup, hmem, hroots⟩ := roots_locator hn herrors
  have hlength : positions.length = errors.card := by
    rw [← List.toFinset_card_of_nodup hnodup]
    congr 1
    ext j
    rw [List.mem_toFinset, hmem]
  have hsearch := chienSearch_eq 255 [] (hlambda.termsAt hfits)
    (ErrorLocator.locator_coeff_zero errors (locationOf n))
    (by rw [Nat.zero_add, hroots, hdegree, List.length_map, List.length_nil, hlength, Nat.zero_add])
  rw [hdegree, Nat.zero_add, hroots, List.nil_append, List.map_map] at hsearch
  refine ⟨(degLambda_eq hlambda hfits).trans hdegree, positions, hnodup, hmem, hlength,
    hsearch.trans (List.map_congr_left fun j hj => ?_)⟩
  rw [Function.comp_apply, rsLocation_rootOf (herrors j ((hmem j).mp hj)) hn]

/-- Up to sixteen wrong bytes are corrected, and counted. -/
theorem decodeRs8_eq (hlen : received.length = codeword.length)
    (hshort : rsParitys < codeword.length) (hlong : codeword.length ≤ 255)
    (hcodeword : ∀ i < rsParitys, wordValue (rsRoot i) codeword = 0)
    (hfew : byteErrors received codeword ≤ 16) :
    decodeRs8 received = some (codeword, byteErrors received codeword) := by
  rw [← card_errorPositions hlen] at hfew ⊢
  have hpad : ¬(255 < received.length ∨ 222 < 255 - received.length) := by
    rw [rsParitys] at hshort
    omega
  have hall := syndromes_all_iff hlen hlong hcodeword hfew
  rw [decodeRs8]
  dsimp only
  rw [if_neg hpad]
  by_cases hzero : (syndromes received).all (· = 0) = true
  · have hnone := hall.mp hzero
    rw [if_pos hzero, hnone, Finset.card_empty, eq_of_errorPositions_eq_empty hlen hnone]
  · have hlambda := receivedLambda_spec hlen hlong hcodeword hfew
    have hparitys : (errorPositions received codeword).card ≤ rsParitys :=
      hfew.trans (by decide)
    obtain ⟨hdegree, positions, hnodup, hmem, hlength, hfound⟩ := chienSearch_received hlong
      (fun j hj => (mem_errorPositions.mp hj).1) hparitys hlambda
    rw [receivedLambda] at hdegree hfound hlambda
    rw [if_neg hzero, hdegree, hfound, List.length_map, if_neg (not_not.mpr hlength.symm), hlength,
      ← List.map_reverse, List.foldl_map, hlen]
    have happly : positions.reverse.foldl
          (fun data j => applyError (receivedLambda received)
            (rsOmega ((syndromes received).map indexOf) (receivedLambda received)
              (errorPositions received codeword).card)
            (errorPositions received codeword).card (255 - codeword.length) data
            (rootOf codeword.length j, j + (255 - codeword.length))) received =
        positions.reverse.foldl
          (fun data j => data.modify j fun byte => byte ^^^ errorByte received codeword j)
          received := by
      apply List.foldl_ext
      intro data j hj
      exact applyError_rootOf hlen hlong hcodeword hparitys hlambda
        ((hmem j).mp (List.mem_reverse.mp hj)) _ _
    apply congrArg fun word => some (word, (errorPositions received codeword).card)
    apply happly.trans
    apply List.ext_getElem?
    intro j
    rw [getElem?_foldl_modify (List.nodup_reverse.mpr hnodup)]
    simp only [List.mem_reverse, hmem, mem_errorPositions]
    rcases Nat.lt_or_ge j codeword.length with hlt | hge
    · rw [List.getElem?_eq_getElem (hlen ▸ hlt), List.getElem?_eq_getElem hlt,
        List.getD_eq_getElem _ _ (hlen ▸ hlt), List.getD_eq_getElem _ _ hlt]
      split_ifs with hne
      · rw [Option.map_some, errorByte, List.getD_eq_getElem _ _ (hlen ▸ hlt),
          List.getD_eq_getElem _ _ hlt, ← UInt8.xor_assoc, UInt8.xor_self, UInt8.zero_xor]
      · exact congrArg some (not_not.mp fun h => hne ⟨hlt, h⟩)
    · rw [List.getElem?_eq_none (hlen ▸ hge), List.getElem?_eq_none hge,
        if_neg fun h => absurd h.1 (Nat.not_lt.mpr hge)]

/-- A word of the encoder is longer than its check bytes and fits the code. -/
theorem codeword_fits {data : Bytes} (hpos : data ≠ []) (hfits : data.length ≤ rsMsglen) :
    rsParitys < (data ++ encodeRs8 data).length ∧ (data ++ encodeRs8 data).length ≤ 255 := by
  have hone := List.length_pos_iff.mpr hpos
  have hmax : rsMsglen + rsParitys = 255 := rfl
  rw [List.length_append, encodeRs8_length]
  omega

/-- What the pipeline relies on. -/
theorem decodeRs8_correctsErrors {data : Bytes} (hpos : data ≠ [])
    (hfits : data.length ≤ rsMsglen) :
    RsDecoder.CorrectsErrors decodeRs8 (data ++ encodeRs8 data) := by
  obtain ⟨hshort, hlong⟩ := codeword_fits hpos hfits
  intro received hlen hfew
  exact ⟨byteErrors received (data ++ encodeRs8 data),
    decodeRs8_eq hlen hshort hlong (fun i hi => wordValue_codeword hi data) hfew⟩

/-- A word of the encoder with up to sixteen wrong bytes. -/
theorem decodeRs8_eq_codeword {data : Bytes} (hpos : data ≠ []) (hfits : data.length ≤ rsMsglen)
    (hlen : received.length = (data ++ encodeRs8 data).length)
    (hfew : byteErrors received (data ++ encodeRs8 data) ≤ 16) :
    decodeRs8 received =
      some (data ++ encodeRs8 data, byteErrors received (data ++ encodeRs8 data)) := by
  obtain ⟨hshort, hlong⟩ := codeword_fits hpos hfits
  exact decodeRs8_eq hlen hshort hlong (fun i hi => wordValue_codeword hi data) hfew

/-- The fifth byte of the word that is sent for three bytes is received wrong. -/
theorem decodeRs8_eq_codeword_example :
    decodeRs8 (([1, 2, 3] ++ encodeRs8 [1, 2, 3]).set 4 0xff) =
      some ([1, 2, 3] ++ encodeRs8 [1, 2, 3], byteErrors
        (([1, 2, 3] ++ encodeRs8 [1, 2, 3]).set 4 0xff) ([1, 2, 3] ++ encodeRs8 [1, 2, 3])) :=
  decodeRs8_eq_codeword (by decide) (by decide) List.length_set (by decide +kernel)

end Correction

/-! ## Words beyond the reach of the decoder -/

theorem byteErrors_self (xs : Bytes) : byteErrors xs xs = 0 := by
  induction xs with
  | nil => rfl
  | cons x xs ih =>
      rw [byteErrors, List.zip_cons_cons, List.countP_cons_of_neg (by simp)]
      exact ih

theorem byteErrors_modify_le (xs ys : Bytes) (i : Nat) (f : UInt8 → UInt8) :
    byteErrors (xs.modify i f) ys ≤ byteErrors xs ys + 1 := by
  induction xs generalizing i ys with
  | nil => simp [byteErrors]
  | cons x xs ih =>
      cases ys with
      | nil => simp [byteErrors]
      | cons y ys =>
          cases i with
          | zero =>
              simp only [byteErrors, List.modify_zero_cons, List.zip_cons_cons, List.countP_cons]
              split <;> split <;> omega
          | succ i =>
              have hrest := ih ys i
              simp only [byteErrors] at hrest
              simp only [byteErrors, List.modify_succ_cons, List.zip_cons_cons, List.countP_cons]
              omega

/-- One correction keeps the length and changes one byte at most. -/
theorem applyError_changes (lambda omega : Bytes) (degree pad : Nat) (data received : Bytes)
    (found : Nat × Nat) :
    (applyError lambda omega degree pad data found).length = data.length ∧
      byteErrors (applyError lambda omega degree pad data found) received ≤
        byteErrors data received + 1 := by
  rw [applyError]
  split
  · exact ⟨List.length_modify .., byteErrors_modify_le ..⟩
  · exact ⟨rfl, Nat.le_succ _⟩

theorem applyErrors_changes (lambda omega : Bytes) (degree pad : Nat) (received : Bytes)
    (found : List (Nat × Nat)) (data : Bytes) :
    (found.foldl (applyError lambda omega degree pad) data).length = data.length ∧
      byteErrors (found.foldl (applyError lambda omega degree pad) data) received ≤
        byteErrors data received + found.length := by
  induction found generalizing data with
  | nil => exact ⟨rfl, le_rfl⟩
  | cons root found ih =>
      obtain ⟨hlen, hcount⟩ := applyError_changes lambda omega degree pad data received root
      obtain ⟨hlens, hcounts⟩ := ih (applyError lambda omega degree pad data root)
      refine ⟨hlens.trans hlen, hcounts.trans ?_⟩
      rw [List.length_cons]
      omega

theorem degLambda_le (lambda : Bytes) : degLambda lambda ≤ rsParitys := by
  have hfold (indices : List Nat) (hindices : ∀ i ∈ indices, i ≤ rsParitys) (degree : Nat)
      (hdegree : degree ≤ rsParitys) :
      indices.foldl (fun degree i => if lambda.getD i rsA0 ≠ rsA0 then i else degree) degree ≤
        rsParitys := by
    induction indices generalizing degree with
    | nil => exact hdegree
    | cons i indices ih =>
        apply ih (fun j hj => hindices j (List.mem_cons_of_mem i hj))
        dsimp only
        split
        · exact hindices i List.mem_cons_self
        · exact hdegree
  exact hfold _ (fun i hi => Nat.le_of_lt_succ (List.mem_range.mp hi)) 0 (Nat.zero_le _)

/-- Whatever word is received: where the decoder accepts it, it keeps the length, changes no
more bytes than it counts, and counts no more than there are parity bytes. -/
theorem decodeRs8_changes {received word : Bytes} {count : Nat}
    (h : decodeRs8 received = some (word, count)) :
    word.length = received.length ∧ byteErrors word received ≤ count ∧ count ≤ rsParitys := by
  rw [decodeRs8] at h
  dsimp only at h
  split at h
  case isTrue => cases h
  split at h
  case isTrue =>
    obtain ⟨rfl, rfl⟩ := Prod.mk.inj (Option.some.inj h)
    exact ⟨rfl, (byteErrors_self received).le, Nat.zero_le _⟩
  split at h
  case isTrue => cases h
  case isFalse hdegree =>
    obtain ⟨rfl, rfl⟩ := Prod.mk.inj (Option.some.inj h)
    obtain ⟨hlen, hcount⟩ := applyErrors_changes _ _ _ _ received _ received
    rw [byteErrors_self, Nat.zero_add, List.length_reverse] at hcount
    exact ⟨hlen, hcount, (not_not.mp hdegree).symm.trans_le (degLambda_le _)⟩

/-- The word of the decoder differs from the received one in the byte that was wrong. -/
theorem decodeRs8_changes_example :
    ([1, 2, 3] ++ encodeRs8 [1, 2, 3]).length =
        (([1, 2, 3] ++ encodeRs8 [1, 2, 3]).set 4 0xff).length ∧
      byteErrors ([1, 2, 3] ++ encodeRs8 [1, 2, 3])
        (([1, 2, 3] ++ encodeRs8 [1, 2, 3]).set 4 0xff) ≤ 1 ∧
      1 ≤ rsParitys := by
  have hone : byteErrors (([1, 2, 3] ++ encodeRs8 [1, 2, 3]).set 4 0xff)
      ([1, 2, 3] ++ encodeRs8 [1, 2, 3]) = 1 := by decide +kernel
  apply decodeRs8_changes
  rw [← hone]
  exact decodeRs8_eq List.length_set (by decide +kernel) (by decide +kernel)
    (fun _ hi => wordValue_codeword hi [1, 2, 3]) (hone.trans_le (by decide))

end Skylink
