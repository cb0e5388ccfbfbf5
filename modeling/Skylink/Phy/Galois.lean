import Mathlib.Algebra.Field.MinimalAxioms
import Skylink.Phy.ReedSolomon

/-!
# The field of the Reed-Solomon code

The tables of the vendored library list the powers of a generator of the field with 256
elements and their logarithms. Multiplication through the tables is a field
multiplication because it repeats the one by the generator, which is a shift.
-/

namespace Skylink

/-! ## The tables -/

/-- `ALPHA_TO`. -/
def alphaTo (i : Nat) : UInt8 := ccsdsAlphaTo.getD i 0

/-- `INDEX_OF`. -/
def indexOf (b : UInt8) : UInt8 := ccsdsIndexOf.getD b.toNat 0

/-- The turns of the loop of `mod255`, at most the given number. -/
def mod255Loop : Nat → Nat → Nat
  | 0, x => x
  | turns + 1, x =>
      if 255 ≤ x then
        let x := x - 255
        mod255Loop turns ((x >>> 8) + (x &&& 255))
      else x

/-- `MODNN`. Every turn makes the number smaller. -/
def mod255 (x : Nat) : Nat := mod255Loop x x

theorem mod255Loop_eq {turns x : Nat} (h : x ≤ turns) : mod255Loop turns x = x % 255 := by
  induction turns generalizing x with
  | zero =>
      obtain rfl : x = 0 := by omega
      rfl
  | succ turns ih =>
      rw [mod255Loop]
      split_ifs with hlarge
      · have hmask (y : Nat) : y &&& 255 = y % 256 := Nat.and_two_pow_sub_one_eq_mod y 8
        dsimp only
        rw [Nat.shiftRight_eq_div_pow, hmask, ih (by omega)]
        omega
      · exact (Nat.mod_eq_of_lt (by omega)).symm

theorem mod255_eq (x : Nat) : mod255 x = x % 255 := mod255Loop_eq le_rfl

theorem mod255_lt (x : Nat) : mod255 x < 255 := by
  rw [mod255_eq]
  exact Nat.mod_lt x (by decide)

theorem alphaTo_indexOf (b : UInt8) : alphaTo (indexOf b).toNat = b := by
  have hall : ∀ n : Fin 256, alphaTo (indexOf (UInt8.ofNat n)).toNat = UInt8.ofNat n := by
    decide +kernel
  have h := hall ⟨b.toNat, UInt8.toNat_lt b⟩
  rwa [UInt8.ofNat_toNat] at h

theorem indexOf_alphaTo {i : Nat} (hi : i < 255) : (indexOf (alphaTo i)).toNat = i := by
  have hall : ∀ i : Fin 255, (indexOf (alphaTo i)).toNat = i := by decide +kernel
  exact hall ⟨i, hi⟩

/-- The index 255 stands for zero, and for nothing else. -/
theorem indexOf_eq_iff {b : UInt8} : indexOf b = 255 ↔ b = 0 := by
  constructor
  · intro h
    rw [← alphaTo_indexOf b, h]
    rfl
  · rintro rfl
    rfl

theorem alphaTo_ne_zero {i : Nat} (hi : i < 255) : alphaTo i ≠ 0 := by
  intro hzero
  have hindex := indexOf_alphaTo hi
  rw [indexOf_eq_iff.mpr hzero] at hindex
  exact hi.ne' hindex

theorem toNat_lt_of_ne {v : UInt8} (hv : v ≠ 255) : v.toNat < 255 := by
  have hlt := UInt8.toNat_lt v
  have hne : v.toNat ≠ 255 := fun h => hv (UInt8.toNat_inj.mp h)
  omega

/-! ## The field -/

/-- A byte as an element of the field. -/
structure GF256 where
  byte : UInt8
deriving DecidableEq

namespace GF256

theorem ext {a b : GF256} (h : a.byte = b.byte) : a = b := by
  cases a
  cases b
  exact congrArg mk h

/-- A power of the generator. -/
def exp (i : Nat) : GF256 := ⟨alphaTo (i % 255)⟩

/-- The logarithm. -/
def log (a : GF256) : Nat := (indexOf a.byte).toNat

instance : Zero GF256 := ⟨⟨0⟩⟩
instance : One GF256 := ⟨⟨1⟩⟩
instance : Add GF256 := ⟨fun a b => ⟨a.byte ^^^ b.byte⟩⟩
instance : Neg GF256 := ⟨fun a => a⟩
instance : Mul GF256 := ⟨fun a b => if a = 0 ∨ b = 0 then 0 else exp (a.log + b.log)⟩
instance : Inv GF256 := ⟨fun a => if a = 0 then 0 else exp (255 - a.log)⟩

@[simp] theorem byte_zero : (0 : GF256).byte = 0 := rfl
@[simp] theorem byte_one : (1 : GF256).byte = 1 := rfl
@[simp] theorem byte_add (a b : GF256) : (a + b).byte = a.byte ^^^ b.byte := rfl

theorem mul_def (a b : GF256) : a * b = if a = 0 ∨ b = 0 then 0 else exp (a.log + b.log) := rfl

theorem inv_def (a : GF256) : a⁻¹ = if a = 0 then 0 else exp (255 - a.log) := rfl

theorem exp_ne_zero (i : Nat) : exp i ≠ 0 := fun h =>
  alphaTo_ne_zero (Nat.mod_lt i (by decide)) (congrArg byte h)

theorem exp_congr {i j : Nat} (h : i % 255 = j % 255) : exp i = exp j := by
  rw [exp, exp, h]

theorem log_lt {a : GF256} (ha : a ≠ 0) : a.log < 255 :=
  toNat_lt_of_ne fun h => ha (ext (indexOf_eq_iff.mp h))

theorem exp_log {a : GF256} (ha : a ≠ 0) : exp a.log = a := by
  apply ext
  rw [exp, Nat.mod_eq_of_lt (log_lt ha)]
  exact alphaTo_indexOf a.byte

theorem log_exp (i : Nat) : (exp i).log = i % 255 := indexOf_alphaTo (Nat.mod_lt i (by decide))

theorem exp_mul_exp (i j : Nat) : exp i * exp j = exp (i + j) := by
  rw [mul_def, if_neg (by simp [exp_ne_zero]), log_exp, log_exp]
  exact exp_congr (by omega)

theorem zero_mul' (a : GF256) : 0 * a = 0 := by rw [mul_def, if_pos (.inl rfl)]

theorem mul_zero' (a : GF256) : a * 0 = 0 := by rw [mul_def, if_pos (.inr rfl)]

/-- A nonzero element is a power. -/
theorem eq_zero_or_exp (a : GF256) : a = 0 ∨ ∃ i, a = exp i := by
  by_cases ha : a = 0
  · exact .inl ha
  · exact .inr ⟨a.log, (exp_log ha).symm⟩

/-- Multiplication by the generator, a shift modulo the field polynomial. -/
def timesAlpha (b : UInt8) : UInt8 := if b.toBitVec.msb then (b <<< 1) ^^^ 0x87 else b <<< 1

theorem timesAlpha_xor (a b : UInt8) :
    timesAlpha (a ^^^ b) = timesAlpha a ^^^ timesAlpha b := by
  have hshift : (a ^^^ b) <<< 1 = (a <<< 1) ^^^ (b <<< 1) := by
    apply UInt8.eq_of_toBitVec_eq
    simp [BitVec.shiftLeft_xor_distrib]
  have hmsb : (a ^^^ b).toBitVec.msb = (a.toBitVec.msb ^^ b.toBitVec.msb) := by
    rw [UInt8.toBitVec_xor, BitVec.msb_xor]
  have hswap (x y z : UInt8) : x ^^^ y ^^^ z = x ^^^ z ^^^ y := by
    rw [UInt8.xor_assoc, UInt8.xor_comm y, ← UInt8.xor_assoc]
  have hcancel (x y z : UInt8) : x ^^^ z ^^^ (y ^^^ z) = x ^^^ y := by
    rw [hswap, ← UInt8.xor_assoc, UInt8.xor_assoc _ z z, UInt8.xor_self, UInt8.xor_zero]
  rw [timesAlpha, timesAlpha, timesAlpha, hshift, hmsb]
  cases a.toBitVec.msb <;> cases b.toBitVec.msb
  · rfl
  · exact UInt8.xor_assoc _ _ _
  · exact hswap _ _ _
  · exact (hcancel _ _ _).symm

theorem timesAlpha_iterate_xor (i : Nat) (a b : UInt8) :
    timesAlpha^[i] (a ^^^ b) = timesAlpha^[i] a ^^^ timesAlpha^[i] b := by
  induction i generalizing a b with
  | zero => rfl
  | succ i ih =>
      rw [Function.iterate_succ_apply, Function.iterate_succ_apply, Function.iterate_succ_apply,
        timesAlpha_xor, ih]

theorem timesAlpha_byte_exp (i : Nat) : timesAlpha (exp i).byte = (exp (i + 1)).byte := by
  have hall : ∀ i : Fin 255, timesAlpha (alphaTo i) = alphaTo ((i + 1) % 255) := by decide +kernel
  rw [exp, exp, hall ⟨i % 255, Nat.mod_lt i (by decide)⟩]
  exact congrArg alphaTo (by simp)

/-- Multiplication by a power repeats the one by the generator. -/
theorem byte_exp_mul (i : Nat) (a : GF256) : (exp i * a).byte = timesAlpha^[i] a.byte := by
  obtain rfl | ⟨j, rfl⟩ := a.eq_zero_or_exp
  · rw [mul_zero', byte_zero]
    induction i with
    | zero => rfl
    | succ i ih => exact ih
  · rw [exp_mul_exp]
    induction i with
    | zero => rw [Nat.zero_add, Function.iterate_zero, id_eq]
    | succ i ih =>
        rw [Function.iterate_succ_apply', ← ih, timesAlpha_byte_exp, Nat.add_right_comm]

theorem left_distrib' (a b c : GF256) : a * (b + c) = a * b + a * c := by
  obtain rfl | ⟨i, rfl⟩ := a.eq_zero_or_exp
  · rw [zero_mul', zero_mul', zero_mul']
    rfl
  · apply ext
    rw [byte_exp_mul, byte_add, timesAlpha_iterate_xor, byte_add, byte_exp_mul, byte_exp_mul]

theorem mul_comm' (a b : GF256) : a * b = b * a := by
  simp only [mul_def, or_comm, Nat.add_comm]

theorem mul_assoc' (a b c : GF256) : a * b * c = a * (b * c) := by
  obtain rfl | ⟨i, rfl⟩ := a.eq_zero_or_exp
  · rw [zero_mul', zero_mul', zero_mul']
  obtain rfl | ⟨j, rfl⟩ := b.eq_zero_or_exp
  · rw [mul_zero', zero_mul', mul_zero']
  obtain rfl | ⟨k, rfl⟩ := c.eq_zero_or_exp
  · rw [mul_zero', mul_zero', mul_zero']
  · rw [exp_mul_exp, exp_mul_exp, exp_mul_exp, exp_mul_exp, Nat.add_assoc]

theorem exp_zero : exp 0 = 1 := rfl

theorem mul_inv_cancel' (a : GF256) (ha : a ≠ 0) : a * a⁻¹ = 1 := by
  have hlt := log_lt ha
  have hsum : a.log + (255 - a.log) = 255 := by omega
  calc a * a⁻¹
    _ = exp a.log * exp (255 - a.log) := by rw [inv_def, if_neg ha, exp_log ha]
    _ = exp 255 := by rw [exp_mul_exp, hsum]
    _ = 1 := rfl

instance : Field GF256 :=
  Field.ofMinimalAxioms GF256
    (fun a b c => ext (UInt8.xor_assoc a.byte b.byte c.byte))
    (fun a => ext (UInt8.zero_xor (a := a.byte)))
    (fun a => ext (UInt8.xor_self (a := a.byte)))
    mul_assoc' mul_comm'
    (fun a => by
      obtain rfl | ⟨i, rfl⟩ := a.eq_zero_or_exp
      · exact mul_zero' 1
      · rw [← exp_zero, exp_mul_exp, Nat.zero_add])
    mul_inv_cancel' (if_pos rfl) left_distrib' ⟨0, 1, by decide⟩

theorem neg_eq (a : GF256) : -a = a := rfl

theorem add_self (a : GF256) : a + a = 0 := ext (UInt8.xor_self (a := a.byte))

theorem sub_eq_add (a b : GF256) : a - b = a + b := by rw [sub_eq_add_neg, neg_eq]

/-- The generator. -/
def alpha : GF256 := ⟨2⟩

theorem exp_eq_pow (i : Nat) : exp i = alpha ^ i := by
  induction i with
  | zero => rfl
  | succ i ih =>
      have hone : alpha = exp 1 := by decide +kernel
      rw [pow_succ, ← ih, hone, exp_mul_exp]

theorem alpha_ne_zero : alpha ≠ 0 := by decide

theorem alpha_pow_eq_iff {i j : Nat} : alpha ^ i = alpha ^ j ↔ i % 255 = j % 255 := by
  rw [← exp_eq_pow, ← exp_eq_pow]
  refine ⟨fun h => ?_, exp_congr⟩
  rw [← log_exp, h, log_exp]

/-- What the library writes for a product with a power, if the other factor is given by its
index. -/
def ofIndex (v : UInt8) : GF256 := ⟨alphaTo v.toNat⟩

theorem ofIndex_indexOf (b : UInt8) : ofIndex (indexOf b) = ⟨b⟩ := ext (alphaTo_indexOf b)

theorem ofIndex_a0 : ofIndex 255 = 0 := rfl

theorem ofIndex_of_ne {v : UInt8} (hv : v ≠ 255) : ofIndex v = alpha ^ v.toNat := by
  rw [← exp_eq_pow, exp, Nat.mod_eq_of_lt (toNat_lt_of_ne hv), ofIndex]

theorem ofIndex_eq_zero_iff {v : UInt8} : ofIndex v = 0 ↔ v = 255 := by
  refine ⟨fun h => by_contra fun hv => ?_, fun h => by rw [h, ofIndex_a0]⟩
  rw [ofIndex_of_ne hv] at h
  exact pow_ne_zero _ alpha_ne_zero h

theorem alphaTo_mod255 (n : Nat) : (⟨alphaTo (mod255 n)⟩ : GF256) = alpha ^ n := by
  rw [← exp_eq_pow, exp, mod255_eq]

end GF256

end Skylink
