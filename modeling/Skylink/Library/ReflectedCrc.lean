import Mathlib.Data.Nat.Bitwise
import Mathlib.Logic.Function.Iterate

/-!
# Reflected cyclic redundancy checks

The register takes the bits of the data one after the other, the least significant bit of
a number first. The polynomial is written in the same order, its leading term left out.
-/

namespace ReflectedCrc

variable {w : Nat} (poly : BitVec w)

/-- The register moves down by one bit. -/
def shift (reg : BitVec w) : BitVec w :=
  if reg.getLsbD 0 then (reg >>> 1) ^^^ poly else reg >>> 1

/-- A bit of the data is added to the lowest bit of the register. -/
def step (reg : BitVec w) (b : Bool) : BitVec w := shift poly (reg ^^^ BitVec.ofNat w b.toNat)

def feed (reg : BitVec w) (bits : List Bool) : BitVec w := bits.foldl (step poly) reg

/-- The `n` lowest bits of a number, the least significant bit first. -/
def lsbFirst : Nat → Nat → List Bool
  | 0, _ => []
  | n + 1, x => x.testBit 0 :: lsbFirst n (x / 2)

@[simp] theorem lsbFirst_length (n x : Nat) : (lsbFirst n x).length = n := by
  induction n generalizing x with
  | zero => rfl
  | succ n ih => rw [lsbFirst, List.length_cons, ih]

theorem lsbFirst_add (m n x : Nat) :
    lsbFirst (m + n) x = lsbFirst m x ++ lsbFirst n (x >>> m) := by
  induction m generalizing x with
  | zero => rw [Nat.zero_add]; rfl
  | succ m ih =>
      rw [Nat.succ_add, lsbFirst, ih, lsbFirst, List.cons_append, Nat.shiftRight_succ_inside]

theorem lsbFirst_eq_zero {n x : Nat} (h : ∀ i < n, x.testBit i = false) :
    lsbFirst n x = List.replicate n false := by
  induction n generalizing x with
  | zero => rfl
  | succ n ih =>
      rw [lsbFirst, h 0 n.succ_pos, ih fun i hi => ?_, List.replicate_succ]
      rw [Nat.testBit_div_two]
      exact h (i + 1) (Nat.succ_lt_succ hi)

/-- The bits beyond the lowest `n` do not matter. -/
theorem lsbFirst_mod (n x : Nat) : lsbFirst n (x % 2 ^ n) = lsbFirst n x := by
  induction n generalizing x with
  | zero => rfl
  | succ n ih =>
      rw [lsbFirst, Nat.pow_succ', Nat.mod_mul_right_div_self, ih, Nat.testBit_zero,
        Nat.mod_mul_right_mod, ← Nat.testBit_zero]
      rfl

theorem lsbFirst_xor (n x y : Nat) :
    lsbFirst n (x ^^^ y) = List.zipWith xor (lsbFirst n x) (lsbFirst n y) := by
  induction n generalizing x y with
  | zero => rfl
  | succ n ih =>
      have hhalf : (x ^^^ y) / 2 = x / 2 ^^^ y / 2 := by
        rw [← Nat.shiftRight_one, ← Nat.shiftRight_one, ← Nat.shiftRight_one,
          Nat.shiftRight_xor_distrib]
      rw [lsbFirst, hhalf, ih, Nat.testBit_xor]
      rfl

/-! ## Linearity -/

theorem shift_zero : shift poly 0#w = 0#w := by
  rw [shift, BitVec.getLsbD_zero]
  exact BitVec.zero_ushiftRight

theorem shift_xor (x y : BitVec w) : shift poly (x ^^^ y) = shift poly x ^^^ shift poly y := by
  rw [shift, shift, shift, BitVec.getLsbD_xor, BitVec.ushiftRight_xor_distrib]
  cases x.getLsbD 0 <;> cases y.getLsbD 0
  · rfl
  · exact BitVec.xor_assoc _ _ _
  · exact (BitVec.xor_assoc _ _ _).trans ((congrArg _ (BitVec.xor_comm _ _)).trans
      (BitVec.xor_assoc _ _ _).symm)
  · have hcancel : (x >>> 1 ^^^ poly) ^^^ (y >>> 1 ^^^ poly) = x >>> 1 ^^^ y >>> 1 := by
      rw [BitVec.xor_assoc, BitVec.xor_comm (y >>> 1), ← BitVec.xor_assoc poly, BitVec.xor_self,
        BitVec.zero_xor]
    exact hcancel.symm

theorem iterate_shift_xor (n : Nat) (x y : BitVec w) :
    (shift poly)^[n] (x ^^^ y) = (shift poly)^[n] x ^^^ (shift poly)^[n] y := by
  induction n generalizing x y with
  | zero => rfl
  | succ n ih => rw [Function.iterate_succ_apply, shift_xor, ih]; rfl

theorem step_xor (x y : BitVec w) (b c : Bool) :
    step poly (x ^^^ y) (b ^^ c) = step poly x b ^^^ step poly y c := by
  have hbit : BitVec.ofNat w (b ^^ c).toNat =
      BitVec.ofNat w b.toNat ^^^ BitVec.ofNat w c.toNat := by
    cases b <;> cases c <;> simp
  rw [step, hbit, step, step, ← shift_xor]
  congr 1
  rw [BitVec.xor_assoc, BitVec.xor_assoc, ← BitVec.xor_assoc y, BitVec.xor_comm y,
    BitVec.xor_assoc]

/-- The register of a sum of two messages is the sum of their registers. -/
theorem feed_xor {bs cs : List Bool} (h : bs.length = cs.length) (x y : BitVec w) :
    feed poly (x ^^^ y) (List.zipWith xor bs cs) = feed poly x bs ^^^ feed poly y cs := by
  induction bs generalizing cs x y with
  | nil =>
      rw [List.length_nil, eq_comm, List.length_eq_zero_iff] at h
      rw [h]
      rfl
  | cons b bs ih =>
      cases cs with
      | nil => cases h
      | cons c cs =>
          rw [List.zipWith_cons_cons, feed, List.foldl_cons, step_xor]
          exact ih (Nat.succ.inj h) _ _

theorem feed_append (reg : BitVec w) (bs cs : List Bool) :
    feed poly reg (bs ++ cs) = feed poly (feed poly reg bs) cs := List.foldl_append

theorem feed_zeros (n : Nat) (reg : BitVec w) :
    feed poly reg (List.replicate n false) = (shift poly)^[n] reg := by
  induction n generalizing reg with
  | zero => rfl
  | succ n ih =>
      have hstep : step poly reg false = shift poly reg := congrArg _ BitVec.xor_zero
      rw [List.replicate_succ, feed, List.foldl_cons, hstep, Function.iterate_succ_apply]
      exact ih _

theorem iterate_shift_zero (n : Nat) : (shift poly)^[n] 0#w = 0#w :=
  Function.iterate_fixed (shift_zero poly) n

/-! ## Several bits at once -/

theorem mul_div_xor_mod (n x : Nat) : 2 ^ n * (x / 2 ^ n) ^^^ x % 2 ^ n = x := by
  apply Nat.eq_of_testBit_eq
  intro i
  rw [Nat.testBit_xor, Nat.testBit_two_pow_mul, Nat.testBit_mod_two_pow, Nat.testBit_div_two_pow]
  by_cases h : n ≤ i
  · simp [h, Nat.not_lt.mpr h]
  · simp [h, Nat.lt_of_not_le h]

/-- As long as only zeros leave the register, it just moves down. -/
theorem iterate_shift_ofNat_mul {n x : Nat} (h : 2 ^ n * x < 2 ^ w) :
    (shift poly)^[n] (BitVec.ofNat w (2 ^ n * x)) = BitVec.ofNat w x := by
  induction n with
  | zero => rw [Nat.pow_zero, Nat.one_mul]; rfl
  | succ n ih =>
      have hdouble : 2 ^ (n + 1) * x = 2 * (2 ^ n * x) := by rw [Nat.pow_succ', Nat.mul_assoc]
      rw [hdouble] at h ⊢
      have hlow : (BitVec.ofNat w (2 * (2 ^ n * x))).getLsbD 0 = false := by
        rw [BitVec.getLsbD_ofNat, Nat.testBit_zero, Nat.mul_mod_right]
        simp
      have hshift : shift poly (BitVec.ofNat w (2 * (2 ^ n * x))) = BitVec.ofNat w (2 ^ n * x) := by
        rw [shift, hlow]
        apply BitVec.eq_of_toNat_eq
        simp only [Bool.false_eq_true, if_false, BitVec.toNat_ushiftRight, BitVec.toNat_ofNat,
          Nat.shiftRight_one]
        rw [Nat.mod_eq_of_lt h, Nat.mul_div_cancel_left _ (by decide), Nat.mod_eq_of_lt (by omega)]
      rw [Function.iterate_succ_apply, hshift, ih (by omega)]

/-- Up to `w` bits of the data can be added before the register moves. -/
theorem feed_lsbFirst {n : Nat} (hn : n ≤ w) (reg : BitVec w) (x : Nat) :
    feed poly reg (lsbFirst n x) = (shift poly)^[n] (reg ^^^ BitVec.ofNat w (x % 2 ^ n)) := by
  induction n generalizing reg x with
  | zero => rw [Nat.pow_zero, Nat.mod_one]; exact BitVec.xor_zero.symm
  | succ n ih =>
      have hlt : 2 ^ 1 * (x / 2 % 2 ^ n) < 2 ^ w := by
        have hhalf := Nat.mod_lt (x / 2) (Nat.two_pow_pos n)
        have hpow : 2 ^ (n + 1) ≤ 2 ^ w := Nat.pow_le_pow_right (by decide) hn
        rw [Nat.pow_succ] at hpow
        omega
      have hsplit : BitVec.ofNat w (x % 2 ^ (n + 1)) =
          BitVec.ofNat w (x.testBit 0).toNat ^^^ BitVec.ofNat w (2 ^ 1 * (x / 2 % 2 ^ n)) := by
        have hbit : x % 2 ^ (n + 1) % 2 ^ 1 = (x.testBit 0).toNat := by
          rw [Nat.pow_succ', Nat.pow_one, Nat.mod_mul_right_mod, Nat.testBit_zero]
          rcases Nat.mod_two_eq_zero_or_one x with h | h <;> rw [h] <;> rfl
        have hrest : x % 2 ^ (n + 1) / 2 ^ 1 = x / 2 % 2 ^ n := by
          rw [Nat.pow_succ', Nat.pow_one, Nat.mod_mul_right_div_self]
        rw [← BitVec.ofNat_xor, Nat.xor_comm, ← hbit, ← hrest, mul_div_xor_mod]
      have hshift : shift poly (BitVec.ofNat w (2 ^ 1 * (x / 2 % 2 ^ n))) =
          BitVec.ofNat w (x / 2 % 2 ^ n) := iterate_shift_ofNat_mul poly hlt
      calc feed poly reg (lsbFirst (n + 1) x)
        _ = feed poly (step poly reg (x.testBit 0)) (lsbFirst n (x / 2)) := rfl
        _ = (shift poly)^[n] (shift poly (reg ^^^ BitVec.ofNat w (x.testBit 0).toNat) ^^^
              BitVec.ofNat w (x / 2 % 2 ^ n)) := by
          rw [ih (by omega), step]
        _ = (shift poly)^[n] (shift poly (reg ^^^ BitVec.ofNat w (x % 2 ^ (n + 1)))) := by
          rw [hsplit, ← BitVec.xor_assoc, shift_xor poly (reg ^^^ _), hshift]
        _ = (shift poly)^[n + 1] (reg ^^^ BitVec.ofNat w (x % 2 ^ (n + 1))) :=
          (Function.iterate_succ_apply _ _ _).symm

/-- What leaves the register in `n` moves is told by its `n` lowest bits. -/
theorem iterate_shift_eq (n : Nat) (x : BitVec w) :
    (shift poly)^[n] x =
      x >>> n ^^^ (shift poly)^[n] (BitVec.ofNat w (x.toNat % 2 ^ n)) := by
  have hmul : 2 ^ n * (x.toNat / 2 ^ n) < 2 ^ w :=
    lt_of_le_of_lt (Nat.mul_div_le _ _) x.isLt
  have hsplit : x =
      BitVec.ofNat w (2 ^ n * (x.toNat / 2 ^ n)) ^^^ BitVec.ofNat w (x.toNat % 2 ^ n) := by
    rw [← BitVec.ofNat_xor, mul_div_xor_mod, BitVec.ofNat_toNat, BitVec.setWidth_eq]
  have hhigh : BitVec.ofNat w (x.toNat / 2 ^ n) = x >>> n := by
    apply BitVec.eq_of_toNat_eq
    rw [BitVec.toNat_ofNat, BitVec.toNat_ushiftRight, Nat.shiftRight_eq_div_pow,
      Nat.mod_eq_of_lt (lt_of_le_of_lt (Nat.div_le_self _ _) x.isLt)]
  conv_lhs => rw [hsplit]
  rw [iterate_shift_xor, iterate_shift_ofNat_mul poly hmul, hhigh]

/-! ## Bursts -/

/-- A polynomial with a constant term takes no register to zero but zero. -/
theorem shift_eq_zero (hpoly : poly.msb = true) {x : BitVec w} (h : shift poly x = 0#w) :
    x = 0#w := by
  have hlow : x.getLsbD 0 = false := by
    by_contra hbit
    have htop : (shift poly x).msb = true := by
      rw [shift, if_pos (Bool.not_eq_false _ ▸ hbit), BitVec.msb_xor, hpoly,
        BitVec.msb_ushiftRight]
      rfl
    rw [h, BitVec.msb_zero] at htop
    cases htop
  rw [shift, hlow] at h
  apply BitVec.eq_of_getLsbD_eq
  intro i hi
  cases i with
  | zero => rw [hlow, BitVec.getLsbD_zero]
  | succ i =>
      have hbit := congrArg (fun reg => reg.getLsbD i) h
      simpa [Nat.add_comm] using hbit

theorem iterate_shift_eq_zero (hpoly : poly.msb = true) {n : Nat} {x : BitVec w}
    (h : (shift poly)^[n] x = 0#w) : x = 0#w := by
  induction n generalizing x with
  | zero => exact h
  | succ n ih => exact shift_eq_zero poly hpoly (ih h)

/-- Zeros before the data leave a register of zeros as it is. -/
theorem feed_zero_shiftLeft {m n x : Nat} :
    feed poly 0#w (lsbFirst (m + n) (x <<< m)) = feed poly 0#w (lsbFirst n x) := by
  have hzeros : ∀ i < m, (x <<< m).testBit i = false := fun i hi => by
    rw [Nat.testBit_shiftLeft, decide_eq_false (Nat.not_le.mpr hi), Bool.false_and]
  rw [lsbFirst_add, feed_append, lsbFirst_eq_zero hzeros, feed_zeros, iterate_shift_zero,
    Nat.shiftLeft_shiftRight]

/-- A burst of at most `w` bits that ends within the data leaves a register that is not zero. -/
theorem feed_burst_ne_zero (hpoly : poly.msb = true) {n x s : Nat} (hx : x ≠ 0) (hw : x < 2 ^ w)
    (hn : x <<< s < 2 ^ n) : feed poly 0#w (lsbFirst n (x <<< s)) ≠ 0#w := by
  rw [Nat.shiftLeft_eq] at hn
  have hs : s < n := by
    refine (Nat.pow_lt_pow_iff_right Nat.one_lt_two).mp (lt_of_le_of_lt ?_ hn)
    exact Nat.le_mul_of_pos_left _ (Nat.pos_of_ne_zero hx)
  obtain ⟨k, rfl⟩ := Nat.exists_eq_add_of_le hs.le
  have hk : x < 2 ^ k := by
    rw [Nat.pow_add, Nat.mul_comm] at hn
    exact Nat.lt_of_mul_lt_mul_left hn
  -- The bits of the burst, and the zeros after it.
  obtain ⟨m, l, hsum, hm, hlt⟩ : ∃ m l, k = m + l ∧ m ≤ w ∧ x < 2 ^ m := by
    rcases Nat.le_total k w with h | h
    · exact ⟨k, 0, rfl, h, hk⟩
    · exact ⟨w, k - w, (Nat.add_sub_of_le h).symm, le_rfl, hw⟩
  have hrest : x >>> m = 0 := by rw [Nat.shiftRight_eq_div_pow, Nat.div_eq_of_lt hlt]
  have hfeed : feed poly 0#w (lsbFirst (s + k) (x <<< s)) =
      (shift poly)^[l] ((shift poly)^[m] (BitVec.ofNat w x)) := by
    calc feed poly 0#w (lsbFirst (s + k) (x <<< s))
      _ = feed poly 0#w (lsbFirst (m + l) x) := by rw [feed_zero_shiftLeft, hsum]
      _ = feed poly (feed poly 0#w (lsbFirst m x)) (List.replicate l false) := by
        rw [lsbFirst_add, feed_append, hrest, lsbFirst_eq_zero fun i _ => Nat.zero_testBit i]
      _ = (shift poly)^[l] ((shift poly)^[m] (BitVec.ofNat w x)) := by
        rw [feed_zeros, feed_lsbFirst poly hm, Nat.mod_eq_of_lt hlt, BitVec.zero_xor]
  rw [hfeed]
  intro hzero
  have hnat := congrArg BitVec.toNat
    (iterate_shift_eq_zero poly hpoly (iterate_shift_eq_zero poly hpoly hzero))
  rw [BitVec.toNat_ofNat, Nat.mod_eq_of_lt hw, BitVec.toNat_ofNat, Nat.zero_mod] at hnat
  exact hx hnat

end ReflectedCrc
