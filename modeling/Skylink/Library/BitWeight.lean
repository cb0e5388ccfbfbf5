import Skylink.Library.BinaryCode

/-!
# Weights of words

The weight of a word is the number of its bits that are set. In a code whose words other
than zero are heavy, an error of small weight is the only one with its syndrome.
-/

namespace BinaryCode

/-- The number of set bits below the bit `n`. -/
def weight : Nat → Nat → Nat
  | 0, _ => 0
  | n + 1, word => weight n word + (word.testBit n).toNat

theorem weight_zero (n : Nat) : weight n 0 = 0 := by
  induction n with
  | zero => rfl
  | succ n ih => rw [weight, ih, Nat.zero_testBit]; rfl

theorem weight_xor_le (n v word : Nat) :
    weight n (v ^^^ word) ≤ weight n v + weight n word := by
  induction n with
  | zero => exact Nat.le_refl 0
  | succ n ih =>
      rw [weight, weight, weight, Nat.testBit_xor]
      cases v.testBit n <;> cases word.testBit n <;> simp only [Bool.bne_false, Bool.bne_true,
        Bool.not_true, Bool.not_false, Bool.toNat_true, Bool.toNat_false] <;> omega

theorem weight_xor_mod_two (n v word : Nat) :
    weight n (v ^^^ word) % 2 = (weight n v + weight n word) % 2 := by
  induction n with
  | zero => rfl
  | succ n ih =>
      rw [weight, weight, weight, Nat.testBit_xor]
      cases v.testBit n <;> cases word.testBit n <;> simp only [Bool.bne_false, Bool.bne_true,
        Bool.not_true, Bool.not_false, Bool.toNat_true, Bool.toNat_false] <;> omega

/-- Bits that are not looked at do not count. -/
theorem weight_congr {n v word : Nat} (h : ∀ i < n, v.testBit i = word.testBit i) :
    weight n v = weight n word := by
  induction n with
  | zero => rfl
  | succ n ih =>
      rw [weight, weight, ih fun i hi => h i (Nat.lt_succ_of_lt hi), h n (Nat.lt_succ_self n)]

theorem weight_mod (n word : Nat) : weight n (word % 2 ^ n) = weight n word :=
  weight_congr fun i hi => by rw [Nat.testBit_mod_two_pow, decide_eq_true hi, Bool.true_and]

/-- The weight of the low and of the high part. -/
theorem weight_add (m n word : Nat) :
    weight (m + n) word = weight m word + weight n (word >>> m) := by
  induction n with
  | zero => rfl
  | succ n ih => rw [Nat.add_succ, weight, ih, weight, Nat.testBit_shiftRight, Nat.add_assoc]

theorem weight_eq_zero_iff {n word : Nat} (hword : word < 2 ^ n) :
    weight n word = 0 ↔ word = 0 := by
  refine ⟨fun h => ?_, fun h => by rw [h, weight_zero]⟩
  induction n generalizing word with
  | zero => exact Nat.lt_one_iff.mp hword
  | succ n ih =>
      rw [weight, Nat.add_eq_zero_iff] at h
      rcases lt_or_xor_lt hword with hlt | hlt
      · exact ih hlt h.1
      · have hbit : word.testBit n = true := by
          have hzero := Nat.testBit_lt_two_pow hlt
          rwa [Nat.testBit_xor, Nat.testBit_two_pow_self, Bool.true_xor,
            Bool.not_eq_false_eq_eq_true] at hzero
        rw [hbit] at h
        exact absurd h.2 Nat.one_ne_zero

/-- One bit is taken off. -/
theorem weight_xor_two_pow {n i word : Nat} (hi : i < n) (hbit : word.testBit i = true) :
    weight n (word ^^^ 2 ^ i) + 1 = weight n word := by
  induction n with
  | zero => exact absurd hi (Nat.not_lt_zero i)
  | succ n ih =>
      rw [weight, weight, Nat.testBit_xor, Nat.testBit_two_pow]
      rcases Nat.lt_succ_iff_lt_or_eq.mp hi with hlt | rfl
      · rw [decide_eq_false (Nat.ne_of_lt hlt), Bool.xor_false, Nat.add_right_comm, ih hlt]
      · have hsame : weight i (word ^^^ 2 ^ i) = weight i word :=
          weight_congr fun j hj => by
            rw [Nat.testBit_xor, Nat.testBit_two_pow_of_ne (Nat.ne_of_gt hj), Bool.xor_false]
        rw [hsame, hbit, decide_eq_true rfl]
        rfl

theorem exists_testBit {n word : Nat} (h : weight n word ≠ 0) :
    ∃ i < n, word.testBit i = true := by
  induction n with
  | zero => exact absurd rfl h
  | succ n ih =>
      cases hbit : word.testBit n with
      | true => exact ⟨n, Nat.lt_succ_self n, hbit⟩
      | false =>
          rw [weight, hbit] at h
          obtain ⟨i, hi, hset⟩ := ih h
          exact ⟨i, Nat.lt_succ_of_lt hi, hset⟩

/-- A word of weight one is a single bit. -/
theorem eq_two_pow_of_weight {n word : Nat} (hword : word < 2 ^ n) (h : weight n word = 1) :
    ∃ i < n, word = 2 ^ i := by
  obtain ⟨i, hi, hbit⟩ := exists_testBit (h.trans_ne Nat.one_ne_zero)
  refine ⟨i, hi, ?_⟩
  have hzero : weight n (word ^^^ 2 ^ i) = 0 := by
    have hone := weight_xor_two_pow hi hbit
    omega
  have hsum : word ^^^ 2 ^ i < 2 ^ n :=
    Nat.xor_lt_two_pow hword (Nat.pow_lt_pow_right (by decide) hi)
  exact Nat.xor_eq_zero_iff.mp ((weight_eq_zero_iff hsum).mp hzero)

/-! ## Linear maps -/

/-- Additive on the words of at most `n` bits. -/
def AdditiveBelow (n : Nat) (f : Nat → Nat) : Prop :=
  ∀ v < 2 ^ n, ∀ word < 2 ^ n, f (v ^^^ word) = f v ^^^ f word

theorem AdditiveBelow.zero {n : Nat} {f : Nat → Nat} (hf : AdditiveBelow n f) : f 0 = 0 := by
  have h := hf 0 (Nat.two_pow_pos n) 0 (Nat.two_pow_pos n)
  rwa [Nat.xor_self, Nat.xor_self] at h

/-- Additive maps are equal if they agree on the single bits. -/
theorem AdditiveBelow.ext {n : Nat} {f g : Nat → Nat} (hf : AdditiveBelow n f)
    (hg : AdditiveBelow n g) (h : ∀ i < n, f (2 ^ i) = g (2 ^ i)) {word : Nat}
    (hword : word < 2 ^ n) : f word = g word := by
  have hbits (m : Nat) (hm : m ≤ n) (word : Nat) (hword : word < 2 ^ m) : f word = g word := by
    induction m generalizing word with
    | zero => rw [Nat.lt_one_iff.mp hword, hf.zero, hg.zero]
    | succ m ih =>
        have hm' : m ≤ n := Nat.le_of_succ_le hm
        rcases lt_or_xor_lt hword with hlt | hlt
        · exact ih hm' word hlt
        · have hpow : 2 ^ m < 2 ^ n := Nat.pow_lt_pow_right (by decide) hm
          have hrest := hlt.trans_le (Nat.pow_le_pow_right (by decide) hm')
          calc f word
            _ = f (2 ^ m ^^^ (2 ^ m ^^^ word)) := by rw [Nat.xor_xor_cancel_left]
            _ = g (2 ^ m) ^^^ g (2 ^ m ^^^ word) := by rw [hf _ hpow _ hrest, h m hm, ih hm' _ hlt]
            _ = g word := by rw [← hg _ hpow _ hrest, Nat.xor_xor_cancel_left]
  exact hbits n (Nat.le_refl n) word hword

/-- Errors with one syndrome are equal if their weights do not add up to that of a word of
the code. -/
theorem AdditiveBelow.eq_of_syndrome_eq {n d : Nat} {f : Nat → Nat} (hf : AdditiveBelow n f)
    (hcode : ∀ word < 2 ^ n, f word = 0 → word = 0 ∨ d ≤ weight n word) {v word : Nat}
    (hv : v < 2 ^ n) (hword : word < 2 ^ n) (hsame : f v = f word)
    (hlight : weight n v + weight n word < d) : v = word := by
  have hzero : f (v ^^^ word) = 0 := by rw [hf v hv word hword, hsame, Nat.xor_self]
  rcases hcode _ (Nat.xor_lt_two_pow hv hword) hzero with heq | hheavy
  · exact Nat.xor_eq_zero_iff.mp heq
  · have hle := weight_xor_le n v word
    omega

end BinaryCode
