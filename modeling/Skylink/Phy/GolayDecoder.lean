import Skylink.Library.BitWeight
import Skylink.Phy.Golay

/-!
# What the Golay decoder corrects

Two codewords differ in at least eight bits. The decoder finds every error of at most
three bits, and reports every other word that is not that close to a codeword.
-/

namespace Skylink

open BinaryCode

/-! ## Counting bits -/

/-- The groups of the low and of the high part do not meet. -/
theorem addGroups_split {k shift a b c d : Nat} (hshift : shift ≤ k) (hb : b < 2 ^ k)
    (hd : d < 2 ^ (k - shift)) :
    addGroups (2 ^ k * a + b) shift (2 ^ k * c + d) =
      2 ^ k * addGroups a shift c + addGroups b shift d := by
  have hlow : d < 2 ^ k := hd.trans_le (Nat.pow_le_pow_right (by decide) (Nat.sub_le k shift))
  have hland {x y z : Nat} (hy : y &&& d < 2 ^ k) (h : ∀ i, x.testBit i =
      if i < k then (y &&& d).testBit i else (z &&& c).testBit (i - k)) :
      x = 2 ^ k * (z &&& c) + (y &&& d) := by
    apply Nat.eq_of_testBit_eq
    intro i
    rw [h i, Nat.testBit_two_pow_mul_add _ hy]
  have hplain : (2 ^ k * a + b) &&& (2 ^ k * c + d) = 2 ^ k * (a &&& c) + (b &&& d) := by
    apply hland (Nat.and_le_left.trans_lt hb)
    intro i
    rw [Nat.testBit_and, Nat.testBit_two_pow_mul_add _ hb, Nat.testBit_two_pow_mul_add _ hlow,
      Nat.testBit_and, Nat.testBit_and]
    split <;> rfl
  have hshifted : (2 ^ k * a + b) >>> shift &&& (2 ^ k * c + d) =
      2 ^ k * (a >>> shift &&& c) + (b >>> shift &&& d) := by
    apply hland (Nat.and_le_right.trans_lt hlow)
    intro i
    rw [Nat.testBit_and, Nat.testBit_shiftRight, Nat.testBit_two_pow_mul_add _ hb,
      Nat.testBit_two_pow_mul_add _ hlow, Nat.testBit_and, Nat.testBit_and,
      Nat.testBit_shiftRight, Nat.testBit_shiftRight]
    by_cases hi : i < k
    · rw [if_pos hi, if_pos hi]
      by_cases hsmall : shift + i < k
      · rw [if_pos hsmall]
      · have hclear : d.testBit i = false := Nat.testBit_lt_two_pow
          (hd.trans_le (Nat.pow_le_pow_right (by decide) (by omega)))
        rw [hclear, Bool.and_false, Bool.and_false]
    · have hindex : shift + i - k = shift + (i - k) := by omega
      rw [if_neg hi, if_neg hi, if_neg (by omega), hindex]
  rw [addGroups, hplain, hshifted, addGroups, addGroups, Nat.mul_add, Nat.add_add_add_comm]

/-- The number of set bits of a byte. -/
def bytePopcount (b : Nat) : Nat :=
  addGroups (addGroups (addGroups b 1 0x55) 2 0x33) 4 0x0f

theorem addGroups_bytes {b₀ b₁ b₂ shift m m₂ : Nat} (hshift : shift ≤ 8) (h₀ : b₀ < 256)
    (h₁ : b₁ < 256) (hm : m < 2 ^ (8 - shift))
    (hwide : addGroups b₂ shift m₂ = addGroups b₂ shift m) :
    addGroups (256 * (256 * b₂ + b₁) + b₀) shift (256 * (256 * m₂ + m) + m) =
      256 * (256 * addGroups b₂ shift m + addGroups b₁ shift m) + addGroups b₀ shift m := by
  have hlow := addGroups_split (k := 8) (a := 256 * b₂ + b₁) (c := 256 * m₂ + m) hshift h₀ hm
  have hhigh := addGroups_split (k := 8) (a := b₂) (c := m₂) hshift h₁ hm
  rw [hwide] at hhigh
  exact hlow.trans (congrArg (fun n => 256 * n + addGroups b₀ shift m) hhigh)

/-- The counts of three bytes are added. -/
theorem addGroups_counts {y₀ y₁ y₂ : Nat} (h₀ : y₀ ≤ 30) (h₁ : y₁ ≤ 30) (h₂ : y₂ ≤ 30) :
    addGroups (addGroups (256 * (256 * y₂ + y₁) + y₀) 8 0x00ff00ff) 16 0x0000ffff =
      y₀ + y₁ + y₂ := by
  have hmask (x k : Nat) : x &&& (2 ^ k - 1) = x % 2 ^ k := Nat.and_two_pow_sub_one_eq_mod x k
  have hmask₈ (x : Nat) : x &&& 0xff = x % 2 ^ 8 := hmask x 8
  have hmask₁₆ (x : Nat) : x &&& 0xffff = x % 2 ^ 16 := hmask x 16
  have hsplit : addGroups (256 * (256 * y₂ + y₁) + y₀) 8 0x00ff00ff =
      2 ^ 16 * addGroups y₂ 8 0xff + addGroups (256 * y₁ + y₀) 8 0xff := by
    have hword : 256 * (256 * y₂ + y₁) + y₀ = 2 ^ 16 * y₂ + (256 * y₁ + y₀) := by omega
    rw [hword]
    exact @addGroups_split 16 8 y₂ (256 * y₁ + y₀) 0xff 0xff (by decide) (by omega) (by decide)
  rw [hsplit, addGroups, addGroups, addGroups]
  simp only [hmask₈, hmask₁₆, Nat.shiftRight_eq_div_pow]
  omega

theorem popcount_bytes {b₀ b₁ b₂ : Nat} (h₀ : b₀ < 256) (h₁ : b₁ < 256) (h₂ : b₂ < 256) :
    popcount (256 * (256 * b₂ + b₁) + b₀) =
      bytePopcount b₀ + bytePopcount b₁ + bytePopcount b₂ := by
  have hpairs : ∀ b : Fin 256, addGroups b 1 0x55 < 256 ∧
      addGroups b 1 0x5555 = addGroups b 1 0x55 := by decide +kernel
  have hnibbles : ∀ b : Fin 256, addGroups b 2 0x33 < 256 ∧
      addGroups b 2 0x3333 = addGroups b 2 0x33 := by decide +kernel
  have hbytes : ∀ b : Fin 256, addGroups b 4 0x0f ≤ 30 ∧
      addGroups b 4 0x0f0f = addGroups b 4 0x0f := by decide +kernel
  obtain ⟨hp₀, -⟩ := hpairs ⟨b₀, h₀⟩
  obtain ⟨hp₁, -⟩ := hpairs ⟨b₁, h₁⟩
  obtain ⟨hp₂, hp⟩ := hpairs ⟨b₂, h₂⟩
  obtain ⟨hn₀, -⟩ := hnibbles ⟨_, hp₀⟩
  obtain ⟨hn₁, -⟩ := hnibbles ⟨_, hp₁⟩
  obtain ⟨hn₂, hn⟩ := hnibbles ⟨_, hp₂⟩
  obtain ⟨hy₀, -⟩ := hbytes ⟨_, hn₀⟩
  obtain ⟨hy₁, -⟩ := hbytes ⟨_, hn₁⟩
  obtain ⟨hy₂, hy⟩ := hbytes ⟨_, hn₂⟩
  have hpair := @addGroups_bytes b₀ b₁ b₂ 1 0x55 0x5555 (by decide) h₀ h₁ (by decide) hp
  have hnibble := @addGroups_bytes _ _ _ 2 0x33 0x3333 (by decide) hp₀ hp₁ (by decide) hn
  have hbyte := @addGroups_bytes _ _ _ 4 0x0f 0x0f0f (by decide) hn₀ hn₁ (by decide) hy
  have hcounts := addGroups_counts hy₀ hy₁ hy₂
  rw [← hbyte, ← hnibble, ← hpair] at hcounts
  exact hcounts

theorem popcount_eq_weight {x : Nat} (hx : x < 2 ^ 24) : popcount x = weight 24 x := by
  have hbyte : ∀ b : Fin 256, bytePopcount b = weight 8 b := by decide +kernel
  have hword : x = 256 * (256 * (x >>> 16) + x >>> 8 % 2 ^ 8) + x % 2 ^ 8 := by
    simp only [Nat.shiftRight_eq_div_pow]
    omega
  have hlow : x % 2 ^ 8 < 256 := Nat.mod_lt _ (Nat.two_pow_pos 8)
  have hmiddle : x >>> 8 % 2 ^ 8 < 256 := Nat.mod_lt _ (Nat.two_pow_pos 8)
  have hhigh : x >>> 16 < 256 := by
    rw [Nat.shiftRight_eq_div_pow]
    omega
  calc popcount x
    _ = bytePopcount (x % 2 ^ 8) + bytePopcount (x >>> 8 % 2 ^ 8) + bytePopcount (x >>> 16) := by
      rw [← popcount_bytes hlow hmiddle hhigh, ← hword]
    _ = weight 8 x + weight 8 (x >>> 8) + weight 8 (x >>> 16) := by
      rw [hbyte ⟨_, hlow⟩, hbyte ⟨_, hmiddle⟩, hbyte ⟨_, hhigh⟩, weight_mod, weight_mod]
    _ = weight 24 x := by
      rw [weight_add 8 16, weight_add 8 8, ← Nat.shiftRight_add, Nat.add_assoc]

/-! ## Linearity -/

theorem parity_xor {a b : Nat} (ha : a < 2 ^ 24) (hb : b < 2 ^ 24) :
    parity (a ^^^ b) = parity a ^^^ parity b := by
  have hbit (m n : Nat) : (m + n) % 2 = m % 2 ^^^ n % 2 := by
    rcases Nat.mod_two_eq_zero_or_one m with hm | hm <;>
      rcases Nat.mod_two_eq_zero_or_one n with hn | hn <;> rw [Nat.add_mod, hm, hn]
    all_goals rfl
  rw [parity, parity, parity, popcount_eq_weight (Nat.xor_lt_two_pow ha hb),
    popcount_eq_weight ha, popcount_eq_weight hb, weight_xor_mod_two, hbit]

theorem parity_lt (x : Nat) : parity x < 2 := Nat.mod_lt (popcount x) Nat.two_pos

theorem shiftLeft_or_bit_xor (s t : Nat) {p q : Nat} (hp : p < 2) (hq : q < 2) :
    (s ^^^ t) <<< 1 ||| (p ^^^ q) = (s <<< 1 ||| p) ^^^ (t <<< 1 ||| q) := by
  have hhigh {p : Nat} (hp : p < 2) (i : Nat) : p.testBit (i + 1) = false :=
    Nat.testBit_lt_two_pow (hp.trans_le (Nat.le_self_pow (Nat.succ_ne_zero i) 2))
  apply Nat.eq_of_testBit_eq
  intro i
  cases i with
  | zero =>
      simp only [Nat.testBit_or, Nat.testBit_xor, Nat.testBit_shiftLeft]
      rfl
  | succ i => simp [Nat.testBit_shiftLeft, hhigh hp, hhigh hq]

theorem golayProduct_additive (rows : List Nat) : AdditiveBelow 24 (golayProduct rows) := by
  intro a ha b hb
  have hfold (s t : Nat) :
      rows.foldl (fun s row => (s <<< 1) ||| parity (row &&& (a ^^^ b))) (s ^^^ t) =
        rows.foldl (fun s row => (s <<< 1) ||| parity (row &&& a)) s ^^^
          rows.foldl (fun s row => (s <<< 1) ||| parity (row &&& b)) t := by
    induction rows generalizing s t with
    | nil => rfl
    | cons row rows ih =>
        rw [List.foldl_cons, List.foldl_cons, List.foldl_cons, Nat.and_xor_distrib_left,
          parity_xor (Nat.and_le_right.trans_lt ha) (Nat.and_le_right.trans_lt hb),
          shiftLeft_or_bit_xor _ _ (parity_lt _) (parity_lt _), ih]
  exact hfold 0 0

theorem golayProduct_lt (rows : List Nat) (r : Nat) : golayProduct rows r < 2 ^ rows.length := by
  have hfold (s n : Nat) (hs : s < 2 ^ n) :
      rows.foldl (fun s row => (s <<< 1) ||| parity (row &&& r)) s < 2 ^ (n + rows.length) := by
    induction rows generalizing s n with
    | nil => exact hs
    | cons row rows ih =>
        have hstep : s <<< 1 ||| parity (row &&& r) < 2 ^ (n + 1) := by
          apply Nat.or_lt_two_pow
          · rw [Nat.shiftLeft_eq, Nat.pow_succ]
            exact Nat.mul_lt_mul_of_pos_right hs (by decide)
          · exact (parity_lt _).trans_le (Nat.le_self_pow (Nat.succ_ne_zero n) 2)
        rw [List.foldl_cons, List.length_cons, Nat.add_comm rows.length, ← Nat.add_assoc]
        exact ih _ _ hstep
  have hzero := hfold 0 0 Nat.one_pos
  rwa [Nat.zero_add] at hzero

/-! ## The code -/

/-- The syndrome of a word. -/
def golaySyndrome (word : Nat) : Nat := golayProduct golayH word

/-- The product with the matrix of the `B(i)`. -/
def golayQ (s : Nat) : Nat := golayProduct ((List.range golayRows).map golayB) s

/-- The word with the two halves. -/
def golayWord (high low : Nat) : Nat := high <<< golayRows ||| low

theorem golaySyndrome_lt (word : Nat) : golaySyndrome word < 2 ^ 12 := golayProduct_lt golayH word

theorem golayQ_lt (s : Nat) : golayQ s < 2 ^ 12 := golayProduct_lt _ s

theorem golayQ_xor {a b : Nat} (ha : a < 2 ^ 12) (hb : b < 2 ^ 12) :
    golayQ (a ^^^ b) = golayQ a ^^^ golayQ b :=
  golayProduct_additive _ a (ha.trans (by decide)) b (hb.trans (by decide))

section Halves

variable {high low : Nat}

theorem golayWord_eq (hlow : low < 2 ^ 12) : golayWord high low = 2 ^ 12 * high + low := by
  rw [golayWord, golayRows, ← Nat.shiftLeft_add_eq_or_of_lt hlow, Nat.shiftLeft_eq, Nat.mul_comm]

theorem exists_golayWord {word : Nat} (hword : word < 2 ^ 24) :
    ∃ high low, high < 2 ^ 12 ∧ low < 2 ^ 12 ∧ word = golayWord high low := by
  have hlow : word % 2 ^ 12 < 2 ^ 12 := Nat.mod_lt _ (Nat.two_pow_pos 12)
  refine ⟨word / 2 ^ 12, word % 2 ^ 12, by omega, hlow, ?_⟩
  rw [golayWord_eq hlow, Nat.div_add_mod]

theorem golayWord_eq_xor (hlow : low < 2 ^ 12) : golayWord high low = high <<< 12 ^^^ low := by
  apply Nat.eq_of_testBit_eq
  intro i
  rw [golayWord, golayRows, Nat.testBit_or, Nat.testBit_xor, Nat.testBit_shiftLeft]
  by_cases hi : 12 ≤ i
  · rw [Nat.testBit_lt_two_pow (hlow.trans_le (Nat.pow_le_pow_right Nat.two_pos hi)),
      Bool.or_false, Bool.xor_false]
  · rw [decide_eq_false hi, Bool.false_and, Bool.false_or, Bool.false_xor]

theorem weight_golayWord (hlow : low < 2 ^ 12) :
    weight 24 (golayWord high low) = weight 12 low + weight 12 high := by
  have hmod : golayWord high low % 2 ^ 12 = low := by
    rw [golayWord_eq hlow, Nat.mul_add_mod, Nat.mod_eq_of_lt hlow]
  have hshift : golayWord high low >>> 12 = high := by
    rw [golayWord_eq hlow, Nat.shiftRight_eq_div_pow, Nat.mul_add_div (Nat.two_pow_pos 12),
      Nat.div_eq_of_lt hlow, Nat.add_zero]
  rw [weight_add 12 12, ← weight_mod 12 (golayWord high low), hmod, hshift]

theorem golayWord_lt (hhigh : high < 2 ^ 12) (hlow : low < 2 ^ 12) :
    golayWord high low < 2 ^ 24 := by
  rw [golayWord_eq hlow]
  omega

/-- The syndrome adds the high half to the product with the low half. -/
theorem golaySyndrome_golayWord (hhigh : high < 2 ^ 12) (hlow : low < 2 ^ 12) :
    golaySyndrome (golayWord high low) = high ^^^ golayQ low := by
  have hadditive := golayProduct_additive golayH
  have hshifted (n : Nat) (hn : n < 2 ^ 12) : n <<< 12 < 2 ^ 24 := by
    rw [Nat.shiftLeft_eq]
    omega
  have hhalf : golaySyndrome (high <<< 12) = high := by
    refine AdditiveBelow.ext (f := fun n => golaySyndrome (n <<< 12)) (g := id) ?_
      (fun _ _ _ _ => rfl) (by decide +kernel) hhigh
    intro a ha b hb
    dsimp only
    rw [Nat.shiftLeft_xor_distrib]
    exact hadditive _ (hshifted a ha) _ (hshifted b hb)
  have hrest : golaySyndrome low = golayQ low :=
    AdditiveBelow.ext (fun a ha b hb => hadditive a (ha.trans (by decide)) b (hb.trans (by decide)))
      (fun a ha b hb => golayQ_xor ha hb) (by decide +kernel) hlow
  have hsum : golaySyndrome (high <<< 12 ^^^ low) =
      golaySyndrome (high <<< 12) ^^^ golaySyndrome low :=
    hadditive _ (hshifted high hhigh) _ (hlow.trans (by decide))
  rw [golayWord_eq_xor hlow, hsum, hhalf, hrest]

end Halves

/-- The matrix is its own inverse. -/
theorem golayQ_golayQ {s : Nat} (hs : s < 2 ^ 12) : golayQ (golayQ s) = s := by
  refine AdditiveBelow.ext (f := fun s => golayQ (golayQ s)) (g := id) ?_ (fun _ _ _ _ => rfl)
    (by decide +kernel) hs
  intro a ha b hb
  dsimp only
  rw [golayQ_xor ha hb, golayQ_xor (golayQ_lt a) (golayQ_lt b)]

/-- The columns of the matrix. -/
theorem golayQ_two_pow {i : Nat} (hi : i < golayRows) :
    golayQ (2 ^ (golayRows - i - 1)) = golayB i := by
  have hall : ∀ i : Fin 12, golayQ (2 ^ (12 - i.val - 1)) = golayB i := by decide +kernel
  exact hall ⟨i, hi⟩

theorem encodeGolay24_eq (data : Nat) :
    encodeGolay24 data = golayWord (golayQ (data % 2 ^ 12)) (data % 2 ^ 12) := by
  have hlow : data % 2 ^ 12 < 2 ^ 12 := Nat.mod_lt _ (Nat.two_pow_pos 12)
  have hmask (x : Nat) : x &&& 0xfff = x % 2 ^ 12 := Nat.and_two_pow_sub_one_eq_mod x 12
  have hsyndrome := golaySyndrome_golayWord (Nat.two_pow_pos 12) hlow
  rw [golayWord_eq hlow, Nat.mul_zero, Nat.zero_add, Nat.zero_xor, golaySyndrome] at hsyndrome
  rw [encodeGolay24, Nat.and_comm 0xfff, hmask, hmask, hsyndrome,
    Nat.mod_eq_of_lt (golayQ_lt _), golayWord]

theorem encodeGolay24_lt (data : Nat) : encodeGolay24 data < 2 ^ 24 := by
  rw [encodeGolay24_eq]
  exact golayWord_lt (golayQ_lt _) (Nat.mod_lt _ (Nat.two_pow_pos 12))

theorem encodeGolay24_xor (v word : Nat) :
    encodeGolay24 (v ^^^ word) = encodeGolay24 v ^^^ encodeGolay24 word := by
  have hlow (x : Nat) : x % 2 ^ 12 < 2 ^ 12 := Nat.mod_lt _ (Nat.two_pow_pos 12)
  have hmod : (v ^^^ word) % 2 ^ 12 = v % 2 ^ 12 ^^^ word % 2 ^ 12 := Nat.xor_mod_two_pow
  rw [encodeGolay24_eq, encodeGolay24_eq, encodeGolay24_eq, golayWord_eq_xor (hlow _),
    golayWord_eq_xor (hlow _), golayWord_eq_xor (hlow _), hmod, golayQ_xor (hlow _) (hlow _),
    Nat.shiftLeft_xor_distrib, Nat.xor_assoc, Nat.xor_assoc]
  exact congrArg _ (Nat.xor_left_comm _ _ _)

/-- The words without a syndrome are the codewords. -/
theorem golaySyndrome_eq_zero_iff {word : Nat} (hword : word < 2 ^ 24) :
    golaySyndrome word = 0 ↔ ∃ data < 2 ^ 12, encodeGolay24 data = word := by
  constructor
  · intro h
    obtain ⟨high, low, hhigh, hlow, rfl⟩ := exists_golayWord hword
    rw [golaySyndrome_golayWord hhigh hlow, Nat.xor_eq_zero_iff] at h
    exact ⟨low, hlow, by rw [encodeGolay24_eq, Nat.mod_eq_of_lt hlow, h]⟩
  · rintro ⟨data, hdata, rfl⟩
    rw [encodeGolay24_eq, Nat.mod_eq_of_lt hdata,
      golaySyndrome_golayWord (golayQ_lt data) hdata, Nat.xor_self]

set_option maxRecDepth 20000 in
/-- The distance of the code. -/
theorem golay_distance {word : Nat} (hword : word < 2 ^ 24) (hsyndrome : golaySyndrome word = 0) :
    word = 0 ∨ 8 ≤ weight 24 word := by
  have hall : ∀ word ∈ words (images encodeGolay24 12), word = 0 ∨ 8 ≤ popcount word := by
    decide +kernel
  have hspanned : Spanned (images encodeGolay24 12) word :=
    (spanned_images_iff encodeGolay24_xor).mpr ((golaySyndrome_eq_zero_iff hword).mp hsyndrome)
  rw [← popcount_eq_weight hword]
  exact hall word (mem_words_iff.mpr hspanned)

/-! ## Decoding -/

/-- An error that the decoder may take away. -/
structure GolayError (s e : Nat) : Prop where
  lt : e < 2 ^ 24
  syndrome : golaySyndrome e = s
  weight_le : weight 24 e ≤ 3

/-- There is at most one. -/
theorem GolayError.unique {s e f : Nat} (he : GolayError s e) (hf : GolayError s f) : e = f :=
  (golayProduct_additive golayH).eq_of_syndrome_eq (fun _ hword h => golay_distance hword h) he.lt
    hf.lt (he.syndrome.trans hf.syndrome.symm)
    (Nat.lt_succ_of_le (Nat.le_succ_of_le (Nat.add_le_add he.weight_le hf.weight_le)))

theorem popcount_eq_weight_half {x : Nat} (hx : x < 2 ^ 12) : popcount x = weight 12 x := by
  have hword : golayWord 0 x = x := by rw [golayWord_eq hx, Nat.mul_zero, Nat.zero_add]
  rw [popcount_eq_weight (hx.trans (by decide)), ← hword, weight_golayWord hx, hword, weight_zero,
    Nat.add_zero]

theorem golayB_lt (i : Nat) : golayB i < 2 ^ 12 :=
  Nat.and_le_right.trans_lt (by decide)

/-- The two halves of an error. -/
theorem golayError_golayWord {s high low : Nat} (hhigh : high < 2 ^ 12) (hlow : low < 2 ^ 12)
    (hsyndrome : high ^^^ golayQ low = s) (hlight : popcount high + popcount low ≤ 3) :
    GolayError s (golayWord high low) := by
  refine ⟨golayWord_lt hhigh hlow, (golaySyndrome_golayWord hhigh hlow).trans hsyndrome, ?_⟩
  rw [weight_golayWord hlow, ← popcount_eq_weight_half hlow, ← popcount_eq_weight_half hhigh,
    Nat.add_comm]
  exact hlight

theorem popcount_bit {i : Nat} (hi : i < golayRows) :
    2 ^ (golayRows - i - 1) < 2 ^ 12 ∧ popcount (2 ^ (golayRows - i - 1)) = 1 := by
  have hall : ∀ i : Fin 12,
      2 ^ (12 - i.val - 1) < 2 ^ 12 ∧ popcount (2 ^ (12 - i.val - 1)) = 1 := by
    decide +kernel
  exact hall ⟨i, hi⟩

section Steps

variable {s : Nat} (hs : s < 2 ^ 12)
include hs

/-- Step 2. -/
theorem golayError_step2 (hlight : popcount s ≤ 3) : GolayError s (s <<< golayRows) := by
  have hzero : golayQ 0 = 0 := by decide +kernel
  have hword := golayError_golayWord hs (Nat.two_pow_pos 12) (by rw [hzero, Nat.xor_zero]) hlight
  rwa [golayWord, Nat.or_zero] at hword

/-- Step 3. -/
theorem golayError_step3 {i : Nat} (hi : i < golayRows) (hlight : popcount (s ^^^ golayB i) ≤ 2) :
    GolayError s (((s ^^^ golayB i) <<< golayRows) ||| (1 <<< (golayRows - i - 1))) := by
  obtain ⟨hpow, hone⟩ := popcount_bit hi
  rw [Nat.one_shiftLeft]
  apply golayError_golayWord (Nat.xor_lt_two_pow hs (golayB_lt i)) hpow
  · rw [golayQ_two_pow hi, Nat.xor_assoc, Nat.xor_self, Nat.xor_zero]
  · rw [hone]
    exact Nat.succ_le_succ hlight

/-- Step 5. -/
theorem golayError_step5 (hlight : popcount (golayQ s) ≤ 3) : GolayError s (golayQ s) := by
  have hword := golayError_golayWord (Nat.two_pow_pos 12) (golayQ_lt s)
    (by rw [Nat.zero_xor, golayQ_golayQ hs]) ((Nat.zero_add _).trans_le hlight)
  rwa [golayWord, Nat.zero_shiftLeft, Nat.zero_or] at hword

/-- Step 6. -/
theorem golayError_step6 {i : Nat} (hi : i < golayRows)
    (hlight : popcount (golayQ s ^^^ golayB i) ≤ 2) :
    GolayError s ((1 <<< (2 * golayRows - i - 1)) ||| (golayQ s ^^^ golayB i)) := by
  obtain ⟨hpow, hone⟩ := popcount_bit hi
  have hshift : 1 <<< (2 * golayRows - i - 1) = 2 ^ (golayRows - i - 1) <<< golayRows := by
    have hexponent : 2 * golayRows - i - 1 = golayRows - i - 1 + golayRows := by omega
    rw [hexponent, Nat.one_shiftLeft, Nat.pow_add, Nat.shiftLeft_eq]
  rw [hshift]
  apply golayError_golayWord hpow (Nat.xor_lt_two_pow (golayQ_lt s) (golayB_lt i))
  · rw [golayQ_xor (golayQ_lt s) (golayB_lt i), golayQ_golayQ hs, ← golayQ_two_pow hi,
      golayQ_golayQ hpow, Nat.xor_comm s, ← Nat.xor_assoc, Nat.xor_self, Nat.zero_xor]
  · rw [hone, Nat.add_comm]
    exact Nat.succ_le_succ hlight

end Steps

/-- An error that may be taken away passes the test of one of the steps. -/
theorem GolayError.step {s e : Nat} (h : GolayError s e) :
    popcount s ≤ 3 ∨ (∃ i < golayRows, popcount (s ^^^ golayB i) ≤ 2) ∨
      popcount (golayQ s) ≤ 3 ∨ ∃ i < golayRows, popcount (golayQ s ^^^ golayB i) ≤ 2 := by
  obtain ⟨high, low, hhigh, hlow, rfl⟩ := exists_golayWord h.lt
  have hlight := h.weight_le
  obtain rfl := h.syndrome
  rw [weight_golayWord hlow, ← popcount_eq_weight_half hlow, ← popcount_eq_weight_half hhigh]
    at hlight
  rw [golaySyndrome_golayWord hhigh hlow]
  have hzero {x : Nat} (hx : x < 2 ^ 12) (h : popcount x = 0) : x = 0 :=
    (weight_eq_zero_iff hx).mp ((popcount_eq_weight_half hx).symm.trans h)
  have hone {x : Nat} (hx : x < 2 ^ 12) (h : popcount x = 1) :
      ∃ i < golayRows, golayQ x = golayB i := by
    obtain ⟨j, hj, rfl⟩ := eq_two_pow_of_weight hx ((popcount_eq_weight_half hx).symm.trans h)
    have hexponent : golayRows - (golayRows - j - 1) - 1 = j := by
      rw [golayRows]
      omega
    refine ⟨golayRows - j - 1, by rw [golayRows]; omega, ?_⟩
    rw [← golayQ_two_pow (by rw [golayRows]; omega), hexponent]
  have hq : golayQ (high ^^^ golayQ low) = golayQ high ^^^ low := by
    rw [golayQ_xor hhigh (golayQ_lt low), golayQ_golayQ hlow]
  have hcases : popcount low = 0 ∨ popcount low = 1 ∨ popcount high = 0 ∨ popcount high = 1 := by
    omega
  rcases hcases with hcase | hcase | hcase | hcase
  · left
    have hq0 : golayQ 0 = 0 := by decide +kernel
    rw [hzero hlow hcase, hq0, Nat.xor_zero]
    omega
  · right; left
    obtain ⟨i, hi, hcolumn⟩ := hone hlow hcase
    refine ⟨i, hi, ?_⟩
    rw [hcolumn, Nat.xor_assoc, Nat.xor_self, Nat.xor_zero]
    omega
  · right; right; left
    have hq0 : golayQ 0 = 0 := by decide +kernel
    rw [hq, hzero hhigh hcase, hq0, Nat.zero_xor]
    omega
  · right; right; right
    obtain ⟨i, hi, hcolumn⟩ := hone hhigh hcase
    refine ⟨i, hi, ?_⟩
    rw [hq, hcolumn, Nat.xor_comm (golayB i), Nat.xor_assoc, Nat.xor_self, Nat.xor_zero]
    omega

/-- The first row that passes a test, if any. -/
theorem find_rows (test : Nat → Prop) [DecidablePred test] :
    (∃ i, (List.range golayRows).find? (fun i => test i) = some i ∧ i < golayRows ∧ test i) ∨
      (List.range golayRows).find? (fun i => test i) = none ∧ ¬∃ i < golayRows, test i := by
  cases hfind : (List.range golayRows).find? fun i => test i with
  | some i =>
      have htest : decide (test i) = true := List.find?_some (p := fun i => decide (test i)) hfind
      exact .inl ⟨i, rfl, List.mem_range.mp (List.mem_of_find?_eq_some hfind),
        of_decide_eq_true htest⟩
  | none =>
      refine .inr ⟨rfl, ?_⟩
      rintro ⟨i, hi, htest⟩
      exact List.find?_eq_none.mp hfind i (List.mem_range.mpr hi) (decide_eq_true htest)

/-- The decoder takes away an error of at most three bits, if there is one. -/
theorem decodeGolay24_spec (r : Nat) :
    (∃ e, GolayError (golaySyndrome r) e ∧ decodeGolay24 r = some (r ^^^ e, popcount e)) ∨
      decodeGolay24 r = none ∧ ¬∃ e, GolayError (golaySyndrome r) e := by
  have hs := golaySyndrome_lt r
  rw [decodeGolay24]
  dsimp only
  rw [← golaySyndrome, ← golayQ]
  by_cases h2 : popcount (golaySyndrome r) ≤ 3
  · exact .inl ⟨_, golayError_step2 hs h2, if_pos h2⟩
  rw [if_neg h2]
  rcases find_rows (fun i => popcount (golaySyndrome r ^^^ golayB i) ≤ 2) with
    ⟨i, hfind, hi, h3⟩ | ⟨hfind, h3⟩
  · exact .inl ⟨_, golayError_step3 hs hi h3, by rw [hfind]⟩
  rw [hfind]
  dsimp only
  by_cases h5 : popcount (golayQ (golaySyndrome r)) ≤ 3
  · exact .inl ⟨_, golayError_step5 hs h5, if_pos h5⟩
  rw [if_neg h5]
  rcases find_rows (fun i => popcount (golayQ (golaySyndrome r) ^^^ golayB i) ≤ 2) with
    ⟨i, hfind, hi, h6⟩ | ⟨hfind, h6⟩
  · exact .inl ⟨_, golayError_step6 hs hi h6, by rw [hfind]⟩
  · right
    rw [hfind]
    refine ⟨rfl, ?_⟩
    rintro ⟨e, he⟩
    rcases he.step with h | h | h | h
    · exact h2 h
    · exact h3 h
    · exact h5 h
    · exact h6 h

/-- The words that may be taken away lead to the codewords that are close. -/
theorem golayError_iff {r e : Nat} (hr : r < 2 ^ 24) :
    GolayError (golaySyndrome r) e ↔
      (∃ data < 2 ^ 12, encodeGolay24 data = r ^^^ e) ∧ popcount e ≤ 3 ∧ e < 2 ^ 24 := by
  constructor
  · intro h
    refine ⟨(golaySyndrome_eq_zero_iff (Nat.xor_lt_two_pow hr h.lt)).mp ?_,
      (popcount_eq_weight h.lt).trans_le h.weight_le, h.lt⟩
    have hsum := golayProduct_additive golayH r hr e h.lt
    rw [← golaySyndrome, ← golaySyndrome, ← golaySyndrome, h.syndrome, Nat.xor_self] at hsum
    exact hsum
  · rintro ⟨hcodeword, hlight, hlt⟩
    refine ⟨hlt, ?_, (popcount_eq_weight hlt).symm.trans_le hlight⟩
    have hzero := (golaySyndrome_eq_zero_iff (Nat.xor_lt_two_pow hr hlt)).mpr hcodeword
    have hsum := golayProduct_additive golayH r hr e hlt
    rw [← golaySyndrome, ← golaySyndrome, ← golaySyndrome, hzero] at hsum
    exact (Nat.xor_eq_zero_iff.mp hsum.symm).symm

/-- A word is decoded to the codeword that differs in at most three bits, and rejected if
there is none. -/
theorem decodeGolay24_eq_some_iff {r c k : Nat} (hr : r < 2 ^ 24) :
    decodeGolay24 r = some (c, k) ↔
      (∃ data < 2 ^ 12, encodeGolay24 data = c) ∧ popcount (r ^^^ c) = k ∧ k ≤ 3 := by
  constructor
  · intro h
    rcases decodeGolay24_spec r with ⟨e, he, hdecode⟩ | ⟨hnone, -⟩
    · rw [hdecode] at h
      cases h
      obtain ⟨hcodeword, hlight, -⟩ := (golayError_iff hr).mp he
      exact ⟨hcodeword, by rw [Nat.xor_xor_cancel_left], hlight⟩
    · rw [hnone] at h
      cases h
  · rintro ⟨⟨data, hdata, rfl⟩, rfl, hlight⟩
    have hlt := Nat.xor_lt_two_pow hr (encodeGolay24_lt data)
    have he : GolayError (golaySyndrome r) (r ^^^ encodeGolay24 data) :=
      (golayError_iff hr).mpr ⟨⟨data, hdata, (Nat.xor_xor_cancel_left _ _).symm⟩, hlight, hlt⟩
    rcases decodeGolay24_spec r with ⟨f, hf, hdecode⟩ | ⟨-, hnone⟩
    · rw [hdecode, hf.unique he, Nat.xor_xor_cancel_left]
    · exact absurd ⟨_, he⟩ hnone

/-- Two codewords differ in eight bits. -/
theorem encodeGolay24_distance (v word : Nat) :
    encodeGolay24 v = encodeGolay24 word ∨
      8 ≤ weight 24 (encodeGolay24 v ^^^ encodeGolay24 word) := by
  have hlt := encodeGolay24_lt (v ^^^ word)
  have hzero : golaySyndrome (encodeGolay24 (v ^^^ word)) = 0 := by
    have hmod : encodeGolay24 (v ^^^ word) = encodeGolay24 ((v ^^^ word) % 2 ^ 12) := by
      rw [encodeGolay24_eq, encodeGolay24_eq, Nat.mod_mod]
    exact (golaySyndrome_eq_zero_iff hlt).mpr
      ⟨_, Nat.mod_lt _ (Nat.two_pow_pos 12), hmod.symm⟩
  rw [← encodeGolay24_xor]
  rcases golay_distance hlt hzero with h | h
  · left
    rw [encodeGolay24_xor] at h
    exact Nat.xor_eq_zero_iff.mp h
  · exact .inr h

/-- The decoder corrects every word within three bits of a codeword to it, rejects every other
word, and so notices every error of four bits. -/
theorem decodeGolay24_corrects {r : Nat} (hr : r < 2 ^ 24) :
    (∀ c k, decodeGolay24 r = some (c, k) ↔
      (∃ data < 2 ^ 12, encodeGolay24 data = c) ∧ popcount (r ^^^ c) = k ∧ k ≤ 3) ∧
    (decodeGolay24 r = none ↔ ∀ data < 2 ^ 12, 3 < popcount (r ^^^ encodeGolay24 data)) ∧
    ∀ data, popcount (r ^^^ encodeGolay24 data) = 4 → decodeGolay24 r = none := by
  have hnone : decodeGolay24 r = none ↔
      ∀ data < 2 ^ 12, 3 < popcount (r ^^^ encodeGolay24 data) := by
    constructor
    · intro h data hdata
      by_contra hle
      have hsome := (decodeGolay24_eq_some_iff hr).mpr ⟨⟨data, hdata, rfl⟩, rfl, not_lt.mp hle⟩
      exact absurd (h.symm.trans hsome) nofun
    · intro h
      cases hdecode : decodeGolay24 r with
      | none => rfl
      | some result =>
          obtain ⟨⟨data, hdata, heq⟩, hcount, hle⟩ := (decodeGolay24_eq_some_iff hr).mp hdecode
          rw [← heq] at hcount
          exact absurd (h data hdata) (not_lt.mpr (hcount.trans_le hle))
  refine ⟨fun c k => decodeGolay24_eq_some_iff hr, hnone, fun data hfour => ?_⟩
  refine hnone.mpr fun other _ => ?_
  have hweight (c : Nat) : popcount (r ^^^ encodeGolay24 c) = weight 24 (r ^^^ encodeGolay24 c) :=
    popcount_eq_weight (Nat.xor_lt_two_pow hr (encodeGolay24_lt c))
  rcases encodeGolay24_distance data other with heq | hfar
  · rw [← heq, hfour]
    decide
  · have hsum := weight_xor_le 24 (r ^^^ encodeGolay24 data) (r ^^^ encodeGolay24 other)
    have hcancel : r ^^^ encodeGolay24 data ^^^ (r ^^^ encodeGolay24 other) =
        encodeGolay24 data ^^^ encodeGolay24 other := by
      rw [Nat.xor_comm r (encodeGolay24 other), Nat.xor_assoc, ← Nat.xor_assoc _ _ r,
        Nat.xor_comm _ r, Nat.xor_xor_cancel_left]
    rw [hcancel, ← hweight, ← hweight, hfour] at hsum
    omega

theorem decodeGolay24_corrects_example :
    (∀ c k, decodeGolay24 0x7 = some (c, k) ↔
      (∃ data < 2 ^ 12, encodeGolay24 data = c) ∧ popcount (0x7 ^^^ c) = k ∧ k ≤ 3) ∧
    (decodeGolay24 0x7 = none ↔ ∀ data < 2 ^ 12, 3 < popcount (0x7 ^^^ encodeGolay24 data)) ∧
    ∀ data, popcount (0x7 ^^^ encodeGolay24 data) = 4 → decodeGolay24 0x7 = none :=
  decodeGolay24_corrects (by decide)

end Skylink
