import Mathlib.Data.Nat.Bitwise

/-!
# Binary linear codes

A word is a number and words are added by exclusive or. The subcode of the words that
vanish in given positions is found by elimination, so that it can be listed when it is small.
-/

namespace BinaryCode

/-- The sums of the generators. -/
def Spanned : List Nat → Nat → Prop
  | [], word => word = 0
  | g :: gens, word => Spanned gens word ∨ Spanned gens (g ^^^ word)

/-- All sums of the generators. -/
def words : List Nat → List Nat
  | [] => [0]
  | g :: gens => words gens ++ (words gens).map (g ^^^ ·)

theorem mem_words_iff {gens : List Nat} {word : Nat} :
    word ∈ words gens ↔ Spanned gens word := by
  induction gens generalizing word with
  | nil => exact List.mem_singleton
  | cons g gens ih =>
      rw [words, List.mem_append, List.mem_map, ih, Spanned]
      refine or_congr_right ⟨?_, fun h => ⟨g ^^^ word, ih.mpr h, ?_⟩⟩
      · rintro ⟨v, hv, rfl⟩
        rw [Nat.xor_xor_cancel_left]
        exact ih.mp hv
      · exact Nat.xor_xor_cancel_left g word

/-- `g` is added where the word does not vanish in the position. -/
def clear (i g word : Nat) : Nat := if word.testBit i then g ^^^ word else word

theorem clear_xor (i g v word : Nat) : clear i g (v ^^^ word) = clear i g v ^^^ clear i g word := by
  rw [clear, clear, clear, Nat.testBit_xor]
  cases v.testBit i <;> cases word.testBit i
  · rfl
  · exact Nat.xor_left_comm g v word
  · exact (Nat.xor_assoc g v word).symm
  · have hsum : (g ^^^ v) ^^^ (g ^^^ word) = v ^^^ word := by
      rw [Nat.xor_comm g v, Nat.xor_assoc, Nat.xor_xor_cancel_left]
    exact hsum.symm

/-- The images of the sums are the sums of the images. -/
theorem spanned_map_iff {f : Nat → Nat} (hf : ∀ v word, f (v ^^^ word) = f v ^^^ f word)
    {gens : List Nat} {word : Nat} :
    Spanned (gens.map f) word ↔ ∃ v, Spanned gens v ∧ f v = word := by
  have hzero : f 0 = 0 := by
    have h := hf 0 0
    rwa [Nat.xor_self, Nat.xor_self] at h
  induction gens generalizing word with
  | nil =>
      refine ⟨fun h => ⟨0, rfl, hzero.trans (Eq.symm h)⟩, ?_⟩
      rintro ⟨v, rfl, rfl⟩
      exact hzero
  | cons g gens ih =>
      rw [List.map_cons, Spanned]
      refine (or_congr ih ih).trans ⟨?_, ?_⟩
      · rintro (⟨v, hv, rfl⟩ | ⟨v, hv, heq⟩)
        · exact ⟨v, Or.inl hv, rfl⟩
        · refine ⟨g ^^^ v, Or.inr ?_, ?_⟩
          · rwa [Nat.xor_xor_cancel_left]
          · rw [hf, heq, Nat.xor_xor_cancel_left]
      · rintro ⟨v, hv | hv, rfl⟩
        · exact Or.inl ⟨v, hv, rfl⟩
        · exact Or.inr ⟨g ^^^ v, hv, hf g v⟩

/-! ## Shortening -/

/-- Generators of the words that vanish in the position: the first generator that does
not is eliminated from those after it. -/
def shorten (i : Nat) : List Nat → List Nat
  | [] => []
  | g :: gens => if g.testBit i then gens.map (clear i g) else g :: shorten i gens

theorem spanned_shorten_iff {i : Nat} {gens : List Nat} {word : Nat} :
    Spanned (shorten i gens) word ↔ Spanned gens word ∧ word.testBit i = false := by
  induction gens generalizing word with
  | nil =>
      refine ⟨fun h => ⟨h, ?_⟩, And.left⟩
      rw [show word = 0 from h]
      exact Nat.zero_testBit i
  | cons g gens ih =>
      rw [shorten, Spanned]
      split
      case isTrue hg =>
        rw [spanned_map_iff (clear_xor i g)]
        constructor
        · rintro ⟨v, hv, rfl⟩
          rw [clear]
          split
          case isTrue hbit =>
            refine ⟨Or.inr (by rwa [Nat.xor_xor_cancel_left]), ?_⟩
            rw [Nat.testBit_xor, hg, hbit]
            rfl
          case isFalse hbit => exact ⟨Or.inl hv, Bool.eq_false_iff.mpr hbit⟩
        · rintro ⟨hv | hv, hbit⟩
          · exact ⟨word, hv, if_neg (Bool.eq_false_iff.mp hbit)⟩
          · have hsum : (g ^^^ word).testBit i = true := by
              rw [Nat.testBit_xor, hg, hbit]
              rfl
            exact ⟨g ^^^ word, hv, by rw [clear, if_pos hsum, Nat.xor_xor_cancel_left]⟩
      case isFalse hg =>
        have hsum : (g ^^^ word).testBit i = word.testBit i := by
          rw [Nat.testBit_xor, Bool.eq_false_iff.mpr hg, Bool.false_xor]
        rw [Spanned, ih, ih, hsum, or_and_right]

/-- Generators of the words that vanish in all of the positions. -/
def shortenAll (positions gens : List Nat) : List Nat :=
  positions.foldl (fun gens i => shorten i gens) gens

theorem spanned_shortenAll_iff {positions gens : List Nat} {word : Nat} :
    Spanned (shortenAll positions gens) word ↔
      Spanned gens word ∧ ∀ i ∈ positions, word.testBit i = false := by
  induction positions generalizing gens with
  | nil => exact ⟨fun h => ⟨h, fun i hi => absurd hi List.not_mem_nil⟩, And.left⟩
  | cons i positions ih =>
      rw [shortenAll, List.foldl_cons, ← shortenAll, ih, spanned_shorten_iff, and_assoc,
        List.forall_mem_cons]

/-! ## The image of a linear map -/

/-- The values of `f` at the `n` lowest positions. -/
def images (f : Nat → Nat) : Nat → List Nat
  | 0 => []
  | n + 1 => f (2 ^ n) :: images f n

/-- The word of at most `n + 1` bits with the highest bit, if any, taken off. -/
theorem lt_or_xor_lt {n word : Nat} (h : word < 2 ^ (n + 1)) :
    word < 2 ^ n ∨ 2 ^ n ^^^ word < 2 ^ n := by
  by_cases hlt : word < 2 ^ n
  · exact Or.inl hlt
  · right
    apply Nat.lt_pow_two_of_testBit _
    intro i hi
    rw [Nat.testBit_xor, Nat.testBit_two_pow]
    rcases Nat.eq_or_lt_of_le hi with rfl | hgt
    · have htop : word.testBit n = true := Nat.testBit_of_two_pow_le_and_two_pow_add_one_gt
        (Nat.le_of_not_lt hlt) h
      rw [htop, decide_eq_true rfl]
      rfl
    · rw [decide_eq_false (Nat.ne_of_lt hgt), Bool.false_xor]
      exact Nat.testBit_lt_two_pow (h.trans_le (Nat.pow_le_pow_right (by decide) hgt))

theorem spanned_images_iff {f : Nat → Nat} (hf : ∀ v word, f (v ^^^ word) = f v ^^^ f word)
    {n word : Nat} : Spanned (images f n) word ↔ ∃ v < 2 ^ n, f v = word := by
  have hzero : f 0 = 0 := by
    have h := hf 0 0
    rwa [Nat.xor_self, Nat.xor_self] at h
  induction n generalizing word with
  | zero =>
      refine ⟨fun h => ⟨0, Nat.one_pos, hzero.trans (Eq.symm h)⟩, ?_⟩
      rintro ⟨v, hv, rfl⟩
      rw [Nat.lt_one_iff.mp hv]
      exact hzero
  | succ n ih =>
      rw [images, Spanned]
      have hpow : 2 ^ n < 2 ^ (n + 1) := Nat.pow_lt_pow_right (by decide) n.lt_succ_self
      refine (or_congr ih ih).trans ⟨?_, ?_⟩
      · rintro (⟨v, hv, rfl⟩ | ⟨v, hv, heq⟩)
        · exact ⟨v, hv.trans hpow, rfl⟩
        · refine ⟨2 ^ n ^^^ v, Nat.xor_lt_two_pow hpow (hv.trans hpow), ?_⟩
          rw [hf, heq, Nat.xor_xor_cancel_left]
      · rintro ⟨v, hv, rfl⟩
        rcases lt_or_xor_lt hv with hlt | hlt
        · exact Or.inl ⟨v, hlt, rfl⟩
        · exact Or.inr ⟨2 ^ n ^^^ v, hlt, hf (2 ^ n) v⟩

end BinaryCode
