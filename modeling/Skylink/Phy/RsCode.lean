import Mathlib.Algebra.BigOperators.Group.Finset.Basic
import Mathlib.Data.List.GetD
import Mathlib.Tactic.Ring
import Skylink.Phy.RsDecoder

/-!
# Codewords

A word is the polynomial with its bytes as coefficients, the first byte in front of the
highest power. The encoder divides by the generator polynomial, so that a codeword
vanishes at its roots, and the syndromes of the decoder are the values at these roots.
-/

namespace Skylink

open GF256

/-- The value of a word at a point. -/
def wordValue (z : GF256) (word : Bytes) : GF256 :=
  word.foldl (fun value byte => value * z + ⟨byte⟩) 0

theorem wordValue_concat (z : GF256) (word : Bytes) (byte : UInt8) :
    wordValue z (word ++ [byte]) = wordValue z word * z + ⟨byte⟩ := by
  rw [wordValue, List.foldl_append]
  rfl

theorem wordValue_append (z : GF256) (xs ys : Bytes) :
    wordValue z (xs ++ ys) = wordValue z xs * z ^ ys.length + wordValue z ys := by
  induction ys using List.reverseRecOn with
  | nil => simp [wordValue]
  | append_singleton ys y ih =>
      rw [← List.append_assoc, wordValue_concat, ih, wordValue_concat, List.length_append,
        List.length_singleton]
      ring

theorem wordValue_cons (z : GF256) (byte : UInt8) (word : Bytes) :
    wordValue z (byte :: word) = ⟨byte⟩ * z ^ word.length + wordValue z word := by
  rw [← List.singleton_append, wordValue_append]
  simp [wordValue]

theorem wordValue_eq_sum (z : GF256) (word : Bytes) :
    wordValue z word =
      ∑ j ∈ Finset.range word.length, (⟨word.getD j 0⟩ : GF256) * z ^ (word.length - 1 - j) := by
  induction word with
  | nil => rfl
  | cons byte word ih =>
      rw [wordValue_cons, List.length_cons, Finset.sum_range_succ', ih, add_comm]
      congr 1
      apply Finset.sum_congr rfl
      intro j hj
      have hj' := Finset.mem_range.mp hj
      have hexponent : word.length + 1 - 1 - (j + 1) = word.length - 1 - j := by omega
      rw [hexponent]
      rfl

/-- The value of a sum of two words. -/
theorem wordValue_mapIdx_xor (z : GF256) (word : Bytes) (f : Nat → UInt8) :
    wordValue z (word.mapIdx fun j byte => byte ^^^ f j) =
      wordValue z word + wordValue z ((List.range word.length).map f) := by
  induction word using List.reverseRecOn with
  | nil => simp [wordValue]
  | append_singleton word byte ih =>
      rw [List.mapIdx_append, List.length_append, List.length_singleton, List.range_succ,
        List.map_append, List.mapIdx_singleton, List.map_singleton, wordValue_concat,
        wordValue_concat, wordValue_concat, ih]
      have hbyte : (⟨byte ^^^ f (0 + word.length)⟩ : GF256) = ⟨byte⟩ + ⟨f word.length⟩ := by
        rw [Nat.zero_add]
        rfl
      rw [hbyte]
      ring

/-! ## Sums of the decoder -/

theorem mk_alphaToMod (n : Nat) : (⟨alphaToMod n⟩ : GF256) = alpha ^ n := alphaTo_mod255 n

theorem alpha_pow_indexOf {b : UInt8} (hb : b ≠ 0) : alpha ^ (indexOf b).toNat = ⟨b⟩ := by
  rw [← ofIndex_of_ne (indexOf_eq_iff.not.mpr hb), ofIndex_indexOf]

theorem mk_foldl_add {ι : Type*} {step : UInt8 → ι → UInt8} {term : ι → GF256} {l : List ι}
    (hstep : ∀ sum, ∀ i ∈ l, (⟨step sum i⟩ : GF256) = ⟨sum⟩ + term i) (sum : UInt8) :
    (⟨l.foldl step sum⟩ : GF256) = ⟨sum⟩ + (l.map term).sum := by
  induction l generalizing sum with
  | nil => exact (add_zero _).symm
  | cons i l ih =>
      rw [List.foldl_cons, ih fun sum j hj => hstep sum j (List.mem_cons_of_mem i hj),
        hstep sum i (List.mem_cons_self ..), List.map_cons, List.sum_cons, add_assoc]

theorem sum_map_range (term : Nat → GF256) (n : Nat) :
    ((List.range n).map term).sum = ∑ i ∈ Finset.range n, term i := rfl

/-! ## Syndromes -/

/-- The roots of the generator polynomial. -/
def rsRoot (i : Nat) : GF256 := alpha ^ ((rsFcr + i) * rsPrim)

theorem mk_syndromeStep (byte : UInt8) (i : Nat) (s : UInt8) :
    (⟨syndromeStep byte i s⟩ : GF256) = ⟨s⟩ * rsRoot i + ⟨byte⟩ := by
  rw [syndromeStep]
  split_ifs with hs
  · subst hs
    exact (by rw [zero_mul, zero_add] : (0 : GF256) * rsRoot i + ⟨byte⟩ = ⟨byte⟩).symm
  · calc (⟨byte ^^^ alphaToMod ((indexOf s).toNat + (rsFcr + i) * rsPrim)⟩ : GF256)
      _ = ⟨byte⟩ + alpha ^ ((indexOf s).toNat + (rsFcr + i) * rsPrim) := by
        rw [← mk_alphaToMod]
        rfl
      _ = ⟨s⟩ * rsRoot i + ⟨byte⟩ := by
        rw [pow_add, alpha_pow_indexOf hs, add_comm, rsRoot]

/-- The syndromes are the values at the roots. -/
theorem syndromes_spec (data : Bytes) :
    (syndromes data).length = rsParitys ∧
      ∀ i < rsParitys, (⟨(syndromes data).getD i 0⟩ : GF256) = wordValue (rsRoot i) data := by
  have hfold (data s : Bytes) (hs : s.length = rsParitys) :
      (data.foldl (fun s byte => s.mapIdx (syndromeStep byte)) s).length = rsParitys ∧
        ∀ i < rsParitys,
          (⟨(data.foldl (fun s byte => s.mapIdx (syndromeStep byte)) s).getD i 0⟩ : GF256) =
            data.foldl (fun value byte => value * rsRoot i + ⟨byte⟩) ⟨s.getD i 0⟩ := by
    induction data generalizing s with
    | nil => exact ⟨hs, fun i _ => rfl⟩
    | cons byte data ih =>
        have hlen : (s.mapIdx (syndromeStep byte)).length = rsParitys := by
          rw [List.length_mapIdx, hs]
        obtain ⟨hlength, hvalue⟩ := ih _ hlen
        refine ⟨hlength, fun i hi => ?_⟩
        have hget : (s.mapIdx (syndromeStep byte)).getD i 0 = syndromeStep byte i (s.getD i 0) := by
          rw [List.getD_eq_getElem _ _ (hlen ▸ hi), List.getElem_mapIdx,
            List.getD_eq_getElem _ _ (hs ▸ hi)]
        rw [List.foldl_cons, hvalue i hi, hget, mk_syndromeStep, List.foldl_cons]
  obtain ⟨hlength, hvalue⟩ := hfold (data.drop 1) (List.replicate rsParitys (data.getD 0 0))
    List.length_replicate
  refine ⟨hlength, fun i hi => ?_⟩
  rw [syndromes, hvalue i hi, List.getD_eq_getElem _ _ (by simpa using hi),
    List.getElem_replicate]
  cases data with
  | nil => rfl
  | cons byte data =>
      rw [wordValue, List.foldl_cons, zero_mul, zero_add]
      rfl

/-! ## Generator polynomial -/

/-- The coefficients of `GENPOLY` below the highest one, which is one, as a word. -/
def generatorTail : Bytes :=
  (List.range rsParitys).map fun j => alphaTo (ccsdsPoly.getD (rsParitys - 1 - j) 0).toNat

theorem generatorTail_length : generatorTail.length = rsParitys := rfl

theorem wordValue_generatorTail {i : Nat} (hi : i < rsParitys) :
    wordValue (rsRoot i) generatorTail = rsRoot i ^ rsParitys := by
  have hzero : syndromes (1 :: generatorTail) = List.replicate rsParitys 0 := by decide +kernel
  have hvalue := (syndromes_spec (1 :: generatorTail)).2 i hi
  rw [hzero, List.getD_eq_getElem _ _ (by simpa using hi), List.getElem_replicate, wordValue_cons,
    generatorTail_length] at hvalue
  have hone : (⟨1⟩ : GF256) * rsRoot i ^ rsParitys = rsRoot i ^ rsParitys := one_mul _
  rw [hone] at hvalue
  exact (sub_eq_zero.mp ((sub_eq_add _ _).trans hvalue.symm)).symm

/-! ## Encoder -/

theorem mk_rsFeedbackTerm {feedback : UInt8} (hfeedback : feedback ≠ 255) (i : Nat) :
    (⟨rsFeedbackTerm feedback i⟩ : GF256) =
      ofIndex feedback * ⟨alphaTo (ccsdsPoly.getD i 0).toNat⟩ := by
  have hcoeff : (ccsdsPoly.getD i 0) ≠ 255 := by
    rcases Nat.lt_or_ge i 33 with hlt | hge
    · have hall : ∀ i : Fin 33, ccsdsPoly.getD i 0 ≠ 255 := by decide +kernel
      exact hall ⟨i, hlt⟩
    · rw [List.getD_eq_default _ _ hge]
      decide
  have hterm : (⟨rsFeedbackTerm feedback i⟩ : GF256) =
      exp (feedback.toNat + (ccsdsPoly.getD i 0).toNat) := rfl
  have hright : (⟨alphaTo (ccsdsPoly.getD i 0).toNat⟩ : GF256) = ofIndex (ccsdsPoly.getD i 0) := rfl
  rw [hterm, hright, exp_eq_pow, pow_add, ofIndex_of_ne hfeedback, ofIndex_of_ne hcoeff]

/-- The terms of one turn are a multiple of the generator. -/
theorem wordValue_feedback {i : Nat} (hi : i < rsParitys) {feedback : UInt8}
    (hfeedback : feedback ≠ 255) :
    wordValue (rsRoot i)
        ((List.range rsParitys).map fun j => rsFeedbackTerm feedback (rsParitys - 1 - j)) =
      ofIndex feedback * rsRoot i ^ rsParitys := by
  have hmul (l : List Nat) :
      wordValue (rsRoot i) (l.map fun j => rsFeedbackTerm feedback (rsParitys - 1 - j)) =
        ofIndex feedback * wordValue (rsRoot i)
          (l.map fun j => alphaTo (ccsdsPoly.getD (rsParitys - 1 - j) 0).toNat) := by
    induction l using List.reverseRecOn with
    | nil => exact (mul_zero _).symm
    | append_singleton l j ih =>
        rw [List.map_append, List.map_append, List.map_singleton, List.map_singleton,
          wordValue_concat, wordValue_concat, ih, mk_rsFeedbackTerm hfeedback]
        ring
  rw [hmul, ← wordValue_generatorTail hi, generatorTail]

theorem encodeRsStep_cons (p : UInt8) (rest : Bytes) (data : UInt8) :
    encodeRsStep (p :: rest) data =
      if indexOf (data ^^^ p) = 255 then rest ++ [0]
      else
        (rest.mapIdx fun j q =>
            q ^^^ rsFeedbackTerm (indexOf (data ^^^ p)) (rsParitys - 1 - j)) ++
          [rsFeedbackTerm (indexOf (data ^^^ p)) 0] := by
  rw [encodeRsStep]
  show (if indexOf (data ^^^ p) = 255 then _ else _) = _
  split_ifs with hfeedback
  · rfl
  · dsimp only
    rw [List.mapIdx_cons, List.drop_one, List.tail_cons]
    congr 2
    funext j q
    rw [if_pos (Nat.succ_le_succ (Nat.zero_le j)), Nat.sub_sub, Nat.add_comm 1 j]
    rfl

/-- One turn of the encoder multiplies by the variable and takes the generator away. -/
theorem wordValue_encodeRsStep {i : Nat} (hi : i < rsParitys) {parity : Bytes}
    (hlen : parity.length = rsParitys) (data : UInt8) :
    wordValue (rsRoot i) (encodeRsStep parity data) =
      wordValue (rsRoot i) parity * rsRoot i + ⟨data⟩ * rsRoot i ^ rsParitys := by
  obtain ⟨p, rest, rfl⟩ : ∃ p rest, parity = p :: rest := List.exists_cons_of_length_pos
    (hlen ▸ (by decide : 0 < rsParitys))
  have hrest : rest.length = 31 := Nat.succ.inj hlen
  have hsum : wordValue (rsRoot i) (p :: rest) * rsRoot i + ⟨data⟩ * rsRoot i ^ rsParitys =
      wordValue (rsRoot i) rest * rsRoot i + (⟨data ^^^ p⟩ : GF256) * rsRoot i ^ rsParitys := by
    have hadd : (⟨data ^^^ p⟩ : GF256) = ⟨data⟩ + ⟨p⟩ := rfl
    have hpow : rsRoot i ^ rsParitys = rsRoot i ^ 31 * rsRoot i := pow_succ _ _
    rw [wordValue_cons, hrest, hadd, hpow]
    ring
  rw [hsum, encodeRsStep_cons]
  split_ifs with hfeedback
  · have hzero : (⟨data ^^^ p⟩ : GF256) = 0 := GF256.ext (indexOf_eq_iff.mp hfeedback)
    rw [hzero, zero_mul]
    exact wordValue_concat _ _ _
  · have hvalue : (⟨data ^^^ p⟩ : GF256) = ofIndex (indexOf (data ^^^ p)) :=
      (ofIndex_indexOf _).symm
    generalize indexOf (data ^^^ p) = feedback at hfeedback hvalue ⊢
    have hterms :
        ((List.range rsParitys).map fun j => rsFeedbackTerm feedback (rsParitys - 1 - j)) =
        ((List.range 31).map fun j => rsFeedbackTerm feedback (rsParitys - 1 - j)) ++
          [rsFeedbackTerm feedback 0] := by
      rw [rsParitys, List.range_succ, List.map_append]
      rfl
    rw [hvalue, ← wordValue_feedback hi hfeedback, hterms, wordValue_concat, wordValue_concat,
      wordValue_mapIdx_xor, hrest]
    ring

/-- A codeword vanishes at the roots. -/
theorem wordValue_codeword {i : Nat} (hi : i < rsParitys) (data : Bytes) :
    wordValue (rsRoot i) (data ++ encodeRs8 data) = 0 := by
  have hparity : wordValue (rsRoot i) (encodeRs8 data) =
      wordValue (rsRoot i) data * rsRoot i ^ rsParitys := by
    induction data using List.reverseRecOn with
    | nil =>
        have hzeros (n : Nat) : wordValue (rsRoot i) (List.replicate n 0) = 0 := by
          induction n with
          | zero => rfl
          | succ n ih =>
              rw [List.replicate_succ, wordValue_cons, ih, add_zero]
              exact zero_mul _
        rw [encodeRs8]
        exact (hzeros _).trans (zero_mul _).symm
    | append_singleton data byte ih =>
        have hstep : encodeRs8 (data ++ [byte]) = encodeRsStep (encodeRs8 data) byte := by
          rw [encodeRs8, List.foldl_append]
          rfl
        rw [hstep, wordValue_encodeRsStep hi (encodeRs8_length data), ih, wordValue_concat]
        ring
  rw [wordValue_append, encodeRs8_length, hparity, add_self]

end Skylink
