import Mathlib.Tactic.IntervalCases
import Skylink.Frame.Crc
import Skylink.Library.BinaryCode

/-!
# Bursts of errors and the checksum

The checksum takes the bits of a byte from the lowest one on, but its own four bytes are
stored in network byte order. A burst within the data, or within the checksum, is always
found; of those that reach from the one into the other a few are not.
-/

namespace Skylink

open ReflectedCrc BinaryCode

/-- An error turns over the bits of a buffer that are set in the number, the lowest bit of
the first byte being bit zero. -/
def flipBits : Nat → Bytes → Bytes
  | _, [] => []
  | e, byte :: buf => (byte ^^^ UInt8.ofNat e) :: flipBits (e >>> 8) buf

def SkyRadioFrame.flip (frame : SkyRadioFrame) (e : Nat) : SkyRadioFrame :=
  { frame with raw := flipBits e frame.raw }

@[simp] theorem flipBits_length (e : Nat) (buf : Bytes) :
    (flipBits e buf).length = buf.length := by
  induction buf generalizing e with
  | nil => rfl
  | cons byte buf ih => rw [flipBits, List.length_cons, ih, List.length_cons]

theorem flipBits_append (e : Nat) (a b : Bytes) :
    flipBits e (a ++ b) = flipBits e a ++ flipBits (e >>> (8 * a.length)) b := by
  induction a generalizing e with
  | nil => rfl
  | cons byte a ih =>
      have hlen : 8 * (byte :: a).length = 8 + 8 * a.length := by
        rw [List.length_cons]
        omega
      rw [List.cons_append, flipBits, ih, flipBits, List.cons_append, hlen, Nat.shiftRight_add]

theorem crcBits_length (buf : Bytes) : (crcBits buf).length = 8 * buf.length := by
  induction buf with
  | nil => rfl
  | cons byte buf ih =>
      rw [crcBits, List.flatMap_cons, List.length_append, lsbFirst_length, ← crcBits, ih,
        List.length_cons]
      omega

/-- The error is added bit by bit in the order in which the checksum takes the bits. -/
theorem crcBits_flipBits (e : Nat) (buf : Bytes) :
    crcBits (flipBits e buf) =
      List.zipWith xor (crcBits buf) (lsbFirst (8 * buf.length) e) := by
  induction buf generalizing e with
  | nil => rfl
  | cons byte buf ih =>
      have hlen : 8 * (byte :: buf).length = 8 + 8 * buf.length := by
        rw [List.length_cons]
        omega
      have hbyte : lsbFirst 8 (byte ^^^ UInt8.ofNat e).toNat =
          List.zipWith xor (lsbFirst 8 byte.toNat) (lsbFirst 8 e) := by
        rw [UInt8.toNat_xor, UInt8.toNat_ofNat', lsbFirst_xor, lsbFirst_mod]
      have hcons (b : UInt8) (bs : Bytes) : crcBits (b :: bs) = lsbFirst 8 b.toNat ++ crcBits bs :=
        rfl
      rw [flipBits, hcons, hcons, hlen, lsbFirst_add, List.zipWith_append, hbyte, ih]
      rw [lsbFirst_length, lsbFirst_length]

/-! ## The checksum of an error -/

/-- What an error in the `n` bits of the data does to the checksum. -/
def errorChecksum (n e : Nat) : UInt32 := ⟨feed crc32Polynomial 0#32 (lsbFirst n e)⟩

theorem skyCrc32_flipBits (e : Nat) (buf : Bytes) :
    skyCrc32 (flipBits e buf) = skyCrc32 buf ^^^ errorChecksum (8 * buf.length) e := by
  have hlen : (crcBits buf).length = (lsbFirst (8 * buf.length) e).length := by
    rw [crcBits_length, lsbFirst_length]
  have hfeed := feed_xor crc32Polynomial hlen 0xFFFFFFFF#32 0#32
  rw [BitVec.xor_zero] at hfeed
  apply UInt32.eq_of_toBitVec_eq
  rw [skyCrc32_eq_reflected, skyCrc32_eq_reflected, UInt32.toBitVec_xor]
  calc (crc32Reflected (flipBits e buf)).toBitVec
    _ = feed crc32Polynomial 0xFFFFFFFF#32 (crcBits buf) ^^^
          feed crc32Polynomial 0#32 (lsbFirst (8 * buf.length) e) ^^^ 0xFFFFFFFF#32 := by
      rw [crc32Reflected, crcBits_flipBits, hfeed]
    _ = (crc32Reflected buf).toBitVec ^^^ (errorChecksum (8 * buf.length) e).toBitVec := by
      rw [crc32Reflected, errorChecksum, BitVec.xor_assoc, BitVec.xor_comm (feed _ 0#32 _),
        ← BitVec.xor_assoc]

theorem errorChecksum_xor (n d e : Nat) :
    errorChecksum n (d ^^^ e) = errorChecksum n d ^^^ errorChecksum n e := by
  have hlen : (lsbFirst n d).length = (lsbFirst n e).length := by
    rw [lsbFirst_length, lsbFirst_length]
  have hfeed := feed_xor crc32Polynomial hlen 0#32 0#32
  rw [BitVec.xor_zero] at hfeed
  apply UInt32.eq_of_toBitVec_eq
  rw [errorChecksum, lsbFirst_xor, hfeed, UInt32.toBitVec_xor]
  rfl

theorem skyHton32_xor (a b : UInt32) : skyHton32 (a ^^^ b) = skyHton32 a ^^^ skyHton32 b := by
  apply UInt32.eq_of_toBitVec_eq
  simp only [skyHton32, UInt32.toBitVec_xor, UInt32.toBitVec_or, UInt32.toBitVec_and,
    UInt32.toBitVec_shiftLeft, UInt32.toBitVec_shiftRight]
  ext i hi
  interval_cases i <;> simp

/-- An error in the stored bytes of a word. -/
theorem flipBits_storeU32 (c : Nat) (v : UInt32) :
    flipBits c (storeU32 v) = storeU32 (v ^^^ UInt32.ofNat c) := by
  have hbyte (k : Nat) (l : UInt32)
      (h : k = 0 ∧ l = 0 ∨ k = 8 ∧ l = 8 ∨ k = 16 ∧ l = 16 ∨ k = 24 ∧ l = 24) :
      (v >>> l).toUInt8 ^^^ UInt8.ofNat (c >>> k) = ((v ^^^ UInt32.ofNat c) >>> l).toUInt8 := by
    apply UInt8.eq_of_toBitVec_eq
    rcases h with ⟨rfl, rfl⟩ | ⟨rfl, rfl⟩ | ⟨rfl, rfl⟩ | ⟨rfl, rfl⟩
    all_goals
      simp only [UInt8.toBitVec_xor, UInt32.toBitVec_xor, UInt32.toBitVec_shiftRight,
        UInt32.toBitVec_toUInt8, UInt8.toBitVec_ofNat', UInt32.toBitVec_ofNat']
      ext i hi
      interval_cases i <;> simp [← BitVec.getLsbD_eq_getElem, BitVec.getLsbD_ofNat]
  have h0 := hbyte 0 0 (by simp)
  simp only [UInt32.shiftRight_zero, Nat.shiftRight_zero] at h0
  simp only [storeU32, flipBits, ← Nat.shiftRight_add]
  rw [h0, hbyte 8 8 (by simp), hbyte 16 16 (by simp), hbyte 24 24 (by simp)]

/-! ## Errors of an extended frame

The four data bytes before the checksum and the checksum itself make up a word of 64 bits,
the bits before the data of a short frame being zero.
-/

/-- The word of an error in the data together with the change of the stored checksum. -/
def codeword (d : Nat) : Nat := d ^^^ (skyHton32 (errorChecksum 32 d)).toNat <<< 32

theorem codeword_xor (d e : Nat) : codeword (d ^^^ e) = codeword d ^^^ codeword e := by
  have hstored : (skyHton32 (errorChecksum 32 (d ^^^ e))).toNat <<< 32 =
      (skyHton32 (errorChecksum 32 d)).toNat <<< 32 ^^^
        (skyHton32 (errorChecksum 32 e)).toNat <<< 32 := by
    rw [errorChecksum_xor, skyHton32_xor, UInt32.toNat_xor, Nat.shiftLeft_xor_distrib]
  rw [codeword, hstored, codeword, codeword, Nat.xor_assoc, Nat.xor_assoc, Nat.xor_left_comm e]

/-- The positions of the word that are not among the 32 from the given one on. -/
def outside (start : Nat) : List Nat :=
  (List.range 64).filter fun i => i < start ∨ start + 32 ≤ i

/-- The bursts that the check does not find, as words whose lower half is in the data. -/
def undetectedBursts : List Nat :=
  [0x13f036dc2, 0x27e06db84, 0x4fc0db708, 0x1179d7bd60, 0x22f3af7ac0, 0x3a237641400,
   0x55f63e6d800, 0xabec7cdb000, 0x777a6c308000, 0xeef4d8610000, 0x1ee4b1c840000,
   0x2dc9739080000, 0x332dc258c0000, 0x927cdb1900000, 0x2083b8ed80000000]

/-- The words of the code that are bursts, found by elimination for each position. -/
theorem words_shortenAll_outside :
    ∀ start < 33, ∀ word ∈ words (shortenAll (outside start) (images codeword 32)),
      word = 0 ∨ word ∈ undetectedBursts := by
  decide +kernel

theorem undetectedBursts_spec :
    ∀ word ∈ undetectedBursts, codeword (word % 2 ^ 32) = word ∧ 2 ^ 32 ≤ word := by
  decide +kernel

/-- The two halves of a word of the code. -/
theorem codeword_eq_iff {word : Nat} (hword : word < 2 ^ 64) :
    codeword (word % 2 ^ 32) = word ↔
      UInt32.ofNat (word >>> 32) = skyHton32 (errorChecksum 32 word) := by
  have hmod : errorChecksum 32 (word % 2 ^ 32) = errorChecksum 32 word := by
    rw [errorChecksum, lsbFirst_mod]
    rfl
  have hhigh : word >>> 32 < 2 ^ 32 := by
    rw [Nat.shiftRight_eq_div_pow]
    omega
  have hsplit : word % 2 ^ 32 ^^^ (word >>> 32) <<< 32 = word := by
    rw [Nat.xor_comm, Nat.shiftLeft_eq, Nat.mul_comm, Nat.shiftRight_eq_div_pow]
    exact mul_div_xor_mod 32 word
  rw [codeword, hmod]
  constructor
  · intro h
    have hshift := congrArg (· >>> 32) h
    simp only [Nat.shiftRight_xor_distrib, Nat.shiftLeft_shiftRight] at hshift
    rw [Nat.shiftRight_eq_div_pow, Nat.div_eq_of_lt (Nat.mod_lt _ (by decide)),
      Nat.zero_xor] at hshift
    rw [← hshift, UInt32.ofNat_toNat]
  · intro h
    rw [← h, UInt32.toNat_ofNat', Nat.mod_eq_of_lt hhigh, hsplit]

/-- Zeros may be put before the data and its error. -/
theorem errorChecksum_of_shiftLeft {n e word : Nat} (h : e <<< 32 = word <<< n) :
    errorChecksum n e = errorChecksum 32 word := by
  apply UInt32.eq_of_toBitVec_eq
  rw [errorChecksum, errorChecksum, ← feed_zero_shiftLeft crc32Polynomial (m := 32), h,
    Nat.add_comm, feed_zero_shiftLeft]

theorem shiftRight_of_shiftLeft {n e word : Nat} (h : e <<< 32 = word <<< n) :
    e >>> n = word >>> 32 := by
  have hshift : (e <<< 32) >>> (n + 32) = (word <<< n) >>> (n + 32) := by rw [h]
  rwa [Nat.add_comm, Nat.shiftRight_add, Nat.shiftLeft_shiftRight, Nat.add_comm,
    Nat.shiftRight_add, Nat.shiftLeft_shiftRight] at hshift

/-- A word of the code whose bits are all among 32 neighbouring ones. -/
theorem mem_undetectedBursts {p t : Nat} (hp : p ≠ 0) (hwidth : p < 2 ^ 32)
    (hcode : codeword (p <<< t % 2 ^ 32) = p <<< t) : p <<< t ∈ undetectedBursts := by
  have hspan : Spanned (images codeword 32) (p <<< t) :=
    (spanned_images_iff codeword_xor).mpr ⟨_, Nat.mod_lt _ (by decide), hcode⟩
  have hclear : ∀ i ∈ outside (min t 32), (p <<< t).testBit i = false := by
    intro i hi
    rw [outside, List.mem_filter, List.mem_range, decide_eq_true_iff] at hi
    rw [Nat.testBit_shiftLeft]
    obtain ⟨h64, hlow | hhigh⟩ := hi
    · rw [decide_eq_false (by omega), Bool.false_and]
    · rw [Nat.testBit_lt_two_pow (lt_of_lt_of_le hwidth
        (Nat.pow_le_pow_right (by decide) (by omega : 32 ≤ i - t))), Bool.and_false]
  have hmem := words_shortenAll_outside (min t 32) (by omega) (p <<< t)
    (mem_words_iff.mpr (spanned_shortenAll_iff.mpr ⟨hspan, hclear⟩))
  refine hmem.resolve_left fun hzero => hp ?_
  rwa [Nat.shiftLeft_eq_zero_iff] at hzero

theorem shiftLeft_lt_two_pow_iff {x m k : Nat} : x <<< k < 2 ^ (m + k) ↔ x < 2 ^ m := by
  rw [Nat.shiftLeft_eq, Nat.pow_add]
  exact Nat.mul_lt_mul_right (Nat.two_pow_pos k)

theorem shiftLeft_inj {x y k : Nat} (h : x <<< k = y <<< k) : x = y := by
  rw [Nat.shiftLeft_eq, Nat.shiftLeft_eq] at h
  exact Nat.eq_of_mul_eq_mul_right (Nat.two_pow_pos k) h

/-- A burst within the extended frame is missed just if it is one of the words, laid over
the end of the data and the checksum. -/
theorem errorChecksum_eq_iff {p s n : Nat} (hp : p ≠ 0) (hwidth : p < 2 ^ 32)
    (hlt : p <<< s < 2 ^ (n + 32)) :
    UInt32.ofNat ((p <<< s) >>> n) = skyHton32 (errorChecksum n (p <<< s)) ↔
      ∃ word ∈ undetectedBursts, (p <<< s) <<< 32 = word <<< n := by
  by_cases hs : s + 32 ≤ n
  · -- The burst ends within the data.
    have hdata : p <<< s < 2 ^ n :=
      lt_of_lt_of_le (shiftLeft_lt_two_pow_iff.mpr hwidth)
        (Nat.pow_le_pow_right Nat.two_pos (by omega))
    have hne : errorChecksum n (p <<< s) ≠ 0 := fun h =>
      feed_burst_ne_zero crc32Polynomial (by decide) hp hwidth hdata (congrArg UInt32.toBitVec h)
    rw [Nat.shiftRight_eq_div_pow, Nat.div_eq_of_lt hdata]
    constructor
    · intro h
      have hswap := congrArg skyHton32 h
      rw [skyHton32_hton32] at hswap
      exact absurd hswap.symm hne
    · rintro ⟨word, hmem, heq⟩
      have hsmall : word <<< n < 2 ^ (32 + n) := by
        rw [← heq, Nat.add_comm, shiftLeft_lt_two_pow_iff]
        exact hdata
      exact absurd (shiftLeft_lt_two_pow_iff.mp hsmall)
        (Nat.not_lt.mpr (undetectedBursts_spec word hmem).2)
  · obtain ⟨t, ht⟩ := Nat.exists_eq_add_of_le (by omega : n ≤ s + 32)
    have hshift : (p <<< s) <<< 32 = (p <<< t) <<< n := by
      rw [← Nat.shiftLeft_add, ← Nat.shiftLeft_add, ht, Nat.add_comm]
    have hword : p <<< t < 2 ^ 64 := by
      have hlast : (p <<< t) <<< n < 2 ^ (64 + n) := by
        have htotal : 64 + n = n + 32 + 32 := by omega
        rw [← hshift, htotal, shiftLeft_lt_two_pow_iff]
        exact hlt
      exact shiftLeft_lt_two_pow_iff.mp hlast
    rw [errorChecksum_of_shiftLeft hshift, shiftRight_of_shiftLeft hshift,
      ← codeword_eq_iff hword, hshift]
    constructor
    · intro hcode
      exact ⟨_, mem_undetectedBursts hp hwidth hcode, rfl⟩
    · rintro ⟨word, hmem, heq⟩
      rw [shiftLeft_inj heq]
      exact (undetectedBursts_spec word hmem).1

/-! ## The check of a frame with an error -/

theorem skyCheckCrc32_flip (frame : SkyRadioFrame) {data rest : Bytes}
    (hraw : frame.raw = data ++ storeU32 (skyHton32 (skyCrc32 data)) ++ rest)
    (hlen : frame.length = data.length + crc32Size) (e : Nat) :
    skyCheckCrc32 (frame.flip e) =
      if UInt32.ofNat (e >>> (8 * data.length)) = skyHton32 (errorChecksum (8 * data.length) e) then
        some ({ frame.flip e with length := data.length }, 0)
      else some (frame.flip e, .crcInvalidChecksum) := by
  have hflip : (frame.flip e).raw = flipBits e data ++
      storeU32 (skyHton32 (skyCrc32 data) ^^^ UInt32.ofNat (e >>> (8 * data.length))) ++
        flipBits (e >>> (8 * (data.length + crc32Size))) rest := by
    rw [SkyRadioFrame.flip, hraw, flipBits_append, flipBits_append, flipBits_storeU32,
      List.length_append, storeU32_length]
    rfl
  have hcheck := skyCheckCrc32_eq hflip (storeU32_length _)
    (by rw [flipBits_length]; exact hlen)
  -- Both sides of the comparison contain the checksum of the data.
  have hcompare : skyNtoh32 (loadU32 (storeU32 (skyHton32 (skyCrc32 data) ^^^
      UInt32.ofNat (e >>> (8 * data.length))))) ≠ skyCrc32 (flipBits e data) ↔
        ¬ UInt32.ofNat (e >>> (8 * data.length)) =
          skyHton32 (errorChecksum (8 * data.length) e) := by
    rw [loadU32_storeU32, skyNtoh32, skyHton32_xor, skyHton32_hton32, skyCrc32_flipBits]
    refine not_congr ⟨fun h => ?_, fun h => ?_⟩
    · rw [← (UInt32.xor_right_inj _).mp h, skyHton32_hton32]
    · rw [h, skyHton32_hton32]
  rw [hcheck, flipBits_length]
  by_cases h : UInt32.ofNat (e >>> (8 * data.length)) =
      skyHton32 (errorChecksum (8 * data.length) e)
  · rw [if_neg fun hne => hcompare.mp hne h, if_pos h]
  · rw [if_pos (hcompare.mpr h), if_neg h]

/-- The check of an extended frame finds every burst of at most 32 bits but fifteen, which
all reach from the data into the checksum; a frame with one of those is taken. -/
theorem skyCheckCrc32_burst {frame : SkyRadioFrame} (hraw : frame.raw.length = rawLen)
    (hlen : frame.length ≤ skyFrameMaxLen - crc32Size) {p s : Nat} (hp : p ≠ 0)
    (hwidth : p < 2 ^ 32) (hwithin : p <<< s < 2 ^ (8 * (frame.length + crc32Size))) :
    (∃ extended, skyExtendWithCrc32 frame = some (extended, 0) ∧
      skyCheckCrc32 (extended.flip (p <<< s)) =
        if ∃ word ∈ undetectedBursts, (p <<< s) <<< 32 = word <<< (8 * frame.length) then
          some ({ extended.flip (p <<< s) with length := frame.length }, 0)
        else some (extended.flip (p <<< s), .crcInvalidChecksum)) ∧
    ∀ word ∈ undetectedBursts, word % 2 ^ 32 ≠ 0 ∧ word / 2 ^ 32 ≠ 0 := by
  have hcontents := SkyRadioFrame.contents_length_of_le hraw hlen
  refine ⟨⟨_, skyExtendWithCrc32_eq hraw hlen, ?_⟩, by decide⟩
  have hcheck := skyCheckCrc32_flip
    { frame with
      raw := frame.contents ++ storeU32 (skyHton32 (skyCrc32 frame.contents)) ++
        frame.raw.drop (frame.length + crc32Size)
      length := frame.length + crc32Size } rfl (by rw [hcontents]) (p <<< s)
  rw [hcontents] at hcheck
  rw [hcheck]
  refine if_congr (errorChecksum_eq_iff hp hwidth ?_) rfl rfl
  rwa [Nat.mul_add] at hwithin

theorem skyCheckCrc32_burst_example :
    (∃ extended, skyExtendWithCrc32 (.ofBytes [0x00]) = some (extended, 0) ∧
      skyCheckCrc32 (extended.flip (0x410771db <<< 7)) =
        if ∃ word ∈ undetectedBursts, (0x410771db <<< 7) <<< 32 = word <<< (8 * 1) then
          some ({ extended.flip (0x410771db <<< 7) with length := 1 }, (0 : SkyRet))
        else some (extended.flip (0x410771db <<< 7), .crcInvalidChecksum)) ∧
    ∀ word ∈ undetectedBursts, word % 2 ^ 32 ≠ 0 ∧ word / 2 ^ 32 ≠ 0 :=
  @skyCheckCrc32_burst (.ofBytes [0x00]) (SkyRadioFrame.ofBytes_raw_length (by decide))
    (by decide) 0x410771db 7 (by decide) (by decide) (by decide)

/-- A frame of one byte, its last data bit turned over, and the four bytes of the checksum by
the polynomial itself: a burst of 31 bits. -/
theorem not_skyCheckCrc32_burst :
    ¬ ∀ (frame extended : SkyRadioFrame) (p s : Nat), frame.raw.length = rawLen →
      frame.length ≤ skyFrameMaxLen - crc32Size → p ≠ 0 → p < 2 ^ 32 →
        p <<< s < 2 ^ (8 * (frame.length + crc32Size)) →
          skyExtendWithCrc32 frame = some (extended, 0) →
            skyCheckCrc32 (extended.flip (p <<< s)) =
              some (extended.flip (p <<< s), .crcInvalidChecksum) := by
  intro h
  have hraw : (SkyRadioFrame.ofBytes [0x00]).raw.length = rawLen :=
    SkyRadioFrame.ofBytes_raw_length (by decide)
  have hcheck := h (.ofBytes [0x00]) _ 0x410771db 7 hraw (by decide) (by decide) (by decide)
    (by decide) (skyExtendWithCrc32_eq hraw (by decide))
  revert hcheck
  decide +kernel

end Skylink
