import Mathlib.Data.Int.Basic
import Mathlib.Tactic.IntervalCases
import Mathlib.Tactic.Linarith

/-!
# Return codes, tick arithmetic and byte order

The embedding follows the Linux platform header: ticks are signed 32-bit
integers, kept here as `Int`, and the host is little-endian. Functions that
return a count or a negative code return the code in `Except`.
-/

namespace Skylink

/-- A negative return code of the C interface. -/
abbrev SkyRet := Int

abbrev Bytes := List UInt8

namespace SkyRet

def invalidEncodedLength : SkyRet := -2
def invalidPlainLength : SkyRet := -3
def invalidVersion : SkyRet := -4
def invalidExtLength : SkyRet := -6
def redundantExtensions : SkyRet := -7
def filteredByIdentity : SkyRet := -8
def crcInvalidLength : SkyRet := -9
def crcInvalidChecksum : SkyRet := -9
def golayFailed : SkyRet := -10
def rsFailed : SkyRet := -12
def rsInvalidLength : SkyRet := -13
def authFailed : SkyRet := -30
def authMissing : SkyRet := -31
def excessiveHmacJump : SkyRet := -33
def frameTooLongForHmac : SkyRet := -34
def frameTooShortForHmac : SkyRet := -35
def noSpaceForPayload : SkyRet := -40
def invalidExtType : SkyRet := -43
def ringEmpty : SkyRet := -50
def ringInvalidSequence : SkyRet := -51
def ringRingFull : SkyRet := -54
def ringPacketAlreadyIn : SkyRet := -55
def ringCannotRecall : SkyRet := -56
def ringResendFull : SkyRet := -57
def ringInvalidAcknowledge : SkyRet := -58
def ringSequencesDetached : SkyRet := -59
def ringSequencesOutOfSync : SkyRet := -60
def tooLongPayload : SkyRet := -61
def ebufferInvalidIndex : SkyRet := -110
def ebufferChainCorrupted : SkyRet := -111
def ebufferNoSpace : SkyRet := -112
def ebufferTooLongPayload : SkyRet := -113

end SkyRet

theorem exceptMap_ok_iff {ε α β : Type} {f : α → β} {x : Except ε α} {b : β} :
    x.map f = .ok b ↔ ∃ a, x = .ok a ∧ f a = b := by
  cases x <;> simp [Except.map]

/-! ## Positive modulo -/

/-- `while (x < 0) x = x + m`, for at most the given number of turns. -/
def addWhileNegative (m : Int) : Nat → Int → Int
  | 0, x => x
  | fuel + 1, x => if x < 0 then addWhileNegative m fuel (x + m) else x

/-- `while (x >= m) x = x - m`, for at most the given number of turns. -/
def subWhileAtLeast (m : Int) : Nat → Int → Int
  | 0, x => x
  | fuel + 1, x => if m ≤ x then subWhileAtLeast m fuel (x - m) else x

/-- The division is used only for `x` large compared with `m`; after that test
neither loop turns more than twelve times. -/
def positiveModulo (x m : Int) : Int :=
  if m * 12 < |x| then Int.tmod (Int.tmod x m + m) m
  else subWhileAtLeast m 12 (addWhileNegative m 12 x)

theorem addWhileNegative_spec {m : Int} (hm : 0 < m) (fuel : Nat) (x : Int)
    (hx : -(fuel * m) ≤ x) :
    0 ≤ addWhileNegative m fuel x ∧ addWhileNegative m fuel x % m = x % m ∧
      addWhileNegative m fuel x ≤ max x (m - 1) := by
  induction fuel generalizing x with
  | zero => simpa [addWhileNegative] using hx
  | succ fuel ih =>
      rw [addWhileNegative]
      split
      case isTrue hneg =>
        have hx' : -(fuel * m) ≤ x + m := by
          push_cast at hx
          linarith
        obtain ⟨h0, hmod, hle⟩ := ih (x + m) hx'
        refine ⟨h0, by simpa using hmod, ?_⟩
        omega
      case isFalse hpos => exact ⟨by omega, rfl, le_max_left _ _⟩

theorem subWhileAtLeast_spec {m : Int} (fuel : Nat) (x : Int)
    (h0 : 0 ≤ x) (hx : x < (fuel + 1) * m) :
    subWhileAtLeast m fuel x = x % m := by
  induction fuel generalizing x with
  | zero =>
      have hlt : x < m := by simpa using hx
      simpa [subWhileAtLeast] using (Int.emod_eq_of_lt h0 hlt).symm
  | succ fuel ih =>
      rw [subWhileAtLeast]
      split
      case isTrue hle =>
        have hx' : x - m < (fuel + 1) * m := by
          push_cast at hx
          linarith
        rw [ih (x - m) (by omega) hx']
        exact Int.sub_emod_right x m
      case isFalse hlt => exact (Int.emod_eq_of_lt h0 (by omega)).symm

/-- For every positive modulus the function is the Euclidean remainder. -/
theorem positiveModulo_eq_emod {m : Int} (hm : 0 < m) (x : Int) :
    positiveModulo x m = x % m := by
  rw [positiveModulo]
  split
  case isTrue hbig =>
    have hr : -m < Int.tmod x m := by
      have := Int.lt_tmod_of_pos x hm
      omega
    have hnn : 0 ≤ Int.tmod x m + m := by omega
    rw [Int.tmod_eq_emod_of_nonneg hnn, Int.add_emod_right]
    have hx : x = Int.tmod x m + m * Int.tdiv x m := (Int.tmod_add_mul_tdiv x m).symm
    conv_rhs => rw [hx]
    rw [Int.add_mul_emod_self_left]
  case isFalse hsmall =>
    have habs : |x| ≤ m * 12 := by omega
    obtain ⟨hlo, hhi⟩ := abs_le.mp habs
    obtain ⟨h0, hmod, hle⟩ := addWhileNegative_spec hm 12 x (by push_cast; linarith)
    rw [subWhileAtLeast_spec 12 _ h0 (by push_cast; omega), hmod]

theorem positiveModulo_nonneg {m : Int} (hm : 0 < m) (x : Int) :
    0 ≤ positiveModulo x m := by
  rw [positiveModulo_eq_emod hm]
  exact Int.emod_nonneg x (by omega)

/-- `MOD_TIME_TICKS`. -/
def modTimeTicks : Int := 16777216

def wrapTimeTicks (timeTicks : Int) : Int := positiveModulo timeTicks modTimeTicks

theorem wrapTimeTicks_eq_emod (t : Int) : wrapTimeTicks t = t % modTimeTicks :=
  positiveModulo_eq_emod (by decide) t

/-! ### In 32 bits

The same functions with every intermediate value checked. They give `none` where a value
leaves `int32_t`, and where a loop is not over after `fuel` tests of its condition.
-/

def int32Min : Int := -2147483648

def int32Max : Int := 2147483647

def int32 (v : Int) : Option Int := if int32Min ≤ v ∧ v ≤ int32Max then some v else none

def addWhileNegative32 (m : Int) : Nat → Int → Option Int
  | 0, _ => none
  | fuel + 1, x => if x < 0 then do addWhileNegative32 m fuel (← int32 (x + m)) else some x

def subWhileAtLeast32 (m : Int) : Nat → Int → Option Int
  | 0, _ => none
  | fuel + 1, x => if m ≤ x then do subWhileAtLeast32 m fuel (← int32 (x - m)) else some x

def positiveModulo32 (fuel : Nat) (x m : Int) : Option Int := do
  let magnitude ← int32 |x|
  let bound ← int32 (m * 12)
  if bound < magnitude then
    let sum ← int32 (Int.tmod x m + m)
    some (Int.tmod sum m)
  else
    let x ← addWhileNegative32 m fuel x
    subWhileAtLeast32 m fuel x

def wrapTimeTicks32 (fuel : Nat) (timeTicks : Int) : Option Int :=
  positiveModulo32 fuel timeTicks modTimeTicks

theorem int32_eq_some {v : Int} (h : int32Min ≤ v ∧ v ≤ int32Max) : int32 v = some v := if_pos h

/-- Enough turns bring a value that is not too far below zero into the range of the modulus,
and the sums stay between the first value and the modulus. -/
theorem addWhileNegative32_eq {m : Int} (hm : 0 < m) (hmax : m ≤ int32Max) {turns fuel : Nat}
    (hfuel : turns < fuel) {x : Int} (hlo : int32Min ≤ x) (hx : -(turns * m) ≤ x) :
    addWhileNegative32 m fuel x = some (addWhileNegative m turns x) := by
  induction turns generalizing fuel x with
  | zero =>
      obtain ⟨fuel, rfl⟩ := Nat.exists_eq_succ_of_ne_zero (by omega : fuel ≠ 0)
      rw [addWhileNegative32, if_neg (by simpa using hx)]
      rfl
  | succ turns ih =>
      obtain ⟨fuel, rfl⟩ := Nat.exists_eq_succ_of_ne_zero (by omega : fuel ≠ 0)
      rw [addWhileNegative32, addWhileNegative]
      split
      case isTrue hneg =>
        have hsum : int32 (x + m) = some (x + m) := int32_eq_some ⟨by omega, by omega⟩
        have hx' : -(turns * m) ≤ x + m := by
          push_cast at hx
          linarith
        rw [hsum]
        exact ih (by omega) (by omega) hx'
      case isFalse => rfl

theorem subWhileAtLeast32_eq {m : Int} (hm : 0 < m) {turns fuel : Nat} (hfuel : turns < fuel)
    {x : Int} (h0 : 0 ≤ x) (hmax : x ≤ int32Max) (hx : x < (turns + 1) * m) :
    subWhileAtLeast32 m fuel x = some (subWhileAtLeast m turns x) := by
  induction turns generalizing fuel x with
  | zero =>
      obtain ⟨fuel, rfl⟩ := Nat.exists_eq_succ_of_ne_zero (by omega : fuel ≠ 0)
      rw [subWhileAtLeast32, if_neg (by simpa using hx)]
      rfl
  | succ turns ih =>
      obtain ⟨fuel, rfl⟩ := Nat.exists_eq_succ_of_ne_zero (by omega : fuel ≠ 0)
      rw [subWhileAtLeast32, subWhileAtLeast]
      split
      case isTrue hle =>
        have hlow : int32Min ≤ 0 := by decide
        have hdiff : int32 (x - m) = some (x - m) := int32_eq_some ⟨by omega, by omega⟩
        have hx' : x - m < (turns + 1) * m := by
          push_cast at hx
          linarith
        rw [hdiff]
        exact ih (by omega) (by omega) (by omega) hx'
      case isFalse => rfl

/-- No value leaves the 32 bits as long as twelve times the modulus does not. -/
theorem positiveModulo32_eq_emod {x m : Int} (hlo : int32Min < x) (hhi : x ≤ int32Max)
    (hm : 0 < m) (hmax : m ≤ int32Max / 12) {fuel : Nat} (hfuel : 12 < fuel) :
    positiveModulo32 fuel x m = some (x % m) := by
  have hmin : int32Min = -int32Max - 1 := rfl
  have hmagnitude : int32 |x| = some |x| := by
    refine int32_eq_some ⟨?_, abs_le.mpr ⟨by omega, hhi⟩⟩
    exact le_trans (by decide) (abs_nonneg x)
  have hbound : int32 (m * 12) = some (m * 12) := int32_eq_some ⟨by omega, by omega⟩
  rw [← positiveModulo_eq_emod hm, positiveModulo32, positiveModulo, hmagnitude, hbound]
  simp only [Option.bind_eq_bind, Option.bind_some]
  split
  case isTrue hbig =>
    have hlow := Int.lt_tmod_of_pos x hm
    have hhigh := Int.tmod_lt_of_pos x hm
    rw [int32_eq_some ⟨by omega, by omega⟩]
    rfl
  case isFalse hsmall =>
    obtain ⟨hneg, hpos⟩ := abs_le.mp (Int.not_lt.mp hsmall)
    have hx : -((12 : Nat) * m) ≤ x := by
      push_cast
      linarith
    obtain ⟨h0, -, hle⟩ := addWhileNegative_spec hm 12 x hx
    rw [addWhileNegative32_eq hm (by omega) hfuel hlo.le hx]
    apply subWhileAtLeast32_eq hm hfuel h0 (by omega)
    push_cast
    omega

/-- In 32 bits the function ends, without an overflow, at the Euclidean remainder, and the
difference of two ticks is brought back into the range of the ticks. -/
theorem positiveModulo32_total :
    (∀ x m : Int, int32Min < x → x ≤ int32Max → 0 < m → m ≤ int32Max / 12 →
      ∀ fuel > 12, positiveModulo32 fuel x m = some (x % m)) ∧
    ∀ a b : Int, 0 ≤ a → a < modTimeTicks → 0 ≤ b → b < modTimeTicks →
      ∀ fuel > 12, ∃ ticks, (int32 (a - b)).bind (wrapTimeTicks32 fuel) = some ticks ∧
        0 ≤ ticks ∧ ticks < modTimeTicks := by
  refine ⟨fun x m hlo hhi hm hmax fuel hfuel =>
    positiveModulo32_eq_emod hlo hhi hm hmax hfuel, ?_⟩
  intro a b ha0 ha hb0 hb fuel hfuel
  have hmod : modTimeTicks = 16777216 := rfl
  have hmax : int32Max = 2147483647 := rfl
  have hmin : int32Min = -2147483648 := rfl
  refine ⟨(a - b) % modTimeTicks, ?_, Int.emod_nonneg _ (by decide),
    Int.emod_lt_of_pos _ (by decide)⟩
  rw [int32_eq_some ⟨by omega, by omega⟩]
  exact positiveModulo32_eq_emod (by omega) (by omega) (by decide) (by decide) hfuel

theorem positiveModulo32_total_example :
    positiveModulo32 13 (-25) 7 = some 3 ∧
      ∃ ticks, (int32 (3 - 16777215)).bind (wrapTimeTicks32 13) = some ticks ∧
        0 ≤ ticks ∧ ticks < modTimeTicks :=
  ⟨positiveModulo32_total.1 (-25) 7 (by decide) (by decide) (by decide) (by decide) 13 (by decide),
    positiveModulo32_total.2 3 16777215 (by decide) (by decide) (by decide) (by decide) 13
      (by decide)⟩

/-! ## Byte order -/

def skyHton16 (vh : UInt16) : UInt16 :=
  ((vh &&& 0xff00) >>> 8) ||| ((vh &&& 0x00ff) <<< 8)

def skyNtoh16 (vn : UInt16) : UInt16 := skyHton16 vn

def skyHton32 (vh : UInt32) : UInt32 :=
  ((vh &&& 0xff000000) >>> 24) ||| ((vh &&& 0x000000ff) <<< 24) |||
    ((vh &&& 0x0000ff00) <<< 8) ||| ((vh &&& 0x00ff0000) >>> 8)

def skyNtoh32 (vn : UInt32) : UInt32 := skyHton32 vn

theorem skyHton16_hton16 (v : UInt16) : skyHton16 (skyHton16 v) = v := by
  apply UInt16.eq_of_toBitVec_eq
  simp only [skyHton16, UInt16.toBitVec_or, UInt16.toBitVec_and, UInt16.toBitVec_shiftLeft,
    UInt16.toBitVec_shiftRight]
  -- Compare bit by bit: no decision procedure for bit vectors is at hand.
  ext i hi
  interval_cases i <;> simp

theorem skyHton32_hton32 (v : UInt32) : skyHton32 (skyHton32 v) = v := by
  apply UInt32.eq_of_toBitVec_eq
  simp only [skyHton32, UInt32.toBitVec_or, UInt32.toBitVec_and, UInt32.toBitVec_shiftLeft,
    UInt32.toBitVec_shiftRight]
  ext i hi
  interval_cases i <;> simp

/-! ## Host memory layout

A multi-byte field is stored with its low byte first. -/

def storeU16 (v : UInt16) : Bytes := [v.toUInt8, (v >>> 8).toUInt8]

def loadU16 (b : Bytes) : UInt16 :=
  (b.getD 0 0).toUInt16 ||| ((b.getD 1 0).toUInt16 <<< 8)

def storeU32 (v : UInt32) : Bytes :=
  [v.toUInt8, (v >>> 8).toUInt8, (v >>> 16).toUInt8, (v >>> 24).toUInt8]

def loadU32 (b : Bytes) : UInt32 :=
  (b.getD 0 0).toUInt32 ||| ((b.getD 1 0).toUInt32 <<< 8) |||
    ((b.getD 2 0).toUInt32 <<< 16) ||| ((b.getD 3 0).toUInt32 <<< 24)

@[simp] theorem storeU16_length (v : UInt16) : (storeU16 v).length = 2 := rfl

@[simp] theorem storeU32_length (v : UInt32) : (storeU32 v).length = 4 := rfl

theorem loadU16_storeU16_append (v : UInt16) (rest : Bytes) :
    loadU16 (storeU16 v ++ rest) = v := by
  apply UInt16.eq_of_toBitVec_eq
  simp only [loadU16, storeU16, List.cons_append, List.getD_cons_zero, List.getD_cons_succ,
    UInt16.toBitVec_or, UInt16.toBitVec_shiftLeft, UInt8.toBitVec_toUInt16,
    UInt16.toBitVec_toUInt8, UInt16.toBitVec_shiftRight]
  ext i hi
  interval_cases i <;> simp

theorem loadU32_storeU32_append (v : UInt32) (rest : Bytes) :
    loadU32 (storeU32 v ++ rest) = v := by
  apply UInt32.eq_of_toBitVec_eq
  simp only [loadU32, storeU32, List.cons_append, List.getD_cons_zero, List.getD_cons_succ,
    UInt32.toBitVec_or, UInt32.toBitVec_shiftLeft, UInt8.toBitVec_toUInt32,
    UInt32.toBitVec_toUInt8, UInt32.toBitVec_shiftRight]
  ext i hi
  interval_cases i <;> simp

theorem storeU16_loadU16 (a b : UInt8) : storeU16 (loadU16 [a, b]) = [a, b] := by
  have hfirst : (loadU16 [a, b]).toUInt8 = a := by
    apply UInt8.eq_of_toBitVec_eq
    simp only [loadU16, List.getD_cons_zero, List.getD_cons_succ, UInt16.toBitVec_or,
      UInt16.toBitVec_shiftLeft, UInt8.toBitVec_toUInt16, UInt16.toBitVec_toUInt8]
    ext i hi
    interval_cases i <;> simp
  have hsecond : (loadU16 [a, b] >>> 8).toUInt8 = b := by
    apply UInt8.eq_of_toBitVec_eq
    simp only [loadU16, List.getD_cons_zero, List.getD_cons_succ, UInt16.toBitVec_or,
      UInt16.toBitVec_shiftLeft, UInt8.toBitVec_toUInt16, UInt16.toBitVec_toUInt8,
      UInt16.toBitVec_shiftRight]
    ext i hi
    interval_cases i <;> simp
  rw [storeU16, hfirst, hsecond]

theorem storeU32_loadU32 (a b c d : UInt8) : storeU32 (loadU32 [a, b, c, d]) = [a, b, c, d] := by
  have hbytes : (loadU32 [a, b, c, d]).toUInt8 = a ∧ (loadU32 [a, b, c, d] >>> 8).toUInt8 = b ∧
      (loadU32 [a, b, c, d] >>> 16).toUInt8 = c ∧ (loadU32 [a, b, c, d] >>> 24).toUInt8 = d := by
    refine ⟨?_, ?_, ?_, ?_⟩
    all_goals
      apply UInt8.eq_of_toBitVec_eq
      simp only [loadU32, List.getD_cons_zero, List.getD_cons_succ, UInt32.toBitVec_or,
        UInt32.toBitVec_shiftLeft, UInt8.toBitVec_toUInt32, UInt32.toBitVec_toUInt8,
        UInt32.toBitVec_shiftRight]
      ext i hi
      interval_cases i <;> simp
  rw [storeU32, hbytes.1, hbytes.2.1, hbytes.2.2.1, hbytes.2.2.2]

theorem loadU16_storeU16 (v : UInt16) : loadU16 (storeU16 v) = v := by
  simpa using loadU16_storeU16_append v []

theorem loadU32_storeU32 (v : UInt32) : loadU32 (storeU32 v) = v := by
  simpa using loadU32_storeU32_append v []

/-- In network byte order the high byte is the first in memory. -/
theorem storeU16_hton16 (v : UInt16) :
    storeU16 (skyHton16 v) = [(v >>> 8).toUInt8, v.toUInt8] := by
  have hfirst : (skyHton16 v).toUInt8 = (v >>> 8).toUInt8 := by
    apply UInt8.eq_of_toBitVec_eq
    simp only [skyHton16, UInt16.toBitVec_or, UInt16.toBitVec_and, UInt16.toBitVec_shiftLeft,
      UInt16.toBitVec_shiftRight, UInt16.toBitVec_toUInt8]
    ext i hi
    interval_cases i <;> simp
  have hsecond : (skyHton16 v >>> 8).toUInt8 = v.toUInt8 := by
    apply UInt8.eq_of_toBitVec_eq
    simp only [skyHton16, UInt16.toBitVec_or, UInt16.toBitVec_and, UInt16.toBitVec_shiftLeft,
      UInt16.toBitVec_shiftRight, UInt16.toBitVec_toUInt8]
    ext i hi
    interval_cases i <;> simp
  rw [storeU16, hfirst, hsecond]

theorem storeU32_hton32 (v : UInt32) :
    storeU32 (skyHton32 v) =
      [(v >>> 24).toUInt8, (v >>> 16).toUInt8, (v >>> 8).toUInt8, v.toUInt8] := by
  have hbyte (k l : UInt32)
      (h : k = 0 ∧ l = 24 ∨ k = 8 ∧ l = 16 ∨ k = 16 ∧ l = 8 ∨ k = 24 ∧ l = 0) :
      (skyHton32 v >>> k).toUInt8 = (v >>> l).toUInt8 := by
    apply UInt8.eq_of_toBitVec_eq
    rcases h with ⟨rfl, rfl⟩ | ⟨rfl, rfl⟩ | ⟨rfl, rfl⟩ | ⟨rfl, rfl⟩
    all_goals
      simp only [skyHton32, UInt32.toBitVec_or, UInt32.toBitVec_and, UInt32.toBitVec_shiftLeft,
        UInt32.toBitVec_shiftRight, UInt32.toBitVec_toUInt8]
      ext i hi
      interval_cases i <;> simp
  have hfirst := hbyte 0 24 (by simp)
  have hlast := hbyte 24 0 (by simp)
  simp only [UInt32.shiftRight_zero] at hfirst hlast
  rw [storeU32, hfirst, hbyte 8 16 (by simp), hbyte 16 8 (by simp), hlast]

end Skylink
