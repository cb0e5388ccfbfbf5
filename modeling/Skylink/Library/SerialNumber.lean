import Mathlib.Data.Int.ModEq
import Mathlib.Data.Nat.ModEq

/-!
# Counters seen through a modulus

An unbounded counter is read as a slot of a ring of `n` slots, or as a serial number
of `w` bits. Within a window that is not longer than the modulus the reading loses
nothing.
-/

namespace SerialNumber

/-! ## Slots -/

theorem slot_inj {n a b c : Nat} (ha : c ≤ a) (ha' : a < c + n) (hb : c ≤ b)
    (hb' : b < c + n) (h : a % n = b % n) : a = b := by
  rcases le_total a b with hab | hab
  · exact Nat.ModEq.eq_of_abs_lt h (by rw [abs_lt]; omega)
  · exact (Nat.ModEq.eq_of_abs_lt h.symm (by rw [abs_lt]; omega)).symm

/-- The distance between two slots is the distance between the counters. -/
theorem slot_sub {n a b : Nat} (hba : b ≤ a) (hlt : a - b < n) :
    (((a % n : Nat) : Int) - ((b % n : Nat) : Int)) % (n : Int) = ((a - b : Nat) : Int) := by
  have hmod : (((a % n : Nat) : Int) - ((b % n : Nat) : Int)) % (n : Int) =
      ((a : Int) - b) % n := by
    push_cast
    exact Int.ModEq.sub (Int.mod_modEq _ _) (Int.mod_modEq _ _)
  rw [hmod, ← Nat.cast_sub hba]
  exact Int.emod_eq_of_lt (by omega) (by omega)

theorem slot_add (n a k : Nat) : (a % n + k) % n = (a + k) % n := Nat.mod_add_mod a n k

/-! ## Serial numbers -/

variable {w : Nat}

/-- The serial number of a counter that starts at `s`. -/
def serial (s : BitVec w) (u : Nat) : BitVec w := s + BitVec.ofNat w u

@[simp] theorem serial_zero (s : BitVec w) : serial s 0 = s := by simp [serial]

theorem serial_add (s : BitVec w) (u k : Nat) :
    serial s u + BitVec.ofNat w k = serial s (u + k) := by
  rw [serial, serial, BitVec.add_assoc, BitVec.ofNat_add]

theorem serial_succ (s : BitVec w) (u : Nat) : serial s u + 1 = serial s (u + 1) :=
  serial_add s u 1

/-- Ahead by less than the modulus: the difference is exact. -/
theorem serial_sub (s : BitVec w) {a b : Nat} (hba : b ≤ a) (hlt : a - b < 2 ^ w) :
    (serial s a - serial s b).toNat = a - b := by
  have hsplit : serial s a = serial s b + BitVec.ofNat w (a - b) := by
    rw [serial_add, Nat.add_sub_cancel' hba]
  rw [hsplit, BitVec.add_comm, BitVec.add_sub_cancel, BitVec.toNat_ofNat,
    Nat.mod_eq_of_lt hlt]

/-- Behind by at most the modulus: the difference wraps around once. -/
theorem serial_sub_of_lt (s : BitVec w) {a b : Nat} (hab : a < b) (hle : b - a ≤ 2 ^ w) :
    (serial s a - serial s b).toNat = 2 ^ w - (b - a) := by
  have hb : serial s b = serial s a + BitVec.ofNat w (b - a) := by
    rw [serial_add, Nat.add_sub_cancel' hab.le]
  have hzero : BitVec.ofNat w (2 ^ w) = 0#w := by
    apply BitVec.eq_of_toNat_eq
    rw [BitVec.toNat_ofNat, BitVec.toNat_ofNat, Nat.mod_self, Nat.zero_mod]
  have hwrap : serial s a = serial s b + BitVec.ofNat w (2 ^ w - (b - a)) := by
    rw [hb, BitVec.add_assoc, ← BitVec.ofNat_add, Nat.add_sub_cancel' hle, hzero,
      BitVec.add_zero]
  rw [hwrap, BitVec.add_comm, BitVec.add_sub_cancel, BitVec.toNat_ofNat,
    Nat.mod_eq_of_lt (by omega)]

theorem serial_inj (s : BitVec w) {a b c : Nat} (ha : c ≤ a) (ha' : a < c + 2 ^ w)
    (hb : c ≤ b) (hb' : b < c + 2 ^ w) (h : serial s a = serial s b) : a = b := by
  rcases le_total b a with hba | hab
  · have := serial_sub s hba (by omega)
    rw [h, BitVec.sub_self, BitVec.toNat_zero] at this
    omega
  · have := serial_sub s hab (by omega)
    rw [h, BitVec.sub_self, BitVec.toNat_zero] at this
    omega

/-- Every serial number belongs to one counter of a window of full length. -/
theorem exists_serial (s : BitVec w) (base : Nat) (v : BitVec w) :
    serial s (base + (v - serial s base).toNat) = v := by
  rw [← serial_add, BitVec.ofNat_toNat, BitVec.setWidth_eq, BitVec.add_comm,
    BitVec.sub_add_cancel]

/-- The way forward and the way back are one round together. -/
theorem toNat_sub_add_sub {a b : BitVec w} (h : 1 ≤ (a - b).toNat) :
    (a - b).toNat + (b - a).toNat = 2 ^ w := by
  have hneg : b - a = -(a - b) := by grind
  have hlt := (a - b).isLt
  rw [hneg, BitVec.toNat_neg, Nat.mod_eq_of_lt (by omega)]
  omega

end SerialNumber
