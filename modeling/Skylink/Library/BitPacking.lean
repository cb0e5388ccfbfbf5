import Mathlib.Data.Nat.Bitwise
import Mathlib.Tactic.Positivity
import Mathlib.Tactic.Ring

/-!
# Packing bits into bytes

Numbers are written bit by bit, the most significant bit first, and every eight bits make
up a byte.
-/

namespace BitPacking

/-- The `n` lowest bits of a number, the most significant bit first. -/
def bitsOf : Nat → Nat → List Bool
  | 0, _ => []
  | n + 1, v => v.testBit n :: bitsOf n v

/-- The number that the bits are of. -/
def ofBits (bits : List Bool) : Nat := bits.foldl (fun acc b => 2 * acc + b.toNat) 0

/-- The bytes of the bits; fewer than eight bits at the end are left out. -/
def pack (bits : List Bool) : List UInt8 :=
  (List.range (bits.length / 8)).map fun i => UInt8.ofNat (ofBits ((bits.drop (8 * i)).take 8))

/-- The `n` bytes of a number, the most significant byte first. -/
def bigEndian (n v : Nat) : List UInt8 :=
  (List.range n).reverse.map fun i => UInt8.ofNat (v >>> (8 * i))

@[simp] theorem bitsOf_length (n v : Nat) : (bitsOf n v).length = n := by
  induction n with
  | zero => rfl
  | succ n ih => rw [bitsOf, List.length_cons, ih]

/-- The upper bits come before the lower ones. -/
theorem bitsOf_add (m n v : Nat) : bitsOf (m + n) v = bitsOf m (v >>> n) ++ bitsOf n v := by
  induction m with
  | zero => rw [Nat.zero_add]; rfl
  | succ m ih =>
      rw [Nat.succ_add, bitsOf, bitsOf, ih, List.cons_append, Nat.testBit_shiftRight,
        Nat.add_comm n m]

theorem ofBits_append_singleton (bits : List Bool) (b : Bool) :
    ofBits (bits ++ [b]) = 2 * ofBits bits + b.toNat := by
  rw [ofBits, ofBits, List.foldl_append, List.foldl_cons, List.foldl_nil]

theorem ofBits_bitsOf (n v : Nat) : ofBits (bitsOf n v) = v % 2 ^ n := by
  induction n generalizing v with
  | zero => rw [Nat.pow_zero, Nat.mod_one]; rfl
  | succ n ih =>
      have hlow : bitsOf 1 v = [v.testBit 0] := rfl
      have hbit : (v.testBit 0).toNat = v % 2 := by
        rw [Nat.testBit_zero]
        rcases Nat.mod_two_eq_zero_or_one v with h | h <;> rw [h] <;> rfl
      calc ofBits (bitsOf (n + 1) v)
        _ = 2 * ofBits (bitsOf n (v >>> 1)) + (v.testBit 0).toNat := by
          rw [bitsOf_add n 1, hlow, ofBits_append_singleton]
        _ = 2 * (v / 2 % 2 ^ n) + v % 2 := by
          rw [ih, hbit, Nat.shiftRight_eq_div_pow, Nat.pow_one]
        _ = v % 2 ^ (n + 1) := by
          rw [Nat.pow_succ', Nat.mod_mul, Nat.add_comm]

/-- Eight bits make up a byte of their own. -/
theorem pack_append {bits : List Bool} (h : bits.length = 8) (rest : List Bool) :
    pack (bits ++ rest) = UInt8.ofNat (ofBits bits) :: pack rest := by
  have hcount : (bits ++ rest).length / 8 = rest.length / 8 + 1 := by
    rw [List.length_append, h, Nat.add_comm, Nat.add_div_right _ (by decide)]
  rw [pack, hcount, List.range_succ_eq_map, List.map_cons, List.map_map, pack]
  refine congrArg₂ _ ?_ (List.map_congr_left fun i _ => ?_)
  · rw [Nat.mul_zero, List.drop_zero, List.take_left' h]
  · have hdrop : (bits ++ rest).drop (8 * (i + 1)) = rest.drop (8 * i) := by
      have hadd : 8 * (i + 1) = 8 + 8 * i := by omega
      rw [hadd, ← List.drop_drop, List.drop_left' h]
    rw [Function.comp_apply, Nat.succ_eq_add_one, hdrop]

theorem pack_bitsOf_append (v : Nat) (rest : List Bool) :
    pack (bitsOf 8 v ++ rest) = UInt8.ofNat v :: pack rest := by
  rw [pack_append (bitsOf_length 8 v), ofBits_bitsOf, UInt8.ofNat_mod_size]

theorem bigEndian_succ (n v : Nat) :
    bigEndian (n + 1) v = UInt8.ofNat (v >>> (8 * n)) :: bigEndian n v := by
  rw [bigEndian, List.range_succ, List.reverse_append, List.reverse_singleton,
    List.singleton_append, List.map_cons]
  rfl

theorem pack_bigEndian_append (n v : Nat) (rest : List Bool) :
    pack (bitsOf (8 * n) v ++ rest) = bigEndian n v ++ pack rest := by
  induction n generalizing v rest with
  | zero => rfl
  | succ n ih =>
      have hsplit : 8 * (n + 1) = 8 + 8 * n := by ring
      rw [hsplit, bitsOf_add, List.append_assoc, pack_bitsOf_append, ih, bigEndian_succ,
        List.cons_append]

/-- Bytes are packed into themselves. -/
theorem pack_bytes_append (bytes : List UInt8) (rest : List Bool) :
    pack (bytes.flatMap (fun b => bitsOf 8 b.toNat) ++ rest) = bytes ++ pack rest := by
  induction bytes with
  | nil => rfl
  | cons b bytes ih =>
      rw [List.flatMap_cons, List.append_assoc, pack_bitsOf_append, ih, UInt8.ofNat_toNat]
      rfl

theorem bitsOf_ofBits (bits : List Bool) : bitsOf bits.length (ofBits bits) = bits := by
  induction bits using List.reverseRecOn with
  | nil => rfl
  | append_singleton bits b ih =>
      have hhalf : (2 * ofBits bits + b.toNat) >>> 1 = ofBits bits := by
        have hb : b.toNat < 2 := b.toNat_lt
        rw [Nat.shiftRight_eq_div_pow]
        omega
      have hlow : bitsOf 1 (2 * ofBits bits + b.toNat) = [b] := by
        cases b <;> simp [bitsOf, Nat.testBit_zero]
      rw [List.length_append, List.length_singleton, bitsOf_add, ofBits_append_singleton, hhalf,
        ih, hlow]

/-- Eight bits are read back from the byte that they make up. -/
theorem bitsOf_byte {bits : List Bool} (h : bits.length = 8) :
    bitsOf 8 (UInt8.ofNat (ofBits bits)).toNat = bits := by
  have hread : bitsOf 8 (ofBits bits) = bits := by
    rw [← h]
    exact bitsOf_ofBits bits
  have hlt : ofBits bits < 256 := by
    have hmod := ofBits_bitsOf 8 (ofBits bits)
    rw [hread] at hmod
    omega
  rw [UInt8.toNat_ofNat_of_lt' hlt, hread]

/-- Bits that fill up bytes are read back from them. -/
theorem flatMap_bitsOf_pack (n : Nat) {bits : List Bool} (h : bits.length = 8 * n) :
    (pack bits).flatMap (fun b => bitsOf 8 b.toNat) = bits := by
  induction n generalizing bits with
  | zero =>
      rw [List.eq_nil_of_length_eq_zero h]
      rfl
  | succ n ih =>
      have htake : (bits.take 8).length = 8 := by
        rw [List.length_take]
        omega
      have hdrop : (bits.drop 8).length = 8 * n := by
        rw [List.length_drop]
        omega
      conv_lhs => rw [← List.take_append_drop 8 bits]
      rw [pack_append htake, List.flatMap_cons, ih hdrop, bitsOf_byte htake,
        List.take_append_drop]

/-! ## The number that bytes stand for -/

/-- The number whose first digits have been read already. -/
def bigEndianFrom (acc : Nat) (b : List UInt8) : Nat :=
  b.foldl (fun acc byte => acc * 256 + byte.toNat) acc

theorem bigEndianFrom_cons (acc : Nat) (byte : UInt8) (b : List UInt8) :
    bigEndianFrom acc (byte :: b) = bigEndianFrom (acc * 256 + byte.toNat) b := rfl

theorem bigEndianFrom_bigEndian (n acc v : Nat) :
    bigEndianFrom acc (bigEndian n v) = acc * 256 ^ n + v % 256 ^ n := by
  induction n generalizing acc with
  | zero => simp [bigEndian, bigEndianFrom, Nat.mod_one]
  | succ n ih =>
      have hdigit : (v >>> (8 * n)) % 256 = v / 256 ^ n % 256 := by
        rw [Nat.shiftRight_eq_div_pow, Nat.pow_mul]
      calc bigEndianFrom acc (bigEndian (n + 1) v)
        _ = (acc * 256 + v / 256 ^ n % 256) * 256 ^ n + v % 256 ^ n := by
          rw [bigEndian_succ, bigEndianFrom_cons, ih, UInt8.toNat_ofNat', hdigit]
        _ = acc * 256 ^ (n + 1) + (v % 256 ^ n + 256 ^ n * (v / 256 ^ n % 256)) := by ring
        _ = acc * 256 ^ (n + 1) + v % 256 ^ (n + 1) := by rw [Nat.mod_pow_succ]

theorem bigEndianFrom_div (acc : Nat) (b : List UInt8) :
    bigEndianFrom acc b / 256 ^ b.length = acc := by
  induction b generalizing acc with
  | nil => exact Nat.div_one acc
  | cons byte b ih =>
      have hbyte : byte.toNat < 256 := UInt8.toNat_lt byte
      rw [bigEndianFrom_cons, List.length_cons, Nat.pow_succ, ← Nat.div_div_eq_div_mul, ih]
      omega

theorem bigEndianFrom_zero_lt (b : List UInt8) : bigEndianFrom 0 b < 256 ^ b.length :=
  (Nat.div_eq_zero_iff_lt (by positivity)).mp (bigEndianFrom_div 0 b)

/-- Every byte is a digit of the number. -/
theorem bigEndian_bigEndianFrom (acc : Nat) (b : List UInt8) :
    bigEndian b.length (bigEndianFrom acc b) = b := by
  induction b generalizing acc with
  | nil => rfl
  | cons byte b ih =>
      have hhead : UInt8.ofNat (bigEndianFrom (acc * 256 + byte.toNat) b >>> (8 * b.length)) =
          byte := by
        have hbyte : byte.toNat < 256 := UInt8.toNat_lt byte
        rw [Nat.shiftRight_eq_div_pow, Nat.pow_mul, bigEndianFrom_div]
        apply UInt8.toNat_inj.mp
        rw [UInt8.toNat_ofNat']
        omega
      rw [List.length_cons, bigEndian_succ, bigEndianFrom_cons, hhead, ih]

end BitPacking
