import Skylink.Utilities

/-!
# Golay code

The vendored (24, 12) code that protects the length of a transmitted frame. Its words
are numbers of at most 24 bits, its syndromes numbers of twelve bits.
-/

namespace Skylink

/-- `N`, the number of rows of the parity check matrix. -/
def golayRows : Nat := 12

/-- `H`. -/
def golayH : List Nat :=
  [0x8008ed, 0x4001db, 0x2003b5, 0x100769, 0x80ed1, 0x40da3,
   0x20b47, 0x1068f, 0x8d1d, 0x4a3b, 0x2477, 0x1ffe]

/-- `B(i)`. -/
def golayB (i : Nat) : Nat := golayH.getD i 0 &&& 0xfff

/-- The sums of neighbouring groups of bits. -/
def addGroups (x shift mask : Nat) : Nat := (x &&& mask) + ((x >>> shift) &&& mask)

/-- `__builtin_popcountl` of a 32-bit word. -/
def popcount (x : Nat) : Nat :=
  let pairs := addGroups x 1 0x55555555
  let nibbles := addGroups pairs 2 0x33333333
  let bytes := addGroups nibbles 4 0x0f0f0f0f
  let halves := addGroups bytes 8 0x00ff00ff
  addGroups halves 16 0x0000ffff

/-- `__builtin_parity`. -/
def parity (x : Nat) : Nat := popcount x % 2

/-- The loop that multiplies the rows with a word, the first row in the highest bit. -/
def golayProduct (rows : List Nat) (r : Nat) : Nat :=
  rows.foldl (fun s row => (s <<< 1) ||| parity (row &&& r)) 0

def encodeGolay24 (data : Nat) : Nat :=
  let r := data &&& 0xfff
  ((0xfff &&& golayProduct golayH r) <<< golayRows) ||| r

/-- `none` for an uncorrectable word; otherwise the corrected word and the number of
corrected bits. -/
def decodeGolay24 (data : Nat) : Option (Nat × Nat) :=
  let r := data
  let s := golayProduct golayH r
  let correct (e : Nat) := some (r ^^^ e, popcount e)
  if popcount s ≤ 3 then correct (s <<< golayRows)
  else
    match (List.range golayRows).find? fun i => popcount (s ^^^ golayB i) ≤ 2 with
    | some i => correct (((s ^^^ golayB i) <<< golayRows) ||| (1 <<< (golayRows - i - 1)))
    | none =>
        let q := golayProduct ((List.range golayRows).map golayB) s
        if popcount q ≤ 3 then correct q
        else
          match (List.range golayRows).find? fun i => popcount (q ^^^ golayB i) ≤ 2 with
          | some i => correct ((1 <<< (2 * golayRows - i - 1)) ||| (q ^^^ golayB i))
          | none => none

/-- A length that was encoded is decoded without a correction. -/
theorem decodeGolay24_encode {n : Nat} (hn : n < 256) :
    decodeGolay24 (encodeGolay24 n) = some (encodeGolay24 n, 0) ∧ encodeGolay24 n < 2 ^ 24 ∧
      encodeGolay24 n &&& 0xff = n := by
  have hall : ∀ n : Fin 256, golayProduct golayH (encodeGolay24 n) = 0 ∧
      encodeGolay24 n < 2 ^ 24 ∧ encodeGolay24 n &&& 0xff = n.val := by
    decide +kernel
  obtain ⟨hsyndrome, hlt, hlow⟩ := hall ⟨n, hn⟩
  refine ⟨?_, hlt, hlow⟩
  rw [decodeGolay24]
  dsimp only at hsyndrome ⊢
  rw [hsyndrome, if_pos (by decide), Nat.zero_shiftLeft, Nat.xor_zero]
  rfl

end Skylink
