import Skylink.Frame.Codec
import Skylink.Library.BitPacking

/-!
# The frames of the Python package

The builders of `struct.py` and `construct_frame`, on top of the package `construct`, of
which only the bits that a `BitStruct` is built from are used here.
-/

namespace Skylink

open BitPacking

/-! ## The package `construct` -/

/-- A field of a `BitStruct` with its value. -/
inductive BitField
  | bitsInteger (length value : Nat)
  | flag (value : Bool)
  | bytes (data : Bytes)

namespace BitField

/-- The integer is in range. -/
def Fits : BitField → Prop
  | .bitsInteger length value => value < 2 ^ length
  | .flag _ => True
  | .bytes _ => True

def bits : BitField → List Bool
  | .bitsInteger length value => bitsOf length value
  | .flag value => [value]
  | .bytes data => data.flatMap fun b => bitsOf 8 b.toNat

end BitField

/-- The method `build` of a `BitStruct`: the fields one after the other, the most
significant bit first. What it raises is `none`. -/
structure Construct where
  build : List BitField → Option Bytes
  build_eq : ∀ fields : List BitField, (∀ field ∈ fields, field.Fits) →
    8 ∣ (fields.flatMap BitField.bits).length →
      build fields = some (pack (fields.flatMap BitField.bits))

namespace Python

variable (lib : Construct)

/-! ## Extensions -/

/-- `SkyExtensionHeader.build`. -/
def skyExtensionHeader (len type : Nat) (data : List BitField) : Option Bytes :=
  lib.build ([.bitsInteger 4 len, .bitsInteger 4 type] ++ data)

/-- `ARQSequence`. -/
def arqSequence (sequence : Nat) : Option Bytes :=
  skyExtensionHeader lib 1 0 [.bitsInteger 8 sequence]

/-- `ARQRequest`. -/
def arqRequest (sequence mask : Nat) : Option Bytes :=
  skyExtensionHeader lib 2 1 [.bitsInteger 8 sequence, .bitsInteger 16 mask]

/-- `ARQControl`. -/
def arqControl (txSequence rxSequence : Nat) : Option Bytes :=
  skyExtensionHeader lib 4 2 [.bitsInteger 8 txSequence, .bitsInteger 8 rxSequence]

/-- `ARQHandshake`. -/
def arqHandshake (peerState identifier : Nat) : Option Bytes :=
  skyExtensionHeader lib 5 3 [.bitsInteger 8 peerState, .bitsInteger 32 identifier]

/-- `TDDControl`. -/
def tddControl (window remaining : Nat) : Option Bytes :=
  skyExtensionHeader lib 4 4 [.bitsInteger 16 window, .bitsInteger 16 remaining]

/-- `HMACSequenceReset`. -/
def hmacSequenceReset (sequence : Nat) : Option Bytes :=
  skyExtensionHeader lib 2 5 [.bitsInteger 16 sequence]

/-- The builder for a value. -/
def buildExtension : ExtValue 8 → Option Bytes
  | .arqSequence s => arqSequence lib s.toNat
  | .arqRequest s mask => arqRequest lib s.toNat mask.toNat
  | .arqCtrl tx rx => arqControl lib tx.toNat rx.toNat
  | .arqHandshake peerState identifier => arqHandshake lib peerState.toNat identifier.toNat
  | .macTddControl window remaining => tddControl lib window.toNat remaining.toNat
  | .hmacSequenceReset s => hmacSequenceReset lib s.toNat

/-- A concatenation of extensions. -/
def buildExtensions (vs : List (ExtValue 8)) : Option Bytes :=
  (vs.mapM (buildExtension lib)).map List.flatten

/-! ## Frames -/

/-- `SkyHeader.build`, with the extensions as bytes. -/
def skyHeader (identity : Bytes) (fragment : Nat) (hasPayload arqOn isAuthenticated : Bool)
    (vc sequence : Nat) (extensions : Bytes) : Option Bytes :=
  lib.build
    [.bitsInteger 5 12, .bitsInteger 3 identity.length, .bytes identity,
      .bitsInteger 2 fragment, .flag hasPayload, .flag arqOn, .flag isAuthenticated,
      .bitsInteger 3 vc, .bitsInteger 8 extensions.length, .bitsInteger 16 sequence,
      .bytes extensions]

/-- `construct_frame` without key, error correction and coded length. -/
def constructFrame (identity : Bytes) (sequence vc : Nat) (payload : Bytes) (fragment : Nat)
    (extensions : Bytes) : Option Bytes := do
  let header ← skyHeader lib identity fragment (decide (0 < payload.length)) false false vc
    sequence extensions
  some (header ++ payload)

end Python

/-! ## Fields that make up bytes -/

/-- The fields are in range, and together they make up the bytes. -/
structure PacksTo (data : List BitField) (bytes : Bytes) : Prop where
  fits : ∀ field ∈ data, field.Fits
  whole : 8 ∣ (data.flatMap BitField.bits).length
  pack : ∀ rest, pack (data.flatMap BitField.bits ++ rest) = bytes ++ pack rest

namespace PacksTo

theorem append {data data' : List BitField} {bytes bytes' : Bytes} (h : PacksTo data bytes)
    (h' : PacksTo data' bytes') : PacksTo (data ++ data') (bytes ++ bytes') := by
  refine ⟨fun field hfield => ?_, ?_, fun rest => ?_⟩
  · exact (List.mem_append.mp hfield).elim (h.fits field) (h'.fits field)
  · rw [List.flatMap_append, List.length_append]
    exact Nat.dvd_add h.whole h'.whole
  · rw [List.flatMap_append, List.append_assoc, h.pack, h'.pack, List.append_assoc]

theorem build (lib : Construct) {data : List BitField} {bytes : Bytes} (h : PacksTo data bytes) :
    lib.build data = some bytes := by
  have hpack := h.pack []
  rw [List.append_nil, show BitPacking.pack [] = [] from rfl, List.append_nil] at hpack
  rw [lib.build_eq data h.fits h.whole, hpack]

/-- Fields of eight bits. -/
theorem ofByte {data : List BitField} (hfits : ∀ field ∈ data, field.Fits)
    (hlength : (data.flatMap BitField.bits).length = 8) :
    PacksTo data [UInt8.ofNat (ofBits (data.flatMap BitField.bits))] :=
  ⟨hfits, by rw [hlength], fun rest => pack_append hlength rest⟩

theorem bytes (bytes : Bytes) : PacksTo [.bytes bytes] bytes := by
  refine ⟨by simp [BitField.Fits], ?_, fun rest => ?_⟩
  · simp [BitField.bits, List.length_flatMap]
  · rw [List.flatMap_singleton]
    exact pack_bytes_append bytes rest

/-- A number of whole bytes. -/
theorem integer {n v : Nat} (h : v < 2 ^ (8 * n)) :
    PacksTo [.bitsInteger (8 * n) v] (bigEndian n v) := by
  refine ⟨by simpa [BitField.Fits] using h, ?_, fun rest => ?_⟩
  · simp [BitField.bits]
  · rw [List.flatMap_singleton]
    exact pack_bigEndian_append n v rest

theorem uint8 (v : UInt8) : PacksTo [.bitsInteger 8 v.toNat] [v] := by
  have h := integer (n := 1) v.toNat_lt
  rwa [show bigEndian 1 v.toNat = [v] from congrArg (· :: []) UInt8.ofNat_toNat] at h

theorem sequence (s : BitVec 8) : PacksTo [.bitsInteger 8 s.toNat] (skyArqSeqHton s) :=
  integer (n := 1) s.isLt

theorem uint16 (v : UInt16) : PacksTo [.bitsInteger 16 v.toNat] (storeU16 (skyHton16 v)) := by
  rw [← bigEndian_two]
  exact integer (n := 2) v.toNat_lt

theorem uint32 (v : UInt32) : PacksTo [.bitsInteger 32 v.toNat] (storeU32 (skyHton32 v)) := by
  rw [← bigEndian_four]
  exact integer (n := 4) v.toNat_lt

/-- The header of an extension, the length first. -/
theorem extensionHeader (len type : Fin 16) :
    PacksTo [.bitsInteger 4 len, .bitsInteger 4 type] [extensionHeaderByte type len] := by
  have hbyte : ∀ len type : Fin 16, UInt8.ofNat (ofBits (bitsOf 4 len ++ bitsOf 4 type)) =
      extensionHeaderByte type len := by decide
  rw [← hbyte]
  exact ofByte (by simp [BitField.Fits]) (by simp [BitField.bits])

end PacksTo

/-! ## What is built -/

namespace ExtValue

/-- The length that the builder writes. -/
def pythonLength : ExtValue 8 → Fin 16
  | .arqSequence _ => 1
  | .arqRequest _ _ => 2
  | .arqCtrl _ _ => 4
  | .arqHandshake _ _ => 5
  | .macTddControl _ _ => 4
  | .hmacSequenceReset _ => 2

/-- The bytes that the builder writes. -/
def pythonBytes (v : ExtValue 8) : Bytes := extensionHeaderByte v.type v.pythonLength :: v.fields

end ExtValue

namespace Python

variable (lib : Construct)

theorem skyExtensionHeader_eq (len type : Fin 16) {data : List BitField} {bytes : Bytes}
    (h : PacksTo data bytes) :
    skyExtensionHeader lib len type data = some (extensionHeaderByte type len :: bytes) :=
  ((PacksTo.extensionHeader len type).append h).build lib

/-- Every builder writes the fields as the C functions do. -/
theorem buildExtension_eq (v : ExtValue 8) : buildExtension lib v = some v.pythonBytes := by
  cases v with
  | arqSequence s => exact skyExtensionHeader_eq lib 1 0 (.sequence s)
  | arqRequest s mask =>
      exact skyExtensionHeader_eq lib 2 1 ((PacksTo.sequence s).append (.uint16 mask))
  | arqCtrl tx rx =>
      exact skyExtensionHeader_eq lib 4 2 ((PacksTo.sequence tx).append (.sequence rx))
  | arqHandshake state identifier =>
      exact skyExtensionHeader_eq lib 5 3 ((PacksTo.uint8 state).append (.uint32 identifier))
  | macTddControl window remaining =>
      exact skyExtensionHeader_eq lib 4 4 ((PacksTo.uint16 window).append (.uint16 remaining))
  | hmacSequenceReset s => exact skyExtensionHeader_eq lib 2 5 (.uint16 s)

theorem buildExtensions_eq (vs : List (ExtValue 8)) :
    buildExtensions lib vs = some (vs.flatMap ExtValue.pythonBytes) := by
  have hmap : vs.mapM (buildExtension lib) = some (vs.map ExtValue.pythonBytes) := by
    induction vs with
    | nil => rfl
    | cons v vs ih => rw [List.mapM_cons, buildExtension_eq, ih]; rfl
  rw [buildExtensions, hmap]
  rfl

/-- The byte of the flags as `SkyHeader` has them, without key. -/
def flagsByte (fragment : Fin 4) (hasPayload : Bool) (vc : Fin 4) : UInt8 :=
  UInt8.ofNat (fragment * 64 + hasPayload.toNat * 32 + vc)

/-- The static header as `SkyHeader` has it: the length of the extensions comes before
the sequence. -/
theorem skyHeader_eq {identity extensions : Bytes} (hidentity : identity.length < 8)
    (hextensions : extensions.length < 256) (fragment : Fin 4) (hasPayload : Bool) (vc : Fin 4)
    (sequence : UInt16) :
    skyHeader lib identity fragment hasPayload false false vc sequence.toNat extensions =
      some (((skylinkFrameVersionByte ||| UInt8.ofNat identity.length) :: identity) ++
        [flagsByte fragment hasPayload vc, UInt8.ofNat extensions.length,
          (sequence >>> 8).toUInt8, sequence.toUInt8] ++ extensions) := by
  have hstart : PacksTo [.bitsInteger 5 12, .bitsInteger 3 identity.length]
      [skylinkFrameVersionByte ||| UInt8.ofNat identity.length] := by
    have hbyte : ∀ n : Fin 8, UInt8.ofNat (ofBits (bitsOf 5 12 ++ bitsOf 3 n)) =
        skylinkFrameVersionByte ||| UInt8.ofNat n := by decide
    rw [← hbyte ⟨_, hidentity⟩]
    exact .ofByte (by simpa [BitField.Fits] using hidentity) (by simp [BitField.bits])
  have hflags : PacksTo [.bitsInteger 2 fragment, .flag hasPayload, .flag false, .flag false,
      .bitsInteger 3 vc] [flagsByte fragment hasPayload vc] := by
    have hbyte : ∀ (fragment : Fin 4) (hasPayload : Bool) (vc : Fin 4),
        UInt8.ofNat (ofBits (bitsOf 2 fragment ++ ([hasPayload] ++ ([false] ++ ([false] ++
          bitsOf 3 vc))))) = flagsByte fragment hasPayload vc := by decide
    rw [← hbyte]
    refine .ofByte ?_ (by simp [BitField.bits])
    have hvc : (vc : Nat) < 8 := vc.isLt.trans (by decide)
    simpa [BitField.Fits] using hvc
  have hlength : PacksTo [.bitsInteger 8 extensions.length] [UInt8.ofNat extensions.length] := by
    have h := PacksTo.uint8 (UInt8.ofNat extensions.length)
    rwa [UInt8.toNat_ofNat_of_lt' hextensions] at h
  have hsequence := PacksTo.uint16 sequence
  rw [storeU16_hton16] at hsequence
  have hbuild := ((((hstart.append (.bytes identity)).append hflags).append hlength).append
    (hsequence.append (.bytes extensions))).build lib
  rw [skyHeader]
  simpa using hbuild

end Python

end Skylink
