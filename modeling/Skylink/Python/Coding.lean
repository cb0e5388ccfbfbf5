import Skylink.Phy.Model
import Skylink.Python.Codec

/-!
# Building and parsing frames in the Python package

`construct_frame` and `parse_frame` with their layers: the authentication trailer, the
error correction with the randomizer, and the coded length in front. `libskylink` is
loaded. What is raised is an error.
-/

namespace Skylink

open BitPacking

namespace Python

/-- The exceptions, with their texts where the package gives one. -/
inductive PythonError
  | valueError (text : String)
  | skylinkError (text : String)
  | fecError (text : String)
  | hmacError (text : String)
  | golayUncorrectable
  | indexError
  | structError
  | constructError
deriving DecidableEq, Repr

/-! ## The coded length -/

def parity (v : Nat) : Nat :=
  let v := v ^^^ (v >>> 1)
  let v := v ^^^ (v >>> 2)
  let v := (v &&& 0x11111111) * 0x11111111
  (v >>> 28) &&& 1

def popcount (i : Nat) : Nat :=
  let i := i - ((i >>> 1) &&& 0x55555555)
  let i := (i &&& 0x33333333) + ((i >>> 2) &&& 0x33333333)
  ((((i + (i >>> 4)) &&& 0xF0F0F0F) * 0x1010101) &&& 0xffffffff) >>> 24

/-- The loops that multiply rows with a word. The matrix `H` is that of the C code. -/
def golayProduct (rows : List Nat) (data : Nat) : Nat :=
  rows.foldl (fun s row => (s <<< 1) ||| parity (row &&& data)) 0

def encodeGolay24 (data : Nat) : Nat :=
  let data := data &&& 0xfff
  ((0xfff &&& golayProduct golayH data) <<< golayRows) ||| data

def decodeGolay24 (data : Nat) : Except PythonError Nat :=
  let s := golayProduct golayH data
  let step8 (e : Nat) : Except PythonError Nat := .ok ((data ^^^ e) &&& 0xfff)
  if popcount s ≤ 3 then step8 (s <<< golayRows)
  else
    match (List.range golayRows).find? fun i => popcount (s ^^^ golayB i) ≤ 2 with
    | some i => step8 (((s ^^^ golayB i) <<< golayRows) ||| (1 <<< (golayRows - i - 1)))
    | none =>
        let q := golayProduct ((List.range golayRows).map golayB) s
        if popcount q ≤ 3 then step8 q
        else
          match (List.range golayRows).find? fun i => popcount (q ^^^ golayB i) ≤ 2 with
          | some i => step8 ((1 <<< (2 * golayRows - i - 1)) ||| (q ^^^ golayB i))
          | none => .error .golayUncorrectable

def encodeGolay24Bytes (v : Nat) : Bytes := (bigEndian 4 (encodeGolay24 v)).drop 1

def decodeGolay24Bytes (b : Bytes) : Except PythonError Nat :=
  if (b.take 3).length = 3 then decodeGolay24 (bigEndianFrom 0 (0 :: b.take 3))
  else .error .structError

/-! ## Error correction -/

/-- `WHITENING` is the sequence of the C code. -/
def randomize (raw : Bytes) : Except PythonError Bytes :=
  if raw.length ≤ whitening.length then .ok (raw.zipWith (· ^^^ ·) whitening)
  else .error .indexError

def rsLength : Nat := 32
def rsBlockLength : Nat := 255

def encodeRs (data : Bytes) : Except PythonError Bytes :=
  if rsBlockLength - rsLength < data.length then
    .error (.fecError ("Invalid length " ++ toString data.length))
  else .ok (data ++ encodeRs8 data)

/-- The corrected frame and the number of corrected bytes. The return code of a decoder
that fails is -1. -/
def decodeRs (decodeRs8 : RsDecoder) (data : Bytes) : Except PythonError (Bytes × Nat) :=
  if data.length ≤ rsLength ∨ rsBlockLength < data.length then
    .error (.fecError ("Invalid length " ++ toString data.length))
  else
    match decodeRs8 data with
    | none => .error (.fecError "Reed-Solomon decoding error -1")
    | some (corrected, bytesCorrected) =>
        .ok (corrected.take (data.length - rsLength), bytesCorrected)

/-! ## Authentication -/

/-- `blake3(data, key=key).digest(length)`, for keys of 32 bytes. -/
structure Blake3 where
  digest : Bytes → Bytes → Nat → Bytes
  digest_length : ∀ data key length, key.length = 32 → (digest data key length).length = length

def hmacLength : Nat := 4

/-- The truncated frame. -/
def hmacVerify (blake3 : Blake3) (data key : Bytes) : Except PythonError Bytes :=
  if data.length < hmacLength then .error (.hmacError "Too short frame")
  else
    let calculated := blake3.digest (data.take (data.length - hmacLength)) key hmacLength
    let received := data.drop (data.length - hmacLength)
    if calculated ≠ received then
      .error (.hmacError "HMAC does not match expected value!")
    else .ok (data.take (data.length - hmacLength))

def hmacAppend (blake3 : Blake3) (data key : Bytes) : Bytes :=
  data ++ blake3.digest data key hmacLength

/-! ## The parsers of `construct` -/

/-- Bytes as a stream of bits. -/
def toBits (bytes : Bytes) : List Bool := bytes.flatMap fun b => bitsOf 8 b.toNat

/-- A parser takes what it needs from the front of a stream. -/
abbrev Reader (α β : Type) : Type := List α → Except PythonError (β × List α)

/-- The parsers that `SkyRadioFrame` is put together from. -/
structure ConstructParsers where
  bitsInteger : Nat → Reader Bool Nat
  flag : Reader Bool Bool
  bytewiseBytes : Nat → Reader Bool Bytes
  bytes : Int → Reader UInt8 Bytes
  bitsInteger_eq : ∀ length value rest, value < 2 ^ length →
    bitsInteger length (bitsOf length value ++ rest) = .ok (value, rest)
  flag_eq : ∀ value rest, flag (value :: rest) = .ok (value, rest)
  bytewiseBytes_eq : ∀ data rest,
    bytewiseBytes data.length (toBits data ++ rest) = .ok (data, rest)
  bytes_eq : ∀ (data rest : Bytes), bytes data.length (data ++ rest) = .ok (data, rest)
  bytes_negative : ∀ length stream, length < 0 → bytes length stream = .error .constructError

/-- `Bitwise`: the bits of the bytes are read. -/
def bitwise {α : Type} (read : Reader Bool α) : Reader UInt8 α := fun stream => do
  let (value, rest) ← read (toBits stream)
  pure (value, pack rest)

structure SkyHeader where
  version : Nat
  identLen : Nat
  identifier : Bytes
  fragment : Nat
  hasPayload : Bool
  arqOn : Bool
  isAuthenticated : Bool
  vc : Nat
  extensionLen : Nat
  sequence : Nat
  extensions : Bytes
deriving DecidableEq, Repr

structure SkyRadioFrame where
  header : SkyHeader
  payload : Option Bytes
  auth : Option Bytes
deriving DecidableEq, Repr

/-- The fields of `SkyHeader`, with the extensions as bytes. -/
def SkyHeader.read (parsers : ConstructParsers) : Reader Bool SkyHeader := fun stream => do
  let (version, stream) ← parsers.bitsInteger 5 stream
  let (identLen, stream) ← parsers.bitsInteger 3 stream
  let (identifier, stream) ← parsers.bytewiseBytes identLen stream
  let (fragment, stream) ← parsers.bitsInteger 2 stream
  let (hasPayload, stream) ← parsers.flag stream
  let (arqOn, stream) ← parsers.flag stream
  let (isAuthenticated, stream) ← parsers.flag stream
  let (vc, stream) ← parsers.bitsInteger 3 stream
  let (extensionLen, stream) ← parsers.bitsInteger 8 stream
  let (sequence, stream) ← parsers.bitsInteger 16 stream
  let (extensions, stream) ← parsers.bytewiseBytes extensionLen stream
  pure (⟨version, identLen, identifier, fragment, hasPayload, arqOn, isAuthenticated, vc,
    extensionLen, sequence, extensions⟩, stream)

/-- `_payload_len`. -/
def SkyHeader.payloadLen (header : SkyHeader) (frameLen : Nat) : Int :=
  frameLen - 5 - header.identLen - header.extensionLen - (if header.isAuthenticated then 8 else 0)

/-- `If(condition, Bytes(length))`. -/
def readIf (parsers : ConstructParsers) (condition : Bool) (length : Int) :
    Reader UInt8 (Option Bytes) := fun stream =>
  if condition then do
    let (data, stream) ← parsers.bytes length stream
    pure (some data, stream)
  else pure (none, stream)

/-- `parse_struct` with the extensions as bytes. -/
def parseStruct (parsers : ConstructParsers) (frame : Bytes) :
    Except PythonError SkyRadioFrame := do
  let (header, stream) ← bitwise (SkyHeader.read parsers) frame
  let (payload, stream) ←
    readIf parsers header.hasPayload (header.payloadLen frame.length) stream
  let (auth, _) ← readIf parsers header.isAuthenticated 8 stream
  pure { header, payload, auth }

/-! ## Frames -/

/-- The part of `parse_frame` for a coded length: the bytes that are left, and whether
they have error correction. -/
def stripGolay (raw : Bytes) (includesFec : Bool) : Except PythonError (Bytes × Bool) := do
  let decoded ← decodeGolay24Bytes raw
  let decodedLen := 0xff &&& decoded
  if decodedLen + 3 < raw.length then throw (.skylinkError "Golay Error: Frame is too short")
  -- the flag of the randomizer, `0x400`, sets a variable that nothing reads
  if decoded &&& 0x800 ≠ 0 then throw (.skylinkError "Viterbi not supported")
  pure (raw.drop (3 + decodedLen), includesFec || decide (decoded &&& 0x200 ≠ 0))

/-- `parse_frame` with the extensions as bytes. -/
def parseFrame (parsers : ConstructParsers) (blake3 : Blake3) (decodeRs8 : RsDecoder)
    (raw : Bytes) (includesGolay includesFec : Bool) (hmacKey : Option Bytes) :
    Except PythonError SkyRadioFrame := do
  let (raw, includesFec) ←
    if includesGolay then stripGolay raw includesFec else pure (raw, includesFec)
  let raw ←
    if includesFec then do
      let raw ← randomize raw
      let (raw, _) ← decodeRs decodeRs8 raw
      pure raw
    else pure raw
  let frame ← parseStruct parsers raw
  match hmacKey with
  | some key =>
      if frame.header.isAuthenticated then do
        let _ ← hmacVerify blake3 raw key
        pure frame
      else pure frame
  | none => pure frame

/-- The part of `construct_frame` for a key. -/
def signed (blake3 : Blake3) (raw : Bytes) : Option Bytes → Bytes
  | some key => hmacAppend blake3 raw key
  | none => raw

/-- The part of `construct_frame` for error correction and coded length. -/
def addCoding (raw : Bytes) (appendGolay appendFec : Bool) : Except PythonError Bytes := do
  let raw ←
    if appendFec then do
      let raw ← encodeRs raw
      randomize raw
    else pure raw
  if appendGolay then pure (encodeGolay24Bytes raw.length ++ raw) else pure raw

/-- `construct_frame` with all its arguments. -/
def constructCodedFrame (lib : Construct) (blake3 : Blake3) (identity : Bytes)
    (sequence vc : Nat) (payload : Bytes) (fragment : Nat) (extensions : Bytes)
    (appendGolay appendFec : Bool) (hmacKey : Option Bytes) : Except PythonError Bytes :=
  if appendGolay && !appendFec then .error (.valueError "Invalid config")
  else
    match skyHeader lib identity fragment (decide (0 < payload.length)) false hmacKey.isSome vc
      sequence extensions with
    | some header => addCoding (signed blake3 (header ++ payload) hmacKey) appendGolay appendFec
    | none => .error .constructError

end Python

end Skylink
