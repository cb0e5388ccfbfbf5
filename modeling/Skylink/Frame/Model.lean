import Skylink.Configuration

/-!
# Radio frames

Building a frame in front of the write pointer, and parsing the bytes of a
received frame. The bit fields are those GCC lays out on a little-endian host.
`w` is the width of `sky_arq_sequence_t`.
-/

namespace Skylink

variable {w : Nat}

/-- The width of a sequence number: 8 bits, or 16 with `SKY_16BIT_ARQ_SEQUENCES`. -/
def ArqSequenceWidth (w : Nat) : Prop :=
  w = 8 ∨ w = 16

theorem ArqSequenceWidth.bounds (h : ArqSequenceWidth w) : 8 ∣ w ∧ w ≤ 56 ∧ 250 ≤ 2 ^ w := by
  rcases h with rfl | rfl <;> decide

def skylinkFrameVersionByte : UInt8 := 0x60

def skylinkFrameVersionMask : UInt8 := 0xf8

def skylinkFrameIdentityMask : UInt8 := 0x07

def skyFlagArqOn : UInt8 := 0x04

def skyFlagAuthenticated : UInt8 := 0x08

def skyFlagHasPayload : UInt8 := 0x10

/-- `SKY_PAYLOAD_MAX_LEN`. -/
def skyPayloadMaxLen : Nat := 181

def skyFrameMinLen : Nat := 7

def skyFrameMaxLen : Nat := 223

/-- `RS_MSGLEN`. -/
def rsMsglen : Nat := 223

def skyHmacLength : Nat := 4

/-- The size of `raw`, `SKY_FRAME_MAX_LEN + 6`. -/
def rawLen : Nat := skyFrameMaxLen + 6

structure SkyRadioFrame where
  rxTimeTicks : Int
  length : Nat
  raw : Bytes
deriving DecidableEq, Repr

def SkyRadioFrame.byte (frame : SkyRadioFrame) (i : Nat) : UInt8 := frame.raw.getD i 0

/-- The bytes of a frame. -/
def SkyRadioFrame.contents (frame : SkyRadioFrame) : Bytes := frame.raw.take frame.length

/-- A frame that is received as the bytes. -/
def SkyRadioFrame.ofBytes (bytes : Bytes) : SkyRadioFrame :=
  { rxTimeTicks := 0
    length := bytes.length
    raw := bytes ++ List.replicate (rawLen - bytes.length) 0 }

theorem SkyRadioFrame.ofBytes_raw_length {bytes : Bytes} (h : bytes.length ≤ rawLen) :
    (SkyRadioFrame.ofBytes bytes).raw.length = rawLen := by
  rw [SkyRadioFrame.ofBytes, List.length_append, List.length_replicate, Nat.add_sub_of_le h]

/-! ## Static header -/

structure SkyStaticHeader where
  flags : UInt8
  frameSequence : UInt16
  extensionLength : UInt8
deriving DecidableEq, Repr

/-- `sizeof(SkyStaticHeader)`. -/
def staticHeaderSize : Nat := 4

namespace SkyStaticHeader

def vc (h : SkyStaticHeader) : Nat := (h.flags &&& 0x03).toNat

def setVc (h : SkyStaticHeader) (vc : Nat) : SkyStaticHeader :=
  { h with flags := (h.flags &&& 0xfc) ||| (UInt8.ofNat vc &&& 0x03) }

def hasFlag (h : SkyStaticHeader) (flag : UInt8) : Bool := h.flags &&& flag != 0

def setFlag (h : SkyStaticHeader) (flag : UInt8) : SkyStaticHeader :=
  { h with flags := h.flags ||| flag }

def store (h : SkyStaticHeader) : Bytes :=
  h.flags :: storeU16 h.frameSequence ++ [h.extensionLength]

def load (b : Bytes) : SkyStaticHeader :=
  { flags := b.getD 0 0
    frameSequence := loadU16 (b.drop 1)
    extensionLength := b.getD 3 0 }

end SkyStaticHeader

/-! ## Encoding -/

/-- A frame under construction. All that was written so far is the start byte and
the identity, the static header, and the bytes between it and the write pointer;
`assertsHold` tells whether every `SKY_ASSERT` passed on the way. -/
structure SkyTransmitFrame where
  start : Bytes
  hdr : SkyStaticHeader
  body : Bytes
  assertsHold : Bool
deriving DecidableEq, Repr

namespace SkyTransmitFrame

/-- `frame->length`. -/
def length (f : SkyTransmitFrame) : Nat := f.start.length + staticHeaderSize + f.body.length

def bytes (f : SkyTransmitFrame) : Bytes := f.start ++ f.hdr.store ++ f.body

/-- The radio frame behind the pointers; it was cleared before it was built. -/
def frame (f : SkyTransmitFrame) : SkyRadioFrame :=
  { rxTimeTicks := 0
    length := f.length
    raw := f.bytes ++ List.replicate (rawLen - f.length) 0 }

def assert (f : SkyTransmitFrame) (condition : Bool) : SkyTransmitFrame :=
  { f with assertsHold := f.assertsHold && condition }

end SkyTransmitFrame

def extensionArqSequence : Nat := 0
def extensionArqRequest : Nat := 1
def extensionArqCtrl : Nat := 2
def extensionArqHandshake : Nat := 3
def extensionMacTddControl : Nat := 4
def extensionHmacSequenceReset : Nat := 5

/-- The memory bytes of `sky_arq_seq_hton` of a sequence. -/
def skyArqSeqHton (sequence : BitVec w) : Bytes :=
  (List.range (w / 8)).reverse.map fun i => UInt8.ofNat (sequence.toNat >>> (8 * i))

/-- `sky_arq_seq_ntoh` of the bytes at the start of a field. -/
def skyArqSeqNtoh (b : Bytes) : BitVec w :=
  BitVec.ofNat w ((b.take (w / 8)).foldl (fun acc byte => acc * 256 + byte.toNat) 0)

/-- The byte with the `type` and `length` bit fields. -/
def extensionHeaderByte (type length : Nat) : UInt8 :=
  UInt8.ofNat (type % 16 + 16 * (length % 16))

/-- What the functions `sky_frame_add_extension_*` share. -/
def skyFrameAddExtension (type : Nat) (fields : Bytes) (tx : SkyTransmitFrame) :
    SkyTransmitFrame :=
  { tx with
    hdr := { tx.hdr with
      extensionLength := tx.hdr.extensionLength + UInt8.ofNat (1 + fields.length) }
    body := tx.body ++ extensionHeaderByte type fields.length :: fields }

def skyFrameAddExtensionArqSequence (tx : SkyTransmitFrame) (sequence : BitVec w) :
    SkyTransmitFrame :=
  let fields := skyArqSeqHton sequence
  let tx := tx.assert (!tx.hdr.hasFlag skyFlagHasPayload)
  let tx := tx.assert (decide (tx.length + 1 + fields.length < skyPayloadMaxLen))
  skyFrameAddExtension extensionArqSequence fields tx

def skyFrameAddExtensionArqRequest (tx : SkyTransmitFrame) (sequence : BitVec w)
    (mask : UInt16) : SkyTransmitFrame :=
  let fields := skyArqSeqHton sequence ++ storeU16 (skyHton16 mask)
  let tx := tx.assert (!tx.hdr.hasFlag skyFlagHasPayload)
  let tx := tx.assert (decide (tx.length + 1 + fields.length < skyPayloadMaxLen))
  skyFrameAddExtension extensionArqRequest fields tx

def skyFrameAddExtensionArqCtrl (tx : SkyTransmitFrame) (txSequence rxSequence : BitVec w) :
    SkyTransmitFrame :=
  let fields := skyArqSeqHton txSequence ++ skyArqSeqHton rxSequence
  let tx := tx.assert (!tx.hdr.hasFlag skyFlagHasPayload)
  let tx := tx.assert (decide (tx.length + 1 + fields.length < skyPayloadMaxLen))
  skyFrameAddExtension extensionArqCtrl fields tx

def skyFrameAddExtensionArqHandshake (tx : SkyTransmitFrame) (stateFlag : UInt8)
    (identifier : UInt32) : SkyTransmitFrame :=
  let fields := stateFlag :: storeU32 (skyHton32 identifier)
  let tx := tx.assert (!tx.hdr.hasFlag skyFlagHasPayload)
  let tx := tx.assert (decide (tx.length + 1 + fields.length < skyPayloadMaxLen))
  skyFrameAddExtension extensionArqHandshake fields tx

def skyFrameAddExtensionMacTddControl (tx : SkyTransmitFrame) (window remaining : UInt16) :
    SkyTransmitFrame :=
  let fields := storeU16 (skyHton16 window) ++ storeU16 (skyHton16 remaining)
  let tx := tx.assert (!tx.hdr.hasFlag skyFlagHasPayload)
  let tx := tx.assert (decide (tx.length < skyPayloadMaxLen - fields.length))
  skyFrameAddExtension extensionMacTddControl fields tx

def skyFrameAddExtensionHmacSequenceReset (tx : SkyTransmitFrame) (sequence : UInt16) :
    SkyTransmitFrame :=
  let fields := storeU16 (skyHton16 sequence)
  let tx := tx.assert (!tx.hdr.hasFlag skyFlagHasPayload)
  let tx := tx.assert (decide (tx.length < skyPayloadMaxLen - fields.length))
  skyFrameAddExtension extensionHmacSequenceReset fields tx

def skyFrameGetSpaceLeft (length : Nat) : Int := (rsMsglen : Int) - (length + skyHmacLength)

/-- What the callers do that copy a payload to the write pointer. -/
def SkyTransmitFrame.extend (tx : SkyTransmitFrame) (payload : Bytes) : SkyTransmitFrame :=
  { tx with hdr := tx.hdr.setFlag skyFlagHasPayload, body := tx.body ++ payload }

def skyFrameExtendWithPayload (tx : SkyTransmitFrame) (payload : Bytes) :
    SkyTransmitFrame × SkyRet :=
  let tx := tx.assert (!tx.hdr.hasFlag skyFlagHasPayload)
  if skyFrameGetSpaceLeft tx.length < payload.length then (tx, .noSpaceForPayload)
  else (tx.extend payload, 0)

/-! ## Parsing -/

/-- A pointer to an extension of a received frame, with what it points to. -/
structure SkyHeaderExtension where
  offset : Nat
  type : Nat
  length : Nat
  data : Bytes
deriving DecidableEq, Repr

/-- `NULL` pointers are `none`. `payload` holds the bytes from the payload pointer
to the end of `raw`. -/
structure SkyParsedFrame where
  identity : Bytes
  identityLen : Nat
  hdr : SkyStaticHeader
  arqSequence : Option SkyHeaderExtension
  arqRequest : Option SkyHeaderExtension
  arqCtrl : Option SkyHeaderExtension
  arqHandshake : Option SkyHeaderExtension
  macTdd : Option SkyHeaderExtension
  hmacReset : Option SkyHeaderExtension
  payload : Bytes
  payloadLen : Nat
deriving DecidableEq, Repr

/-- The payload as a function that is passed `payload` and `payload_len` sees it. -/
def SkyParsedFrame.payloadBytes (parsed : SkyParsedFrame) : Bytes :=
  parsed.payload.take parsed.payloadLen

/-- The extension that a pointer cast to the cursor position refers to. -/
def SkyRadioFrame.extensionAt (frame : SkyRadioFrame) (cursor : Nat) : SkyHeaderExtension :=
  let length := (frame.byte cursor).toNat / 16
  { offset := cursor
    type := (frame.byte cursor).toNat % 16
    length := length
    data := (frame.raw.drop (cursor + 1)).take length }

/-- The two checks that every case of the parser makes. -/
def storeExtension (slot : Option SkyHeaderExtension) (size : Nat) (ext : SkyHeaderExtension) :
    Except SkyRet (Option SkyHeaderExtension) :=
  if slot.isSome then .error .redundantExtensions
  else if ext.length ≠ size then .error .invalidExtLength
  else .ok (some ext)

/-- The `switch` over the extension type. -/
def parseExtension (w : Nat) (parsed : SkyParsedFrame) (ext : SkyHeaderExtension) :
    Except SkyRet SkyParsedFrame :=
  match ext.type with
  | 0 => (storeExtension parsed.arqSequence (w / 8) ext).map
      fun slot => { parsed with arqSequence := slot }
  | 1 => (storeExtension parsed.arqRequest (w / 8 + 2) ext).map
      fun slot => { parsed with arqRequest := slot }
  | 2 => (storeExtension parsed.arqCtrl (w / 8 + w / 8) ext).map
      fun slot => { parsed with arqCtrl := slot }
  | 3 => (storeExtension parsed.arqHandshake 5 ext).map
      fun slot => { parsed with arqHandshake := slot }
  | 4 => (storeExtension parsed.macTdd 4 ext).map
      fun slot => { parsed with macTdd := slot }
  | 5 => (storeExtension parsed.hmacReset 2 ext).map
      fun slot => { parsed with hmacReset := slot }
  | _ => .error .invalidExtType

/-- The loop of the parser; the cursor moves at every turn. -/
def parseExtensionsLoop (w : Nat) (frame : SkyRadioFrame) (stop : Nat) :
    Nat → Nat → SkyParsedFrame → Except SkyRet SkyParsedFrame
  | 0, _, parsed => .ok parsed
  | turns + 1, cursor, parsed =>
      if cursor < stop then
        let ext := frame.extensionAt cursor
        let cursor := cursor + (1 + ext.length)
        if frame.length < cursor then .error .invalidExtLength
        else
          match parseExtension w parsed ext with
          | .error ret => .error ret
          | .ok parsed => parseExtensionsLoop w frame stop turns cursor parsed
      else .ok parsed

def skyFrameParseExtensionHeaders (w : Nat) (frame : SkyRadioFrame) (parsed : SkyParsedFrame) :
    Except SkyRet SkyParsedFrame :=
  let cursor := 1 + (frame.byte 0 &&& skylinkFrameIdentityMask).toNat + staticHeaderSize
  let stop := cursor + parsed.hdr.extensionLength.toNat
  if frame.length < stop then .error .invalidExtLength
  else parseExtensionsLoop w frame stop parsed.hdr.extensionLength.toNat cursor parsed

/-- The part of `sky_rx` that validates the start byte; the value is the identity
and its length. -/
def rxIdentity (frame : SkyRadioFrame) : Except SkyRet (Bytes × Nat) :=
  if frame.byte 0 &&& skylinkFrameVersionByte ≠ skylinkFrameVersionByte then
    .error .invalidVersion
  else
    let identityLen := (frame.byte 0 &&& skylinkFrameIdentityMask).toNat
    if identityLen = 0 ∨ skyMaxIdentityLen < identityLen then .error .invalidVersion
    else .ok ((frame.raw.drop 1).take identityLen, identityLen)

/-- What `sky_rx` puts into the parsed frame before the extensions. -/
def rxContents (frame : SkyRadioFrame) (identity : Bytes × Nat) (hdr : SkyStaticHeader)
    (payloadStart : Nat) : SkyParsedFrame :=
  { identity := identity.1
    identityLen := identity.2
    hdr := hdr
    arqSequence := none, arqRequest := none, arqCtrl := none, arqHandshake := none
    macTdd := none, hmacReset := none
    payload := frame.raw.drop payloadStart
    payloadLen := if hdr.hasFlag skyFlagHasPayload then frame.length - payloadStart else 0 }

/-- The part of `sky_rx` from the static header to the parsed extensions. -/
def rxHeader (w : Nat) (frame : SkyRadioFrame) (identity : Bytes × Nat) :
    Except SkyRet SkyParsedFrame :=
  let headerStart := 1 + identity.2
  let hdr := SkyStaticHeader.load (frame.raw.drop headerStart)
  let payloadStart := headerStart + staticHeaderSize + hdr.extensionLength.toNat
  if frame.length < payloadStart then .error .invalidExtLength
  else skyFrameParseExtensionHeaders w frame (rxContents frame identity hdr payloadStart)

/-- The frame as `sky_rx` parses it before the virtual channel sees it. -/
def SkyRadioFrame.parse (w : Nat) (frame : SkyRadioFrame) : Except SkyRet SkyParsedFrame :=
  match rxIdentity frame with
  | .error ret => .error ret
  | .ok identity => rxHeader w frame identity

end Skylink
