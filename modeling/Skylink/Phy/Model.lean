import Skylink.Library.ArrayLoop
import Skylink.Node.Model
import Skylink.Phy.Golay
import Skylink.Phy.ReedSolomon

/-!
# The coding of frames

Error correction and the length header around the frames of the protocol. All of it
works in place on `raw`; an access outside of `raw` gives `none`.
-/

namespace Skylink

variable {w : Nat}

/-- The pseudo random sequence. -/
def whitening : List UInt8 :=
  [0xff, 0x48, 0x0e, 0xc0, 0x9a, 0x0d, 0x70, 0xbc, 0x8e, 0x2c, 0x93, 0xad, 0xa7, 0xb7, 0x46, 0xce,
   0x5a, 0x97, 0x7d, 0xcc, 0x32, 0xa2, 0xbf, 0x3e, 0x0a, 0x10, 0xf1, 0x88, 0x94, 0xcd, 0xea, 0xb1,
   0xfe, 0x90, 0x1d, 0x81, 0x34, 0x1a, 0xe1, 0x79, 0x1c, 0x59, 0x27, 0x5b, 0x4f, 0x6e, 0x8d, 0x9c,
   0xb5, 0x2e, 0xfb, 0x98, 0x65, 0x45, 0x7e, 0x7c, 0x14, 0x21, 0xe3, 0x11, 0x29, 0x9b, 0xd5, 0x63,
   0xfd, 0x20, 0x3b, 0x02, 0x68, 0x35, 0xc2, 0xf2, 0x38, 0xb2, 0x4e, 0xb6, 0x9e, 0xdd, 0x1b, 0x39,
   0x6a, 0x5d, 0xf7, 0x30, 0xca, 0x8a, 0xfc, 0xf8, 0x28, 0x43, 0xc6, 0x22, 0x53, 0x37, 0xaa, 0xc7,
   0xfa, 0x40, 0x76, 0x04, 0xd0, 0x6b, 0x85, 0xe4, 0x71, 0x64, 0x9d, 0x6d, 0x3d, 0xba, 0x36, 0x72,
   0xd4, 0xbb, 0xee, 0x61, 0x95, 0x15, 0xf9, 0xf0, 0x50, 0x87, 0x8c, 0x44, 0xa6, 0x6f, 0x55, 0x8f,
   0xf4, 0x80, 0xec, 0x09, 0xa0, 0xd7, 0x0b, 0xc8, 0xe2, 0xc9, 0x3a, 0xda, 0x7b, 0x74, 0x6c, 0xe5,
   0xa9, 0x77, 0xdc, 0xc3, 0x2a, 0x2b, 0xf3, 0xe0, 0xa1, 0x0f, 0x18, 0x89, 0x4c, 0xde, 0xab, 0x1f,
   0xe9, 0x01, 0xd8, 0x13, 0x41, 0xae, 0x17, 0x91, 0xc5, 0x92, 0x75, 0xb4, 0xf6, 0xe8, 0xd9, 0xcb,
   0x52, 0xef, 0xb9, 0x86, 0x54, 0x57, 0xe7, 0xc1, 0x42, 0x1e, 0x31, 0x12, 0x99, 0xbd, 0x56, 0x3f,
   0xd2, 0x03, 0xb0, 0x26, 0x83, 0x5c, 0x2f, 0x23, 0x8b, 0x24, 0xeb, 0x69, 0xed, 0xd1, 0xb3, 0x96,
   0xa5, 0xdf, 0x73, 0x0c, 0xa8, 0xaf, 0xcf, 0x82, 0x84, 0x3c, 0x62, 0x25, 0x33, 0x7a, 0xac, 0x7f,
   0xa4, 0x07, 0x60, 0x4d, 0x06, 0xb8, 0x5e, 0x47, 0x16, 0x49, 0xd6, 0xd3, 0xdb, 0xa3, 0x67, 0x2d,
   0x4b, 0xbe, 0xe6, 0x19, 0x51, 0x5f, 0x9f, 0x05, 0x08, 0x78, 0xc4, 0x4a, 0x66, 0xf5, 0x58, 0xff]

/-- The counters of `SkyDiagnostics` that error correction touches. -/
structure FecDiagnostics where
  rxFecOk : UInt16
  rxFecFail : UInt16
  rxFecOcts : UInt16
  rxFecErrs : UInt16
deriving DecidableEq, Repr

/-- A frame that was encoded in place; `assertsHold` tells whether every `SKY_ASSERT`
passed on the way. -/
structure EncodedFrame where
  frame : SkyRadioFrame
  assertsHold : Bool
deriving DecidableEq, Repr

/-! ## Error correction -/

/-- The loop that removes or applies the whitening. -/
def whiten (length : Nat) (raw : Bytes) : Option Bytes :=
  ArrayLoop.update (fun i byte => byte ^^^ whitening.getD (i &&& 0xff) 0) length 0 raw

/-- What `encode_rs_8` stores behind the message. -/
def storeParity (raw : Bytes) (length : Nat) (parity : Bytes) : Option Bytes :=
  if length + parity.length ≤ raw.length then
    some (raw.take length ++ parity ++ raw.drop (length + parity.length))
  else none

def skyFecEncode (frame : SkyRadioFrame) : Option (SkyRadioFrame × SkyRet) :=
  if rsMsglen < frame.length then some (frame, .rsInvalidLength)
  else do
    let raw ← storeParity frame.raw frame.length (encodeRs8 (frame.raw.take frame.length))
    let length := frame.length + rsParitys
    let raw ← whiten length raw
    some ({ frame with raw := raw, length := length }, 0)

def skyFecDecode (decodeRs8 : RsDecoder) (frame : SkyRadioFrame) (diag : FecDiagnostics) :
    Option (SkyRadioFrame × FecDiagnostics × SkyRet) :=
  if frame.length < rsParitys ∨ rsMsglen + rsParitys < frame.length then
    some (frame, diag, .rsInvalidLength)
  else do
    let raw ← whiten frame.length frame.raw
    match decodeRs8 (raw.take frame.length) with
    | none =>
        some ({ frame with raw := raw }, { diag with rxFecFail := diag.rxFecFail + 1 }, .rsFailed)
    | some (word, corrected) =>
        some
          ({ frame with
             raw := word ++ raw.drop frame.length
             length := frame.length - rsParitys },
            { diag with
              rxFecOk := diag.rxFecOk + 1
              rxFecErrs := diag.rxFecErrs + UInt16.ofNat corrected
              rxFecOcts := diag.rxFecOcts + UInt16.ofNat frame.length }, 0)

/-! ## Transmission -/

/-- The value is `none` where the code leaves `raw`; the frame is `none` where `sky_tx`
created none. -/
def skyTxWithFec (H : KeyedHash) (tick : Int) (self : SkyNode w) :
    Option (SkyNode w × Option EncodedFrame × SkyRet) :=
  match skyTx H tick self with
  | (self, none, ret) => some (self, none, ret)
  | (self, some tx, ret) => do
      let tx := tx.assert (decide (tx.length + rsParitys ≤ rawLen))
      let (frame, _) ← skyFecEncode tx.frame
      some (self, some ⟨frame, tx.assertsHold⟩, ret)

/-- The three bytes of a Golay codeword, the high byte first. -/
def golayHeader (phyHeader : Nat) : Bytes :=
  [UInt8.ofNat (phyHeader >>> 16 &&& 0xff), UInt8.ofNat (phyHeader >>> 8 &&& 0xff),
   UInt8.ofNat (phyHeader &&& 0xff)]

/-- What `sky_tx_with_golay` does with an encoded frame. -/
def addGolayHeader (encoded : EncodedFrame) : Option EncodedFrame := do
  let frame := encoded.frame
  -- The loop ends before `raw[0]` is moved.
  let raw ← ArrayLoop.copyDown 3 frame.length frame.raw
  let phyHeader := encodeGolay24 frame.length
  let raw := golayHeader phyHeader ++ raw.drop 3
  some ⟨{ frame with raw := raw, length := frame.length + 3 },
    encoded.assertsHold && decide (frame.length + 3 ≤ rawLen)⟩

def skyTxWithGolay (H : KeyedHash) (tick : Int) (self : SkyNode w) :
    Option (SkyNode w × Option EncodedFrame × SkyRet) := do
  match ← skyTxWithFec H tick self with
  | (self, none, ret) => some (self, none, ret)
  | (self, some encoded, ret) =>
      let encoded ← addGolayHeader encoded
      some (self, some encoded, ret)

/-! ## Reception -/

/-- The shortest frame that `sky_rx_with_fec` accepts. -/
def skyRxWithFec (H : KeyedHash) (decodeRs8 : RsDecoder) (tick : Int) (self : SkyNode w)
    (diag : FecDiagnostics) (frame : SkyRadioFrame) :
    Option (SkyNode w × FecDiagnostics × SkyRet) :=
  if frame.length < skyFrameMinLen + rsParitys then some (self, diag, .invalidEncodedLength)
  else do
    let (frame, diag, ret) ← skyFecDecode decodeRs8 frame diag
    if ret < 0 then some (self, diag, ret)
    else
      let (self, ret) := skyRx H tick self frame
      some (self, diag, ret)

/-- The length that the header of a received frame tells, or `none` if the header cannot
be corrected. -/
def golayLength (frame : SkyRadioFrame) : Option Nat :=
  let codedLen := ((frame.byte 0).toNat <<< 16) ||| ((frame.byte 1).toNat <<< 8) |||
    (frame.byte 2).toNat
  (decodeGolay24 codedLen).map fun decoded => decoded.1 &&& 0x0ff

def skyRxWithGolay (H : KeyedHash) (decodeRs8 : RsDecoder) (tick : Int) (self : SkyNode w)
    (diag : FecDiagnostics) (frame : SkyRadioFrame) :
    Option (SkyNode w × FecDiagnostics × SkyRet) :=
  match golayLength frame with
  | none => some (self, { diag with rxFecFail := diag.rxFecFail + 1 }, .golayFailed)
  | some length =>
      if rawLen < length then some (self, diag, .invalidEncodedLength)
      else do
        let raw ← ArrayLoop.copyUp 3 length 0 frame.raw
        skyRxWithFec H decodeRs8 tick self diag { frame with raw := raw, length := length }

end Skylink
