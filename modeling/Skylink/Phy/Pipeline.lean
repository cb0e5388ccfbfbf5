import Skylink.Node.Transmission
import Skylink.Phy.Model

/-!
# From the encoder to the decoder

Parity, whitening and the length header are added in place and taken away in place. One
byte is lost on the way: the loop that makes room for the header leaves `raw[3]` as it
is, so that the first byte of the codeword is replaced by its fourth.
-/

namespace Skylink

variable {w : Nat}

/-! ## Whitening -/

def whitened (bytes : Bytes) : Bytes :=
  bytes.mapIdx fun i byte => byte ^^^ whitening.getD (i &&& 0xff) 0

@[simp] theorem whitened_length (bytes : Bytes) : (whitened bytes).length = bytes.length := by
  simp [whitened]

/-- Whitening twice changes nothing. -/
theorem whitened_whitened (bytes : Bytes) : whitened (whitened bytes) = bytes := by
  apply List.ext_getElem (by simp)
  intro i _ _
  simp only [whitened, List.getElem_mapIdx, UInt8.xor_assoc, UInt8.xor_self, UInt8.xor_zero]

/-- Whitening does not move or mend wrong bytes. -/
theorem byteErrors_whitened (xs ys : Bytes) :
    byteErrors (whitened xs) (whitened ys) = byteErrors xs ys := by
  have hmap (f : Nat → UInt8) (xs ys : Bytes) :
      byteErrors (xs.mapIdx fun i byte => byte ^^^ f i) (ys.mapIdx fun i byte => byte ^^^ f i) =
        byteErrors xs ys := by
    induction xs generalizing f ys with
    | nil => simp [byteErrors]
    | cons x xs ih =>
        cases ys with
        | nil => simp [byteErrors]
        | cons y ys =>
            have hrest := ih (fun i => f (i + 1)) ys
            simp only [byteErrors] at hrest
            simp only [byteErrors, List.mapIdx_cons, List.zip_cons_cons, List.countP_cons, hrest]
            simp [bne]
  exact hmap _ xs ys

theorem whiten_eq {length : Nat} {raw : Bytes} (h : length ≤ raw.length) :
    ∃ raw', whiten length raw = some raw' ∧ raw'.length = raw.length ∧
      raw'.take length = whitened (raw.take length) := by
  have hbound : 0 + length ≤ raw.length := by omega
  obtain ⟨raw', heq, hlen, hget⟩ := ArrayLoop.update_spec
    (f := fun i byte => byte ^^^ whitening.getD (i &&& 0xff) 0) hbound
  refine ⟨raw', heq, hlen, List.ext_getElem? fun j => ?_⟩
  rw [whitened, List.getElem?_mapIdx, List.getElem?_take, List.getElem?_take, hget]
  by_cases hj : j < length
  · rw [if_pos hj, if_pos hj, if_pos (by omega)]
  · rw [if_neg hj, if_neg hj]
    rfl

/-! ## Encoding -/

theorem skyFecEncode_eq {frame : SkyRadioFrame} (hraw : frame.raw.length = rawLen)
    (hfits : frame.length + rsParitys ≤ rawLen) :
    ∃ raw, skyFecEncode frame =
        some ({ frame with raw := raw, length := frame.length + rsParitys }, 0) ∧
      raw.length = rawLen ∧ raw.take (frame.length + rsParitys) =
        whitened (frame.contents ++ encodeRs8 frame.contents) := by
  have hparity := encodeRs8_length frame.contents
  have hcontents : frame.contents.length = frame.length := by
    rw [SkyRadioFrame.contents, List.length_take]
    omega
  let stored := frame.contents ++ encodeRs8 frame.contents ++
    frame.raw.drop (frame.length + rsParitys)
  have hstored : stored.length = rawLen := by
    simp only [stored, List.length_append, List.length_drop, hcontents, hparity, hraw]
    omega
  have hstore : storeParity frame.raw frame.length (encodeRs8 frame.contents) = some stored := by
    rw [storeParity, if_pos (by rw [hparity, hraw]; exact hfits), hparity]
    rfl
  have hbound : frame.length + rsParitys ≤ stored.length := hstored ▸ hfits
  obtain ⟨raw, hwhiten, hlen, htake⟩ := whiten_eq hbound
  refine ⟨raw, ?_, hlen.trans hstored, ?_⟩
  · rw [skyFecEncode,
      if_neg (by simp [rsMsglen, rawLen, skyFrameMaxLen, rsParitys] at hfits ⊢; omega)]
    show (storeParity frame.raw frame.length (encodeRs8 frame.contents)).bind _ = _
    rw [hstore]
    show (whiten _ stored).bind _ = _
    rw [hwhiten]
    rfl
  · rw [htake, List.take_left' (by rw [List.length_append, hcontents, hparity])]

/-- The header is put in front of the encoded bytes, the first of which is lost. -/
theorem addGolayHeader_eq {encoded : EncodedFrame} (hraw : encoded.frame.raw.length = rawLen)
    (hfits : encoded.frame.length + 3 < rawLen) :
    ∃ raw, addGolayHeader encoded =
        some ⟨{ encoded.frame with raw := raw, length := encoded.frame.length + 3 },
          encoded.assertsHold && decide (encoded.frame.length + 3 ≤ rawLen)⟩ ∧
      raw.length = rawLen ∧
      raw.take 3 = golayHeader (encodeGolay24 encoded.frame.length) ∧
      (raw.take (encoded.frame.length + 3)).drop 3 =
        encoded.frame.contents.set 0 (encoded.frame.byte 3) := by
  have hbound : encoded.frame.length + 3 < encoded.frame.raw.length := hraw ▸ hfits
  obtain ⟨moved, hcopy, hlen, hget⟩ := ArrayLoop.copyDown_spec hbound
  have hheader (n : Nat) : (golayHeader n).length = 3 := rfl
  refine ⟨golayHeader (encodeGolay24 encoded.frame.length) ++ moved.drop 3, ?_, ?_,
    List.take_left' (hheader _), List.ext_getElem? fun j => ?_⟩
  · rw [addGolayHeader]
    show (ArrayLoop.copyDown 3 encoded.frame.length encoded.frame.raw).bind _ = _
    rw [hcopy]
    rfl
  · rw [List.length_append, hheader, List.length_drop, hlen, hraw]
    rfl
  · rw [List.drop_take, List.drop_left' (hheader _), Nat.add_sub_cancel, List.getElem?_take,
      List.getElem?_drop, hget, SkyRadioFrame.contents]
    by_cases hj : j < encoded.frame.length
    · rw [if_pos hj]
      by_cases hfirst : j = 0
      · subst hfirst
        have hthird : encoded.frame.raw[3]? = some (encoded.frame.byte 3) := by
          rw [SkyRadioFrame.byte, List.getD_eq_getElem _ _ (by omega),
            List.getElem?_eq_getElem (by omega)]
        rw [if_neg (by omega), hthird, List.getElem?_set_self (by rw [List.length_take]; omega)]
      · rw [if_pos (by omega), List.getElem?_set_ne (Ne.symm hfirst), List.getElem?_take,
          if_pos hj, Nat.add_sub_cancel_left]
    · rw [if_neg hj, List.getElem?_eq_none]
      rw [List.length_set, List.length_take]
      omega

/-- The last byte is written behind the buffer. -/
theorem addGolayHeader_eq_none {encoded : EncodedFrame} (hpos : encoded.frame.length ≠ 0)
    (hlong : encoded.frame.raw.length ≤ encoded.frame.length + 3) :
    addGolayHeader encoded = none := by
  rw [addGolayHeader]
  show (ArrayLoop.copyDown 3 encoded.frame.length encoded.frame.raw).bind _ = none
  rw [ArrayLoop.copyDown_eq_none hpos hlong]
  rfl

/-! ## Decoding -/

/-- The bytes of a header give back the codeword. -/
theorem golayHeader_join {n : Nat} (hn : n < 2 ^ 24) :
    (((golayHeader n).getD 0 0).toNat <<< 16) ||| (((golayHeader n).getD 1 0).toNat <<< 8) |||
      ((golayHeader n).getD 2 0).toNat = n := by
  have hbyte (x : Nat) : (UInt8.ofNat (x &&& 0xff)).toNat = x % 256 := by
    rw [show (0xff : Nat) = 2 ^ 8 - 1 from rfl, Nat.and_two_pow_sub_one_eq_mod, UInt8.toNat_ofNat']
    omega
  show ((UInt8.ofNat (n >>> 16 &&& 0xff)).toNat <<< 16 |||
    (UInt8.ofNat (n >>> 8 &&& 0xff)).toNat <<< 8) ||| (UInt8.ofNat (n &&& 0xff)).toNat = n
  have hlow : (n / 2 ^ 8 % 256) <<< 8 ||| n % 256 = n % 2 ^ 16 := by
    rw [← Nat.shiftLeft_add_eq_or_of_lt (by omega), Nat.shiftLeft_eq]
    omega
  calc ((UInt8.ofNat (n >>> 16 &&& 0xff)).toNat <<< 16 |||
      (UInt8.ofNat (n >>> 8 &&& 0xff)).toNat <<< 8) ||| (UInt8.ofNat (n &&& 0xff)).toNat
    _ = (n / 2 ^ 16 % 256) <<< 16 ||| ((n / 2 ^ 8 % 256) <<< 8 ||| n % 256) := by
      rw [hbyte, hbyte, hbyte, Nat.shiftRight_eq_div_pow, Nat.shiftRight_eq_div_pow, Nat.or_assoc]
    _ = n / 2 ^ 16 % 256 * 2 ^ 16 + n % 2 ^ 16 := by
      rw [hlow, ← Nat.shiftLeft_add_eq_or_of_lt (by omega), Nat.shiftLeft_eq]
    _ = n := by omega

/-- The header tells the length that was put in. -/
theorem golayLength_header {frame : SkyRadioFrame} {n : Nat} (hn : n < 256)
    (h : frame.raw.take 3 = golayHeader (encodeGolay24 n)) : golayLength frame = some n := by
  obtain ⟨hdecode, hlt, hlow⟩ := decodeGolay24_encode hn
  have hbyte {i : Nat} (hi : i < 3) :
      frame.byte i = (golayHeader (encodeGolay24 n)).getD i 0 := by
    rw [← h, SkyRadioFrame.byte, List.getD_eq_getElem?_getD, List.getD_eq_getElem?_getD,
      List.getElem?_take, if_pos hi]
  rw [golayLength, hbyte (by decide), hbyte (by decide), hbyte (by decide)]
  rw [golayHeader_join hlt, hdecode]
  exact congrArg some hlow

/-- A word with no more than sixteen wrong bytes is decoded to its message. -/
theorem skyFecDecode_eq {decodeRs8 : RsDecoder} {frame : SkyRadioFrame} (diag : FecDiagnostics)
    {message : Bytes} (hlength : frame.length = message.length + rsParitys)
    (hraw : frame.length ≤ frame.raw.length) (hmax : message.length ≤ rsMsglen)
    (hdecode : decodeRs8.CorrectsErrors (message ++ encodeRs8 message))
    (herrors : byteErrors frame.contents (whitened (message ++ encodeRs8 message)) ≤ 16) :
    ∃ plain diag', skyFecDecode decodeRs8 frame diag = some (plain, diag', 0) ∧
      plain.length = message.length ∧ plain.contents = message := by
  obtain ⟨raw, hwhiten, hlen, htake⟩ := whiten_eq hraw
  have hcontents : frame.contents.length = (message ++ encodeRs8 message).length := by
    rw [SkyRadioFrame.contents, List.length_take, List.length_append, encodeRs8_length]
    omega
  obtain ⟨corrected, hcorrected⟩ := hdecode (raw.take frame.length)
    (by rw [htake, whitened_length]; exact hcontents)
    (by rw [htake, ← byteErrors_whitened, whitened_whitened]; exact herrors)
  have hplain : frame.length - rsParitys = message.length := by omega
  let plain : SkyRadioFrame :=
    { frame with
      raw := message ++ encodeRs8 message ++ raw.drop frame.length
      length := frame.length - rsParitys }
  let diag' : FecDiagnostics :=
    { diag with
      rxFecOk := diag.rxFecOk + 1
      rxFecErrs := diag.rxFecErrs + UInt16.ofNat corrected
      rxFecOcts := diag.rxFecOcts + UInt16.ofNat frame.length }
  refine ⟨plain, diag', ?_, hplain, ?_⟩
  · rw [skyFecDecode, if_neg (by omega)]
    show (whiten frame.length frame.raw).bind _ = _
    rw [hwhiten, Option.bind_some, hcorrected]
  · show (message ++ encodeRs8 message ++ raw.drop frame.length).take
      (frame.length - rsParitys) = message
    rw [hplain, List.append_assoc, List.take_left' rfl]

/-- The body is moved to the front. -/
theorem skyRxWithGolay_shift (H : KeyedHash) (decodeRs8 : RsDecoder) (tick : Int)
    (receiver : SkyNode w) (diag : FecDiagnostics) {received : SkyRadioFrame} {length : Nat}
    (hlength : golayLength received = some length) (hfits : length + 3 ≤ rawLen)
    (hraw : received.raw.length = rawLen) :
    ∃ shifted : SkyRadioFrame, shifted.rxTimeTicks = received.rxTimeTicks ∧
      shifted.length = length ∧ shifted.raw.length = rawLen ∧
      shifted.contents = (received.raw.drop 3).take length ∧
      skyRxWithGolay H decodeRs8 tick receiver diag received =
        skyRxWithFec H decodeRs8 tick receiver diag shifted := by
  have hbound : 0 + length + 3 ≤ received.raw.length := by omega
  obtain ⟨moved, hcopy, hlen, hget⟩ := ArrayLoop.copyUp_spec hbound
  refine ⟨{ received with raw := moved, length := length }, rfl, rfl, hlen.trans hraw, ?_, ?_⟩
  · apply List.ext_getElem?
    intro j
    rw [SkyRadioFrame.contents, List.getElem?_take, List.getElem?_take, List.getElem?_drop, hget]
    by_cases hj : j < length
    · rw [if_pos hj, if_pos hj, if_pos (by omega), Nat.add_comm]
    · rw [if_neg hj, if_neg hj]
  · rw [skyRxWithGolay, hlength]
    dsimp only
    rw [if_neg (by omega), hcopy]
    rfl

/-- A body with no more than sixteen wrong bytes reaches `sky_rx` as its message. -/
theorem skyRxWithGolay_eq {H : KeyedHash} {decodeRs8 : RsDecoder} {tick : Int}
    {receiver : SkyNode w} {diag : FecDiagnostics} {received : SkyRadioFrame}
    {message : Bytes} (hraw : received.raw.length = rawLen)
    (hmin : skyFrameMinLen ≤ message.length) (hfits : message.length + rsParitys + 3 ≤ rawLen)
    (hheader : received.raw.take 3 = golayHeader (encodeGolay24 (message.length + rsParitys)))
    (hdecode : decodeRs8.CorrectsErrors (message ++ encodeRs8 message))
    (herrors : byteErrors ((received.raw.drop 3).take (message.length + rsParitys))
      (whitened (message ++ encodeRs8 message)) ≤ 16) :
    ∃ plain diag', plain.length = message.length ∧ plain.contents = message ∧
      skyRxWithGolay H decodeRs8 tick receiver diag received =
        some ((skyRx H tick receiver plain).1, diag', (skyRx H tick receiver plain).2) := by
  have hmax : message.length + rsParitys ≤ 226 ∧ message.length ≤ 194 := by
    simp only [rawLen, skyFrameMaxLen, rsParitys] at hfits ⊢
    omega
  obtain ⟨shifted, -, hshifted, hlen, hbody, heq⟩ := skyRxWithGolay_shift H decodeRs8 tick receiver
    diag (golayLength_header (by omega) hheader) hfits hraw
  obtain ⟨plain, diag', hplain, hlength, hcontents⟩ := skyFecDecode_eq diag hshifted
    (by omega) (by rw [rsMsglen]; omega) hdecode (by rw [hbody]; exact herrors)
  refine ⟨plain, diag', hlength, hcontents, heq.trans ?_⟩
  rw [skyRxWithFec, if_neg (by omega), hplain]
  rfl

/-! ## What the pipeline preserves -/

/-- The plain frame `tx` reaches `sky_rx` of any node that receives `received`. -/
def Recovers (w : Nat) (decodeRs8 : RsDecoder) (tx : SkyTransmitFrame) (received : SkyRadioFrame) :
    Prop :=
  ∀ (H : KeyedHash) (tick : Int) (receiver : SkyNode w) (diag : FecDiagnostics),
    ∃ plain diag', plain.length = tx.length ∧ plain.contents = tx.bytes ∧
      skyRxWithGolay H decodeRs8 tick receiver diag received =
        some ((skyRx H tick receiver plain).1, diag', (skyRx H tick receiver plain).2)

/-- The frame that `sky_tx` builds is sent as its codeword behind the header, and is
recovered from every body with no more than sixteen wrong bytes. -/
def GolayPreserves (H : KeyedHash) (decodeRs8 : RsDecoder) (tick : Int) (node : SkyNode w)
    (tx : SkyTransmitFrame) : Prop :=
  ∃ node' encoded sent, skyTxWithFec H tick node = some (node', some encoded, 1) ∧
    skyTxWithGolay H tick node = some (node', some sent, 1) ∧
    sent.frame.contents.drop 3 = encoded.frame.contents ∧
    ∀ received : SkyRadioFrame, received.raw.length = rawLen →
      received.raw.take 3 = sent.frame.raw.take 3 →
      byteErrors ((received.raw.drop 3).take encoded.frame.length)
        (sent.frame.contents.drop 3) ≤ 16 → Recovers w decodeRs8 tx received

section Sent

variable {H : KeyedHash} {tick : Int} {node : SkyNode w} {tx : SkyTransmitFrame}

theorem SkyTransmitFrame.frame_contents (tx : SkyTransmitFrame) : tx.frame.contents = tx.bytes := by
  show (tx.bytes ++ _).take tx.length = tx.bytes
  rw [List.take_left' tx.bytes_length]

/-- The first and the fourth byte of a frame of `sky_tx`. -/
theorem skyTx_bytes (hid : 3 ≤ node.conf.identityLen) (h : (skyTx H tick node).2.1 = some tx) :
    tx.bytes[0]? = some (skylinkFrameVersionByte ||| UInt8.ofNat node.conf.identityLen) ∧
      tx.bytes[3]? = some (node.conf.identity.getD 2 0) ∧ 8 ≤ tx.length := by
  have hstart := skyTx_start h
  have hidentity := node.conf.identity_length
  rw [skyMaxIdentityLen] at hidentity
  have htake : (node.conf.identity.take node.conf.identityLen)[2]? =
      some (node.conf.identity.getD 2 0) := by
    rw [List.getElem?_take, if_pos (by omega), List.getD_eq_getElem _ _ (by omega),
      List.getElem?_eq_getElem (by omega)]
  refine ⟨?_, ?_, ?_⟩
  · rw [SkyTransmitFrame.bytes, hstart]
    rfl
  · rw [SkyTransmitFrame.bytes, hstart, List.cons_append, List.cons_append,
      List.getElem?_cons_succ, List.append_assoc,
      List.getElem?_append_left (by rw [List.length_take]; omega)]
    exact htake
  · rw [SkyTransmitFrame.length, hstart, List.length_cons, List.length_take, staticHeaderSize]
    omega

/-- The encoding of a frame of `sky_tx`. -/
theorem skyTxWithFec_eq (h : (skyTx H tick node).2.1 = some tx)
    (hfits : tx.length + rsParitys ≤ rawLen) :
    ∃ encoded, skyTxWithFec H tick node = some ((skyTx H tick node).1, some encoded, 1) ∧
      encoded.frame.length = tx.length + rsParitys ∧ encoded.frame.raw.length = rawLen ∧
      encoded.frame.contents = whitened (tx.bytes ++ encodeRs8 tx.bytes) ∧
      encoded.assertsHold = tx.assertsHold := by
  obtain ⟨v, -, -, hskyTx, -⟩ := skyTx_crafted h
  obtain ⟨raw, hencode, hlen, htake⟩ := skyFecEncode_eq
    (SkyTransmitFrame.frame_raw_length (by omega)) hfits
  rw [tx.frame_contents] at htake
  let encoded : EncodedFrame :=
    ⟨{ tx.frame with raw := raw, length := tx.frame.length + rsParitys },
      tx.assertsHold && decide (tx.length + rsParitys ≤ rawLen)⟩
  refine ⟨encoded, ?_, rfl, hlen, htake, ?_⟩
  · rw [skyTxWithFec, hskyTx]
    show (skyFecEncode tx.frame).bind _ = _
    rw [hencode]
    rfl
  · show (tx.assertsHold && decide (tx.length + rsParitys ≤ rawLen)) = tx.assertsHold
    rw [decide_eq_true hfits, Bool.and_true]

/-- Adding the header to it. -/
theorem skyTxWithGolay_eq {node' : SkyNode w} {encoded : EncodedFrame} {ret : SkyRet}
    (h : skyTxWithFec H tick node = some (node', some encoded, ret)) :
    skyTxWithGolay H tick node =
      (addGolayHeader encoded).map fun sent => (node', some sent, ret) := by
  rw [skyTxWithGolay, h]
  show (addGolayHeader encoded).bind _ = _
  cases addGolayHeader encoded <;> rfl

end Sent

theorem whitened_getElem? {bytes : Bytes} {i : Nat} {byte : UInt8} (h : bytes[i]? = some byte) :
    (whitened bytes)[i]? = some (byte ^^^ whitening.getD (i &&& 0xff) 0) := by
  rw [whitened, List.getElem?_mapIdx, h]
  rfl

theorem xor_eq_xor_iff (a b : UInt8) : a ^^^ 0xff = b ^^^ 0xc0 ↔ b = a ^^^ 0x3f := by
  constructor
  · intro h
    have hb : b ^^^ 0xc0 ^^^ 0xc0 = b := by
      rw [UInt8.xor_assoc, UInt8.xor_self, UInt8.xor_zero]
    rw [← hb, ← h, UInt8.xor_assoc]
    rfl
  · rintro rfl
    rw [UInt8.xor_assoc]
    rfl

/-- The sent body is the codeword exactly if its first and its fourth byte agree, that is
if the third byte of the identity is what makes them agree. -/
theorem addGolayHeader_body_iff {encoded : EncodedFrame} {message parity : Bytes}
    (hcontents : encoded.frame.contents = whitened (message ++ parity)) {first fourth : UInt8}
    (hfirst : message[0]? = some first) (hfourth : message[3]? = some fourth) :
    encoded.frame.contents.set 0 (encoded.frame.byte 3) = encoded.frame.contents ↔
      fourth = first ^^^ 0x3f := by
  have happend {i : Nat} {byte : UInt8} (h : message[i]? = some byte) :
      (message ++ parity)[i]? = some byte := by
    rw [List.getElem?_append_left (List.getElem?_eq_some_iff.mp h).1, h]
  have hzero : encoded.frame.contents[0]? = some (first ^^^ 0xff) := by
    rw [hcontents]
    exact whitened_getElem? (happend hfirst)
  have hthree : encoded.frame.contents[3]? = some (fourth ^^^ 0xc0) := by
    rw [hcontents]
    exact whitened_getElem? (happend hfourth)
  have hbyte : encoded.frame.byte 3 = fourth ^^^ 0xc0 := by
    rw [SkyRadioFrame.contents, List.getElem?_take] at hthree
    split at hthree
    · rw [SkyRadioFrame.byte, List.getD_eq_getElem?_getD, hthree]
      rfl
    · cases hthree
  rw [hbyte, ← xor_eq_xor_iff]
  obtain ⟨hpos, heq⟩ := List.getElem?_eq_some_iff.mp hzero
  constructor
  · intro h
    have hset : (encoded.frame.contents.set 0 (fourth ^^^ 0xc0))[0]? = some (fourth ^^^ 0xc0) :=
      List.getElem?_set_self hpos
    rw [h, hzero] at hset
    exact Option.some.inj hset
  · intro h
    rw [← h, ← heq, List.set_getElem_self]

/-- The bytes after the header are those of the codeword only if the first and the fourth of
them agree. -/
theorem GolayPreserves.condition {H : KeyedHash} {decodeRs8 : RsDecoder} {tick : Int}
    {node : SkyNode w} {tx : SkyTransmitFrame} (hid : 3 ≤ node.conf.identityLen)
    (htx : (skyTx H tick node).2.1 = some tx) (hfits : tx.length + rsParitys + 3 ≤ rawLen)
    (h : GolayPreserves H decodeRs8 tick node tx) :
    tx.length + rsParitys + 3 < rawLen ∧ node.conf.identity.getD 2 0 =
      (skylinkFrameVersionByte ||| UInt8.ofNat node.conf.identityLen) ^^^ 0x3f := by
  obtain ⟨node', encoded, sent, hfec, hgolay, hbody, -⟩ := h
  obtain ⟨encoded', hfec', hlength, hraw, hcontents, -⟩ := skyTxWithFec_eq htx (by omega)
  rw [hfec] at hfec'
  cases hfec'
  rw [skyTxWithGolay_eq hfec] at hgolay
  obtain ⟨hfirst, hfourth, -⟩ := skyTx_bytes hid htx
  rcases Nat.lt_or_ge (tx.length + rsParitys + 3) rawLen with hlt | hge
  · obtain ⟨raw, hadd, -, -, hmoved⟩ := addGolayHeader_eq hraw (by omega)
    rw [hadd] at hgolay
    cases hgolay
    refine ⟨hlt, (addGolayHeader_body_iff hcontents hfirst hfourth).mp ?_⟩
    rw [← hmoved]
    exact hbody
  · rw [addGolayHeader_eq_none (by rw [hlength, rsParitys]; omega) (by omega)] at hgolay
    cases hgolay

/-- The pipeline does what it should exactly for frames that leave one byte free, from nodes
whose third identity byte happens to hide the byte that is lost. -/
theorem golayPreserves_iff (H : KeyedHash) (decodeRs8 : RsDecoder) (tick : Int) (node : SkyNode w)
    (hid : 3 ≤ node.conf.identityLen) {tx : SkyTransmitFrame}
    (htx : (skyTx H tick node).2.1 = some tx) (hfits : tx.length + rsParitys + 3 ≤ rawLen)
    (hdecode : decodeRs8.CorrectsErrors (tx.bytes ++ encodeRs8 tx.bytes)) :
    GolayPreserves H decodeRs8 tick node tx ↔
      tx.length + rsParitys + 3 < rawLen ∧ node.conf.identity.getD 2 0 =
        (skylinkFrameVersionByte ||| UInt8.ofNat node.conf.identityLen) ^^^ 0x3f := by
  refine ⟨GolayPreserves.condition hid htx hfits, fun ⟨hlt, hthird⟩ => ?_⟩
  obtain ⟨encoded, hfec, hlength, hraw, hcontents, -⟩ := skyTxWithFec_eq htx (by omega)
  obtain ⟨hfirst, hfourth, hmin⟩ := skyTx_bytes hid htx
  obtain ⟨raw, hadd, hrawLen, hheader, hmoved⟩ := addGolayHeader_eq hraw (by omega)
  rw [(addGolayHeader_body_iff hcontents hfirst hfourth).mpr hthird] at hmoved
  let sent : EncodedFrame :=
    ⟨{ encoded.frame with raw := raw, length := encoded.frame.length + 3 },
      encoded.assertsHold && decide (encoded.frame.length + 3 ≤ rawLen)⟩
  have hbody : sent.frame.contents.drop 3 = encoded.frame.contents := hmoved
  refine ⟨_, encoded, sent, hfec, (skyTxWithGolay_eq hfec).trans (by rw [hadd]; rfl), hbody, ?_⟩
  intro received hreceived hsame herrors H' tick' receiver diag
  have hmessage := tx.bytes_length
  rw [hbody, hcontents, hlength, ← hmessage] at herrors
  obtain ⟨plain, diag', hplain, hbytes, hrx⟩ := skyRxWithGolay_eq hreceived
    (by rw [hmessage, skyFrameMinLen]; omega) (by rw [hmessage]; exact hfits)
    (by rw [hmessage, ← hlength, hsame]; exact hheader) hdecode herrors
  exact ⟨plain, diag', hplain.trans hmessage, hbytes, hrx⟩

/-! ## What is left of the margin -/

theorem byteErrors_set_le (xs ys : Bytes) (byte : UInt8) :
    byteErrors xs ys ≤ byteErrors xs (ys.set 0 byte) + 1 := by
  cases xs with
  | nil => simp [byteErrors]
  | cons x xs =>
      cases ys with
      | nil => simp [byteErrors]
      | cons y ys =>
          simp only [byteErrors, List.set_cons_zero, List.zip_cons_cons, List.countP_cons]
          split <;> split <;> omega

/-- Whatever the identity is, a frame of `sky_tx` that leaves a byte free is recovered from
every body with no more than fifteen wrong bytes: the lost byte costs one correction. -/
theorem skyTxWithGolay_recovers (H : KeyedHash) (decodeRs8 : RsDecoder) (tick : Int)
    (node : SkyNode w) (hid : 3 ≤ node.conf.identityLen) {tx : SkyTransmitFrame}
    (htx : (skyTx H tick node).2.1 = some tx) (hfits : tx.length + rsParitys + 3 < rawLen)
    (hdecode : decodeRs8.CorrectsErrors (tx.bytes ++ encodeRs8 tx.bytes)) :
    ∃ node' sent, skyTxWithGolay H tick node = some (node', some sent, 1) ∧
      ∀ received : SkyRadioFrame, received.raw.length = rawLen →
        received.raw.take 3 = sent.frame.raw.take 3 →
        byteErrors ((received.raw.drop 3).take (tx.length + rsParitys))
          (sent.frame.contents.drop 3) ≤ 15 → Recovers w decodeRs8 tx received := by
  obtain ⟨encoded, hfec, hlength, hraw, hcontents, -⟩ := skyTxWithFec_eq htx (by omega)
  obtain ⟨-, -, hmin⟩ := skyTx_bytes hid htx
  obtain ⟨raw, hadd, hrawLen, hheader, hmoved⟩ := addGolayHeader_eq hraw (by omega)
  let sent : EncodedFrame :=
    ⟨{ encoded.frame with raw := raw, length := encoded.frame.length + 3 },
      encoded.assertsHold && decide (encoded.frame.length + 3 ≤ rawLen)⟩
  have hbody : sent.frame.contents.drop 3 =
      encoded.frame.contents.set 0 (encoded.frame.byte 3) := hmoved
  refine ⟨_, sent, (skyTxWithGolay_eq hfec).trans (by rw [hadd]; rfl), ?_⟩
  intro received hreceived hsame herrors H' tick' receiver diag
  have hmessage := tx.bytes_length
  have hclose := byteErrors_set_le ((received.raw.drop 3).take (tx.length + rsParitys))
    encoded.frame.contents (encoded.frame.byte 3)
  rw [hbody] at herrors
  rw [hcontents, ← hmessage] at hclose
  rw [hcontents, ← hmessage] at herrors
  obtain ⟨plain, diag', hplain, hbytes, hrx⟩ := skyRxWithGolay_eq hreceived
    (by rw [hmessage, skyFrameMinLen]; omega) (by rw [hmessage]; omega)
    (by rw [hmessage, ← hlength, hsame]; exact hheader) hdecode (by omega)
  exact ⟨plain, diag', hplain.trans hmessage, hbytes, hrx⟩

/-! ## An example -/

/-- A node with three bytes to send. -/
def examplePhyNode : SkyNode 8 := (exampleNode 0 7).step exampleHash (.channel 0 (.push [1, 2, 3]))

theorem examplePhyNode_sends : (skyTx exampleHash 0 examplePhyNode).2.1.isSome := by
  decide +kernel

/-- The frame that it sends. -/
def examplePhyFrame : SkyTransmitFrame :=
  (skyTx exampleHash 0 examplePhyNode).2.1.get examplePhyNode_sends

theorem examplePhyFrame_eq : (skyTx exampleHash 0 examplePhyNode).2.1 = some examplePhyFrame :=
  (Option.some_get examplePhyNode_sends).symm

/-- What the decoder returns for every word close to the codeword of the frame. -/
def exampleDecoder : RsDecoder :=
  fun _ => some (examplePhyFrame.bytes ++ encodeRs8 examplePhyFrame.bytes, 0)

theorem golayPreserves_iff_example :
    GolayPreserves exampleHash exampleDecoder 0 examplePhyNode examplePhyFrame ↔
      examplePhyFrame.length + rsParitys + 3 < rawLen ∧ examplePhyNode.conf.identity.getD 2 0 =
        (skylinkFrameVersionByte ||| UInt8.ofNat examplePhyNode.conf.identityLen) ^^^ 0x3f :=
  golayPreserves_iff exampleHash exampleDecoder 0 examplePhyNode (by decide +kernel)
    examplePhyFrame_eq (by decide +kernel) fun _ _ _ => ⟨0, rfl⟩

/-- The fourth byte of the codeword is sent in place of the first. -/
theorem not_golayPreserves :
    ¬GolayPreserves exampleHash exampleDecoder 0 examplePhyNode examplePhyFrame := by
  intro h
  obtain ⟨-, hthird⟩ := h.condition (by decide +kernel) examplePhyFrame_eq (by decide +kernel)
  exact absurd hthird (by decide +kernel)

end Skylink
