import Skylink.Node.Locality
import Skylink.Phy.GolayDecoder
import Skylink.Phy.ReceiveBuffer
import Skylink.Phy.RsCorrection

/-!
# Frames over a noisy channel

What both decoders correct together: three bits of the header and sixteen bytes behind it,
one of which the transmitter has spoiled itself.
-/

namespace Skylink

variable {w : Nat}

/-! ## The header -/

theorem SkyRadioFrame.codedLen_lt (frame : SkyRadioFrame) : frame.codedLen < 2 ^ 24 := by
  have hbyte (i k : Nat) (hk : k ≤ 16) : (frame.byte i).toNat <<< k < 2 ^ 24 := by
    have hlt := UInt8.toNat_lt (frame.byte i)
    calc (frame.byte i).toNat <<< k
      _ = (frame.byte i).toNat * 2 ^ k := Nat.shiftLeft_eq _ _
      _ < 2 ^ 8 * 2 ^ k := Nat.mul_lt_mul_of_pos_right hlt (Nat.two_pow_pos k)
      _ = 2 ^ (8 + k) := (Nat.pow_add 2 8 k).symm
      _ ≤ 2 ^ 24 := Nat.pow_le_pow_right (by decide) (by omega)
  exact Nat.or_lt_two_pow (Nat.or_lt_two_pow (hbyte 0 16 (by decide)) (hbyte 1 8 (by decide)))
    (hbyte 2 0 (by decide))

/-- The bytes of a stored header. -/
theorem SkyRadioFrame.codedLen_eq {frame : SkyRadioFrame} {n : Nat} (hn : n < 2 ^ 24)
    (h : frame.raw.take 3 = golayHeader n) : frame.codedLen = n := by
  have hbyte {i : Nat} (hi : i < 3) : frame.byte i = (golayHeader n).getD i 0 := by
    rw [← h, SkyRadioFrame.byte, List.getD_eq_getElem?_getD, List.getD_eq_getElem?_getD,
      List.getElem?_take, if_pos hi]
  rw [codedLen, hbyte (by decide), hbyte (by decide), hbyte (by decide)]
  exact golayHeader_join hn

/-- The length is told as long as no more than three bits of the header are wrong. -/
theorem golayLength_corrected {frame : SkyRadioFrame} {n : Nat} (hn : n < 256)
    (hbits : popcount (frame.codedLen ^^^ encodeGolay24 n) ≤ 3) : golayLength frame = some n := by
  have hdecode := (decodeGolay24_eq_some_iff frame.codedLen_lt).mpr
    ⟨⟨n, hn.trans (by decide), rfl⟩, rfl, hbits⟩
  rw [golayLength]
  show (decodeGolay24 frame.codedLen).map _ = some n
  rw [hdecode]
  exact congrArg some (decodeGolay24_encode hn).2.2

/-! ## The body -/

/-- What the counters of a receiver show after a frame of so many bytes that was corrected
in so many. -/
def FecDiagnostics.decoded (diag : FecDiagnostics) (errors octs : Nat) : FecDiagnostics :=
  { diag with
    rxFecOk := diag.rxFecOk + 1
    rxFecErrs := diag.rxFecErrs + UInt16.ofNat errors
    rxFecOcts := diag.rxFecOcts + UInt16.ofNat octs }

theorem skyFecDecode_corrected {frame : SkyRadioFrame} (diag : FecDiagnostics) {message : Bytes}
    (hlength : frame.length = message.length + rsParitys) (hraw : frame.length ≤ frame.raw.length)
    (hpos : message ≠ []) (hmax : message.length ≤ rsMsglen)
    (herrors : byteErrors frame.contents (whitened (message ++ encodeRs8 message)) ≤ 16) :
    ∃ plain, skyFecDecode decodeRs8 frame diag = some (plain,
        diag.decoded (byteErrors frame.contents (whitened (message ++ encodeRs8 message)))
          frame.length, 0) ∧ plain.rxTimeTicks = frame.rxTimeTicks ∧
      plain.length = message.length ∧ plain.contents = message := by
  obtain ⟨raw, hwhiten, hlen, htake⟩ := whiten_eq hraw
  have hcontents : frame.contents.length = (message ++ encodeRs8 message).length := by
    rw [SkyRadioFrame.contents, List.length_take, List.length_append, encodeRs8_length]
    omega
  have hcount : byteErrors (raw.take frame.length) (message ++ encodeRs8 message) =
      byteErrors frame.contents (whitened (message ++ encodeRs8 message)) := by
    rw [htake, ← byteErrors_whitened, whitened_whitened]
    rfl
  obtain ⟨hshort, hlong⟩ := codeword_fits hpos hmax
  have hdecode := decodeRs8_eq (by rw [htake, whitened_length]; exact hcontents) hshort hlong
    (fun i hi => wordValue_codeword hi message) (hcount.trans_le herrors)
  have hplain : frame.length - rsParitys = message.length := by omega
  refine ⟨{ frame with
      raw := message ++ encodeRs8 message ++ raw.drop frame.length
      length := frame.length - rsParitys }, ?_, rfl, hplain, ?_⟩
  · rw [skyFecDecode, if_neg (by omega)]
    show (whiten frame.length frame.raw).bind _ = _
    rw [hwhiten, Option.bind_some, hdecode, hcount]
    rfl
  · show (message ++ encodeRs8 message ++ raw.drop frame.length).take
      (frame.length - rsParitys) = message
    rw [hplain, List.append_assoc, List.take_left' rfl]

/-- A message of which three bits of the length and sixteen bytes are wrong is received as
the message itself, and the receiver counts the wrong bytes. -/
theorem skyRxWithGolay_corrected (H : KeyedHash) (tick : Int) (receiver : SkyNode w)
    (diag : FecDiagnostics) {received plain : SkyRadioFrame} (hraw : received.raw.length = rawLen)
    (htime : plain.rxTimeTicks = received.rxTimeTicks) (hplain : plain.length ≤ plain.raw.length)
    (hmin : 8 ≤ plain.length) (hfits : plain.length + rsParitys + 3 ≤ rawLen)
    (hbits : popcount (received.codedLen ^^^ encodeGolay24 (plain.length + rsParitys)) ≤ 3)
    (herrors : byteErrors ((received.raw.drop 3).take (plain.length + rsParitys))
      (whitened (plain.contents ++ encodeRs8 plain.contents)) ≤ 16) :
    skyRxWithGolay H decodeRs8 tick receiver diag received =
      some ((skyRx H tick receiver plain).1,
        diag.decoded (byteErrors ((received.raw.drop 3).take (plain.length + rsParitys))
          (whitened (plain.contents ++ encodeRs8 plain.contents))) (plain.length + rsParitys),
        (skyRx H tick receiver plain).2) := by
  have hlength : plain.contents.length = plain.length := by
    rw [SkyRadioFrame.contents, List.length_take, Nat.min_eq_left hplain]
  have hmax : plain.length + rsParitys ≤ 226 ∧ plain.length ≤ 194 := by
    simp only [rawLen, skyFrameMaxLen, rsParitys] at hfits ⊢
    omega
  have hpos : plain.contents ≠ [] := by
    intro hnil
    rw [hnil, List.length_nil] at hlength
    omega
  obtain ⟨shifted, hshiftedTime, hshifted, hlen, hbody, heq⟩ := skyRxWithGolay_shift H decodeRs8
    tick receiver diag (golayLength_corrected (by omega) hbits) hfits hraw
  obtain ⟨decoded, hdecode, hdecodedTime, hdecodedLength, hdecoded⟩ := skyFecDecode_corrected diag
    (hshifted.trans (congrArg (· + rsParitys) hlength.symm)) (by omega) hpos
    (by rw [rsMsglen]; omega) (by rw [hbody]; exact herrors)
  have hsame : plain.SameFrame decoded := ⟨hdecodedLength.trans hlength, hdecoded⟩
  have hmask : (plain.byte 0 &&& skylinkFrameIdentityMask).toNat ≤ 7 := by
    rw [UInt8.toNat_and]
    exact Nat.and_le_right
  rw [heq, skyRxWithFec, if_neg (by rw [skyFrameMinLen]; omega), hdecode, hbody, hshifted,
    ← hsame.skyRx_eq (hdecodedTime.trans (hshiftedTime.trans htime.symm)) H tick receiver
      (by omega)]
  rfl

/-! ## From transmitter to receiver -/

/-- A buffer that holds what was sent, with no more than three wrong bits in the header and
fifteen wrong bytes behind it. -/
structure SkyRadioFrame.CloseTo (received sent : SkyRadioFrame) : Prop where
  raw_length : received.raw.length = rawLen
  header : popcount (received.codedLen ^^^ sent.codedLen) ≤ 3
  body : byteErrors ((received.raw.drop 3).take (sent.length - 3)) (sent.contents.drop 3) ≤ 15

/-- Without noise the frame is close to itself. -/
theorem SkyRadioFrame.closeTo_self {frame : SkyRadioFrame} (hraw : frame.raw.length = rawLen) :
    frame.CloseTo frame where
  raw_length := hraw
  header := by
    rw [Nat.xor_self]
    decide
  body := by
    rw [SkyRadioFrame.contents, List.drop_take, byteErrors_self]
    exact Nat.zero_le _

/-- Over such a channel the coded frame does to the receiver what the plain frame does: the
byte that the transmitter loses is one of the sixteen that the decoder corrects. -/
theorem skyTxWithGolay_received (H H' : KeyedHash) (tick tick' : Int) (node receiver : SkyNode w)
    (diag : FecDiagnostics) (hid : 3 ≤ node.conf.identityLen) {tx : SkyTransmitFrame}
    (htx : (skyTx H tick node).2.1 = some tx) (hfits : tx.length + rsParitys + 3 < rawLen) :
    ∃ sent, skyTxWithGolay H tick node = some ((skyTx H tick node).1, some sent, 1) ∧
      sent.frame.raw.length = rawLen ∧
      ∀ received : SkyRadioFrame, received.CloseTo sent.frame →
        ∃ errors ≤ 16, skyRxWithGolay H' decodeRs8 tick' receiver diag received =
          some ((skyRx H' tick' receiver (tx.receivedAt received.rxTimeTicks)).1,
            diag.decoded errors (tx.length + rsParitys),
            (skyRx H' tick' receiver (tx.receivedAt received.rxTimeTicks)).2) := by
  obtain ⟨encoded, hfec, hlength, hraw, hcontents, -⟩ := skyTxWithFec_eq htx (by omega)
  obtain ⟨-, -, hmin⟩ := skyTx_bytes hid htx
  obtain ⟨raw, hadd, hrawLen, hheader, hmoved⟩ := addGolayHeader_eq hraw (by omega)
  let sent : EncodedFrame :=
    ⟨{ encoded.frame with raw := raw, length := encoded.frame.length + 3 },
      encoded.assertsHold && decide (encoded.frame.length + 3 ≤ rawLen)⟩
  have hbody : sent.frame.contents.drop 3 =
      encoded.frame.contents.set 0 (encoded.frame.byte 3) := hmoved
  refine ⟨sent, (skyTxWithGolay_eq hfec).trans (by rw [hadd]; rfl), hrawLen, ?_⟩
  intro received hclose
  let plain := tx.receivedAt received.rxTimeTicks
  have hplain : plain.length = tx.length := rfl
  have hbytes : plain.contents = tx.bytes := tx.frame_contents
  have hmax : tx.length + rsParitys < 226 := by
    rw [rawLen, skyFrameMaxLen] at hfits
    omega
  have hbits : popcount (received.codedLen ^^^ encodeGolay24 (plain.length + rsParitys)) ≤ 3 := by
    have hsent : sent.frame.codedLen = encodeGolay24 (tx.length + rsParitys) := by
      rw [← hlength]
      exact SkyRadioFrame.codedLen_eq (encodeGolay24_lt _) hheader
    rw [hplain, ← hsent]
    exact hclose.header
  have herrors : byteErrors ((received.raw.drop 3).take (plain.length + rsParitys))
      (whitened (plain.contents ++ encodeRs8 plain.contents)) ≤ 16 := by
    have hset := byteErrors_set_le ((received.raw.drop 3).take (tx.length + rsParitys))
      encoded.frame.contents (encoded.frame.byte 3)
    have hfew := hclose.body
    rw [hbody] at hfew
    rw [hbytes, ← hcontents, hplain]
    have hsent : sent.frame.length - 3 = tx.length + rsParitys := hlength
    rw [hsent] at hfew
    omega
  refine ⟨_, herrors, skyRxWithGolay_corrected H' tick' receiver diag hclose.raw_length rfl ?_ hmin
    (by rw [hplain]; omega) hbits herrors⟩
  show tx.length ≤ tx.frame.raw.length
  rw [SkyTransmitFrame.frame_raw_length (by omega)]
  omega

end Skylink
