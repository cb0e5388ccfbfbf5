import Skylink.Frame.Grammar
import Skylink.Phy.Pipeline

/-!
# The receive buffer

Reception once more, with every access to `raw` checked: an access outside of `raw` gives
`none`, and so does a payload that is handed on and does not lie in the frame. The lengths
that the receiver checks keep all of it inside, but for the loop that removes the header of a
frame.
-/

namespace Skylink

open ArrayLoop

variable {w : Nat}

/-! ## Checked accesses -/

namespace Checked

def extensionAt (frame : SkyRadioFrame) (cursor : Nat) : Option SkyHeaderExtension := do
  let byte ← frame.raw[cursor]?
  let length := byte.toNat / 16
  some
    { offset := cursor
      type := byte.toNat % 16
      length := length
      data := (frame.raw.drop (cursor + 1)).take length }

def parseExtensionsLoop (w : Nat) (frame : SkyRadioFrame) (stop : Nat) :
    Nat → Nat → SkyParsedFrame → Option (Except SkyRet SkyParsedFrame)
  | 0, _, parsed => some (.ok parsed)
  | turns + 1, cursor, parsed =>
      if cursor < stop then do
        let ext ← extensionAt frame cursor
        let cursor := cursor + (1 + ext.length)
        if frame.length < cursor then some (.error .invalidExtLength)
        else
          match parseExtension w parsed ext with
          | .error ret => some (.error ret)
          | .ok parsed => parseExtensionsLoop w frame stop turns cursor parsed
      else some (.ok parsed)

def skyFrameParseExtensionHeaders (w : Nat) (frame : SkyRadioFrame) (parsed : SkyParsedFrame) :
    Option (Except SkyRet SkyParsedFrame) := do
  let start ← frame.raw[0]?
  let cursor := 1 + (start &&& skylinkFrameIdentityMask).toNat + staticHeaderSize
  let stop := cursor + parsed.hdr.extensionLength.toNat
  if frame.length < stop then some (.error .invalidExtLength)
  else parseExtensionsLoop w frame stop parsed.hdr.extensionLength.toNat cursor parsed

/-- The identity is read by the filter. -/
def rxIdentity (frame : SkyRadioFrame) : Option (Except SkyRet (Bytes × Nat)) := do
  let start ← frame.raw[0]?
  if start &&& skylinkFrameVersionByte ≠ skylinkFrameVersionByte then
    some (.error .invalidVersion)
  else
    let identityLen := (start &&& skylinkFrameIdentityMask).toNat
    if identityLen = 0 ∨ skyMaxIdentityLen < identityLen then some (.error .invalidVersion)
    else do
      let identity ← slice frame.raw 1 identityLen
      some (.ok (identity, identityLen))

def rxHeader (w : Nat) (frame : SkyRadioFrame) (identity : Bytes × Nat) :
    Option (Except SkyRet SkyParsedFrame) := do
  let headerStart := 1 + identity.2
  let header ← slice frame.raw headerStart staticHeaderSize
  let hdr := SkyStaticHeader.load header
  let payloadStart := headerStart + staticHeaderSize + hdr.extensionLength.toNat
  if frame.length < payloadStart then some (.error .invalidExtLength)
  else skyFrameParseExtensionHeaders w frame (rxContents frame identity hdr payloadStart)

def processHmacReset (frame : SkyRadioFrame) (hmac : SkyHMAC) (parsed : SkyParsedFrame)
    (vc : Fin skyNumVirtualChannels) : Option SkyHMAC :=
  match parsed.hmacReset with
  | none => some hmac
  | some ext =>
      if ext.length ≠ 2 + 1 then some hmac
      else do
        let sequence ← slice frame.raw (ext.offset + 1) 2
        some
          { hmac with
            sequenceTx := Function.update hmac.sequenceTx vc (skyNtoh16 (loadU16 sequence)) }

def skyHmacCheckAuthentication (H : KeyedHash) (self : SkyNode w) (frame : SkyRadioFrame)
    (parsed : SkyParsedFrame) : Option (SkyNode w × Except SkyRet SkyParsedFrame) :=
  let vc := parsed.hdr.channel
  let vcConf := self.conf.vc vc
  let frameSequence := skyNtoh16 parsed.hdr.frameSequence
  let parsed := { parsed with hdr := { parsed.hdr with frameSequence := frameSequence } }
  let withoutTrailer := { parsed with payloadLen := parsed.payloadLen - skyHmacLength }
  if parsed.hdr.hasFlag skyFlagAuthenticated ∧ parsed.payloadLen < skyHmacLength then
    some ({ self with diag := { self.diag with rxHmacFail := self.diag.rxHmacFail + 1 } },
      .error .frameTooShortForHmac)
  else if !vcConf.hasFlag skyConfigFlagRequireAuthentication then
    some (self, .ok (if parsed.hdr.hasFlag skyFlagAuthenticated then withoutTrailer else parsed))
  else if !parsed.hdr.hasFlag skyFlagAuthenticated then
    some (self.rejectFrame vc, .error .authMissing)
  -- the difference of the lengths would wrap around
  else if frame.length < skyHmacLength then none
  else do
    let hashed ← slice frame.raw 0 (frame.length - skyHmacLength)
    let trailer ← slice frame.raw (frame.length - skyHmacLength) skyHmacLength
    if trailer ≠ H.hash self.hmac.key hashed then some (self.rejectFrame vc, .error .authFailed)
    else do
      let hmac ← processHmacReset frame self.hmac parsed vc
      let self := { self with hmac := hmac }
      let jump := frameSequence - self.hmac.sequenceRx vc
      if vcConf.hasFlag skyConfigFlagRequireSequence ∧
          self.conf.hmac.maximumJump < (jump.toNat : Int) then
        some (self.rejectFrame vc, .error .excessiveHmacJump)
      else
        some ({ self with
           hmac := { self.hmac with
             sequenceRx := Function.update self.hmac.sequenceRx vc (frameSequence + 1) } },
          .ok withoutTrailer)

def skyRxProcessExtMacControl (tick : Int) (self : SkyNode w) (frame : SkyRadioFrame)
    (parsed : SkyParsedFrame) : Option (SkyNode w) :=
  match parsed.macTdd with
  | none => some self
  | some ext =>
      if self.conf.mac.unauthenticatedMacUpdates = 0 ∧
          ¬parsed.hdr.hasFlag skyFlagAuthenticated then some self
      else do
        let window ← slice frame.raw (ext.offset + 1) 2
        let remaining ← slice frame.raw (ext.offset + 3) 2
        some
          { self with
            mac := macUpdateBelief self.conf.mac self.mac tick frame.rxTimeTicks
              (skyNtoh16 (loadU16 window)).toNat (skyNtoh16 (loadU16 remaining)).toNat }

/-- The index that the payload pointer stands for. -/
def payloadStart (frame : SkyRadioFrame) (parsed : SkyParsedFrame) : Nat :=
  frame.raw.length - parsed.payload.length

/-- The payload that is handed to the channel has to lie in the first `frame->length` bytes. -/
def acceptFrame (tick : Int) (self : SkyNode w) (frame : SkyRadioFrame)
    (parsed : SkyParsedFrame) : Option (SkyNode w × SkyRet) := do
  let vc := parsed.hdr.channel
  let self ← skyRxProcessExtMacControl tick self frame parsed
  let stats := self.diag.vcStats vc
  let diag := { self.diag with
    vcStats := Function.update self.diag.vcStats vc
      { stats with rxFrames := stats.rxFrames + 1 } }
  let _ ← slice frame.contents (payloadStart frame parsed) parsed.payloadLen
  let (channel, ret) := skyVcProcessFrame tick (self.virtualChannels vc) parsed tick
  some ({ self with
     diag := diag
     virtualChannels := Function.update self.virtualChannels vc channel }, ret)

def skyRx (H : KeyedHash) (tick : Int) (self : SkyNode w) (frame : SkyRadioFrame) :
    Option (SkyNode w × SkyRet) :=
  if frame.length < skyFrameMinLen then some (self, .invalidPlainLength)
  else do
    let self := self.countReceived frame
    match ← rxIdentity frame with
    | .error ret => some (self, ret)
    | .ok identity =>
        if filterByIdentity self identity then some (self, .filteredByIdentity)
        else do
          match ← rxHeader w frame identity with
          | .error ret => some (self, ret)
          | .ok parsed =>
              match ← skyHmacCheckAuthentication H self frame parsed with
              | (self, .error ret) => some (self, ret)
              | (self, .ok parsed) => acceptFrame tick self frame parsed

def skyRxWithFec (H : KeyedHash) (decodeRs8 : RsDecoder) (tick : Int) (self : SkyNode w)
    (diag : FecDiagnostics) (frame : SkyRadioFrame) :
    Option (SkyNode w × FecDiagnostics × SkyRet) :=
  if frame.length < skyFrameMinLen + rsParitys then some (self, diag, .invalidEncodedLength)
  else do
    let (frame, diag, ret) ← skyFecDecode decodeRs8 frame diag
    if ret < 0 then some (self, diag, ret)
    else do
      let (self, ret) ← skyRx H tick self frame
      some (self, diag, ret)

/-- `decodeGolay` is `none` for a negative return code, otherwise the corrected word. -/
def skyRxWithGolay (H : KeyedHash) (decodeGolay : Nat → Option Nat) (decodeRs8 : RsDecoder)
    (tick : Int) (self : SkyNode w) (diag : FecDiagnostics) (frame : SkyRadioFrame) :
    Option (SkyNode w × FecDiagnostics × SkyRet) := do
  let high ← frame.raw[0]?
  let middle ← frame.raw[1]?
  let low ← frame.raw[2]?
  match decodeGolay ((high.toNat <<< 16) ||| (middle.toNat <<< 8) ||| low.toNat) with
  | none => some (self, { diag with rxFecFail := diag.rxFecFail + 1 }, .golayFailed)
  | some decoded =>
      let length := decoded &&& 0x0ff
      if rawLen < length then some (self, diag, .invalidEncodedLength)
      else do
        let raw ← ArrayLoop.copyUp 3 length 0 frame.raw
        skyRxWithFec H decodeRs8 tick self diag { frame with raw := raw, length := length }

end Checked

/-! ## What is read is inside -/

section Inside

variable {frame : SkyRadioFrame} {parsed parsed' : SkyParsedFrame}

theorem loadU16_take (b : Bytes) {n : Nat} (hn : 2 ≤ n) : loadU16 (b.take n) = loadU16 b := by
  have hbyte {i : Nat} (hi : i < 2) : (b.take n).getD i 0 = b.getD i 0 := by
    rw [List.getD_eq_getElem?_getD, List.getD_eq_getElem?_getD, List.getElem?_take,
      if_pos (by omega)]
  rw [loadU16, loadU16, hbyte (by decide), hbyte (by decide)]

theorem SkyStaticHeader.load_take (b : Bytes) :
    SkyStaticHeader.load (b.take staticHeaderSize) = SkyStaticHeader.load b := by
  have hbyte {i : Nat} (hi : i < staticHeaderSize) :
      (b.take staticHeaderSize).getD i 0 = b.getD i 0 := by
    rw [List.getD_eq_getElem?_getD, List.getD_eq_getElem?_getD, List.getElem?_take, if_pos hi]
  rw [load, load, hbyte (by decide), hbyte (by decide), List.drop_take, loadU16_take _ (by decide)]

namespace Checked

theorem extensionAt_eq {cursor : Nat} (h : cursor < frame.raw.length) :
    extensionAt frame cursor = some (frame.extensionAt cursor) := by
  rw [extensionAt, SkyRadioFrame.getElem?_raw h]
  rfl

/-- The region of the extensions ends inside the frame, and so every extension begins there;
induction on the turns. -/
theorem parseExtensionsLoop_eq (hraw : frame.length ≤ frame.raw.length) {stop : Nat}
    (hstop : stop ≤ frame.length) (turns cursor : Nat) (parsed : SkyParsedFrame) :
    parseExtensionsLoop w frame stop turns cursor parsed =
      some (Skylink.parseExtensionsLoop w frame stop turns cursor parsed) := by
  induction turns generalizing cursor parsed with
  | zero => rfl
  | succ turns ih =>
      rw [parseExtensionsLoop, Skylink.parseExtensionsLoop]
      split
      · rw [extensionAt_eq (by omega)]
        simp only [Option.bind_eq_bind, Option.bind_some]
        split
        · rfl
        · cases parseExtension w parsed (frame.extensionAt cursor) with
          | error ret => rfl
          | ok parsed => exact ih _ parsed
      · rfl

theorem skyFrameParseExtensionHeaders_eq (hraw : frame.length ≤ frame.raw.length)
    (hpos : 0 < frame.raw.length) (parsed : SkyParsedFrame) :
    skyFrameParseExtensionHeaders w frame parsed =
      some (Skylink.skyFrameParseExtensionHeaders w frame parsed) := by
  rw [skyFrameParseExtensionHeaders, Skylink.skyFrameParseExtensionHeaders,
    SkyRadioFrame.getElem?_raw hpos]
  simp only [Option.bind_eq_bind, Option.bind_some]
  split
  · rfl
  · rename_i hstop
    exact parseExtensionsLoop_eq hraw (not_lt.mp hstop) _ _ _

theorem rxIdentity_eq (hraw : frame.raw.length = rawLen) :
    rxIdentity frame = some (Skylink.rxIdentity frame) := by
  rw [rxIdentity, Skylink.rxIdentity, SkyRadioFrame.getElem?_raw (by rw [hraw]; decide)]
  simp only [Option.bind_eq_bind, Option.bind_some]
  split
  · rfl
  · split
    · rfl
    · rename_i hrange
      rw [not_or, not_lt] at hrange
      rw [slice_eq_some]
      · rfl
      · rw [hraw]
        exact (Nat.add_le_add_left hrange.2 1).trans (by decide)

theorem rxHeader_eq (hraw : frame.raw.length = rawLen) (hlength : frame.length ≤ rawLen)
    {identity : Bytes × Nat} (hidentity : identity.2 ≤ skyMaxIdentityLen) :
    rxHeader w frame identity = some (Skylink.rxHeader w frame identity) := by
  have hheader : 1 + identity.2 + staticHeaderSize ≤ frame.raw.length := by
    rw [hraw]
    exact (Nat.add_le_add_right (Nat.add_le_add_left hidentity 1) _).trans (by decide)
  rw [rxHeader, Skylink.rxHeader, slice_eq_some hheader]
  simp only [Option.bind_eq_bind, Option.bind_some, SkyStaticHeader.load_take]
  split
  · rfl
  · exact skyFrameParseExtensionHeaders_eq (hlength.trans_eq hraw.symm) (by rw [hraw]; decide) _

end Checked

/-! ## From the header to the channel -/

namespace Checked

variable {H : KeyedHash} {tick : Int}

/-- A reset extension has two bytes, and so its sequence is not read. -/
theorem processHmacReset_eq (hlocated : parsed.Located w frame) (hmac : SkyHMAC)
    (vc : Fin skyNumVirtualChannels) :
    processHmacReset frame hmac parsed vc = some (Skylink.processHmacReset hmac parsed vc) := by
  rw [processHmacReset, Skylink.processHmacReset]
  cases hreset : parsed.hmacReset with
  | none => rfl
  | some ext =>
      obtain ⟨-, -, hsize⟩ := hlocated extensionHmacSequenceReset ext hreset
      have hne : ext.length ≠ 2 + 1 := by
        rw [← Option.some.inj hsize]
        decide
      dsimp only
      rw [if_pos hne, skyRxProcessExtHmacSequenceReset, if_pos hne]

theorem skyHmacCheckAuthentication_eq (hraw : frame.length ≤ frame.raw.length)
    (hmin : skyHmacLength ≤ frame.length) (hlocated : parsed.Located w frame)
    (self : SkyNode w) : skyHmacCheckAuthentication H self frame parsed =
      some (Skylink.skyHmacCheckAuthentication H self frame parsed) := by
  have hreset (vc : Fin skyNumVirtualChannels) (sequence : UInt16) :
      processHmacReset frame self.hmac
          { parsed with hdr := { parsed.hdr with frameSequence := sequence } } vc =
        some (Skylink.processHmacReset self.hmac
          { parsed with hdr := { parsed.hdr with frameSequence := sequence } } vc) :=
    processHmacReset_eq hlocated self.hmac vc
  have hhashed : slice frame.raw 0 (frame.length - skyHmacLength) = some frame.hashed :=
    slice_eq_some (by omega)
  have htrailer : slice frame.raw (frame.length - skyHmacLength) skyHmacLength =
      some frame.trailer := slice_eq_some (by omega)
  rw [skyHmacCheckAuthentication, Skylink.skyHmacCheckAuthentication]
  dsimp only
  rw [if_neg (not_lt.mpr hmin), hhashed, htrailer]
  simp only [Option.bind_eq_bind, Option.bind_some, hreset]
  split_ifs <;> rfl

/-- The fields of the extension are the four bytes behind its header. -/
theorem skyRxProcessExtMacControl_eq (hraw : frame.length ≤ frame.raw.length)
    (hlocated : parsed.Located w frame) (self : SkyNode w) :
    skyRxProcessExtMacControl tick self frame parsed =
      some (Skylink.skyRxProcessExtMacControl tick self frame.rxTimeTicks parsed) := by
  rw [skyRxProcessExtMacControl, Skylink.skyRxProcessExtMacControl]
  cases htdd : parsed.macTdd with
  | none => rfl
  | some ext =>
      obtain ⟨hext, hinside, hsize⟩ := hlocated extensionMacTddControl ext htdd
      have hlength : 4 = ext.length := Option.some.inj hsize
      have hdata : ext.data = (frame.raw.drop (ext.offset + 1)).take 4 := by
        have hnibble := congrArg SkyHeaderExtension.length hext
        rw [congrArg SkyHeaderExtension.data hext, hlength, hnibble]
        rfl
      have hfields : ext.tddControl =
          (skyNtoh16 (loadU16 ((frame.raw.drop (ext.offset + 1)).take 2)),
            skyNtoh16 (loadU16 ((frame.raw.drop (ext.offset + 3)).take 2))) := by
        rw [SkyHeaderExtension.tddControl, hdata, List.drop_take, List.drop_drop,
          loadU16_take _ (by decide : 2 ≤ 4), loadU16_take _ (le_refl 2),
          loadU16_take _ (le_refl 2)]
      dsimp only
      rw [slice_eq_some (by omega), slice_eq_some (by omega), hfields]
      split <;> rfl

theorem acceptFrame_eq (hraw : frame.length ≤ frame.raw.length)
    (hlocated : parsed.Located w frame) {start : Nat} (hstart : start ≤ frame.length)
    (hpayload : parsed.payload = frame.raw.drop start)
    (hend : start + parsed.payloadLen ≤ frame.length) (self : SkyNode w) :
    acceptFrame tick self frame parsed =
      some (Skylink.acceptFrame tick self frame.rxTimeTicks parsed) := by
  have hpayloadStart : payloadStart frame parsed = start := by
    rw [payloadStart, hpayload, List.length_drop]
    omega
  have hslice : slice frame.contents (payloadStart frame parsed) parsed.payloadLen =
      some ((frame.contents.drop start).take parsed.payloadLen) := by
    rw [hpayloadStart]
    exact slice_eq_some (by rwa [SkyRadioFrame.contents_length hraw])
  rw [acceptFrame, skyRxProcessExtMacControl_eq hraw hlocated, hslice]
  rfl

end Checked

end Inside

/-! ## The receive path -/

section Receive

variable {H : KeyedHash} {decodeRs8 : RsDecoder} {tick : Int} {frame : SkyRadioFrame}

/-- The word of the header, with the length of the frame. -/
def SkyRadioFrame.codedLen (frame : SkyRadioFrame) : Nat :=
  ((frame.byte 0).toNat <<< 16) ||| ((frame.byte 1).toNat <<< 8) ||| (frame.byte 2).toNat

/-- The vendored decoder, without the number of corrected bits. -/
def vendoredGolay (codedLen : Nat) : Option Nat := (decodeGolay24 codedLen).map Prod.fst

/-- The decoder changes the bytes of the frame only. -/
def RsDecoder.KeepsLength (decodeRs8 : RsDecoder) : Prop :=
  ∀ received word corrected, decodeRs8 received = some (word, corrected) →
    word.length = received.length

/-- A frame that is decoded fits `raw` as it did before. -/
theorem skyFecDecode_inside (hkeeps : decodeRs8.KeepsLength) (diag : FecDiagnostics)
    (hraw : frame.raw.length = rawLen) (hlength : frame.length ≤ rawLen) :
    ∃ plain diag' ret, skyFecDecode decodeRs8 frame diag = some (plain, diag', ret) ∧
      plain.raw.length = rawLen ∧ plain.length ≤ rawLen := by
  rw [skyFecDecode]
  split
  · exact ⟨_, _, _, rfl, hraw, hlength⟩
  · obtain ⟨raw, hwhiten, hlen, -⟩ := whiten_eq (hlength.trans_eq hraw.symm)
    rw [hwhiten]
    simp only [Option.bind_eq_bind, Option.bind_some]
    split
    · exact ⟨_, _, _, rfl, hlen.trans hraw, hlength⟩
    · rename_i word corrected hword
      have hwordLen := hkeeps _ _ _ hword
      rw [List.length_take_of_le (by omega)] at hwordLen
      refine ⟨_, _, _, rfl, ?_, ?_⟩
      · rw [List.length_append, List.length_drop]
        omega
      · exact (Nat.sub_le _ _).trans hlength

namespace Checked

/-- What `sky_rx` reads of a frame that fits `raw` is inside. -/
theorem skyRx_eq (hraw : frame.raw.length = rawLen) (hlength : frame.length ≤ rawLen)
    (self : SkyNode w) : skyRx H tick self frame = some (Skylink.skyRx H tick self frame) := by
  have hinside : frame.length ≤ frame.raw.length := hlength.trans_eq hraw.symm
  rw [skyRx, Skylink.skyRx, rxIdentity_eq hraw]
  by_cases hshort : frame.length < skyFrameMinLen
  · rw [if_pos hshort, if_pos hshort]
  · have hmin : skyHmacLength ≤ frame.length :=
      le_trans (by decide) (not_lt.mp hshort)
    rw [if_neg hshort, if_neg hshort]
    simp only [Option.bind_eq_bind, Option.bind_some]
    cases hidentity : Skylink.rxIdentity frame with
    | error ret => rfl
    | ok identity =>
        dsimp only
        split
        · rfl
        · rw [rxHeader_eq hraw hlength (rxIdentity_ok hidentity).2.2]
          simp only [Option.bind_some]
          cases hheader : Skylink.rxHeader w frame identity with
          | error ret => rfl
          | ok parsed =>
              obtain ⟨hlocated, start, hstart, hpayload, hend⟩ := rxHeader_located hheader
              dsimp only
              rw [skyHmacCheckAuthentication_eq hinside hmin hlocated]
              simp only [Option.bind_some]
              cases hcheck : Skylink.skyHmacCheckAuthentication H (self.countReceived frame) frame
                  parsed with
              | mk self' result =>
                  cases result with
                  | error ret => rfl
                  | ok parsed' =>
                      obtain ⟨hdr, n, rfl, hn⟩ := check_ok hcheck
                      have hlocated' : SkyParsedFrame.Located w frame
                          { parsed with hdr := hdr, payloadLen := n } := hlocated
                      have hend' : start + n ≤ frame.length := by omega
                      exact acceptFrame_eq hinside hlocated' hstart hpayload hend' self'

/-- The decoder returns a word of the length that it was given. -/
theorem skyRxWithFec_eq (hkeeps : decodeRs8.KeepsLength) (hraw : frame.raw.length = rawLen)
    (hlength : frame.length ≤ rawLen) (self : SkyNode w) (diag : FecDiagnostics) :
    ∃ received, Skylink.skyRxWithFec H decodeRs8 tick self diag frame = some received ∧
      skyRxWithFec H decodeRs8 tick self diag frame = some received := by
  rw [skyRxWithFec, Skylink.skyRxWithFec]
  by_cases hshort : frame.length < skyFrameMinLen + rsParitys
  · rw [if_pos hshort, if_pos hshort]
    exact ⟨_, rfl, rfl⟩
  · rw [if_neg hshort, if_neg hshort]
    obtain ⟨plain, diag', ret, hdecode, hplain, hlen⟩ :=
      skyFecDecode_inside hkeeps diag hraw hlength
    rw [hdecode]
    simp only [Option.bind_eq_bind, Option.bind_some]
    split
    · exact ⟨_, rfl, rfl⟩
    · rw [skyRx_eq hplain hlen]
      exact ⟨_, rfl, rfl⟩

/-- The three bytes of the header are always there. -/
theorem skyRxWithGolay_eq (hraw : frame.raw.length = rawLen) (decodeGolay : Nat → Option Nat)
    (self : SkyNode w) (diag : FecDiagnostics) :
    skyRxWithGolay H decodeGolay decodeRs8 tick self diag frame =
      match decodeGolay frame.codedLen with
      | none => some (self, { diag with rxFecFail := diag.rxFecFail + 1 }, .golayFailed)
      | some decoded =>
          if rawLen < decoded &&& 0x0ff then some (self, diag, .invalidEncodedLength)
          else (copyUp 3 (decoded &&& 0x0ff) 0 frame.raw).bind fun raw =>
            skyRxWithFec H decodeRs8 tick self diag
              { frame with raw := raw, length := decoded &&& 0x0ff } := by
  have hheader : 2 < frame.raw.length := by rw [hraw]; decide
  rw [skyRxWithGolay, SkyRadioFrame.getElem?_raw (by omega), SkyRadioFrame.getElem?_raw (by omega),
    SkyRadioFrame.getElem?_raw hheader]
  rfl

/-- A frame that can be shifted is received inside of `raw`. -/
theorem shifted_isSome (hkeeps : decodeRs8.KeepsLength) (hraw : frame.raw.length = rawLen)
    {length : Nat} (hlength : length ≤ rawLen) (self : SkyNode w) (diag : FecDiagnostics) :
    ((copyUp 3 length 0 frame.raw).bind fun raw => skyRxWithFec H decodeRs8 tick self diag
        { frame with raw := raw, length := length }).isSome ↔ length + 3 ≤ rawLen := by
  rcases Nat.lt_or_ge rawLen (length + 3) with hlong | hinside
  · have hnone : copyUp 3 length 0 frame.raw = none :=
      copyUp_eq_none (by rw [hraw]; decide) (by omega)
    rw [hnone]
    exact iff_of_false Bool.false_ne_true (not_le.mpr hlong)
  · have hbound : 0 + length + 3 ≤ frame.raw.length := by omega
    obtain ⟨raw, hcopy, hlen, -⟩ := copyUp_spec hbound
    let shifted : SkyRadioFrame := { frame with raw := raw, length := length }
    obtain ⟨received, -, hreceived⟩ : ∃ received, _ ∧
        skyRxWithFec H decodeRs8 tick self diag shifted = some received :=
      skyRxWithFec_eq hkeeps (hlen.trans hraw) hlength self diag
    rw [hcopy, Option.bind_some, hreceived]
    exact iff_of_true rfl hinside

/-- With the vendored decoder the checked function is the one of the model. -/
theorem skyRxWithGolay_refines (hkeeps : decodeRs8.KeepsLength) (hraw : frame.raw.length = rawLen)
    (self : SkyNode w) (diag : FecDiagnostics) :
    skyRxWithGolay H vendoredGolay decodeRs8 tick self diag frame =
      Skylink.skyRxWithGolay H decodeRs8 tick self diag frame := by
  have hlength : golayLength frame =
      (decodeGolay24 frame.codedLen).map fun decoded => decoded.1 &&& 0x0ff := rfl
  rw [skyRxWithGolay_eq hraw, Skylink.skyRxWithGolay, hlength, vendoredGolay]
  cases decodeGolay24 frame.codedLen with
  | none => rfl
  | some decoded =>
      simp only [Option.map_some]
      split
      · rfl
      · rename_i hfits
        cases hcopy : copyUp 3 (decoded.1 &&& 0x0ff) 0 frame.raw with
        | none => rfl
        | some raw =>
            have hlen : raw.length = rawLen := (copyUp_length hcopy).trans hraw
            let shifted : SkyRadioFrame :=
              { frame with raw := raw, length := decoded.1 &&& 0x0ff }
            obtain ⟨received, hplain, hchecked⟩ : ∃ received,
                Skylink.skyRxWithFec H decodeRs8 tick self diag shifted = some received ∧
                  skyRxWithFec H decodeRs8 tick self diag shifted = some received :=
              skyRxWithFec_eq hkeeps hlen (not_lt.mp hfits) self diag
            exact hchecked.trans hplain.symm

end Checked

/-- No receive function leaves `raw`, and each hands on a payload that lies in the frame. -/
structure SkyNode.ReceivesInside (H : KeyedHash) (decodeGolay : Nat → Option Nat)
    (decodeRs8 : RsDecoder) (tick : Int) (node : SkyNode w) (diag : FecDiagnostics)
    (frame : SkyRadioFrame) : Prop where
  plain : (Checked.skyRx H tick node frame).isSome
  fec : (Checked.skyRxWithFec H decodeRs8 tick node diag frame).isSome
  golay : (Checked.skyRxWithGolay H decodeGolay decodeRs8 tick node diag frame).isSome

/-- The length in the header leaves the three bytes of the header free, or it is rejected. -/
def SkyRadioFrame.ShiftsInside (decodeGolay : Nat → Option Nat) (frame : SkyRadioFrame) : Prop :=
  ∀ decoded, decodeGolay frame.codedLen = some decoded →
    (decoded &&& 0x0ff) + 3 ≤ rawLen ∨ rawLen < decoded &&& 0x0ff

/-- Whatever is received, all accesses are inside exactly if those of the shift are. -/
theorem receivesInside_iff (H : KeyedHash) (decodeGolay : Nat → Option Nat)
    (hkeeps : decodeRs8.KeepsLength) (tick : Int) (node : SkyNode w) (diag : FecDiagnostics)
    (hraw : frame.raw.length = rawLen) (hlength : frame.length ≤ rawLen) :
    node.ReceivesInside H decodeGolay decodeRs8 tick diag frame ↔
      frame.ShiftsInside decodeGolay := by
  have hplain : (Checked.skyRx H tick node frame).isSome := by
    rw [Checked.skyRx_eq hraw hlength]
    rfl
  have hfec : (Checked.skyRxWithFec H decodeRs8 tick node diag frame).isSome := by
    obtain ⟨received, -, hreceived⟩ : ∃ received, _ ∧
        Checked.skyRxWithFec H decodeRs8 tick node diag frame = some received :=
      Checked.skyRxWithFec_eq hkeeps hraw hlength node diag
    rw [hreceived]
    rfl
  have hgolay : (Checked.skyRxWithGolay H decodeGolay decodeRs8 tick node diag frame).isSome ↔
      frame.ShiftsInside decodeGolay := by
    rw [Checked.skyRxWithGolay_eq hraw, SkyRadioFrame.ShiftsInside]
    cases decodeGolay frame.codedLen with
    | none => exact iff_of_true rfl nofun
    | some decoded =>
        simp only [Option.some.injEq, forall_eq']
        split
        · rename_i hlong
          exact iff_of_true rfl (.inr hlong)
        · rename_i hfits
          rw [Checked.shifted_isSome hkeeps hraw (not_lt.mp hfits), or_iff_left hfits]
  exact ⟨fun h => hgolay.mp h.golay, fun h => ⟨hplain, hfec, hgolay.mpr h⟩⟩

end Receive

/-- What the vendored decoder returns for a codeword. -/
def exampleCodewordDecoder : RsDecoder := fun word => some (word, 0)

theorem exampleCodewordDecoder_keepsLength : exampleCodewordDecoder.KeepsLength := by
  intro received word corrected h
  cases h
  rfl

/-- A buffer whose header tells a length. -/
def exampleBuffer (length : Nat) (coded : Bytes) : SkyRadioFrame :=
  { rxTimeTicks := 0
    length := coded.length + 3
    raw := golayHeader (encodeGolay24 length) ++ coded ++
      List.replicate (rawLen - (coded.length + 3)) 0 }

theorem exampleBuffer_raw (length : Nat) {coded : Bytes} (h : coded.length + 3 ≤ rawLen) :
    (exampleBuffer length coded).raw.length = rawLen := by
  have hheader : (golayHeader (encodeGolay24 length)).length = 3 := rfl
  rw [exampleBuffer, List.length_append, List.length_append, List.length_replicate, hheader]
  omega

/-- The encoded frame of a node. -/
def exampleCodedFrame : SkyRadioFrame :=
  exampleBuffer (examplePhyFrame.length + rsParitys)
    (whitened (examplePhyFrame.bytes ++ encodeRs8 examplePhyFrame.bytes))

theorem receivesInside_iff_example :
    exampleCodewordDecoder.KeepsLength ∧ exampleCodedFrame.raw.length = rawLen ∧
      exampleCodedFrame.length ≤ rawLen ∧
      (exampleNode 0 8).ReceivesInside exampleHash vendoredGolay exampleCodewordDecoder 0
        ⟨0, 0, 0, 0⟩ exampleCodedFrame := by
  have hshort : examplePhyFrame.length + rsParitys + 3 ≤ rawLen := by decide +kernel
  have hlength : exampleCodedFrame.length ≤ rawLen := by
    show (whitened _).length + 3 ≤ rawLen
    rwa [whitened_length, List.length_append, encodeRs8_length, SkyTransmitFrame.bytes_length]
  have hraw : exampleCodedFrame.raw.length = rawLen := exampleBuffer_raw _ hlength
  refine ⟨exampleCodewordDecoder_keepsLength, hraw, hlength,
    (receivesInside_iff exampleHash vendoredGolay exampleCodewordDecoder_keepsLength 0
      (exampleNode 0 8) ⟨0, 0, 0, 0⟩ hraw hlength).mpr ?_⟩
  have hdecoded : (vendoredGolay exampleCodedFrame.codedLen).map (· &&& 0x0ff) =
      some (examplePhyFrame.length + rsParitys) := by decide +kernel
  intro decoded h
  rw [h, Option.map_some, Option.some.injEq] at hdecoded
  rw [hdecoded]
  exact .inl hshort

/-- The greatest length that is accepted. -/
def overlongFrame : SkyRadioFrame := exampleBuffer rawLen []

/-- The last turns of the shift read behind `raw`. -/
theorem not_receivesInside :
    overlongFrame.raw.length = rawLen ∧ overlongFrame.length ≤ rawLen ∧
      golayLength overlongFrame = some 229 ∧
      skyRxWithGolay exampleHash exampleCodewordDecoder 0 (exampleNode 0 8) ⟨0, 0, 0, 0⟩
        overlongFrame = none ∧
      ¬(exampleNode 0 8).ReceivesInside exampleHash vendoredGolay exampleCodewordDecoder 0
        ⟨0, 0, 0, 0⟩ overlongFrame := by
  have hraw : overlongFrame.raw.length = rawLen := exampleBuffer_raw rawLen (by decide)
  have hlength : golayLength overlongFrame = some 229 := by decide +kernel
  have hshift : copyUp 3 229 0 overlongFrame.raw = none :=
    copyUp_eq_none (by rw [hraw]; decide) (by rw [hraw]; decide)
  have hnone : skyRxWithGolay exampleHash exampleCodewordDecoder 0 (exampleNode 0 8) ⟨0, 0, 0, 0⟩
      overlongFrame = none := by
    rw [skyRxWithGolay, hlength]
    dsimp only
    rw [if_neg (by decide), hshift]
    rfl
  refine ⟨hraw, by decide, hlength, hnone, fun h => ?_⟩
  have hgolay := h.golay
  rw [Checked.skyRxWithGolay_refines exampleCodewordDecoder_keepsLength hraw, hnone] at hgolay
  exact Bool.false_ne_true hgolay

end Skylink
