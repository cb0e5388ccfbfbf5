import Skylink.Node.Forgery

/-!
# What lies behind a frame

The receiver computes on a buffer that is longer than the frame. It reads nothing of what
lies behind the frame: two buffers with the same frame leave the node in the same state.
-/

namespace Skylink

variable {w : Nat}

/-! ## The bytes of a frame -/

/-- Two buffers that hold the same frame. -/
structure SkyRadioFrame.SameFrame (frame frame' : SkyRadioFrame) : Prop where
  length : frame'.length = frame.length
  contents : frame'.contents = frame.contents

/-- A frame that was sent, as it is received at a time. -/
def SkyTransmitFrame.receivedAt (tx : SkyTransmitFrame) (rxTimeTicks : Int) : SkyRadioFrame :=
  { tx.frame with rxTimeTicks := rxTimeTicks }

section Bytes

variable {frame frame' : SkyRadioFrame}

theorem SkyRadioFrame.SameFrame.byte_eq (h : frame.SameFrame frame') {i : Nat}
    (hi : i < frame.length) : frame'.byte i = frame.byte i := by
  have hcontents (f : SkyRadioFrame) (hf : i < f.length) : f.contents[i]? = f.raw[i]? := by
    rw [SkyRadioFrame.contents, List.getElem?_take, if_pos hf]
  rw [SkyRadioFrame.byte, SkyRadioFrame.byte, List.getD_eq_getElem?_getD,
    List.getD_eq_getElem?_getD, ← hcontents frame' (h.length ▸ hi), ← hcontents frame hi,
    h.contents]

/-- A slice that ends within the frame. -/
theorem SkyRadioFrame.SameFrame.slice_eq (h : frame.SameFrame frame') (start : Nat) {count : Nat}
    (hend : start + count ≤ frame.length) :
    (frame'.raw.drop start).take count = (frame.raw.drop start).take count := by
  have hslice (f : SkyRadioFrame) (hf : start + count ≤ f.length) :
      (f.raw.drop start).take count = (f.contents.drop start).take count := by
    rw [SkyRadioFrame.contents, List.drop_take, List.take_take, Nat.min_eq_left (by omega)]
  rw [hslice frame hend, hslice frame' (h.length ▸ hend), h.contents]

theorem SkyRadioFrame.SameFrame.trailer_eq (h : frame.SameFrame frame')
    (hlen : skyHmacLength ≤ frame.length) : frame'.trailer = frame.trailer := by
  rw [SkyRadioFrame.trailer, SkyRadioFrame.trailer, h.length]
  exact h.slice_eq _ (by omega)

theorem SkyRadioFrame.SameFrame.hashed_eq (h : frame.SameFrame frame') :
    frame'.hashed = frame.hashed := by
  rw [SkyRadioFrame.hashed, SkyRadioFrame.hashed, h.length]
  exact h.slice_eq 0 (by omega)

/-- An extension that ends within the frame. -/
theorem SkyRadioFrame.SameFrame.extensionAt_eq (h : frame.SameFrame frame') {cursor : Nat}
    (hend : cursor + (1 + (frame.extensionAt cursor).length) ≤ frame.length) :
    frame'.extensionAt cursor = frame.extensionAt cursor := by
  have hlen : (frame.extensionAt cursor).length = (frame.byte cursor).toNat / 16 := rfl
  have hbyte := h.byte_eq (i := cursor) (by omega)
  have hdata := h.slice_eq (cursor + 1)
    (show cursor + 1 + (frame.byte cursor).toNat / 16 ≤ frame.length by omega)
  simp only [SkyRadioFrame.extensionAt, hbyte, hdata]

theorem SkyRadioFrame.SameFrame.staticHeader_eq (h : frame.SameFrame frame') {start : Nat}
    (hend : start + staticHeaderSize ≤ frame.length) :
    SkyStaticHeader.load (frame'.raw.drop start) =
      SkyStaticHeader.load (frame.raw.drop start) := by
  have hload (b : Bytes) : SkyStaticHeader.load b = SkyStaticHeader.load (b.take 4) := by
    simp [SkyStaticHeader.load, loadU16]
  rw [hload (frame'.raw.drop start), hload (frame.raw.drop start)]
  exact congrArg SkyStaticHeader.load (h.slice_eq start hend)

end Bytes

/-! ## Parsing -/

/-- Another payload, with what lies behind it. -/
def SkyParsedFrame.withPayload (parsed : SkyParsedFrame) (payload : Bytes) : SkyParsedFrame :=
  { parsed with payload := payload }

@[simp] theorem SkyParsedFrame.withPayload_hdr (parsed : SkyParsedFrame) (payload : Bytes) :
    (parsed.withPayload payload).hdr = parsed.hdr := rfl

@[simp] theorem SkyParsedFrame.withPayload_hmacReset (parsed : SkyParsedFrame) (payload : Bytes) :
    (parsed.withPayload payload).hmacReset = parsed.hmacReset := rfl

@[simp] theorem SkyParsedFrame.withPayload_payloadLen (parsed : SkyParsedFrame)
    (payload : Bytes) : (parsed.withPayload payload).payloadLen = parsed.payloadLen := rfl

/-- No extension reads the payload. -/
theorem parseExtension_withPayload (parsed : SkyParsedFrame) (ext : SkyHeaderExtension)
    (payload : Bytes) :
    parseExtension w (parsed.withPayload payload) ext =
      (parseExtension w parsed ext).map (·.withPayload payload) := by
  have hstore (slot : Option SkyHeaderExtension) (size : Nat)
      (f g : Option SkyHeaderExtension → SkyParsedFrame)
      (hfg : ∀ slot, f slot = (g slot).withPayload payload) :
      (storeExtension slot size ext).map f =
        ((storeExtension slot size ext).map g).map (·.withPayload payload) := by
    cases storeExtension slot size ext with
    | error ret => rfl
    | ok slot => exact congrArg Except.ok (hfg slot)
  simp only [parseExtension]
  split <;> first | rfl | exact hstore _ _ _ _ fun _ => rfl

section Parse

variable {frame frame' : SkyRadioFrame}

/-- The loop reads within the frame; induction on the turns. -/
theorem SkyRadioFrame.SameFrame.parseExtensionsLoop_eq (h : frame.SameFrame frame') {stop : Nat}
    (hstop : stop ≤ frame.length) (payload : Bytes) (turns cursor : Nat)
    (parsed : SkyParsedFrame) :
    parseExtensionsLoop w frame' stop turns cursor (parsed.withPayload payload) =
      (parseExtensionsLoop w frame stop turns cursor parsed).map (·.withPayload payload) := by
  induction turns generalizing cursor parsed with
  | zero => rfl
  | succ turns ih =>
      rw [parseExtensionsLoop, parseExtensionsLoop]
      by_cases hcursor : cursor < stop
      case neg =>
        rw [if_neg hcursor, if_neg hcursor]
        rfl
      have hlength : (frame'.extensionAt cursor).length = (frame.extensionAt cursor).length := by
        rw [SkyRadioFrame.extensionAt, SkyRadioFrame.extensionAt,
          h.byte_eq (hcursor.trans_le hstop)]
      rw [if_pos hcursor, if_pos hcursor]
      dsimp only
      rw [hlength, h.length]
      by_cases hend : frame.length < cursor + (1 + (frame.extensionAt cursor).length)
      case pos =>
        rw [if_pos hend, if_pos hend]
        rfl
      rw [if_neg hend, if_neg hend, h.extensionAt_eq (not_lt.mp hend),
        parseExtension_withPayload]
      cases parseExtension w parsed (frame.extensionAt cursor) with
      | error ret => rfl
      | ok parsed => exact ih _ parsed

theorem SkyRadioFrame.SameFrame.skyFrameParseExtensionHeaders_eq (h : frame.SameFrame frame')
    (hpos : 0 < frame.length) (payload : Bytes) (parsed : SkyParsedFrame) :
    skyFrameParseExtensionHeaders w frame' (parsed.withPayload payload) =
      (skyFrameParseExtensionHeaders w frame parsed).map (·.withPayload payload) := by
  rw [skyFrameParseExtensionHeaders, skyFrameParseExtensionHeaders,
    h.byte_eq hpos, h.length, SkyParsedFrame.withPayload_hdr]
  split_ifs with hstop
  · rfl
  · exact h.parseExtensionsLoop_eq (not_lt.mp hstop) _ _ _ _

/-- The identity is read behind the frame where a length of seven is announced for a frame
of seven bytes. -/
theorem SkyRadioFrame.SameFrame.rxIdentity_eq (h : frame.SameFrame frame')
    (hend : 1 + (frame.byte 0 &&& skylinkFrameIdentityMask).toNat ≤ frame.length) :
    rxIdentity frame' = rxIdentity frame := by
  rw [rxIdentity, rxIdentity, h.byte_eq (by omega)]
  dsimp only
  rw [h.slice_eq 1 hend]

theorem rxHeader_short {identity : Bytes × Nat}
    (hshort : frame.length < 1 + identity.2 + staticHeaderSize) :
    rxHeader w frame identity = .error .invalidExtLength := by
  rw [rxHeader]
  exact if_pos (by omega)

/-- What the parser reads of the payload lies within the frame. -/
theorem SkyRadioFrame.SameFrame.rxHeader_eq (h : frame.SameFrame frame')
    (identity : Bytes × Nat) :
    ∃ payload, rxHeader w frame' identity =
        (rxHeader w frame identity).map (·.withPayload payload) ∧
      ∀ parsed, rxHeader w frame identity = .ok parsed →
        payload.take parsed.payloadLen = parsed.payloadBytes := by
  by_cases hshort : frame.length < 1 + identity.2 + staticHeaderSize
  case pos =>
    rw [rxHeader_short hshort, rxHeader_short (h.length ▸ hshort)]
    exact ⟨[], rfl, nofun⟩
  let hdr := SkyStaticHeader.load (frame.raw.drop (1 + identity.2))
  let start := 1 + identity.2 + staticHeaderSize + hdr.extensionLength.toNat
  have hhdr : SkyStaticHeader.load (frame'.raw.drop (1 + identity.2)) = hdr :=
    h.staticHeader_eq (not_lt.mp hshort)
  have hheader (f : SkyRadioFrame) (hf : SkyStaticHeader.load (f.raw.drop (1 + identity.2)) = hdr)
      (hlen : f.length = frame.length) : rxHeader w f identity =
        if frame.length < start then .error .invalidExtLength
        else skyFrameParseExtensionHeaders w f (rxContents f identity hdr start) := by
    rw [rxHeader, hf, hlen]
  rw [hheader frame rfl rfl, hheader frame' hhdr h.length]
  by_cases hstart : frame.length < start
  case pos =>
    rw [if_pos hstart, if_pos hstart]
    exact ⟨[], rfl, nofun⟩
  rw [if_neg hstart, if_neg hstart]
  have hcontents : rxContents frame' identity hdr start =
      (rxContents frame identity hdr start).withPayload (frame'.raw.drop start) := by
    rw [rxContents, h.length]
    rfl
  refine ⟨frame'.raw.drop start, ?_, fun parsed hok => ?_⟩
  · rw [hcontents]
    exact h.skyFrameParseExtensionHeaders_eq (by omega) _ _
  · obtain ⟨-, hpayload, hlen⟩ := skyFrameParseExtensionHeaders_sameContents hok
    rw [SkyParsedFrame.payloadBytes, hpayload, hlen]
    apply h.slice_eq
    have hle : (rxContents frame identity hdr start).payloadLen ≤ frame.length - start := by
      rw [rxContents]
      dsimp only
      split
      · exact le_rfl
      · exact Nat.zero_le _
    omega

end Parse

/-! ## Authentication and the channel -/

section Receive

variable {frame frame' : SkyRadioFrame}

theorem SkyRadioFrame.SameFrame.check_eq (h : frame.SameFrame frame')
    (hlen : skyHmacLength ≤ frame.length) (H : KeyedHash) (node : SkyNode w)
    (parsed : SkyParsedFrame) (payload : Bytes) :
    skyHmacCheckAuthentication H node frame' (parsed.withPayload payload) =
      ((skyHmacCheckAuthentication H node frame parsed).1,
        (skyHmacCheckAuthentication H node frame parsed).2.map (·.withPayload payload)) := by
  have htrailer := h.trailer_eq hlen
  have hhashed := h.hashed_eq
  obtain ⟨sequenceTx, hreset⟩ := processHmacReset_eq node.hmac
    { parsed with
      hdr := { parsed.hdr with frameSequence := skyNtoh16 parsed.hdr.frameSequence } }
    parsed.hdr.channel
  have hreset' : processHmacReset node.hmac
      { parsed.withPayload payload with
        hdr := { parsed.hdr with frameSequence := skyNtoh16 parsed.hdr.frameSequence }
        payloadLen := parsed.payloadLen } parsed.hdr.channel =
        { node.hmac with sequenceTx := sequenceTx } := hreset
  simp only [skyHmacCheckAuthentication, SkyParsedFrame.withPayload_hdr, hreset, hreset',
    SkyParsedFrame.withPayload_payloadLen, htrailer, hhashed]
  split
  case isTrue => rfl
  case isFalse =>
    split
    case isTrue =>
      by_cases hflag : parsed.hdr.hasFlag skyFlagAuthenticated <;>
        simp only [SkyStaticHeader.hasFlag_swap, hflag] <;> rfl
    case isFalse =>
      split
      case isTrue => rfl
      case isFalse =>
        split
        case isTrue => rfl
        case isFalse => split <;> rfl

/-- A channel reads the payload through its length. -/
theorem skyVcProcessFrame_withPayload (tickTime : Int) (vc : SkyVirtualChannel w)
    {parsed : SkyParsedFrame} {payload : Bytes} (now : Int)
    (hpayload : payload.take parsed.payloadLen = parsed.payloadBytes) :
    skyVcProcessFrame tickTime vc (parsed.withPayload payload) now =
      skyVcProcessFrame tickTime vc parsed now := by
  have hbytes : (parsed.withPayload payload).payloadBytes = parsed.payloadBytes := hpayload
  have hhandshake : processHandshake tickTime vc (parsed.withPayload payload) =
      processHandshake tickTime vc parsed := rfl
  have hctrl (vc : SkyVirtualChannel w) : processCtrl vc (parsed.withPayload payload) now =
      processCtrl vc parsed now := rfl
  have hrequest (vc : SkyVirtualChannel w) : processRequest vc (parsed.withPayload payload) =
      processRequest vc parsed := rfl
  simp only [skyVcProcessFrame, processFrameOn, hbytes, hhandshake, hctrl, hrequest]
  rfl

theorem acceptFrame_withPayload (tick : Int) (node : SkyNode w) (rxTimeTicks : Int)
    {parsed : SkyParsedFrame} {payload : Bytes}
    (hpayload : payload.take parsed.payloadLen = parsed.payloadBytes) :
    acceptFrame tick node rxTimeTicks (parsed.withPayload payload) =
      acceptFrame tick node rxTimeTicks parsed := by
  have hmac : skyRxProcessExtMacControl tick node rxTimeTicks (parsed.withPayload payload) =
      skyRxProcessExtMacControl tick node rxTimeTicks parsed := rfl
  rw [acceptFrame, SkyParsedFrame.withPayload_hdr, hmac]
  dsimp only
  rw [skyVcProcessFrame_withPayload _ _ _ hpayload]
  rfl

/-- What is left of the payload once the trailer is taken off lies within the frame as well. -/
theorem check_payload (H : KeyedHash) {node node' : SkyNode w} {parsed parsed' : SkyParsedFrame}
    (hcheck : skyHmacCheckAuthentication H node frame parsed = (node', .ok parsed'))
    {payload : Bytes} (hpayload : payload.take parsed.payloadLen = parsed.payloadBytes) :
    payload.take parsed'.payloadLen = parsed'.payloadBytes := by
  have hle : parsed'.payloadLen ≤ parsed.payloadLen ∧ parsed'.payload = parsed.payload := by
    have hcases := check_cases H node frame parsed
    rw [hcheck] at hcases
    cases hcases with
    | short _ _ heq => cases heq
    | unchecked payloadLen _ hlen heq =>
        cases heq
        refine ⟨hlen.trans_le ?_, rfl⟩
        split
        · exact Nat.sub_le _ _
        · exact le_rfl
    | forged _ _ _ _ heq => cases heq
    | far _ _ _ _ _ heq => cases heq
    | passed _ _ _ _ _ _ heq =>
        cases heq
        exact ⟨Nat.sub_le _ _, rfl⟩
  rw [SkyParsedFrame.payloadBytes] at hpayload ⊢
  rw [hle.2, ← Nat.min_eq_left hle.1, ← List.take_take, ← List.take_take, hpayload]

end Receive

/-! ## Reception -/

section Reception

variable {frame frame' : SkyRadioFrame}

theorem SkyRadioFrame.SameFrame.countReceived_eq (h : frame.SameFrame frame') (node : SkyNode w) :
    node.countReceived frame' = node.countReceived frame := by
  rw [SkyNode.countReceived, SkyNode.countReceived, h.length]

/-- The whole result is the same where the identity ends within the frame. -/
theorem SkyRadioFrame.SameFrame.skyRx_eq (h : frame.SameFrame frame')
    (htime : frame'.rxTimeTicks = frame.rxTimeTicks) (H : KeyedHash) (tick : Int) (node : SkyNode w)
    (hend : 1 + (frame.byte 0 &&& skylinkFrameIdentityMask).toNat ≤ frame.length) :
    skyRx H tick node frame' = skyRx H tick node frame := by
  rw [skyRx, skyRx, h.length]
  by_cases hmin : frame.length < skyFrameMinLen
  case pos => rw [if_pos hmin, if_pos hmin]
  rw [if_neg hmin, if_neg hmin]
  dsimp only
  rw [h.countReceived_eq, h.rxIdentity_eq hend]
  cases rxIdentity frame with
  | error ret => rfl
  | ok identity =>
      dsimp only
      split
      case isTrue => rfl
      obtain ⟨payload, hheader, hpayload⟩ := h.rxHeader_eq (w := w) identity
      rw [hheader]
      cases hparsed : rxHeader w frame identity with
      | error ret => rfl
      | ok parsed =>
          have hroom : skyHmacLength ≤ frame.length := le_trans (by decide) (not_lt.mp hmin)
          have hcheck := h.check_eq hroom H (node.countReceived frame) parsed payload
          simp only [Except.map, hcheck]
          cases hresult : skyHmacCheckAuthentication H (node.countReceived frame) frame parsed with
          | mk node' result =>
              cases result with
              | error ret => rfl
              | ok parsed' =>
                  show acceptFrame tick node' frame'.rxTimeTicks (parsed'.withPayload payload) = _
                  rw [htime]
                  exact acceptFrame_withPayload tick node' frame.rxTimeTicks
                    (check_payload H hresult (hpayload parsed hparsed))

/-- A frame that ends within the identity is counted only. -/
theorem skyRx_short (H : KeyedHash) (tick : Int) (node : SkyNode w)
    (hshort : frame.length < 1 + (frame.byte 0 &&& skylinkFrameIdentityMask).toNat) :
    (skyRx H tick node frame).1 =
      if frame.length < skyFrameMinLen then node else node.countReceived frame := by
  rw [skyRx]
  split_ifs with hmin
  · rfl
  cases hid : rxIdentity frame with
  | error ret => rfl
  | ok identity =>
      have hlen := rxIdentity_length hid
      dsimp only
      rw [rxHeader_short (by omega)]
      split <;> rfl

/-- Two buffers that hold the same frame leave the node in the same state. -/
theorem SkyRadioFrame.SameFrame.skyRx_node (h : frame.SameFrame frame')
    (htime : frame'.rxTimeTicks = frame.rxTimeTicks) (H : KeyedHash) (tick : Int)
    (node : SkyNode w) :
    (skyRx H tick node frame').1 = (skyRx H tick node frame).1 := by
  by_cases hend : 1 + (frame.byte 0 &&& skylinkFrameIdentityMask).toNat ≤ frame.length
  case pos => rw [h.skyRx_eq htime H tick node hend]
  by_cases hmin : frame.length < skyFrameMinLen
  case pos =>
    rw [skyRx, skyRx, h.length, if_pos hmin, if_pos hmin]
  have hbyte := h.byte_eq (i := 0) ((by decide : 0 < skyFrameMinLen).trans_le (not_lt.mp hmin))
  rw [skyRx_short H tick node (not_le.mp hend), skyRx_short H tick node
    (by rw [hbyte, h.length]; exact not_le.mp hend), h.length, h.countReceived_eq]

/-- Nothing of what lies behind a frame reaches the node, nor the caller: only where a frame
of seven bytes announces an identity of seven does the return code depend on it. -/
theorem skyRx_reads_frame (H : KeyedHash) (tick : Int) (node : SkyNode w)
    (h : frame.SameFrame frame') (htime : frame'.rxTimeTicks = frame.rxTimeTicks) :
    (skyRx H tick node frame').1 = (skyRx H tick node frame).1 ∧
      (¬(frame.length = 7 ∧ (frame.byte 0 &&& skylinkFrameIdentityMask).toNat = 7) →
        (skyRx H tick node frame').2 = (skyRx H tick node frame).2) := by
  refine ⟨h.skyRx_node htime H tick node, fun hseven => ?_⟩
  by_cases hmin : frame.length < skyFrameMinLen
  case pos => rw [skyRx, skyRx, h.length, if_pos hmin, if_pos hmin]
  have hmask : (frame.byte 0 &&& skylinkFrameIdentityMask).toNat ≤ 7 := by
    rw [UInt8.toNat_and]
    exact Nat.and_le_right
  rw [skyFrameMinLen] at hmin
  rw [h.skyRx_eq htime H tick node (by omega)]

/-- The frame lies in a cleared buffer, or in front of what an earlier frame left. -/
def exampleBytes : Bytes := [0x63, 9, 9, 9, 0x10, 0, 0, 0, 1, 2, 3]

theorem skyRx_reads_frame_example :
    skyRx exampleHash 0 (exampleNode 0 7) { SkyRadioFrame.ofBytes exampleBytes with
        raw := exampleBytes ++ List.replicate 218 0xff } =
      skyRx exampleHash 0 (exampleNode 0 7) (SkyRadioFrame.ofBytes exampleBytes) := by
  have hsame : (SkyRadioFrame.ofBytes exampleBytes).SameFrame
      { SkyRadioFrame.ofBytes exampleBytes with
        raw := exampleBytes ++ List.replicate 218 0xff } := ⟨rfl, by decide⟩
  obtain ⟨hnode, hret⟩ := skyRx_reads_frame exampleHash 0 (exampleNode 0 7) hsame rfl
  exact Prod.ext hnode (hret (by decide))

end Reception

end Skylink
