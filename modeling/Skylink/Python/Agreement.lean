import Skylink.Node.Model
import Skylink.Python.Codec

/-!
# What the node makes of a frame of the Python package

The two descriptions of a frame differ in the bits of the flags, in the order of the
static header, and in the length of two extensions.
-/

namespace Skylink

open BitPacking

/-! ## Reading -/

/-- The part of `sky_rx` that decodes a frame. -/
def skyRxDecode (w : Nat) (frame : SkyRadioFrame) : Except SkyRet SkyParsedFrame :=
  if frame.length < skyFrameMinLen then .error .invalidPlainLength
  else
    match rxIdentity frame with
    | .error ret => .error ret
    | .ok identity => rxHeader w frame identity

/-- The fields of an extension as they are read. -/
def SkyHeaderExtension.value (ext : SkyHeaderExtension) : Option (ExtValue 8) :=
  match ext.type with
  | 0 => some (.arqSequence ext.arqSeqSequence)
  | 1 => some (.arqRequest (ext.arqReq (w := 8)).1 (ext.arqReq (w := 8)).2)
  | 2 => some (.arqCtrl (ext.arqCtrlSequences (w := 8)).1 (ext.arqCtrlSequences (w := 8)).2)
  | 3 => some (.arqHandshake ext.arqHandshake.1 ext.arqHandshake.2)
  | 4 => some (.macTddControl ext.tddControl.1 ext.tddControl.2)
  | 5 => some (.hmacSequenceReset (skyNtoh16 (loadU16 ext.data)))
  | _ => none

/-- The parsed frame has what the Python function was given. -/
structure SkyParsedFrame.Means (parsed : SkyParsedFrame) (sequence : UInt16) (vc : Fin 4)
    (payload extensions : Bytes) (vs : List (ExtValue 8)) : Prop where
  vc : parsed.hdr.vc = vc
  hasPayload : parsed.hdr.hasFlag skyFlagHasPayload = decide (0 < payload.length)
  authenticated : parsed.hdr.hasFlag skyFlagAuthenticated = false
  sequence : skyNtoh16 parsed.hdr.frameSequence = sequence
  extensionLength : parsed.hdr.extensionLength.toNat = extensions.length
  extensions : ∀ v, v ∈ vs ↔ ∃ ext, parsed.slot v.type = some ext ∧ ext.value = some v
  payload : parsed.payloadBytes = payload

namespace Python

/-- The node decodes a frame of `construct_frame` into what the function was given. -/
def CodecsAgree (lib : Construct) (identity : Bytes) (sequence : UInt16) (vc fragment : Fin 4)
    (payload : Bytes) (vs : List (ExtValue 8)) : Prop :=
  ∃ extensions bytes parsed, buildExtensions lib vs = some extensions ∧
    constructFrame lib identity sequence.toNat vc payload fragment extensions = some bytes ∧
    skyRxDecode 8 (.ofBytes bytes) = .ok parsed ∧
    parsed.Means sequence vc payload extensions vs

end Python

namespace ExtValue

/-- The builder writes the length that the parser asks for. -/
def SameLength : ExtValue 8 → Prop
  | .arqRequest _ _ => False
  | .arqCtrl _ _ => False
  | _ => True

/-- The parser reads the bytes as they were meant. The identifier of a handshake is read
without a change of the byte order. -/
def SameReading : ExtValue 8 → Prop
  | .arqHandshake _ identifier => skyHton32 identifier = identifier
  | _ => True

theorem sameLength_iff (v : ExtValue 8) :
    v.SameLength ↔ (v.pythonLength : Nat) = v.fields.length := by
  cases v with
  | arqRequest s mask => exact iff_of_false id (by decide : (2 : Nat) ≠ 3)
  | arqCtrl tx rx => exact iff_of_false id (by decide : (4 : Nat) ≠ 2)
  | arqSequence s => exact iff_of_true trivial rfl
  | arqHandshake state identifier => exact iff_of_true trivial rfl
  | macTddControl window remaining => exact iff_of_true trivial rfl
  | hmacSequenceReset s => exact iff_of_true trivial rfl

theorem pythonBytes_eq {v : ExtValue 8} (h : v.SameLength) : v.pythonBytes = v.bytes := by
  rw [pythonBytes, v.sameLength_iff.mp h, bytes]

theorem pythonBytes_length (vs : List (ExtValue 8)) :
    (vs.flatMap pythonBytes).length = (extensionBytes vs).length := by
  rw [extensionBytes, List.length_flatMap, List.length_flatMap]
  rfl

end ExtValue

/-! ## Extensions of another length -/

/-- The pointer read at an extension of the Python package. -/
theorem extensionAt_python {frame : SkyRadioFrame} {pre rest : Bytes} (v : ExtValue 8)
    (hraw : frame.raw = pre ++ (v.pythonBytes ++ rest)) :
    (frame.extensionAt pre.length).type = v.type ∧
      (frame.extensionAt pre.length).length = v.pythonLength := by
  have htype := v.type_lt
  have hlength := v.pythonLength.isLt
  have hbyte : frame.byte pre.length = extensionHeaderByte v.type v.pythonLength := by
    simp [SkyRadioFrame.byte, hraw, ExtValue.pythonBytes, List.getD_eq_getElem?_getD]
  have hnat : (frame.byte pre.length).toNat = v.type + 16 * v.pythonLength := by
    rw [hbyte, extensionHeaderByte, Nat.mod_eq_of_lt htype, Nat.mod_eq_of_lt hlength]
    exact Nat.mod_eq_of_lt (by omega)
  simp only [SkyRadioFrame.extensionAt]
  constructor <;> omega

/-- The parser refuses an extension of another length. -/
theorem parseExtension_otherLength {v : ExtValue 8} (hv : ¬v.SameLength) (p : SkyParsedFrame)
    {ext : SkyHeaderExtension} (htype : ext.type = v.type) (hlength : ext.length = v.pythonLength) :
    ∃ ret, parseExtension 8 p ext = .error ret := by
  have hstore (slot : Option SkyHeaderExtension) {size : Nat} (hsize : ext.length ≠ size)
      (record : Option SkyHeaderExtension → SkyParsedFrame) :
      ∃ ret, (storeExtension slot size ext).map record = .error ret := by
    rw [storeExtension, if_pos hsize]
    split <;> exact ⟨_, rfl⟩
  cases v with
  | arqRequest s mask =>
      have hone : ext.type = 1 := htype
      have htwo : ext.length = 2 := hlength
      simp only [parseExtension, hone]
      exact hstore _ (by omega) _
  | arqCtrl tx rx =>
      have htwo : ext.type = 2 := htype
      have hfour : ext.length = 4 := hlength
      simp only [parseExtension, htwo]
      exact hstore _ (by omega) _
  | _ => exact absurd trivial hv

/-- The parser ends with an error when one of the extensions has another length. -/
theorem parseExtensionsLoop_otherLength {frame : SkyRadioFrame} {rest : Bytes}
    {vs : List (ExtValue 8)} (hvs : ∃ v ∈ vs, ¬v.SameLength) (pre : Bytes) (p : SkyParsedFrame)
    {turns stop : Nat} (hraw : frame.raw = pre ++ (vs.flatMap ExtValue.pythonBytes ++ rest))
    (hstop : stop = pre.length + (vs.flatMap ExtValue.pythonBytes).length)
    (hturns : (vs.flatMap ExtValue.pythonBytes).length ≤ turns) :
    ∃ ret, parseExtensionsLoop 8 frame stop turns pre.length p = .error ret := by
  induction vs generalizing pre p turns with
  | nil =>
      obtain ⟨v, hv, -⟩ := hvs
      exact absurd hv List.not_mem_nil
  | cons v vs ih =>
      rw [List.flatMap_cons, List.length_append] at hstop hturns
      rw [List.flatMap_cons, List.append_assoc] at hraw
      have hbytes : v.pythonBytes.length = v.fields.length + 1 := rfl
      obtain ⟨turns, rfl⟩ : ∃ k, turns = k + 1 := ⟨turns - 1, by omega⟩
      obtain ⟨htype, hlength⟩ := extensionAt_python v hraw
      rw [parseExtensionsLoop, if_pos (by omega)]
      dsimp only
      split
      · exact ⟨_, rfl⟩
      · cases hparse : parseExtension 8 p (frame.extensionAt pre.length) with
        | error ret => exact ⟨ret, rfl⟩
        | ok p' =>
            dsimp only
            by_cases hv : v.SameLength
            · have hrest : ∃ v ∈ vs, ¬v.SameLength := by
                obtain ⟨u, hu, hbad⟩ := hvs
                rcases List.mem_cons.mp hu with rfl | hu
                · exact absurd hv hbad
                · exact ⟨u, hu, hbad⟩
              have hcursor : pre.length + (1 + (frame.extensionAt pre.length).length) =
                  (pre ++ v.pythonBytes).length := by
                rw [hlength, v.sameLength_iff.mp hv, List.length_append, hbytes]
                omega
              rw [hcursor]
              refine ih hrest (pre ++ v.pythonBytes) p' ?_ ?_ (by omega)
              · rw [hraw, List.append_assoc]
              · rw [List.length_append]
                omega
            · obtain ⟨ret, herr⟩ := parseExtension_otherLength hv p htype hlength
              rw [herr] at hparse
              cases hparse

/-! ## The frame as the node sees it -/

theorem skyNtoh16_loadU16_iff {a b : UInt8} {v : UInt16} :
    skyNtoh16 (loadU16 [a, b]) = v ↔ a = (v >>> 8).toUInt8 ∧ b = v.toUInt8 := by
  have hstore := storeU16_hton16 v
  constructor
  · intro h
    have hload : loadU16 [a, b] = skyHton16 v := by
      rw [← h, skyNtoh16, skyHton16_hton16]
    rw [← hload, storeU16_loadU16] at hstore
    simpa using hstore
  · rintro ⟨rfl, rfl⟩
    rw [← hstore, loadU16_storeU16, skyNtoh16, skyHton16_hton16]

theorem SkyRadioFrame.ofBytes_bytes (tx : SkyTransmitFrame) : ofBytes tx.bytes = tx.frame := by
  simp only [ofBytes, SkyTransmitFrame.frame, tx.bytes_length]

namespace Python

/-- The frame of `construct_frame`, cut into the parts that the node takes it for. -/
def transmitFrame (identity : Bytes) (sequence : UInt16) (vc fragment : Fin 4) (payload : Bytes)
    (vs : List (ExtValue 8)) : SkyTransmitFrame :=
  { start := (skylinkFrameVersionByte ||| UInt8.ofNat identity.length) :: identity
    hdr :=
      { flags := flagsByte fragment (decide (0 < payload.length)) vc
        frameSequence :=
          loadU16 [UInt8.ofNat (extensionBytes vs).length, (sequence >>> 8).toUInt8]
        extensionLength := sequence.toUInt8 }
    body := vs.flatMap ExtValue.pythonBytes ++ payload
    assertsHold := true }

theorem constructFrame_eq (lib : Construct) {identity : Bytes} (hidentity : identity.length < 8)
    (sequence : UInt16) (vc fragment : Fin 4) (payload : Bytes) {vs : List (ExtValue 8)}
    (hnodup : (vs.map ExtValue.type).Nodup) :
    constructFrame lib identity sequence.toNat vc payload fragment
        (vs.flatMap ExtValue.pythonBytes) =
      some (transmitFrame identity sequence vc fragment payload vs).bytes := by
  have hlength := ExtValue.pythonBytes_length vs
  have hlt := SkyTransmitFrame.Built.extensionBytes_length_lt (by decide) hnodup
  rw [constructFrame, skyHeader_eq lib hidentity (by rw [hlength]; exact hlt), hlength]
  simp [transmitFrame, SkyTransmitFrame.bytes, SkyStaticHeader.store, storeU16_loadU16]

/-- Of the flags the node finds the channel and nothing else. -/
theorem flagsByte_read (fragment : Fin 4) (hasPayload : Bool) (vc : Fin 4) :
    (flagsByte fragment hasPayload vc &&& 0x03).toNat = vc ∧
      flagsByte fragment hasPayload vc &&& skyFlagHasPayload = 0 ∧
      flagsByte fragment hasPayload vc &&& skyFlagAuthenticated = 0 := by
  revert fragment hasPayload vc
  decide

/-- The node reads the length of the extensions as the upper half of the sequence, and the
lower half of the sequence as the length of the extensions. -/
theorem sequence_read_iff {n : Nat} (hn : n < 256) (sequence : UInt16) :
    (skyNtoh16 (loadU16 [UInt8.ofNat n, (sequence >>> 8).toUInt8]) = sequence ∧
      sequence.toUInt8.toNat = n) ↔ sequence.toNat = 257 * n := by
  have hlt := sequence.toNat_lt
  have hupper : (sequence >>> 8).toUInt8.toNat = sequence.toNat / 256 := by
    simp [Nat.shiftRight_eq_div_pow]
    omega
  have hlower : sequence.toUInt8.toNat = sequence.toNat % 256 := by simp
  have hlength : (UInt8.ofNat n).toNat = n := UInt8.toNat_ofNat_of_lt' hn
  rw [skyNtoh16_loadU16_iff, ← UInt8.toNat_inj, ← UInt8.toNat_inj, hlength, hupper, hlower]
  omega

/-! ## What is decoded -/

section

variable {identity payload : Bytes} {sequence : UInt16} {vc fragment : Fin 4}
  {vs : List (ExtValue 8)}

/-- A frame that is decoded starts with the header that the node takes it to have. -/
theorem hdr_of_skyRxDecode {tx : SkyTransmitFrame}
    (hstart : tx.start = (skylinkFrameVersionByte ||| UInt8.ofNat identity.length) :: identity)
    (hpos : 0 < identity.length) (hle : identity.length ≤ skyMaxIdentityLen)
    {parsed : SkyParsedFrame} (h : skyRxDecode 8 tx.frame = .ok parsed) :
    skyFrameMinLen ≤ tx.length ∧ parsed.hdr = tx.hdr ∧
      rxHeader 8 tx.frame (identity, identity.length) = .ok parsed := by
  have hidentity := tx.rxIdentity_of_start hstart hpos hle
  rw [skyRxDecode] at h
  split at h
  · cases h
  · rename_i hmin
    simp only [hidentity] at h
    refine ⟨not_lt.mp hmin, ?_, h⟩
    rw [rxHeader_hdr hidentity h, tx.header_of_start hstart hle]

/-- An extension of another length ends in an error. -/
theorem rxHeader_otherLength (tx : SkyTransmitFrame)
    (hstart : tx.start = (skylinkFrameVersionByte ||| UInt8.ofNat identity.length) :: identity)
    (hle : identity.length ≤ skyMaxIdentityLen)
    (hbody : tx.body = vs.flatMap ExtValue.pythonBytes ++ payload)
    (hlength : tx.hdr.extensionLength.toNat = (extensionBytes vs).length)
    (hvs : ∃ v ∈ vs, ¬v.SameLength) :
    ∃ ret, rxHeader 8 tx.frame (identity, identity.length) = .error ret := by
  have hraw : tx.frame.raw = (tx.start ++ tx.hdr.store) ++ (vs.flatMap ExtValue.pythonBytes ++
      (payload ++ List.replicate (rawLen - tx.length) 0)) := by
    simp [SkyTransmitFrame.frame, SkyTransmitFrame.bytes, hbody]
  have hpre : (tx.start ++ tx.hdr.store).length = 1 + identity.length + staticHeaderSize := by
    simp [hstart, staticHeaderSize]
    omega
  have hpython := ExtValue.pythonBytes_length vs
  have hloop := parseExtensionsLoop_otherLength hvs (tx.start ++ tx.hdr.store)
    (rxContents tx.frame (identity, identity.length) tx.hdr
      (1 + identity.length + staticHeaderSize + tx.hdr.extensionLength.toNat)) hraw
    rfl (hpython.trans hlength.symm).le
  rw [hpre, hpython, ← hlength] at hloop
  obtain ⟨hmask, -⟩ := startByte_mask hle
  have hbyte := tx.byte_zero_of_start hstart
  have hhdr := tx.header_of_start hstart hle
  rw [SkyRadioFrame.header, hbyte, hmask] at hhdr
  rw [rxHeader]
  simp only [hhdr]
  split
  · exact ⟨_, rfl⟩
  · rename_i hstop
    obtain ⟨ret, hloop⟩ := hloop
    rw [skyFrameParseExtensionHeaders, hbyte, hmask]
    exact ⟨ret, (if_neg hstop).trans hloop⟩

/-- With the length of every extension and of all of them right, the node takes the frame
for one of its own. -/
theorem transmitFrame_built (hpos : 0 < identity.length)
    (hle : identity.length ≤ skyMaxIdentityLen)
    (hnodup : (vs.map ExtValue.type).Nodup)
    (hlength : sequence.toUInt8.toNat = (extensionBytes vs).length)
    (hvs : ∀ v ∈ vs, v.SameLength) :
    (transmitFrame identity sequence vc fragment payload vs).Built identity vs payload := by
  refine ⟨rfl, hpos, hle, ?_, hlength, hnodup⟩
  have hbytes : vs.flatMap ExtValue.pythonBytes = extensionBytes vs :=
    List.flatMap_congr fun v hv => ExtValue.pythonBytes_eq (hvs v hv)
  rw [← hbytes]
  rfl

end

end Python

namespace ExtValue

/-- What the parser reads where the value was written. -/
def asRead : ExtValue 8 → ExtValue 8
  | .arqHandshake state identifier => .arqHandshake state (skyHton32 identifier)
  | v => v

theorem asRead_eq_iff (v : ExtValue 8) : v.asRead = v ↔ v.SameReading := by
  cases v with
  | arqHandshake state identifier => simp [asRead, SameReading]
  | _ => exact iff_of_true rfl trivial

theorem value_parsedAt (v : ExtValue 8) (offset : Nat) :
    (v.parsedAt offset).value = some v.asRead := by
  cases v with
  | arqSequence s =>
      exact congrArg (fun s => some (arqSequence s)) (skyArqSeqNtoh_hton (by decide) s)
  | arqRequest s mask =>
      simp [SkyHeaderExtension.value, asRead, parsedAt, type, extensionArqRequest, fields,
        SkyHeaderExtension.arqReq, skyArqSeqNtoh_hton_append (by decide : 8 ∣ 8),
        loadU16_storeU16, skyNtoh16, skyHton16_hton16]
  | arqCtrl tx rx =>
      simp [SkyHeaderExtension.value, asRead, parsedAt, type, extensionArqCtrl, fields,
        SkyHeaderExtension.arqCtrlSequences, skyArqSeqNtoh_hton_append (by decide : 8 ∣ 8),
        skyArqSeqNtoh_hton (by decide : 8 ∣ 8)]
  | arqHandshake state identifier =>
      simp [SkyHeaderExtension.value, asRead, parsedAt, type, extensionArqHandshake, fields,
        SkyHeaderExtension.arqHandshake, loadU32_storeU32]
      rfl
  | macTddControl window remaining =>
      simp [SkyHeaderExtension.value, asRead, parsedAt, type, extensionMacTddControl, fields,
        SkyHeaderExtension.tddControl, loadU16_storeU16_append, skyNtoh16, skyHton16_hton16]
      rw [List.drop_left' (storeU16_length _), loadU16_storeU16, skyHton16_hton16]
  | hmacSequenceReset s =>
      simp [SkyHeaderExtension.value, asRead, parsedAt, type, extensionHmacSequenceReset, fields,
        loadU16_storeU16, skyNtoh16, skyHton16_hton16]

end ExtValue

/-- The extensions are read as they were meant when each of them is. -/
theorem extensions_read_iff {parsed : SkyParsedFrame} {vs : List (ExtValue 8)}
    (hslots : ∀ v ∈ vs, ∃ offset, parsed.slot v.type = some (v.parsedAt offset))
    (hnone : ∀ t, t ∉ vs.map ExtValue.type → parsed.slot t = none) :
    (∀ v, v ∈ vs ↔ ∃ ext, parsed.slot v.type = some ext ∧ ext.value = some v) ↔
      ∀ v ∈ vs, v.SameReading := by
  constructor
  · intro h v hv
    obtain ⟨ext, hslot, hvalue⟩ := (h v).mp hv
    obtain ⟨offset, hparsed⟩ := hslots v hv
    cases hslot.symm.trans hparsed
    rw [v.value_parsedAt offset] at hvalue
    exact v.asRead_eq_iff.mp (Option.some.inj hvalue)
  · intro h v
    constructor
    · intro hv
      obtain ⟨offset, hparsed⟩ := hslots v hv
      refine ⟨_, hparsed, ?_⟩
      rw [v.value_parsedAt offset, v.asRead_eq_iff.mpr (h v hv)]
    · rintro ⟨ext, hslot, hvalue⟩
      have hmem : v.type ∈ vs.map ExtValue.type := by
        by_contra hfresh
        rw [hnone _ hfresh] at hslot
        cases hslot
      obtain ⟨u, hu, htype⟩ := List.mem_map.mp hmem
      obtain ⟨offset, hparsed⟩ := hslots u hu
      rw [htype, hslot] at hparsed
      cases hparsed
      rw [u.value_parsedAt offset, u.asRead_eq_iff.mpr (h u hu)] at hvalue
      rwa [← Option.some.inj hvalue]

namespace Python

section

variable (identity : Bytes) (sequence : UInt16) (vc fragment : Fin 4) (payload : Bytes)
  (vs : List (ExtValue 8))

theorem transmitFrame_length :
    (transmitFrame identity sequence vc fragment payload vs).length =
      identity.length + 5 + (extensionBytes vs).length + payload.length := by
  simp [SkyTransmitFrame.length, transmitFrame, staticHeaderSize, ExtValue.pythonBytes_length vs]
  omega

/-- The node never finds the flag of a payload. -/
theorem transmitFrame_flags :
    (transmitFrame identity sequence vc fragment payload vs).hdr.vc = vc ∧
      (transmitFrame identity sequence vc fragment payload vs).hdr.hasFlag skyFlagHasPayload =
        false ∧
      (transmitFrame identity sequence vc fragment payload vs).hdr.hasFlag skyFlagAuthenticated =
        false := by
  obtain ⟨hvc, hhasPayload, hauthenticated⟩ :=
    flagsByte_read fragment (decide (0 < payload.length)) vc
  refine ⟨hvc, ?_, ?_⟩
  · simp [SkyStaticHeader.hasFlag, transmitFrame, hhasPayload]
  · simp [SkyStaticHeader.hasFlag, transmitFrame, hauthenticated]

end

section

variable (lib : Construct) {identity payload : Bytes} {sequence : UInt16} {vc fragment : Fin 4}
  {vs : List (ExtValue 8)}

/-- Where the node finds what was meant, the frame has the form that the two sides share. -/
theorem CodecsAgree.conditions (hpos : 0 < identity.length) (hle : identity.length ≤ 7)
    (hnodup : (vs.map ExtValue.type).Nodup)
    (h : CodecsAgree lib identity sequence vc fragment payload vs) :
    payload = [] ∧ sequence.toNat = 257 * (extensionBytes vs).length ∧
      (∀ v ∈ vs, v.SameLength ∧ v.SameReading) ∧
      skyFrameMinLen ≤ identity.length + 5 + (extensionBytes vs).length := by
  obtain ⟨extensions, bytes, parsed, hext, hbytes, hdecode, hmeans⟩ := h
  cases (buildExtensions_eq lib vs).symm.trans hext
  have hframe := constructFrame_eq lib (Nat.lt_succ_of_le hle) sequence vc fragment payload hnodup
  cases hframe.symm.trans hbytes
  rw [SkyRadioFrame.ofBytes_bytes] at hdecode
  obtain ⟨hmin, hhdr, hparsed⟩ := hdr_of_skyRxDecode rfl hpos hle hdecode
  have hempty : payload = [] := by
    have hdecide := hmeans.hasPayload
    rw [hhdr, (transmitFrame_flags _ _ _ _ _ _).2.1] at hdecide
    simpa using hdecide.symm
  have hread := hmeans.sequence
  have hlower := hmeans.extensionLength
  rw [hhdr] at hread hlower
  replace hlower : sequence.toUInt8.toNat = (extensionBytes vs).length := by
    rw [← ExtValue.pythonBytes_length vs, ← hlower]
    rfl
  have hlength : ∀ v ∈ vs, v.SameLength := by
    by_contra hother
    obtain ⟨ret, herr⟩ := rxHeader_otherLength
      (transmitFrame identity sequence vc fragment payload vs) rfl hle rfl hlower
      (by simpa using hother)
    rw [hparsed] at herr
    cases herr
  obtain ⟨parsed', hparsed', -, -, -, hslots, hnone⟩ :=
    (transmitFrame_built hpos hle hnodup hlower hlength).rxHeader (by decide)
  cases hparsed.symm.trans hparsed'
  have hreading := (extensions_read_iff hslots hnone).mp hmeans.extensions
  have hlt := SkyTransmitFrame.Built.extensionBytes_length_lt (by decide) hnodup
  refine ⟨hempty, (sequence_read_iff hlt sequence).mp ⟨hread, hlower⟩,
    fun v hv => ⟨hlength v hv, hreading v hv⟩, ?_⟩
  rwa [transmitFrame_length, hempty, List.length_nil, Nat.add_zero] at hmin

/-- A frame of that form is decoded into what was meant. -/
theorem CodecsAgree.of_conditions (hpos : 0 < identity.length) (hle : identity.length ≤ 7)
    (hnodup : (vs.map ExtValue.type).Nodup)
    (hsequence : sequence.toNat = 257 * (extensionBytes vs).length)
    (hvs : ∀ v ∈ vs, v.SameLength ∧ v.SameReading)
    (hmin : skyFrameMinLen ≤ identity.length + 5 + (extensionBytes vs).length) :
    CodecsAgree lib identity sequence vc fragment [] vs := by
  have hlt := SkyTransmitFrame.Built.extensionBytes_length_lt (by decide) hnodup
  obtain ⟨hread, hlower⟩ := (sequence_read_iff hlt sequence).mpr hsequence
  have hbuilt : (transmitFrame identity sequence vc fragment [] vs).Built identity vs [] :=
    transmitFrame_built hpos hle hnodup hlower fun v hv => (hvs v hv).1
  obtain ⟨parsed, hparsed, hhdr, hlen, -, hslots, hnone⟩ := hbuilt.rxHeader (by decide)
  obtain ⟨hvc, hhasPayload, hauthenticated⟩ :=
    transmitFrame_flags identity sequence vc fragment [] vs
  rw [← hhdr] at hvc hhasPayload hauthenticated
  refine ⟨_, _, parsed, buildExtensions_eq lib vs,
    constructFrame_eq lib (Nat.lt_succ_of_le hle) sequence vc fragment [] hnodup, ?_, ?_⟩
  · have htx := transmitFrame_length identity sequence vc fragment [] vs
    have hlength : ¬(transmitFrame identity sequence vc fragment [] vs).frame.length <
        skyFrameMinLen := not_lt.mpr (le_of_le_of_eq hmin htx.symm)
    rw [SkyRadioFrame.ofBytes_bytes, skyRxDecode, if_neg hlength, hbuilt.rxIdentity]
    exact hparsed
  · refine ⟨hvc, hhasPayload, hauthenticated, ?_, ?_, ?_, ?_⟩
    · rw [hhdr]
      exact hread
    · rw [hhdr, ExtValue.pythonBytes_length]
      exact hlower
    · exact (extensions_read_iff hslots hnone).mpr fun v hv => (hvs v hv).2
    · rw [SkyParsedFrame.payloadBytes, hlen]
      simp

end

instance (field : BitField) : Decidable field.Fits :=
  match field with
  | .bitsInteger length value => inferInstanceAs (Decidable (value < 2 ^ length))
  | .flag _ => inferInstanceAs (Decidable True)
  | .bytes _ => inferInstanceAs (Decidable True)

/-- The fields are packed when they are in range and fill up the bytes. -/
def packingConstruct : Construct where
  build fields :=
    if (∀ field ∈ fields, field.Fits) ∧ 8 ∣ (fields.flatMap BitField.bits).length then
      some (pack (fields.flatMap BitField.bits))
    else none
  build_eq _ hfits hwhole := if_pos ⟨hfits, hwhole⟩

end Python

end Skylink
