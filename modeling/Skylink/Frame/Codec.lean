import Mathlib.Data.List.Perm.Subperm
import Skylink.Library.BitPacking
import Skylink.Frame.Model

/-!
# Building and parsing a frame

The bytes that the extension functions append are what the parser reads back: a
frame built from distinct extensions and a payload parses into pointers to exactly
these extensions.
-/

namespace Skylink

open BitPacking

variable {w : Nat}

/-! ## Network byte order -/

theorem bigEndian_two (v : UInt16) : bigEndian 2 v.toNat = storeU16 (skyHton16 v) := by
  have hbyte (k : UInt16) (hk : k.toNat < 16) :
      UInt8.ofNat (v.toNat >>> k.toNat) = (v >>> k).toUInt8 := by
    apply UInt8.toNat_inj.mp
    simp [Nat.mod_eq_of_lt hk]
  have hlast := hbyte 0 (by decide)
  rw [UInt16.shiftRight_zero] at hlast
  rw [storeU16_hton16, ← hbyte 8 (by decide), ← hlast]
  rfl

theorem bigEndian_four (v : UInt32) : bigEndian 4 v.toNat = storeU32 (skyHton32 v) := by
  have hbyte (k : UInt32) (hk : k.toNat < 32) :
      UInt8.ofNat (v.toNat >>> k.toNat) = (v >>> k).toUInt8 := by
    apply UInt8.toNat_inj.mp
    simp [Nat.mod_eq_of_lt hk]
  have hlast := hbyte 0 (by decide)
  rw [UInt32.shiftRight_zero] at hlast
  rw [storeU32_hton32, ← hbyte 24 (by decide), ← hbyte 16 (by decide), ← hbyte 8 (by decide),
    ← hlast]
  rfl

@[simp] theorem skyArqSeqHton_length (s : BitVec w) : (skyArqSeqHton s).length = w / 8 := by
  simp [skyArqSeqHton]

theorem skyArqSeqNtoh_hton_append (h8 : 8 ∣ w) (s : BitVec w) (rest : Bytes) :
    skyArqSeqNtoh (skyArqSeqHton s ++ rest) = s := by
  obtain ⟨k, rfl⟩ := h8
  have hdiv : 8 * k / 8 = k := by omega
  have hpow : 256 ^ k = 2 ^ (8 * k) := by rw [Nat.pow_mul]
  have hvalue : (skyArqSeqHton s).foldl (fun acc byte => acc * 256 + byte.toNat) 0 =
      s.toNat := by
    have hbytes := bigEndianFrom_bigEndian k 0 s.toNat
    rw [Nat.zero_mul, Nat.zero_add, hpow, Nat.mod_eq_of_lt s.isLt] at hbytes
    rwa [skyArqSeqHton, hdiv]
  rw [skyArqSeqNtoh, List.take_left' (skyArqSeqHton_length s), hvalue, BitVec.ofNat_toNat,
    BitVec.setWidth_eq]

theorem skyArqSeqNtoh_hton (h8 : 8 ∣ w) (s : BitVec w) :
    skyArqSeqNtoh (skyArqSeqHton s) = s := by
  have := skyArqSeqNtoh_hton_append h8 s []
  rwa [List.append_nil] at this

/-- The value that one of the functions `sky_frame_add_extension_*` writes. -/
inductive ExtValue (w : Nat)
  | arqSequence (sequence : BitVec w)
  | arqRequest (sequence : BitVec w) (mask : UInt16)
  | arqCtrl (txSequence rxSequence : BitVec w)
  | arqHandshake (stateFlag : UInt8) (identifier : UInt32)
  | macTddControl (window remaining : UInt16)
  | hmacSequenceReset (sequence : UInt16)
deriving DecidableEq, Repr

namespace ExtValue

def type : ExtValue w → Nat
  | .arqSequence _ => extensionArqSequence
  | .arqRequest _ _ => extensionArqRequest
  | .arqCtrl _ _ => extensionArqCtrl
  | .arqHandshake _ _ => extensionArqHandshake
  | .macTddControl _ _ => extensionMacTddControl
  | .hmacSequenceReset _ => extensionHmacSequenceReset

def fields : ExtValue w → Bytes
  | .arqSequence s => skyArqSeqHton s
  | .arqRequest s mask => skyArqSeqHton s ++ storeU16 (skyHton16 mask)
  | .arqCtrl tx rx => skyArqSeqHton tx ++ skyArqSeqHton rx
  | .arqHandshake flag identifier => flag :: storeU32 (skyHton32 identifier)
  | .macTddControl window remaining =>
      storeU16 (skyHton16 window) ++ storeU16 (skyHton16 remaining)
  | .hmacSequenceReset s => storeU16 (skyHton16 s)

def bytes (v : ExtValue w) : Bytes := extensionHeaderByte v.type v.fields.length :: v.fields

/-- The pointer the parser stores for the extension at an offset. -/
def parsedAt (v : ExtValue w) (offset : Nat) : SkyHeaderExtension :=
  ⟨offset, v.type, v.fields.length, v.fields⟩

theorem type_lt_six (v : ExtValue w) : v.type < 6 := by
  cases v <;> norm_num [type, extensionArqSequence, extensionArqRequest, extensionArqCtrl,
    extensionArqHandshake, extensionMacTddControl, extensionHmacSequenceReset]

theorem type_lt (v : ExtValue w) : v.type < 16 := v.type_lt_six.trans (by decide)

theorem fields_length_lt (v : ExtValue w) (hw : w ≤ 56) : v.fields.length < 16 := by
  cases v <;> simp [fields] <;> omega

@[simp] theorem bytes_length (v : ExtValue w) : v.bytes.length = v.fields.length + 1 := rfl

end ExtValue

/-- The bytes of a run of extensions. -/
def extensionBytes (vs : List (ExtValue w)) : Bytes := vs.flatMap ExtValue.bytes

@[simp] theorem extensionBytes_nil : extensionBytes ([] : List (ExtValue w)) = [] := rfl

@[simp] theorem extensionBytes_cons (v : ExtValue w) (vs : List (ExtValue w)) :
    extensionBytes (v :: vs) = v.bytes ++ extensionBytes vs := rfl

@[simp] theorem extensionBytes_append (vs vs' : List (ExtValue w)) :
    extensionBytes (vs ++ vs') = extensionBytes vs ++ extensionBytes vs' := by
  simp [extensionBytes]

/-! ## Flags -/

theorem uint8_or_and (a b c : UInt8) : (a ||| b) &&& c = (a &&& c) ||| (b &&& c) := by
  apply UInt8.eq_of_toBitVec_eq
  simp only [UInt8.toBitVec_and, UInt8.toBitVec_or]
  ext i hi
  simp only [BitVec.getElem_and, BitVec.getElem_or, Bool.and_or_distrib_right]

theorem SkyStaticHeader.hasFlag_setFlag (h : SkyStaticHeader) {flag : UInt8} (hf : flag ≠ 0) :
    (h.setFlag flag).hasFlag flag := by
  have hand : (h.flags ||| flag) &&& flag = flag := by
    apply UInt8.eq_of_toBitVec_eq
    simp only [UInt8.toBitVec_and, UInt8.toBitVec_or]
    ext i hi
    simp [BitVec.getElem_and, BitVec.getElem_or, Bool.and_comm]
    grind
  simpa [hasFlag, setFlag, hand] using hf

theorem SkyStaticHeader.hasFlag_setFlag_of_disjoint (h : SkyStaticHeader) {flag other : UInt8}
    (hf : flag &&& other = 0) : (h.setFlag flag).hasFlag other = h.hasFlag other := by
  simp [hasFlag, setFlag, uint8_or_and, hf]

/-- The header with which a frame of a channel starts. -/
theorem SkyStaticHeader.setVc_zero (channel : Fin skyNumVirtualChannels) :
    (SkyStaticHeader.setVc ⟨0, 0, 0⟩ channel).vc = channel ∧
      (SkyStaticHeader.setVc ⟨0, 0, 0⟩ channel).hasFlag skyFlagArqOn = false ∧
      (SkyStaticHeader.setVc ⟨0, 0, 0⟩ channel).hasFlag skyFlagHasPayload = false := by
  revert channel
  decide

theorem SkyStaticHeader.vc_setFlag (h : SkyStaticHeader) {flag : UInt8}
    (hf : flag &&& 0x03 = 0) : (h.setFlag flag).vc = h.vc := by
  simp [vc, setFlag, uint8_or_and, hf]

/-! ## Extension pointers -/

namespace SkyParsedFrame

/-- The pointer to the extension of a type. -/
def slot (p : SkyParsedFrame) : Nat → Option SkyHeaderExtension
  | 0 => p.arqSequence
  | 1 => p.arqRequest
  | 2 => p.arqCtrl
  | 3 => p.arqHandshake
  | 4 => p.macTdd
  | 5 => p.hmacReset
  | _ => none

def setSlot (p : SkyParsedFrame) (type : Nat) (ext : SkyHeaderExtension) : SkyParsedFrame :=
  match type with
  | 0 => { p with arqSequence := some ext }
  | 1 => { p with arqRequest := some ext }
  | 2 => { p with arqCtrl := some ext }
  | 3 => { p with arqHandshake := some ext }
  | 4 => { p with macTdd := some ext }
  | 5 => { p with hmacReset := some ext }
  | _ => p

/-- Two stages of one parse differ in the extension pointers only. -/
def SameContents (p q : SkyParsedFrame) : Prop :=
  q.hdr = p.hdr ∧ q.payload = p.payload ∧ q.payloadLen = p.payloadLen

theorem SameContents.trans {p q r : SkyParsedFrame} (h : p.SameContents q)
    (h' : q.SameContents r) : p.SameContents r :=
  ⟨h'.1.trans h.1, h'.2.1.trans h.2.1, h'.2.2.trans h.2.2⟩

theorem sameContents_setSlot (p : SkyParsedFrame) (type : Nat) (ext : SkyHeaderExtension) :
    p.SameContents (p.setSlot type ext) := by
  unfold setSlot
  split <;> exact ⟨rfl, rfl, rfl⟩

theorem slot_setSlot_of_ne (p : SkyParsedFrame) {type t : Nat} (ext : SkyHeaderExtension)
    (h : t ≠ type) : (p.setSlot type ext).slot t = p.slot t := by
  unfold setSlot
  split <;> unfold slot <;> split <;> first | rfl | exact absurd rfl h

theorem slot_setSlot_type (p : SkyParsedFrame) (v : ExtValue w) (ext : SkyHeaderExtension) :
    (p.setSlot v.type ext).slot v.type = some ext := by
  cases v <;> rfl

end SkyParsedFrame

theorem parseExtension_sameContents {parsed parsed' : SkyParsedFrame} {ext : SkyHeaderExtension}
    (h : parseExtension w parsed ext = .ok parsed') : parsed.SameContents parsed' := by
  unfold parseExtension at h
  split at h
  case h_7 => cases h
  all_goals
    obtain ⟨slot, -, rfl⟩ := exceptMap_ok_iff.mp h
    exact ⟨rfl, rfl, rfl⟩

/-- What the parser keeps when it records an extension inside the frame, its loop keeps;
induction on the turns. -/
theorem parseExtensionsLoop_keeps {frame : SkyRadioFrame} {P : SkyParsedFrame → Prop}
    (hstep : ∀ p p' cursor, parseExtension w p (frame.extensionAt cursor) = .ok p' →
      cursor + (1 + (frame.extensionAt cursor).length) ≤ frame.length → P p → P p')
    {stop turns cursor : Nat} {parsed parsed' : SkyParsedFrame}
    (h : parseExtensionsLoop w frame stop turns cursor parsed = .ok parsed')
    (hparsed : P parsed) : P parsed' := by
  induction turns generalizing cursor parsed with
  | zero =>
      cases h
      exact hparsed
  | succ turns ih =>
      rw [parseExtensionsLoop] at h
      split at h
      case isFalse =>
        cases h
        exact hparsed
      case isTrue =>
        dsimp only at h
        split at h
        · cases h
        · rename_i hinside
          split at h
          case h_1 => cases h
          case h_2 next hnext => exact ih h (hstep _ _ _ hnext (not_lt.mp hinside) hparsed)

theorem skyFrameParseExtensionHeaders_keeps {frame : SkyRadioFrame} {P : SkyParsedFrame → Prop}
    (hstep : ∀ p p' cursor, parseExtension w p (frame.extensionAt cursor) = .ok p' →
      cursor + (1 + (frame.extensionAt cursor).length) ≤ frame.length → P p → P p')
    {parsed parsed' : SkyParsedFrame}
    (h : skyFrameParseExtensionHeaders w frame parsed = .ok parsed')
    (hparsed : P parsed) : P parsed' := by
  rw [skyFrameParseExtensionHeaders] at h
  split at h
  · cases h
  · exact parseExtensionsLoop_keeps hstep h hparsed

theorem skyFrameParseExtensionHeaders_sameContents {frame : SkyRadioFrame}
    {parsed parsed' : SkyParsedFrame}
    (h : skyFrameParseExtensionHeaders w frame parsed = .ok parsed') :
    parsed.SameContents parsed' :=
  skyFrameParseExtensionHeaders_keeps
    (fun _ _ _ hparse _ hsame => hsame.trans (parseExtension_sameContents hparse)) h
    ⟨rfl, rfl, rfl⟩

/-! ## Parsing what was built -/

/-- A well-formed extension whose slot is free is recorded. -/
theorem parseExtension_build (p : SkyParsedFrame) (v : ExtValue w) (offset : Nat)
    (hfree : p.slot v.type = none) :
    parseExtension w p (v.parsedAt offset) = .ok (p.setSlot v.type (v.parsedAt offset)) := by
  cases v
  all_goals
    simp only [ExtValue.type, SkyParsedFrame.slot, extensionArqSequence, extensionArqRequest,
      extensionArqCtrl, extensionArqHandshake, extensionMacTddControl,
      extensionHmacSequenceReset] at hfree
    simp [parseExtension, ExtValue.parsedAt, ExtValue.type, ExtValue.fields,
      extensionArqSequence, extensionArqRequest, extensionArqCtrl, extensionArqHandshake,
      extensionMacTddControl, extensionHmacSequenceReset, storeExtension, hfree,
      SkyParsedFrame.setSlot, Except.map]

/-- The pointer read at an extension is the one that `parsedAt` describes. -/
theorem extensionAt_build {frame : SkyRadioFrame} {pre rest : Bytes} (v : ExtValue w)
    (hw : w ≤ 56) (hraw : frame.raw = pre ++ (v.bytes ++ rest)) :
    frame.extensionAt pre.length = v.parsedAt pre.length := by
  have htype := v.type_lt
  have hlen := v.fields_length_lt hw
  have hbyte : frame.byte pre.length = extensionHeaderByte v.type v.fields.length := by
    simp [SkyRadioFrame.byte, hraw, ExtValue.bytes, List.getD_eq_getElem?_getD]
  have hnat : (frame.byte pre.length).toNat = v.type + 16 * v.fields.length := by
    rw [hbyte, extensionHeaderByte, Nat.mod_eq_of_lt htype, Nat.mod_eq_of_lt hlen]
    exact Nat.mod_eq_of_lt (by omega)
  have hdata : (frame.raw.drop (pre.length + 1)).take v.fields.length = v.fields := by
    have hsplit : frame.raw = (pre ++ [extensionHeaderByte v.type v.fields.length]) ++
        (v.fields ++ rest) := by
      simp [hraw, ExtValue.bytes]
    rw [hsplit, List.drop_left' (by simp), List.take_left]
  have hdiv : (frame.byte pre.length).toNat / 16 = v.fields.length := by omega
  have hmod : (frame.byte pre.length).toNat % 16 = v.type := by omega
  simp only [SkyRadioFrame.extensionAt, hdiv, hmod, hdata, ExtValue.parsedAt]

/-- The pointers that the parser records for a run of extensions. -/
def recordExtensions : Nat → List (ExtValue w) → SkyParsedFrame → SkyParsedFrame
  | _, [], p => p
  | cursor, v :: vs, p =>
      recordExtensions (cursor + v.bytes.length) vs (p.setSlot v.type (v.parsedAt cursor))

theorem recordExtensions_sameContents (vs : List (ExtValue w)) (cursor : Nat)
    (p : SkyParsedFrame) : p.SameContents (recordExtensions cursor vs p) := by
  induction vs generalizing cursor p with
  | nil => exact ⟨rfl, rfl, rfl⟩
  | cons v vs ih => exact (p.sameContents_setSlot _ _).trans (ih _ _)

theorem recordExtensions_slot_of_notMem (vs : List (ExtValue w)) (cursor : Nat)
    (p : SkyParsedFrame) {t : Nat} (ht : t ∉ vs.map ExtValue.type) :
    (recordExtensions cursor vs p).slot t = p.slot t := by
  induction vs generalizing cursor p with
  | nil => rfl
  | cons v vs ih =>
      simp only [List.map_cons, List.mem_cons, not_or] at ht
      rw [recordExtensions, ih _ _ ht.2, p.slot_setSlot_of_ne _ ht.1]

theorem recordExtensions_slot_of_mem {vs : List (ExtValue w)}
    (hnodup : (vs.map ExtValue.type).Nodup) (cursor : Nat) (p : SkyParsedFrame)
    {v : ExtValue w} (hv : v ∈ vs) :
    ∃ offset, (recordExtensions cursor vs p).slot v.type = some (v.parsedAt offset) := by
  induction vs generalizing cursor p with
  | nil => cases hv
  | cons u us ih =>
      obtain ⟨hfresh, hnodup⟩ := List.nodup_cons.mp hnodup
      rcases List.mem_cons.mp hv with rfl | hv
      · refine ⟨cursor, ?_⟩
        rw [recordExtensions, recordExtensions_slot_of_notMem us _ _ hfresh,
          p.slot_setSlot_type]
      · exact ih hnodup _ _ hv

/-- The extensions that the loop of the parser meets in a region of some bytes: each begins
inside the region, and the last one reaches its end or goes beyond it. -/
def Covers : Nat → List (ExtValue w) → Prop
  | n, [] => n = 0
  | n, v :: vs => 0 < n ∧ Covers (n - v.bytes.length) vs

theorem covers_extensionBytes (vs : List (ExtValue w)) : Covers (extensionBytes vs).length vs := by
  induction vs with
  | nil => rfl
  | cons v vs ih =>
      rw [extensionBytes_cons, List.length_append]
      refine ⟨by rw [ExtValue.bytes_length]; omega, ?_⟩
      rwa [Nat.add_sub_cancel_left]

/-- The parser loop over a run of distinct extensions; induction on the run. -/
theorem parseExtensionsLoop_build (hw : w ≤ 56) {frame : SkyRadioFrame} {rest : Bytes}
    (vs : List (ExtValue w)) (pre : Bytes) (p : SkyParsedFrame) (turns stop : Nat)
    (hraw : frame.raw = pre ++ (extensionBytes vs ++ rest))
    (hcovers : Covers (stop - pre.length) vs)
    (hlen : pre.length + (extensionBytes vs).length ≤ frame.length)
    (hturns : stop ≤ pre.length + turns)
    (hfree : ∀ v ∈ vs, p.slot v.type = none) (hnodup : (vs.map ExtValue.type).Nodup) :
    parseExtensionsLoop w frame stop turns pre.length p =
      .ok (recordExtensions pre.length vs p) := by
  induction vs generalizing pre p turns with
  | nil =>
      have hnot : ¬pre.length < stop := by
        rw [Covers] at hcovers
        omega
      cases turns with
      | zero => rfl
      | succ turns => simp [parseExtensionsLoop, hnot, recordExtensions]
  | cons v vs ih =>
      obtain ⟨hfresh, hnodup⟩ := List.nodup_cons.mp hnodup
      obtain ⟨hbegins, hcovers⟩ := hcovers
      simp only [extensionBytes_cons, List.length_append, ExtValue.bytes_length] at hlen hcovers
      obtain ⟨turns, rfl⟩ : ∃ k, turns = k + 1 := ⟨turns - 1, by omega⟩
      have hext : frame.extensionAt pre.length = v.parsedAt pre.length :=
        extensionAt_build v hw (by simpa using hraw)
      have hadvance : pre.length + (1 + v.fields.length) = (pre ++ v.bytes).length := by
        simp
        omega
      have hstep := ih (pre ++ v.bytes) (p.setSlot v.type (v.parsedAt pre.length))
        turns (by simpa using hraw) (by rwa [← hadvance, Nat.add_comm 1, ← Nat.sub_sub])
        (by rw [← hadvance]; omega) (by rw [← hadvance]; omega)
        (fun u hu => by
          have hne : u.type ≠ v.type := fun h => hfresh (h ▸ List.mem_map_of_mem hu)
          rw [p.slot_setSlot_of_ne _ hne]
          exact hfree u (List.mem_cons_of_mem _ hu)) hnodup
      rw [parseExtensionsLoop, if_pos (by omega)]
      simp only [hext]
      rw [if_neg (by simp [ExtValue.parsedAt]; omega),
        parseExtension_build p v _ (hfree v List.mem_cons_self)]
      simp only [ExtValue.parsedAt] at hstep ⊢
      rw [hadvance, hstep, recordExtensions]
      simp [ExtValue.parsedAt]

/-! ## Frames -/

/-- The static header at the place the start byte points to. -/
def SkyRadioFrame.header (frame : SkyRadioFrame) : SkyStaticHeader :=
  SkyStaticHeader.load
    (frame.raw.drop (1 + (frame.byte 0 &&& skylinkFrameIdentityMask).toNat))

/-- The identity that is taken lies behind the start byte, which tells its length. -/
theorem rxIdentity_ok {frame : SkyRadioFrame} {identity : Bytes × Nat}
    (h : rxIdentity frame = .ok identity) :
    identity.2 = (frame.byte 0 &&& skylinkFrameIdentityMask).toNat ∧
      identity.1 = (frame.raw.drop 1).take identity.2 ∧ identity.2 ≤ skyMaxIdentityLen := by
  simp only [rxIdentity] at h
  split at h
  case isTrue => cases h
  case isFalse =>
    split at h
    case isTrue => cases h
    case isFalse hrange =>
      cases h
      exact ⟨rfl, rfl, not_lt.mp fun hlt => hrange (.inr hlt)⟩

theorem rxIdentity_length {frame : SkyRadioFrame} {identity : Bytes × Nat}
    (h : rxIdentity frame = .ok identity) :
    identity.2 = (frame.byte 0 &&& skylinkFrameIdentityMask).toNat := (rxIdentity_ok h).1

/-- The parsed header is the one the start byte points to. -/
theorem rxHeader_hdr {frame : SkyRadioFrame} {identity : Bytes × Nat} {parsed : SkyParsedFrame}
    (hid : rxIdentity frame = .ok identity) (h : rxHeader w frame identity = .ok parsed) :
    parsed.hdr = frame.header := by
  rw [rxHeader] at h
  split at h
  · cases h
  · rw [(skyFrameParseExtensionHeaders_sameContents h).1, rxContents, SkyRadioFrame.header,
      ← rxIdentity_length hid]

/-- A transmit frame that consists of an identity, distinct extensions and a payload. -/
structure SkyTransmitFrame.Built (tx : SkyTransmitFrame) (identity : Bytes)
    (vs : List (ExtValue w)) (payload : Bytes) : Prop where
  start : tx.start = (skylinkFrameVersionByte ||| UInt8.ofNat identity.length) :: identity
  identityPos : 0 < identity.length
  identityLe : identity.length ≤ skyMaxIdentityLen
  body : tx.body = extensionBytes vs ++ payload
  extensionLength : tx.hdr.extensionLength.toNat = (extensionBytes vs).length
  nodup : (vs.map ExtValue.type).Nodup

@[simp] theorem SkyStaticHeader.store_length (h : SkyStaticHeader) : h.store.length = 4 := rfl

theorem SkyTransmitFrame.bytes_length (tx : SkyTransmitFrame) : tx.bytes.length = tx.length := by
  simp [SkyTransmitFrame.length, SkyTransmitFrame.bytes, staticHeaderSize]
  omega

theorem SkyTransmitFrame.frame_raw_length {tx : SkyTransmitFrame} (hfits : tx.length ≤ rawLen) :
    tx.frame.raw.length = rawLen := by
  show (tx.bytes ++ List.replicate (rawLen - tx.length) 0).length = rawLen
  rw [List.length_append, tx.bytes_length, List.length_replicate]
  omega

theorem SkyStaticHeader.load_store_append (h : SkyStaticHeader) (rest : Bytes) :
    SkyStaticHeader.load (h.store ++ rest) = h := by
  have hseq := loadU16_storeU16_append h.frameSequence (h.extensionLength :: rest)
  cases h
  simp only [load, store] at hseq ⊢
  simp [storeU16] at hseq ⊢
  exact hseq

theorem startByte_mask {k : Nat} (hk : k ≤ skyMaxIdentityLen) :
    ((skylinkFrameVersionByte ||| UInt8.ofNat k) &&& skylinkFrameIdentityMask).toNat = k ∧
      (skylinkFrameVersionByte ||| UInt8.ofNat k) &&& skylinkFrameVersionByte =
        skylinkFrameVersionByte := by
  simp only [skyMaxIdentityLen] at hk
  interval_cases k <;> decide

namespace SkyTransmitFrame

variable {tx : SkyTransmitFrame} {identity : Bytes}

theorem byte_zero_of_start
    (hstart : tx.start = (skylinkFrameVersionByte ||| UInt8.ofNat identity.length) :: identity) :
    tx.frame.byte 0 = skylinkFrameVersionByte ||| UInt8.ofNat identity.length := by
  simp [SkyRadioFrame.byte, frame, bytes, hstart]

/-- The identity is read back, whatever follows it. -/
theorem rxIdentity_of_start
    (hstart : tx.start = (skylinkFrameVersionByte ||| UInt8.ofNat identity.length) :: identity)
    (hpos : 0 < identity.length) (hle : identity.length ≤ skyMaxIdentityLen) :
    Skylink.rxIdentity tx.frame = .ok (identity, identity.length) := by
  obtain ⟨hlen, hversion⟩ := startByte_mask hle
  have hraw : (tx.frame.raw.drop 1).take identity.length = identity := by
    simp [frame, bytes, hstart]
  rw [Skylink.rxIdentity, byte_zero_of_start hstart, if_neg (not_not.mpr hversion), hlen,
    if_neg (by omega), hraw]

/-- So is the static header. -/
theorem header_of_start
    (hstart : tx.start = (skylinkFrameVersionByte ||| UInt8.ofNat identity.length) :: identity)
    (hle : identity.length ≤ skyMaxIdentityLen) : tx.frame.header = tx.hdr := by
  obtain ⟨hlen, -⟩ := startByte_mask hle
  have hraw : tx.frame.raw = tx.start ++ (tx.hdr.store ++ (tx.body ++
      List.replicate (rawLen - tx.length) (0 : UInt8))) := by
    simp [frame, bytes]
  rw [SkyRadioFrame.header, byte_zero_of_start hstart, hlen, hraw,
    List.drop_left' (by simp [hstart]; omega), SkyStaticHeader.load_store_append]

end SkyTransmitFrame

namespace SkyTransmitFrame.Built

variable {tx : SkyTransmitFrame} {identity payload : Bytes} {vs : List (ExtValue w)}

theorem byte_zero (h : tx.Built identity vs payload) :
    tx.frame.byte 0 = skylinkFrameVersionByte ||| UInt8.ofNat identity.length :=
  byte_zero_of_start h.start

theorem rxIdentity (h : tx.Built identity vs payload) :
    Skylink.rxIdentity tx.frame = .ok (identity, identity.length) :=
  rxIdentity_of_start h.start h.identityPos h.identityLe

/-- Header, extensions and payload of a built frame come back. -/
theorem rxHeader (hw : w ≤ 56) (h : tx.Built identity vs payload) :
    ∃ parsed, Skylink.rxHeader w tx.frame (identity, identity.length) = .ok parsed ∧
      parsed.hdr = tx.hdr ∧
      parsed.payloadLen = (if tx.hdr.hasFlag skyFlagHasPayload then payload.length else 0) ∧
      (∃ rest, parsed.payload = payload ++ rest) ∧
      (∀ v ∈ vs, ∃ offset, parsed.slot v.type = some (v.parsedAt offset)) ∧
      ∀ t, t ∉ vs.map ExtValue.type → parsed.slot t = none := by
  obtain ⟨hlen, -⟩ := startByte_mask h.identityLe
  let pad := List.replicate (rawLen - tx.length) (0 : UInt8)
  have hraw : tx.frame.raw =
      (tx.start ++ tx.hdr.store) ++ (extensionBytes vs ++ (payload ++ pad)) := by
    simp [frame, bytes, h.body, pad]
  have hstart : (tx.start ++ tx.hdr.store).length =
      1 + identity.length + staticHeaderSize := by
    simp [h.start, staticHeaderSize]
    omega
  have hhdr : SkyStaticHeader.load (tx.frame.raw.drop (1 + identity.length)) = tx.hdr := by
    rw [hraw, List.append_assoc, List.drop_left' (by simp [h.start]; omega),
      SkyStaticHeader.load_store_append]
  have hlength : tx.frame.length = 1 + identity.length + staticHeaderSize +
      (extensionBytes vs).length + payload.length := by
    simp [frame, length, h.start, h.body]
    omega
  let stop := 1 + identity.length + staticHeaderSize + (extensionBytes vs).length
  let p := rxContents tx.frame (identity, identity.length) tx.hdr stop
  have hloop := parseExtensionsLoop_build hw vs (tx.start ++ tx.hdr.store) p
    (extensionBytes vs).length stop hraw
    (by rw [hstart, Nat.add_sub_cancel_left]; exact covers_extensionBytes vs)
    (by rw [hstart, hlength]; omega) (by rw [hstart])
    (fun v _ => by cases v <;> rfl) h.nodup
  rw [hstart] at hloop
  refine ⟨recordExtensions (1 + identity.length + staticHeaderSize) vs p,
    ?_, ?_, ?_, ?_, ?_, ?_⟩
  · rw [Skylink.rxHeader]
    simp only [hhdr, h.extensionLength]
    rw [if_neg (by rw [hlength]; omega), skyFrameParseExtensionHeaders]
    simp only [rxContents, h.byte_zero, hlen, h.extensionLength]
    rw [if_neg (by rw [hlength]; omega)]
    exact hloop
  · exact (recordExtensions_sameContents vs _ p).1
  · rw [(recordExtensions_sameContents vs _ p).2.2]
    simp only [p, rxContents, hlength]
    split
    · simp only [stop]
      omega
    · rfl
  · refine ⟨pad, ?_⟩
    rw [(recordExtensions_sameContents vs _ p).2.1]
    have hcut : tx.frame.raw =
        (tx.start ++ tx.hdr.store ++ extensionBytes vs) ++ (payload ++ pad) := by
      simp [hraw]
    simp only [p, rxContents]
    rw [hcut, List.drop_left' (by rw [List.length_append, hstart])]
  · exact fun v hv => recordExtensions_slot_of_mem h.nodup _ p hv
  · intro t ht
    rw [recordExtensions_slot_of_notMem vs _ p ht]
    unfold SkyParsedFrame.slot
    split <;> rfl

theorem header (h : tx.Built identity vs payload) : tx.frame.header = tx.hdr :=
  header_of_start h.start h.identityLe

theorem assert (h : tx.Built identity vs payload) (c : Bool) :
    (tx.assert c).Built identity vs payload :=
  ⟨h.start, h.identityPos, h.identityLe, h.body, h.extensionLength, h.nodup⟩

theorem setFlag (h : tx.Built identity vs payload) (flag : UInt8) :
    { tx with hdr := tx.hdr.setFlag flag }.Built identity vs payload :=
  ⟨h.start, h.identityPos, h.identityLe, h.body, h.extensionLength, h.nodup⟩

theorem extend (h : tx.Built identity vs []) (payload : Bytes) :
    (tx.extend payload).Built identity vs payload :=
  ⟨h.start, h.identityPos, h.identityLe, by simp [SkyTransmitFrame.extend, h.body],
    h.extensionLength, h.nodup⟩

/-- Six types with at most fifteen bytes each, and their headers. -/
theorem extensionBytes_length_le (hw : w ≤ 56) {vs : List (ExtValue w)}
    (h : (vs.map ExtValue.type).Nodup) : (extensionBytes vs).length ≤ 96 := by
  have hcount : vs.length ≤ 6 := by
    have hsub : vs.map ExtValue.type ⊆ List.range 6 := by
      intro t ht
      obtain ⟨v, -, rfl⟩ := List.mem_map.mp ht
      exact List.mem_range.mpr v.type_lt_six
    simpa using (List.subperm_of_subset h hsub).length_le
  have hbytes : ∀ us : List (ExtValue w), (extensionBytes us).length ≤ 16 * us.length := by
    intro us
    induction us with
    | nil => simp
    | cons u us ih =>
        have := u.fields_length_lt hw
        simp only [extensionBytes_cons, List.length_append, ExtValue.bytes_length,
          List.length_cons]
        omega
  have := hbytes vs
  omega

/-- They fit the eight-bit length field. -/
theorem extensionBytes_length_lt (hw : w ≤ 56) {vs : List (ExtValue w)}
    (h : (vs.map ExtValue.type).Nodup) : (extensionBytes vs).length < 256 :=
  (extensionBytes_length_le hw h).trans_lt (by decide)

theorem add (hw : w ≤ 56) (h : tx.Built identity vs []) (v : ExtValue w)
    (hv : v.type ∉ vs.map ExtValue.type) :
    (skyFrameAddExtension v.type v.fields tx).Built identity (vs ++ [v]) [] := by
  have hnodup : ((vs ++ [v]).map ExtValue.type).Nodup := by
    rw [List.map_append, List.map_singleton]
    exact (List.perm_append_singleton _ _).nodup_iff.mpr (List.nodup_cons.mpr ⟨hv, h.nodup⟩)
  have hlt := extensionBytes_length_lt hw hnodup
  refine ⟨h.start, h.identityPos, h.identityLe, ?_, ?_, hnodup⟩
  · simp [skyFrameAddExtension, h.body, ExtValue.bytes]
  · have hsum : (extensionBytes (vs ++ [v])).length =
        (extensionBytes vs).length + (1 + v.fields.length) := by
      simp
      omega
    rw [hsum] at hlt ⊢
    simp only [skyFrameAddExtension, UInt8.toNat_add, h.extensionLength, UInt8.toNat_ofNat']
    omega

end SkyTransmitFrame.Built

end Skylink
