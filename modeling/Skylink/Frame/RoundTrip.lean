import Skylink.Frame.Encoding
import Skylink.Frame.Grammar

/-!
# Encoding and parsing back

A frame that the functions `sky_frame_add_extension_*` and `sky_frame_extend_with_payload`
have built is decoded into what they were given, in every order of the extensions.
-/

namespace Skylink

open BitPacking

variable {w : Nat}

/-- The fields of a value in network byte order. -/
def ExtValue.networkBytes : ExtValue w → Bytes
  | .arqSequence sequence => bigEndian (w / 8) sequence.toNat
  | .arqRequest sequence mask => bigEndian (w / 8) sequence.toNat ++ bigEndian 2 mask.toNat
  | .arqCtrl txSequence rxSequence =>
      bigEndian (w / 8) txSequence.toNat ++ bigEndian (w / 8) rxSequence.toNat
  | .arqHandshake stateFlag identifier => stateFlag :: bigEndian 4 identifier.toNat
  | .macTddControl window remaining => bigEndian 2 window.toNat ++ bigEndian 2 remaining.toNat
  | .hmacSequenceReset sequence => bigEndian 2 sequence.toNat

theorem ExtValue.fields_eq_networkBytes (v : ExtValue w) : v.fields = v.networkBytes := by
  cases v <;> simp only [networkBytes, bigEndian_two, bigEndian_four] <;> rfl

/-! ## Decoding -/

theorem recordExtensions_identity (vs : List (ExtValue w)) (cursor : Nat) (p : SkyParsedFrame) :
    (recordExtensions cursor vs p).identity = p.identity ∧
      (recordExtensions cursor vs p).identityLen = p.identityLen := by
  induction vs generalizing cursor p with
  | nil => exact ⟨rfl, rfl⟩
  | cons v vs ih =>
      have hset : (p.setSlot v.type (v.parsedAt cursor)).identity = p.identity ∧
          (p.setSlot v.type (v.parsedAt cursor)).identityLen = p.identityLen := by
        cases v <;> exact ⟨rfl, rfl⟩
      have hrest := ih (cursor + v.bytes.length) (p.setSlot v.type (v.parsedAt cursor))
      exact ⟨hrest.1.trans hset.1, hrest.2.trans hset.2⟩

theorem SkyRadioFrame.extensionStart_eq {frame : SkyRadioFrame} {identity : Bytes × Nat}
    (hid : rxIdentity frame = .ok identity) :
    frame.extensionStart = 1 + identity.2 + staticHeaderSize := by
  rw [extensionStart, rxIdentity_length hid]

/-- Parsing in a closed form. -/
theorem SkyRadioFrame.parse_ok_iff (hw : ArqSequenceWidth w) {frame : SkyRadioFrame}
    (hraw : frame.length ≤ frame.raw.length) {parsed : SkyParsedFrame} :
    frame.parse w = .ok parsed ↔
      ∃ (identity : Bytes × Nat) (vs : List (ExtValue w)), rxIdentity frame = .ok identity ∧
        frame.ReadsExtensions frame.header.extensionLength.toNat vs ∧
          parsed = recordExtensions frame.extensionStart vs (rxContents frame identity frame.header
            (frame.extensionStart + frame.header.extensionLength.toNat)) := by
  have hempty (identity : Bytes × Nat) (hdr : SkyStaticHeader) (k t : Nat) :
      (rxContents frame identity hdr k).slot t = none := by
    unfold SkyParsedFrame.slot
    split <;> rfl
  have hparser {identity : Bytes × Nat} (hid : rxIdentity frame = .ok identity) :
      rxHeader w frame identity = .ok parsed ↔ ∃ vs : List (ExtValue w),
        frame.ReadsExtensions frame.header.extensionLength.toNat vs ∧
          parsed = recordExtensions frame.extensionStart vs (rxContents frame identity frame.header
            (frame.extensionStart + frame.header.extensionLength.toNat)) := by
    have hheader : SkyStaticHeader.load (frame.raw.drop (1 + identity.2)) = frame.header := by
      rw [SkyRadioFrame.header, ← rxIdentity_length hid]
    rw [rxHeader, hheader, ← SkyRadioFrame.extensionStart_eq hid]
    split
    case isTrue hshort =>
      constructor
      · intro h
        cases h
      · rintro ⟨vs, hreads, -⟩
        exact absurd hreads.inside (not_le.mpr hshort)
    case isFalse =>
      exact skyFrameParseExtensionHeaders_ok_iff hw hraw (hempty identity frame.header _)
  rw [SkyRadioFrame.parse]
  cases hid : rxIdentity frame with
  | error ret =>
      constructor
      · intro h
        cases h
      · rintro ⟨identity, vs, hok, -⟩
        cases hok
  | ok identity =>
      constructor
      · intro h
        obtain ⟨vs, hreads, hparsed⟩ := (hparser hid).mp h
        exact ⟨identity, vs, rfl, hreads, hparsed⟩
      · rintro ⟨identity', vs, hok, hreads, hparsed⟩
        cases hok
        exact (hparser hid).mpr ⟨vs, hreads, hparsed⟩

/-- The parsed frame has just what the functions were given. -/
structure SkyParsedFrame.Decodes (parsed : SkyParsedFrame) (identity : Bytes) (flags : UInt8)
    (frameSequence : UInt16) (vs : List (ExtValue w)) (payload : Bytes) : Prop where
  identityLen : parsed.identityLen = identity.length
  identity : parsed.identity = identity
  flags : parsed.hdr.flags = flags
  frameSequence : parsed.hdr.frameSequence = frameSequence
  extensionLength : parsed.hdr.extensionLength.toNat = (extensionBytes vs).length
  present : ∀ v ∈ vs, ∃ offset, parsed.slot v.type =
    some ⟨offset, v.type, v.networkBytes.length, v.networkBytes⟩
  values : ∀ v ∈ vs, ExtValue.ofFields w v.type v.networkBytes = some v
  absent : ∀ t, t ∉ vs.map ExtValue.type → parsed.slot t = none
  payloadLen : parsed.payloadLen = payload.length
  payload : parsed.payloadBytes = payload

theorem SkyTransmitFrame.frame_length_le (tx : SkyTransmitFrame) :
    tx.frame.length ≤ tx.frame.raw.length := by
  show tx.length ≤ (tx.bytes ++ List.replicate (rawLen - tx.length) 0).length
  rw [List.length_append, tx.bytes_length]
  exact Nat.le_add_right _ _

theorem SkyTransmitFrame.Built.decodes (hw : ArqSequenceWidth w) {tx : SkyTransmitFrame}
    {identity payload : Bytes} {vs : List (ExtValue w)} (h : tx.Built identity vs payload)
    (hpayload : tx.hdr.hasFlag skyFlagHasPayload = true) :
    ∃ parsed, tx.frame.parse w = .ok parsed ∧
      parsed.Decodes identity tx.hdr.flags tx.hdr.frameSequence vs payload := by
  obtain ⟨h8, h56, -⟩ := hw.bounds
  obtain ⟨parsed, hheader, hhdr, hlength, ⟨rest, hbytes⟩, hpresent, habsent⟩ := h.rxHeader h56
  have hparse : tx.frame.parse w = .ok parsed := by
    rw [SkyRadioFrame.parse, h.rxIdentity]
    exact hheader
  obtain ⟨identity', us, hid, -, hrecord⟩ :=
    (SkyRadioFrame.parse_ok_iff hw tx.frame_length_le).mp hparse
  obtain rfl := Except.ok.inj (h.rxIdentity.symm.trans hid)
  have hidentity := recordExtensions_identity us tx.frame.extensionStart
    (rxContents tx.frame (identity, identity.length) tx.frame.header
      (tx.frame.extensionStart + tx.frame.header.extensionLength.toNat))
  rw [← hrecord] at hidentity
  rw [if_pos hpayload] at hlength
  refine ⟨parsed, hparse, ?_⟩
  constructor
  · exact hidentity.2
  · exact hidentity.1
  · rw [hhdr]
  · rw [hhdr]
  · rw [hhdr, h.extensionLength]
  · intro v hv
    rw [← v.fields_eq_networkBytes]
    exact hpresent v hv
  · intro v _
    rw [← v.fields_eq_networkBytes]
    exact ExtValue.ofFields_fields h8 v
  · exact habsent
  · exact hlength
  · rw [SkyParsedFrame.payloadBytes, hbytes, hlength, List.take_left]

end Skylink
