import Skylink.Frame.Codec

/-!
# The grammar of the extensions

The parser checks that an extension ends inside the frame, not that it ends inside the
region of the extensions. The last one may go on into the payload.
-/

namespace Skylink

open BitPacking

variable {w : Nat}

/-! ## Fields -/

theorem skyArqSeqHton_ntoh (h8 : 8 ∣ w) {b : Bytes} (hlength : w / 8 ≤ b.length) :
    skyArqSeqHton (skyArqSeqNtoh b : BitVec w) = b.take (w / 8) := by
  obtain ⟨k, rfl⟩ := h8
  have hdiv : 8 * k / 8 = k := by omega
  rw [hdiv] at hlength ⊢
  have htake : (b.take k).length = k := List.length_take_of_le hlength
  have hlt : bigEndianFrom 0 (b.take k) < 2 ^ (8 * k) := by
    have hvalue := bigEndianFrom_zero_lt (b.take k)
    rwa [htake, ← Nat.pow_mul 2 8 k] at hvalue
  have hdigits := bigEndian_bigEndianFrom 0 (b.take k)
  rw [htake] at hdigits
  rw [skyArqSeqHton, skyArqSeqNtoh, hdiv, BitVec.toNat_ofNat]
  exact (congrArg (bigEndian k) (Nat.mod_eq_of_lt hlt)).trans hdigits

/-- The fields of an extension in host byte order. -/
def ExtValue.ofFields (w type : Nat) (b : Bytes) : Option (ExtValue w) :=
  match type with
  | 0 => some (.arqSequence (skyArqSeqNtoh b))
  | 1 => some (.arqRequest (skyArqSeqNtoh b) (skyNtoh16 (loadU16 (b.drop (w / 8)))))
  | 2 => some (.arqCtrl (skyArqSeqNtoh b) (skyArqSeqNtoh (b.drop (w / 8))))
  | 3 => some (.arqHandshake (b.getD 0 0) (skyNtoh32 (loadU32 (b.drop 1))))
  | 4 => some (.macTddControl (skyNtoh16 (loadU16 b)) (skyNtoh16 (loadU16 (b.drop 2))))
  | 5 => some (.hmacSequenceReset (skyNtoh16 (loadU16 b)))
  | _ => none

theorem ExtValue.ofFields_fields (h8 : 8 ∣ w) (v : ExtValue w) :
    ExtValue.ofFields w v.type v.fields = some v := by
  have hdrop (s : BitVec w) (b : Bytes) : (skyArqSeqHton s ++ b).drop (w / 8) = b :=
    List.drop_left' (skyArqSeqHton_length s)
  cases v with
  | arqSequence s => exact congrArg (some ∘ ExtValue.arqSequence) (skyArqSeqNtoh_hton h8 s)
  | arqRequest s mask =>
      simp [type, fields, ofFields, extensionArqRequest, hdrop, skyArqSeqNtoh_hton_append h8,
        loadU16_storeU16, skyNtoh16, skyHton16_hton16]
  | arqCtrl tx rx =>
      simp [type, fields, ofFields, extensionArqCtrl, hdrop, skyArqSeqNtoh_hton_append h8,
        skyArqSeqNtoh_hton h8]
  | arqHandshake flag identifier =>
      simp only [type, fields, ofFields, extensionArqHandshake, List.getD_cons_zero,
        List.drop_one, List.tail_cons, loadU32_storeU32, skyNtoh32, skyHton32_hton32]
  | macTddControl window remaining =>
      have hwindow := loadU16_storeU16_append (skyHton16 window) (storeU16 (skyHton16 remaining))
      have hremaining : (storeU16 (skyHton16 window) ++ storeU16 (skyHton16 remaining)).drop 2 =
          storeU16 (skyHton16 remaining) := List.drop_left' (storeU16_length _)
      simp only [type, fields, ofFields, extensionMacTddControl, hwindow, hremaining,
        loadU16_storeU16, skyNtoh16, skyHton16_hton16]
  | hmacSequenceReset s =>
      simp [type, fields, ofFields, extensionHmacSequenceReset, loadU16_storeU16, skyNtoh16,
        skyHton16_hton16]

/-- `sizeof` of the fields of a type. -/
def extensionSize (w : Nat) : Nat → Option Nat
  | 0 => some (w / 8)
  | 1 => some (w / 8 + 2)
  | 2 => some (w / 8 + w / 8)
  | 3 => some 5
  | 4 => some 4
  | 5 => some 2
  | _ => none

theorem storeU16_hton16_ntoh16 {b : Bytes} (hlength : b.length = 2) :
    storeU16 (skyHton16 (skyNtoh16 (loadU16 b))) = b := by
  obtain ⟨x, y, rfl⟩ := List.length_eq_two.mp hlength
  rw [skyNtoh16, skyHton16_hton16, storeU16_loadU16]

theorem storeU32_hton32_ntoh32 {b : Bytes} (hlength : b.length = 4) :
    storeU32 (skyHton32 (skyNtoh32 (loadU32 b))) = b := by
  obtain ⟨x, y, z, t, rfl⟩ := List.length_eq_four.mp hlength
  rw [skyNtoh32, skyHton32_hton32, storeU32_loadU32]

/-- Bytes of the right length are the fields of a value. -/
theorem ExtValue.ofFields_of_size (h8 : 8 ∣ w) {type : Nat} {b : Bytes}
    (hsize : extensionSize w type = some b.length) :
    ∃ v, ExtValue.ofFields w type b = some v ∧ v.type = type ∧ v.fields = b := by
  have hseq (hle : w / 8 ≤ b.length) := skyArqSeqHton_ntoh h8 hle
  rcases type with _ | _ | _ | _ | _ | _ | type
  case zero =>
    have hlength : w / 8 = b.length := Option.some.inj hsize
    refine ⟨_, rfl, rfl, ?_⟩
    rw [fields, hseq hlength.le, hlength, List.take_length]
  case succ.zero =>
    have hlength : w / 8 + 2 = b.length := Option.some.inj hsize
    refine ⟨_, rfl, rfl, ?_⟩
    rw [fields, hseq (by omega), storeU16_hton16_ntoh16 (by rw [List.length_drop]; omega),
      List.take_append_drop]
  case succ.succ.zero =>
    have hlength : w / 8 + w / 8 = b.length := Option.some.inj hsize
    have hrest : (b.drop (w / 8)).length = w / 8 := by
      rw [List.length_drop]
      omega
    refine ⟨_, rfl, rfl, ?_⟩
    rw [fields, hseq (by omega), skyArqSeqHton_ntoh h8 hrest.ge,
      List.take_of_length_le hrest.le, List.take_append_drop]
  case succ.succ.succ.zero =>
    have hlength : 5 = b.length := Option.some.inj hsize
    obtain ⟨flag, rest, rfl⟩ := List.exists_cons_of_length_pos (by omega : 0 < b.length)
    refine ⟨_, rfl, rfl, ?_⟩
    rw [fields, List.getD_cons_zero, List.drop_one, List.tail_cons,
      storeU32_hton32_ntoh32 (Nat.succ.inj hlength).symm]
  case succ.succ.succ.succ.zero =>
    have hlength : 4 = b.length := Option.some.inj hsize
    obtain ⟨x, y, z, t, rfl⟩ := List.length_eq_four.mp hlength.symm
    refine ⟨_, rfl, rfl, ?_⟩
    have hwindow : loadU16 [x, y, z, t] = loadU16 [x, y] := rfl
    rw [fields, hwindow, storeU16_hton16_ntoh16 rfl, storeU16_hton16_ntoh16 rfl]
    rfl
  case succ.succ.succ.succ.succ.zero =>
    have hlength : 2 = b.length := Option.some.inj hsize
    exact ⟨_, rfl, rfl, storeU16_hton16_ntoh16 hlength.symm⟩
  case succ.succ.succ.succ.succ.succ => cases hsize

/-! ## What the parser accepts -/

theorem storeExtension_ok_iff {slot new : Option SkyHeaderExtension} {size : Nat}
    {ext : SkyHeaderExtension} :
    storeExtension slot size ext = .ok new ↔
      size = ext.length ∧ slot = none ∧ new = some ext := by
  cases slot with
  | some old => simp [storeExtension]
  | none => by_cases hsize : size = ext.length <;> simp [storeExtension, hsize, eq_comm]

theorem storeExtension_map_ok_iff {slot : Option SkyHeaderExtension} {size : Nat}
    {ext : SkyHeaderExtension} {f : Option SkyHeaderExtension → SkyParsedFrame}
    {p' : SkyParsedFrame} :
    (storeExtension slot size ext).map f = .ok p' ↔
      some size = some ext.length ∧ slot = none ∧ p' = f (some ext) := by
  rw [exceptMap_ok_iff, Option.some_inj]
  constructor
  · rintro ⟨new, hstore, rfl⟩
    obtain ⟨hsize, hfree, rfl⟩ := storeExtension_ok_iff.mp hstore
    exact ⟨hsize, hfree, rfl⟩
  · rintro ⟨hsize, hfree, rfl⟩
    exact ⟨_, storeExtension_ok_iff.mpr ⟨hsize, hfree, rfl⟩, rfl⟩

theorem parseExtension_ok_iff {p p' : SkyParsedFrame} {ext : SkyHeaderExtension} :
    parseExtension w p ext = .ok p' ↔
      extensionSize w ext.type = some ext.length ∧ p.slot ext.type = none ∧
        p' = p.setSlot ext.type ext := by
  obtain ⟨offset, type, length, data⟩ := ext
  rcases type with _ | _ | _ | _ | _ | _ | type
  case succ.succ.succ.succ.succ.succ =>
    constructor
    · intro h
      cases h
    · rintro ⟨hsize, -⟩
      cases hsize
  all_goals exact storeExtension_map_ok_iff

theorem extensionHeaderByte_toNat (byte : UInt8) :
    extensionHeaderByte (byte.toNat % 16) (byte.toNat / 16) = byte := by
  have hlt : byte.toNat < 256 := UInt8.toNat_lt byte
  apply UInt8.toNat_inj.mp
  rw [extensionHeaderByte, UInt8.toNat_ofNat']
  omega

theorem SkyRadioFrame.getElem?_raw {frame : SkyRadioFrame} {i : Nat}
    (h : i < frame.raw.length) : frame.raw[i]? = some (frame.byte i) := by
  rw [SkyRadioFrame.byte, List.getD_eq_getElem?_getD, List.getElem?_eq_getElem h]
  rfl

theorem SkyRadioFrame.drop_raw {frame : SkyRadioFrame} {i : Nat} (h : i < frame.raw.length) :
    frame.raw.drop i = frame.byte i :: frame.raw.drop (i + 1) := by
  rw [List.drop_eq_getElem_cons h, ← Option.some_inj.mp ((List.getElem?_eq_getElem h).symm.trans
    (SkyRadioFrame.getElem?_raw h))]

/-- The bytes of an extension that ends inside the frame. -/
theorem drop_eq_bytes_append {frame : SkyRadioFrame} {cursor : Nat} {v : ExtValue w}
    (hraw : frame.length ≤ frame.raw.length)
    (hfits : cursor + v.bytes.length ≤ frame.length)
    (hext : frame.extensionAt cursor = v.parsedAt cursor) :
    frame.contents.drop cursor = v.bytes ++ frame.contents.drop (cursor + v.bytes.length) := by
  rw [ExtValue.bytes_length] at hfits
  have htype : (frame.byte cursor).toNat % 16 = v.type := congrArg SkyHeaderExtension.type hext
  have hlength : (frame.byte cursor).toNat / 16 = v.fields.length :=
    congrArg SkyHeaderExtension.length hext
  have hdata : (frame.raw.drop (cursor + 1)).take v.fields.length = v.fields := by
    rw [← hlength]
    exact congrArg SkyHeaderExtension.data hext
  have hbyte : frame.byte cursor = extensionHeaderByte v.type v.fields.length := by
    rw [← htype, ← hlength, extensionHeaderByte_toNat]
  have hbytes : frame.raw.drop cursor =
      v.bytes ++ frame.raw.drop (cursor + v.bytes.length) := by
    have hsplit := List.take_append_drop v.fields.length (frame.raw.drop (cursor + 1))
    rw [hdata, List.drop_drop, add_assoc, Nat.add_comm 1] at hsplit
    rw [SkyRadioFrame.drop_raw (by omega), hbyte, ← hsplit]
    rfl
  rw [SkyRadioFrame.contents, List.drop_take, List.drop_take, hbytes, List.take_append,
    List.take_of_length_le (by rw [ExtValue.bytes_length]; omega), Nat.sub_sub]

/-- An extension that the parser stores is the pointer to a value. -/
theorem parsedAt_of_extensionAt (h8 : 8 ∣ w) {frame : SkyRadioFrame}
    (hraw : frame.length ≤ frame.raw.length) {cursor : Nat}
    (hfits : cursor + (1 + (frame.extensionAt cursor).length) ≤ frame.length)
    (hsize : extensionSize w (frame.extensionAt cursor).type =
      some (frame.extensionAt cursor).length) :
    ∃ v : ExtValue w, frame.extensionAt cursor = v.parsedAt cursor := by
  have hdata : (frame.extensionAt cursor).data.length = (frame.extensionAt cursor).length := by
    have hle : (frame.extensionAt cursor).length ≤ (frame.raw.drop (cursor + 1)).length := by
      rw [List.length_drop]
      omega
    exact List.length_take_of_le hle
  obtain ⟨v, -, htype, hfields⟩ := ExtValue.ofFields_of_size h8 (hsize.trans
    (congrArg some hdata.symm))
  refine ⟨v, ?_⟩
  rw [ExtValue.parsedAt, htype, hfields, hdata]
  rfl

theorem SkyParsedFrame.slot_of_setSlot_eq_none {p : SkyParsedFrame} {v : ExtValue w}
    {ext : SkyHeaderExtension} {t : Nat} (h : (p.setSlot v.type ext).slot t = none) :
    t ≠ v.type ∧ p.slot t = none := by
  have hne : t ≠ v.type := by
    rintro rfl
    cases (p.slot_setSlot_type v ext).symm.trans h
  rw [p.slot_setSlot_of_ne ext hne] at h
  exact ⟨hne, h⟩

/-- What the loop accepts; induction on its turns. -/
theorem parseExtensionsLoop_ok (h8 : 8 ∣ w) {frame : SkyRadioFrame}
    (hraw : frame.length ≤ frame.raw.length) {stop turns cursor : Nat} {p p' : SkyParsedFrame}
    (hturns : stop ≤ cursor + turns)
    (h : parseExtensionsLoop w frame stop turns cursor p = .ok p') :
    ∃ vs : List (ExtValue w), Covers (stop - cursor) vs ∧
      extensionBytes vs <+: frame.contents.drop cursor ∧ (vs.map ExtValue.type).Nodup ∧
        (∀ v ∈ vs, p.slot v.type = none) ∧ p' = recordExtensions cursor vs p := by
  have hend {cursor : Nat} {p : SkyParsedFrame} (hstop : ¬cursor < stop) (hp : p = p') :
      ∃ vs : List (ExtValue w), Covers (stop - cursor) vs ∧
        extensionBytes vs <+: frame.contents.drop cursor ∧ (vs.map ExtValue.type).Nodup ∧
          (∀ v ∈ vs, p.slot v.type = none) ∧ p' = recordExtensions cursor vs p :=
    ⟨[], Nat.sub_eq_zero_of_le (not_lt.mp hstop), List.nil_prefix, List.nodup_nil,
      fun v hv => absurd hv List.not_mem_nil, hp.symm⟩
  induction turns generalizing cursor p with
  | zero => exact hend (by omega) (Except.ok.inj h)
  | succ turns ih =>
      rw [parseExtensionsLoop] at h
      split at h
      case isFalse hstop => exact hend hstop (Except.ok.inj h)
      case isTrue hbegins =>
        dsimp only at h
        split at h
        case isTrue => cases h
        case isFalse hfits =>
          split at h
          case h_1 => cases h
          case h_2 mid hmid =>
            obtain ⟨hsize, hfree, rfl⟩ := parseExtension_ok_iff.mp hmid
            obtain ⟨v, hext⟩ := parsedAt_of_extensionAt h8 hraw (not_lt.mp hfits) hsize
            have hlength : 1 + (frame.extensionAt cursor).length = v.bytes.length := by
              rw [hext, ExtValue.bytes_length, Nat.add_comm]
              rfl
            rw [hlength] at h hfits
            rw [hext] at h hfree
            obtain ⟨vs, hcovers, hprefix, hnodup, hfrees, rfl⟩ := ih (by
              have hpos : 0 < v.bytes.length := Nat.succ_pos _
              omega) h
            refine ⟨v :: vs, ⟨by omega, ?_⟩, ?_, ?_, ?_, rfl⟩
            · rwa [Nat.sub_sub]
            · rw [drop_eq_bytes_append hraw (not_lt.mp hfits) hext, extensionBytes_cons]
              exact List.prefix_append_right_inj _ |>.mpr hprefix
            · refine List.nodup_cons.mpr ⟨fun hmem => ?_, hnodup⟩
              obtain ⟨u, hu, htype⟩ := List.mem_map.mp hmem
              exact (SkyParsedFrame.slot_of_setSlot_eq_none (hfrees u hu)).1 htype
            · intro u hu
              rcases List.mem_cons.mp hu with rfl | hu
              · exact hfree
              · exact (SkyParsedFrame.slot_of_setSlot_eq_none (hfrees u hu)).2

theorem SkyParsedFrame.slot_setSlot_self {p : SkyParsedFrame} {type : Nat}
    {ext : SkyHeaderExtension} {found : SkyHeaderExtension}
    (h : (p.setSlot type ext).slot type = some found) : p.slot type = some found ∨ found = ext := by
  unfold setSlot at h
  split at h <;> first | exact .inr (Option.some.inj h).symm | exact .inl h

/-- The pointers that are recorded point to the bytes of the run. -/
theorem recordExtensions_inside (vs : List (ExtValue w)) (cursor : Nat) {p : SkyParsedFrame}
    {t : Nat} {ext : SkyHeaderExtension}
    (hslot : (recordExtensions cursor vs p).slot t = some ext) :
    p.slot t = some ext ∨ cursor ≤ ext.offset ∧
      ext.offset + (1 + ext.length) ≤ cursor + (extensionBytes vs).length := by
  induction vs generalizing cursor p with
  | nil => exact .inl hslot
  | cons v vs ih =>
      rw [extensionBytes_cons, List.length_append]
      rcases ih (cursor + v.bytes.length) hslot with hset | ⟨hle, hend⟩
      · by_cases htype : t = v.type
        · subst htype
          rcases SkyParsedFrame.slot_setSlot_self hset with hold | rfl
          · exact .inl hold
          · refine .inr ⟨le_refl cursor, ?_⟩
            show cursor + (1 + v.fields.length) ≤ _
            rw [ExtValue.bytes_length]
            omega
        · rw [p.slot_setSlot_of_ne _ htype] at hset
          exact .inl hset
      · exact .inr ⟨by omega, by omega⟩

theorem covers_iff (n : Nat) (vs : List (ExtValue w)) :
    Covers n vs ↔ n = (extensionBytes vs).length ∨
      ∃ us v, vs = us ++ [v] ∧ (extensionBytes us).length < n ∧
        n < (extensionBytes us).length + v.bytes.length := by
  induction vs generalizing n with
  | nil =>
      constructor
      · exact fun h => .inl h
      · rintro (h | ⟨us, v, hvs, -⟩)
        · exact h
        · cases us <;> cases hvs
  | cons u us ih =>
      have hpos : 0 < u.bytes.length := Nat.succ_pos _
      have hcons (vs : List (ExtValue w)) : (extensionBytes (u :: vs)).length =
          u.bytes.length + (extensionBytes vs).length := by
        rw [extensionBytes_cons, List.length_append]
      rw [Covers, ih, hcons]
      constructor
      · rintro ⟨hn, h | ⟨vs, v, rfl, hlt, hgt⟩⟩
        · rcases Nat.lt_or_ge n u.bytes.length with hshort | hlong
          · cases us with
            | nil => exact .inr ⟨[], u, rfl, hn, by rw [extensionBytes_nil]; simpa using hshort⟩
            | cons v vs =>
                rw [extensionBytes_cons, List.length_append, ExtValue.bytes_length v] at h
                omega
          · exact .inl (by omega)
        · exact .inr ⟨u :: vs, v, rfl, by rw [hcons]; omega, by rw [hcons]; omega⟩
      · rintro (h | ⟨vs, v, hvs, hlt, hgt⟩)
        · exact ⟨by omega, .inl (by omega)⟩
        · cases vs with
          | nil =>
              cases hvs
              exact ⟨hlt, .inl (Nat.sub_eq_zero_of_le (by simpa using hgt.le))⟩
          | cons u' vs =>
              cases hvs
              rw [hcons] at hlt hgt
              exact ⟨by omega, .inr ⟨vs, v, rfl, by omega, by omega⟩⟩

/-! ## Pointers into the frame -/

/-- Every pointer to an extension points to one of the right size inside the frame. -/
def SkyParsedFrame.Located (w : Nat) (frame : SkyRadioFrame) (parsed : SkyParsedFrame) : Prop :=
  ∀ t ext, parsed.slot t = some ext →
    ext = frame.extensionAt ext.offset ∧ ext.offset + (1 + ext.length) ≤ frame.length ∧
      extensionSize w t = some ext.length

theorem SkyParsedFrame.Located.parseExtension {frame : SkyRadioFrame}
    {parsed parsed' : SkyParsedFrame} {ext : SkyHeaderExtension} (h : parsed.Located w frame)
    (hparse : Skylink.parseExtension w parsed ext = .ok parsed')
    (hext : ext = frame.extensionAt ext.offset)
    (hinside : ext.offset + (1 + ext.length) ≤ frame.length) : parsed'.Located w frame := by
  obtain ⟨hsize, -, rfl⟩ := parseExtension_ok_iff.mp hparse
  intro t found hslot
  by_cases htype : t = ext.type
  · subst htype
    rcases SkyParsedFrame.slot_setSlot_self hslot with hold | rfl
    · exact h _ found hold
    · exact ⟨hext, hinside, hsize⟩
  · rw [parsed.slot_setSlot_of_ne ext htype] at hslot
    exact h t found hslot

/-- What the header tells fits into the frame. -/
theorem rxHeader_located {frame : SkyRadioFrame} {parsed : SkyParsedFrame}
    {identity : Bytes × Nat} (h : rxHeader w frame identity = .ok parsed) :
    parsed.Located w frame ∧ ∃ start ≤ frame.length, parsed.payload = frame.raw.drop start ∧
      start + parsed.payloadLen ≤ frame.length := by
  rw [rxHeader] at h
  split at h
  · cases h
  · rename_i hstart
    rw [not_lt] at hstart
    obtain ⟨-, hpayload, hpayloadLen⟩ := skyFrameParseExtensionHeaders_sameContents h
    refine ⟨?_, _, hstart, hpayload, ?_⟩
    · refine skyFrameParseExtensionHeaders_keeps (fun p p' cursor hparse hinside hlocated =>
        hlocated.parseExtension hparse rfl hinside) h fun t ext hslot => ?_
      exact absurd hslot (by unfold SkyParsedFrame.slot rxContents; split <;> simp)
    · rw [hpayloadLen, rxContents]
      dsimp only
      split <;> omega

/-! ## The grammar -/

/-- Where the extensions of a frame begin. -/
def SkyRadioFrame.extensionStart (frame : SkyRadioFrame) : Nat :=
  1 + (frame.byte 0 &&& skylinkFrameIdentityMask).toNat + staticHeaderSize

/-- The extensions that the parser finds in a region of some bytes. -/
structure SkyRadioFrame.ReadsExtensions (frame : SkyRadioFrame) (n : Nat)
    (vs : List (ExtValue w)) : Prop where
  inside : frame.extensionStart + n ≤ frame.length
  covers : Covers n vs
  bytes : extensionBytes vs <+: frame.contents.drop frame.extensionStart
  nodup : (vs.map ExtValue.type).Nodup

/-- The region of the extensions lies inside the frame, and is a run of extensions of
distinct types. -/
def SkyRadioFrame.ExtensionsExact (w : Nat) (frame : SkyRadioFrame) (n : Nat) : Prop :=
  frame.extensionStart + n ≤ frame.length ∧
    ∃ vs : List (ExtValue w), (vs.map ExtValue.type).Nodup ∧
      (frame.contents.drop frame.extensionStart).take n = extensionBytes vs

/-- Extensions of distinct types lie inside the frame, the last of which begins inside the
region of the extensions and ends behind it. -/
def SkyRadioFrame.ExtensionsOverrun (w : Nat) (frame : SkyRadioFrame) (n : Nat) : Prop :=
  ∃ (vs : List (ExtValue w)) (v : ExtValue w), ((vs ++ [v]).map ExtValue.type).Nodup ∧
    extensionBytes (vs ++ [v]) <+: frame.contents.drop frame.extensionStart ∧
      (extensionBytes vs).length < n ∧ n < (extensionBytes (vs ++ [v])).length

section Grammar

variable {frame : SkyRadioFrame} {parsed parsed' : SkyParsedFrame} {n : Nat}
  {vs : List (ExtValue w)}

theorem SkyRadioFrame.contents_length (hraw : frame.length ≤ frame.raw.length) :
    frame.contents.length = frame.length := List.length_take_of_le hraw

/-- The parser of the extensions in a closed form. -/
theorem skyFrameParseExtensionHeaders_ok_iff (hw : ArqSequenceWidth w)
    (hraw : frame.length ≤ frame.raw.length) (hempty : ∀ t, parsed.slot t = none) :
    skyFrameParseExtensionHeaders w frame parsed = .ok parsed' ↔
      ∃ vs : List (ExtValue w),
        frame.ReadsExtensions parsed.hdr.extensionLength.toNat vs ∧
          parsed' = recordExtensions frame.extensionStart vs parsed := by
  obtain ⟨h8, h56, -⟩ := hw.bounds
  have hlength := SkyRadioFrame.contents_length hraw
  have hparser : skyFrameParseExtensionHeaders w frame parsed =
      if frame.length < frame.extensionStart + parsed.hdr.extensionLength.toNat then
        .error .invalidExtLength
      else parseExtensionsLoop w frame
        (frame.extensionStart + parsed.hdr.extensionLength.toNat)
          parsed.hdr.extensionLength.toNat frame.extensionStart parsed := rfl
  rw [hparser]
  constructor
  · intro h
    split at h
    case isTrue => cases h
    case isFalse hinside =>
      obtain ⟨vs, hcovers, hbytes, hnodup, -, hparsed⟩ :=
        parseExtensionsLoop_ok h8 hraw (le_refl _) h
      rw [Nat.add_sub_cancel_left] at hcovers
      exact ⟨vs, ⟨not_lt.mp hinside, hcovers, hbytes, hnodup⟩, hparsed⟩
  · rintro ⟨vs, ⟨hinside, hcovers, ⟨rest, hbytes⟩, hnodup⟩, rfl⟩
    have hpre : (frame.contents.take frame.extensionStart).length = frame.extensionStart :=
      List.length_take_of_le (by omega)
    have hcontents : frame.raw = frame.contents.take frame.extensionStart ++
        (extensionBytes vs ++ (rest ++ frame.raw.drop frame.length)) := by
      rw [← List.append_assoc (extensionBytes vs), hbytes, ← List.append_assoc,
        List.take_append_drop, SkyRadioFrame.contents, List.take_append_drop]
    have hfits := congrArg List.length hbytes
    rw [List.length_append, List.length_drop, hlength] at hfits
    have hloop := parseExtensionsLoop_build h56 vs (frame.contents.take frame.extensionStart)
      parsed parsed.hdr.extensionLength.toNat
      (frame.extensionStart + parsed.hdr.extensionLength.toNat) hcontents
      (by rwa [hpre, Nat.add_sub_cancel_left]) (by rw [hpre]; omega) (by rw [hpre])
      (fun v _ => hempty v.type) hnodup
    rw [hpre] at hloop
    rw [if_neg (not_lt.mpr hinside), hloop]

theorem SkyRadioFrame.ReadsExtensions.exact (h : frame.ReadsExtensions n vs)
    (hlength : n = (extensionBytes vs).length) : frame.ExtensionsExact w n := by
  refine ⟨h.inside, vs, h.nodup, ?_⟩
  obtain ⟨rest, hrest⟩ := h.bytes
  rw [← hrest, hlength, List.take_left]

/-- A run that does not fit the region exactly overruns it. -/
theorem SkyRadioFrame.ReadsExtensions.length_eq (h : frame.ReadsExtensions n vs)
    (hover : ¬frame.ExtensionsOverrun w n) : n = (extensionBytes vs).length := by
  rcases (covers_iff n vs).mp h.covers with hexact | ⟨us, v, rfl, hlt, hgt⟩
  · exact hexact
  · refine absurd ⟨us, v, h.nodup, h.bytes, hlt, ?_⟩ hover
    rwa [extensionBytes_append, List.length_append, extensionBytes_cons, extensionBytes_nil,
      List.append_nil]

theorem SkyRadioFrame.ExtensionsExact.reads (hraw : frame.length ≤ frame.raw.length)
    (h : frame.ExtensionsExact w n) :
    ∃ vs : List (ExtValue w), frame.ReadsExtensions n vs := by
  obtain ⟨hinside, vs, hnodup, hbytes⟩ := h
  refine ⟨vs, hinside, ?_, ?_, hnodup⟩
  · have hlength : (extensionBytes vs).length = n := by
      rw [← hbytes]
      apply List.length_take_of_le
      rw [List.length_drop, SkyRadioFrame.contents_length hraw]
      omega
    rw [← hlength]
    exact covers_extensionBytes vs
  · rw [← hbytes]
    exact List.take_prefix n _

theorem SkyRadioFrame.ExtensionsOverrun.reads (hraw : frame.length ≤ frame.raw.length)
    (h : frame.ExtensionsOverrun w n) :
    ∃ (vs : List (ExtValue w)) (v : ExtValue w), frame.ReadsExtensions n (vs ++ [v]) ∧
      n < (extensionBytes (vs ++ [v])).length := by
  obtain ⟨vs, v, hnodup, hbytes, hlt, hgt⟩ := h
  have hle := hbytes.length_le
  have hlength : (extensionBytes (vs ++ [v])).length =
      (extensionBytes vs).length + v.bytes.length := by
    rw [extensionBytes_append, List.length_append, extensionBytes_cons, extensionBytes_nil,
      List.append_nil]
  rw [List.length_drop, SkyRadioFrame.contents_length hraw] at hle
  refine ⟨vs, v, ⟨by omega, (covers_iff n _).mpr (.inr ⟨vs, v, rfl, hlt, ?_⟩), hbytes, hnodup⟩,
    hgt⟩
  rwa [← hlength]

end Grammar

/-- The parser accepts its grammar, and what it points to is no payload. -/
structure SkyRadioFrame.ParsesGrammar (w : Nat) (frame : SkyRadioFrame)
    (parsed : SkyParsedFrame) : Prop where
  accepts_iff : (∃ parsed', skyFrameParseExtensionHeaders w frame parsed = .ok parsed') ↔
    frame.ExtensionsExact w parsed.hdr.extensionLength.toNat
  inside : ∀ parsed', skyFrameParseExtensionHeaders w frame parsed = .ok parsed' →
    ∀ t ext, parsed'.slot t = some ext → frame.extensionStart ≤ ext.offset ∧
      ext.offset + (1 + ext.length) ≤
        frame.extensionStart + parsed.hdr.extensionLength.toNat

/-- The last pointer that is recorded. -/
theorem recordExtensions_last (vs : List (ExtValue w)) (v : ExtValue w) (cursor : Nat)
    (p : SkyParsedFrame) :
    (recordExtensions cursor (vs ++ [v]) p).slot v.type =
      some (v.parsedAt (cursor + (extensionBytes vs).length)) := by
  induction vs generalizing cursor p with
  | nil => exact p.slot_setSlot_type v _
  | cons u us ih =>
      rw [List.cons_append, recordExtensions, ih, extensionBytes_cons, List.length_append,
        Nat.add_assoc]

/-- The region has one byte, the extension has two: the second is the payload. -/
def exampleOverrunFrame : SkyRadioFrame := .ofBytes [0x61, 9, 0x10, 0, 0, 1, 0x10, 7]

end Skylink
