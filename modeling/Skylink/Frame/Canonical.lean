import Skylink.Frame.RoundTrip

/-!
# Encoding what was parsed

The start byte is compared with the bits of the version only, and the last extension may
reach into the payload. Every other bit of a frame that is accepted is told by what was
parsed.
-/

namespace Skylink

variable {w : Nat}

/-! ## The order of the extensions -/

/-- The extensions of a frame in their order of appearance. -/
def SkyParsedFrame.extensions (parsed : SkyParsedFrame) : List SkyHeaderExtension :=
  ((List.range 6).filterMap parsed.slot).mergeSort fun a b => decide (a.offset ≤ b.offset)

/-- The values of the extensions. -/
def SkyParsedFrame.extValues (w : Nat) (parsed : SkyParsedFrame) : List (ExtValue w) :=
  parsed.extensions.filterMap fun ext => ExtValue.ofFields w ext.type ext.data

/-- The pointers to a run of extensions, in the order of the run. -/
def pointersAt : Nat → List (ExtValue w) → List SkyHeaderExtension
  | _, [] => []
  | cursor, v :: vs => v.parsedAt cursor :: pointersAt (cursor + v.bytes.length) vs

theorem le_offset_of_mem_pointersAt {cursor : Nat} {vs : List (ExtValue w)}
    {ext : SkyHeaderExtension} (h : ext ∈ pointersAt cursor vs) : cursor ≤ ext.offset := by
  induction vs generalizing cursor with
  | nil => cases h
  | cons v vs ih =>
      rcases List.mem_cons.mp h with rfl | h
      · exact le_refl cursor
      · exact (Nat.le_add_right _ _).trans (ih h)

theorem pointersAt_pairwise (cursor : Nat) (vs : List (ExtValue w)) :
    (pointersAt cursor vs).Pairwise fun a b => a.offset < b.offset := by
  induction vs generalizing cursor with
  | nil => exact List.Pairwise.nil
  | cons v vs ih =>
      refine List.Pairwise.cons (fun ext hext => ?_) (ih _)
      have hpos : 0 < v.bytes.length := Nat.succ_pos _
      have hle := le_offset_of_mem_pointersAt hext
      show cursor < ext.offset
      omega

theorem SkyParsedFrame.slot_setSlot_iff {p : SkyParsedFrame} {v : ExtValue w}
    (hfree : p.slot v.type = none) (t : Nat) (ext found : SkyHeaderExtension) :
    (p.setSlot v.type ext).slot t = some found ↔
      found = ext ∧ v.type = t ∨ p.slot t = some found := by
  by_cases htype : v.type = t
  · subst htype
    rw [p.slot_setSlot_type, hfree, Option.some_inj, eq_comm]
    simp
  · rw [p.slot_setSlot_of_ne _ (Ne.symm htype)]
    simp [htype]

/-- What the parser stores for a run of distinct extensions. -/
theorem recordExtensions_slot_iff (vs : List (ExtValue w)) (cursor : Nat) {p : SkyParsedFrame}
    (hfree : ∀ v ∈ vs, p.slot v.type = none) (hnodup : (vs.map ExtValue.type).Nodup) {t : Nat}
    {ext : SkyHeaderExtension} :
    (recordExtensions cursor vs p).slot t = some ext ↔
      ext ∈ pointersAt cursor vs ∧ ext.type = t ∨ p.slot t = some ext := by
  induction vs generalizing cursor p with
  | nil => simp [recordExtensions, pointersAt]
  | cons v vs ih =>
      obtain ⟨hfresh, hnodup⟩ := List.nodup_cons.mp hnodup
      have hfrees : ∀ u ∈ vs, (p.setSlot v.type (v.parsedAt cursor)).slot u.type = none := by
        intro u hu
        have hne : u.type ≠ v.type := fun h => hfresh (h ▸ List.mem_map_of_mem hu)
        rw [p.slot_setSlot_of_ne _ hne]
        exact hfree u (List.mem_cons_of_mem _ hu)
      have hset := SkyParsedFrame.slot_setSlot_iff (hfree v List.mem_cons_self) t
        (v.parsedAt cursor) ext
      rw [recordExtensions, ih _ hfrees hnodup, hset, pointersAt, List.mem_cons]
      constructor
      · rintro (⟨hmem, htype⟩ | ⟨rfl, htype⟩ | hold)
        · exact .inl ⟨.inr hmem, htype⟩
        · exact .inl ⟨.inl rfl, htype⟩
        · exact .inr hold
      · rintro (⟨rfl | hmem, htype⟩ | hold)
        · exact .inr (.inl ⟨rfl, htype⟩)
        · exact .inl ⟨hmem, htype⟩
        · exact .inr (.inr hold)

theorem type_lt_of_mem_pointersAt {cursor : Nat} {vs : List (ExtValue w)}
    {ext : SkyHeaderExtension} (h : ext ∈ pointersAt cursor vs) : ext.type < 6 := by
  induction vs generalizing cursor with
  | nil => cases h
  | cons v vs ih =>
      rcases List.mem_cons.mp h with rfl | h
      · exact v.type_lt_six
      · exact ih h

section Order

variable {cursor : Nat} {vs : List (ExtValue w)} {p : SkyParsedFrame}

/-- The pointers are sorted back into the order of the run. -/
theorem recordExtensions_extensions (hempty : ∀ t, p.slot t = none)
    (hnodup : (vs.map ExtValue.type).Nodup) :
    (recordExtensions cursor vs p).extensions = pointersAt cursor vs := by
  have hslot {t : Nat} {ext : SkyHeaderExtension} :
      (recordExtensions cursor vs p).slot t = some ext ↔
        ext ∈ pointersAt cursor vs ∧ ext.type = t := by
    rw [recordExtensions_slot_iff vs cursor (fun v _ => hempty v.type) hnodup, hempty t]
    simp
  have hsorted := pointersAt_pairwise cursor vs
  have hmem (ext : SkyHeaderExtension) :
      ext ∈ (List.range 6).filterMap (recordExtensions cursor vs p).slot ↔
        ext ∈ pointersAt cursor vs := by
    rw [List.mem_filterMap]
    constructor
    · rintro ⟨t, -, hfound⟩
      exact (hslot.mp hfound).1
    · intro hpointer
      exact ⟨ext.type, List.mem_range.mpr (type_lt_of_mem_pointersAt hpointer),
        hslot.mpr ⟨hpointer, rfl⟩⟩
  have hslots : ((List.range 6).filterMap (recordExtensions cursor vs p).slot).Nodup := by
    refine List.Nodup.filterMap (fun t t' ext h h' => ?_) List.nodup_range
    exact (hslot.mp h).2.symm.trans (hslot.mp h').2
  have hperm : (recordExtensions cursor vs p).extensions.Perm (pointersAt cursor vs) :=
    (List.mergeSort_perm _ _).trans ((List.perm_ext_iff_of_nodup hslots
      (hsorted.imp fun h => by rintro rfl; exact lt_irrefl _ h)).mpr hmem)
  have hmerge := @List.pairwise_mergeSort SkyHeaderExtension
    (fun a b => decide (a.offset ≤ b.offset)) (fun a b c hab hbc => by simp at hab hbc ⊢; omega)
    (fun a b => by simp; omega) ((List.range 6).filterMap (recordExtensions cursor vs p).slot)
  have hsymm : Std.Symm fun a b : SkyHeaderExtension => a.offset ≠ b.offset :=
    ⟨fun _ _ => Ne.symm⟩
  refine List.Perm.eq_of_pairwise (fun a b ha hb hab hba => ?_) hmerge
    (hsorted.imp fun h => decide_eq_true h.le) hperm
  by_contra hne
  exact (hsorted.imp Nat.ne_of_lt).forall (hperm.mem_iff.mp ha) hb hne
    (Nat.le_antisymm (of_decide_eq_true hab) (of_decide_eq_true hba))

theorem extValues_pointersAt (h8 : 8 ∣ w) (cursor : Nat) (vs : List (ExtValue w)) :
    (pointersAt cursor vs).filterMap (fun ext => ExtValue.ofFields w ext.type ext.data) = vs := by
  induction vs generalizing cursor with
  | nil => rfl
  | cons v vs ih =>
      have hvalue : ExtValue.ofFields w v.type v.fields = some v := ExtValue.ofFields_fields h8 v
      simp only [pointersAt, ExtValue.parsedAt, List.filterMap_cons, hvalue]
      rw [ih]

end Order

/-! ## Encoding again -/

/-- The start byte, the identity, the header and the extensions are encoded from what was
parsed; the rest is copied. -/
def SkyParsedFrame.reencode (w : Nat) (parsed : SkyParsedFrame) (rest : Bytes) : Bytes :=
  ((skylinkFrameVersionByte ||| UInt8.ofNat parsed.identityLen) :: parsed.identity) ++
    (parsed.hdr.store ++ (extensionBytes (parsed.extValues w) ++ rest))

theorem SkyStaticHeader.store_load {b : Bytes} (hlength : staticHeaderSize ≤ b.length) :
    (SkyStaticHeader.load b).store = b.take staticHeaderSize := by
  rcases b with _ | ⟨flags, _ | ⟨low, _ | ⟨high, _ | ⟨extensionLength, rest⟩⟩⟩⟩
  case cons.cons.cons.cons =>
    have hsequence : storeU16 (loadU16 [low, high]) = [low, high] := storeU16_loadU16 low high
    show flags :: storeU16 (loadU16 [low, high]) ++ [extensionLength] = _
    rw [hsequence]
    rfl
  all_goals simp [staticHeaderSize] at hlength

/-- A frame up to its extensions. -/
theorem SkyRadioFrame.contents_eq {frame : SkyRadioFrame} {identity : Bytes × Nat}
    (hid : rxIdentity frame = .ok identity) (hraw : frame.length ≤ frame.raw.length)
    (hstart : frame.extensionStart ≤ frame.length) :
    frame.contents = (frame.byte 0 :: identity.1) ++
      (frame.header.store ++ frame.contents.drop frame.extensionStart) := by
  have hsum := SkyRadioFrame.extensionStart_eq hid
  have hbyte : frame.raw.take 1 = [frame.byte 0] := by
    cases hcons : frame.raw with
    | nil =>
        rw [hcons, List.length_nil] at hraw
        omega
    | cons byte rest => simp [SkyRadioFrame.byte, hcons]
  have hheader : frame.header.store =
      (frame.raw.drop (1 + identity.2)).take staticHeaderSize := by
    rw [SkyRadioFrame.header, ← rxIdentity_length hid]
    apply SkyStaticHeader.store_load
    rw [List.length_drop]
    omega
  have hfront : frame.contents.take frame.extensionStart =
      (frame.byte 0 :: identity.1) ++ frame.header.store := by
    calc frame.contents.take frame.extensionStart
      _ = frame.raw.take (1 + identity.2 + staticHeaderSize) := by
        rw [SkyRadioFrame.contents, List.take_take, Nat.min_eq_left hstart, hsum]
      _ = frame.raw.take 1 ++ (frame.raw.drop 1).take identity.2 ++
            (frame.raw.drop (1 + identity.2)).take staticHeaderSize := by
        rw [List.take_add, List.take_add]
      _ = (frame.byte 0 :: identity.1) ++ frame.header.store := by
        rw [hbyte, ← (rxIdentity_ok hid).2.1, hheader]
        rfl
  rw [← List.append_assoc, ← hfront, List.take_append_drop]

theorem startByte_eq_iff (b : UInt8) :
    skylinkFrameVersionByte ||| UInt8.ofNat (b &&& skylinkFrameIdentityMask).toNat = b ↔
      b &&& skylinkFrameVersionMask = skylinkFrameVersionByte := by
  have hall : ∀ n : Fin 256, skylinkFrameVersionByte |||
      UInt8.ofNat (UInt8.ofNat n &&& skylinkFrameIdentityMask).toNat = UInt8.ofNat n ↔
        UInt8.ofNat n &&& skylinkFrameVersionMask = skylinkFrameVersionByte := by
    decide +kernel
  obtain ⟨n, rfl⟩ : ∃ n : Fin 256, UInt8.ofNat n = b :=
    ⟨⟨b.toNat, UInt8.toNat_lt b⟩, UInt8.ofNat_toNat⟩
  exact hall n

/-- The extensions that are found do not depend on how they are found. -/
theorem SkyRadioFrame.ReadsExtensions.not_overrun (hw : ArqSequenceWidth w)
    {frame : SkyRadioFrame} (hraw : frame.length ≤ frame.raw.length) {parsed : SkyParsedFrame}
    (hempty : ∀ t, parsed.slot t = none) {vs : List (ExtValue w)}
    (h : frame.ReadsExtensions parsed.hdr.extensionLength.toNat vs)
    (hlength : parsed.hdr.extensionLength.toNat = (extensionBytes vs).length) :
    ¬frame.ExtensionsOverrun w parsed.hdr.extensionLength.toNat := by
  intro hover
  obtain ⟨us, v, hreads, hgt⟩ := hover.reads hraw
  have hparse := (skyFrameParseExtensionHeaders_ok_iff hw hraw hempty).mpr ⟨vs, h, rfl⟩
  have hparse' := (skyFrameParseExtensionHeaders_ok_iff hw hraw hempty).mpr ⟨_, hreads, rfl⟩
  have hlast := recordExtensions_last us v frame.extensionStart parsed
  rw [← Except.ok.inj (hparse.symm.trans hparse')] at hlast
  rcases recordExtensions_inside vs _ hlast with hold | ⟨-, hend⟩
  · cases (hempty v.type).symm.trans hold
  · rw [extensionBytes_append, List.length_append, extensionBytes_cons, extensionBytes_nil,
      List.append_nil, ExtValue.bytes_length] at hgt
    simp only [ExtValue.parsedAt] at hend
    omega

/-- The rest of a frame follows its extensions if they fill their region. -/
theorem SkyRadioFrame.ReadsExtensions.append_drop_iff {frame : SkyRadioFrame}
    (hraw : frame.length ≤ frame.raw.length) {n : Nat} {vs : List (ExtValue w)}
    (h : frame.ReadsExtensions n vs) :
    extensionBytes vs ++ frame.contents.drop (frame.extensionStart + n) =
        frame.contents.drop frame.extensionStart ↔ n = (extensionBytes vs).length := by
  have hinside := h.inside
  constructor
  · intro heq
    have hlengths := congrArg List.length heq
    rw [List.length_append, List.length_drop, List.length_drop,
      SkyRadioFrame.contents_length hraw] at hlengths
    omega
  · rintro rfl
    obtain ⟨rest, hrest⟩ := h.bytes
    rw [← List.drop_drop, ← hrest, List.drop_left]

end Skylink
