import Skylink.Frame.Codec

/-!
# Writing extensions

What the functions `sky_frame_add_extension_*` have in common: they keep the start of the
frame and the flags, their assertions hold in a frame that is not too long, and the header
counts their bytes.
-/

namespace Skylink

variable {w : Nat}

namespace SkyTransmitFrame

@[simp] theorem length_assert (tx : SkyTransmitFrame) (condition : Bool) :
    (tx.assert condition).length = tx.length := rfl

/-- Every assertion held so far, and there is no payload yet. -/
def Sound (tx : SkyTransmitFrame) : Prop :=
  tx.assertsHold = true ∧ tx.hdr.hasFlag skyFlagHasPayload = false

/-- Extensions of `n` bytes were added. -/
structure Extended (tx tx' : SkyTransmitFrame) (n : Nat) : Prop where
  start : tx'.start = tx.start
  length : tx'.length = tx.length + n
  sound : tx.Sound → tx'.length < skyPayloadMaxLen → tx'.Sound

theorem Extended.refl (tx : SkyTransmitFrame) : tx.Extended tx 0 :=
  ⟨rfl, rfl, fun h _ => h⟩

theorem Extended.trans {tx tx' tx'' : SkyTransmitFrame} {n n' : Nat} (h : tx.Extended tx' n)
    (h' : tx'.Extended tx'' n') : tx.Extended tx'' (n + n') where
  start := h'.start.trans h.start
  length := by rw [h'.length, h.length, Nat.add_assoc]
  sound hsound hlt := by
    have hlen := h'.length
    exact h'.sound (h.sound hsound (by omega)) hlt

theorem extended_setArqOn (tx : SkyTransmitFrame) :
    tx.Extended { tx with hdr := tx.hdr.setFlag skyFlagArqOn } 0 where
  start := rfl
  length := rfl
  sound h _ := ⟨h.1, (SkyStaticHeader.hasFlag_setFlag_of_disjoint _ (by decide)).trans h.2⟩

/-- What the functions `sky_frame_add_extension_*` do, with their assertions. -/
theorem extended_addExtension (tx : SkyTransmitFrame) (type : Nat) (fields : Bytes) {fits : Bool}
    (hfits : tx.length + (1 + fields.length) < skyPayloadMaxLen → fits = true) :
    tx.Extended
      (skyFrameAddExtension type fields
        ((tx.assert (!tx.hdr.hasFlag skyFlagHasPayload)).assert fits)) (1 + fields.length) := by
  have hlength : (skyFrameAddExtension type fields
      ((tx.assert (!tx.hdr.hasFlag skyFlagHasPayload)).assert fits)).length =
        tx.length + (1 + fields.length) := by
    simp [skyFrameAddExtension, SkyTransmitFrame.length, SkyTransmitFrame.assert]
    omega
  refine ⟨rfl, hlength, fun hsound hlt => ⟨?_, hsound.2⟩⟩
  rw [hlength] at hlt
  simp [skyFrameAddExtension, SkyTransmitFrame.assert, hsound.1, hsound.2, hfits hlt]

end SkyTransmitFrame

/-- The function that writes a value. -/
def ExtValue.addTo (tx : SkyTransmitFrame) : ExtValue w → SkyTransmitFrame
  | .arqSequence sequence => skyFrameAddExtensionArqSequence tx sequence
  | .arqRequest sequence mask => skyFrameAddExtensionArqRequest tx sequence mask
  | .arqCtrl txSequence rxSequence => skyFrameAddExtensionArqCtrl tx txSequence rxSequence
  | .arqHandshake stateFlag identifier =>
      skyFrameAddExtensionArqHandshake tx stateFlag identifier
  | .macTddControl window remaining => skyFrameAddExtensionMacTddControl tx window remaining
  | .hmacSequenceReset sequence => skyFrameAddExtensionHmacSequenceReset tx sequence

/-- The extensions are written one after the other. -/
def addExtensions (tx : SkyTransmitFrame) (vs : List (ExtValue w)) : SkyTransmitFrame :=
  vs.foldl ExtValue.addTo tx

/-- A frame that has its identity, and a header that tells of no extension or payload yet. -/
def startOfFrame (identity : Bytes) (flags : UInt8) (frameSequence : UInt16) :
    SkyTransmitFrame :=
  { start := (skylinkFrameVersionByte ||| UInt8.ofNat identity.length) :: identity
    hdr := ⟨flags, frameSequence, 0⟩
    body := []
    assertsHold := true }

theorem startOfFrame_built {identity : Bytes} (hpos : 0 < identity.length)
    (hle : identity.length ≤ skyMaxIdentityLen) (flags : UInt8) (frameSequence : UInt16) :
    (startOfFrame identity flags frameSequence).Built identity ([] : List (ExtValue w)) [] :=
  ⟨rfl, hpos, hle, rfl, rfl, List.nodup_nil⟩

namespace ExtValue

theorem addTo_eq (tx : SkyTransmitFrame) (v : ExtValue w) :
    v.addTo tx = skyFrameAddExtension v.type v.fields
      { tx with assertsHold := (v.addTo tx).assertsHold } := by
  cases v <;> rfl

theorem addTo_extended (tx : SkyTransmitFrame) (v : ExtValue w) :
    tx.Extended (v.addTo tx) v.bytes.length := by
  have hadd (hlt : tx.length + (1 + v.fields.length) < skyPayloadMaxLen) :
      tx.length + 1 + v.fields.length < skyPayloadMaxLen := by omega
  have hsub (hlt : tx.length + (1 + v.fields.length) < skyPayloadMaxLen) :
      tx.length < skyPayloadMaxLen - v.fields.length := by omega
  rw [bytes_length, Nat.add_comm]
  cases v with
  | arqSequence sequence =>
      exact tx.extended_addExtension _ _ fun hlt => decide_eq_true (hadd hlt)
  | arqRequest sequence mask =>
      exact tx.extended_addExtension _ _ fun hlt => decide_eq_true (hadd hlt)
  | arqCtrl txSequence rxSequence =>
      exact tx.extended_addExtension _ _ fun hlt => decide_eq_true (hadd hlt)
  | arqHandshake stateFlag identifier =>
      exact tx.extended_addExtension _ _ fun hlt => decide_eq_true (hadd hlt)
  | macTddControl window remaining =>
      exact tx.extended_addExtension _ _ fun hlt => decide_eq_true (hsub hlt)
  | hmacSequenceReset sequence =>
      exact tx.extended_addExtension _ _ fun hlt => decide_eq_true (hsub hlt)

end ExtValue

theorem addExtensions_append (tx : SkyTransmitFrame) (vs us : List (ExtValue w)) :
    addExtensions tx (vs ++ us) = addExtensions (addExtensions tx vs) us := List.foldl_append

theorem addExtensions_extended (vs : List (ExtValue w)) (tx : SkyTransmitFrame) :
    tx.Extended (addExtensions tx vs) (extensionBytes vs).length := by
  induction vs generalizing tx with
  | nil => exact .refl tx
  | cons v vs ih =>
      rw [extensionBytes_cons, List.length_append]
      exact (v.addTo_extended tx).trans (ih (v.addTo tx))

theorem addExtensions_flags (vs : List (ExtValue w)) (tx : SkyTransmitFrame) :
    (addExtensions tx vs).hdr.flags = tx.hdr.flags ∧
      (addExtensions tx vs).hdr.frameSequence = tx.hdr.frameSequence := by
  induction vs generalizing tx with
  | nil => exact ⟨rfl, rfl⟩
  | cons v vs ih =>
      have hadded : (v.addTo tx).hdr.flags = tx.hdr.flags ∧
          (v.addTo tx).hdr.frameSequence = tx.hdr.frameSequence := by
        cases v <;> exact ⟨rfl, rfl⟩
      have hrest := ih (v.addTo tx)
      exact ⟨hrest.1.trans hadded.1, hrest.2.trans hadded.2⟩

/-- Every extension that is written is of a new type; induction on the extensions. -/
theorem addExtensions_built (hw : w ≤ 56) (vs us : List (ExtValue w)) {tx : SkyTransmitFrame}
    {identity : Bytes} (h : tx.Built identity us [])
    (hnodup : ((us ++ vs).map ExtValue.type).Nodup) :
    (addExtensions tx vs).Built identity (us ++ vs) [] := by
  induction vs generalizing us tx with
  | nil => rwa [List.append_nil]
  | cons v vs ih =>
      have hfresh : v.type ∉ us.map ExtValue.type := by
        rw [List.map_append, List.map_cons] at hnodup
        exact fun hmem => (List.nodup_append.mp hnodup).2.2 _ hmem _ List.mem_cons_self rfl
      have hadded : (v.addTo tx).Built identity (us ++ [v]) [] := by
        have hbuilt : SkyTransmitFrame.Built { tx with assertsHold := (v.addTo tx).assertsHold }
            identity us [] :=
          ⟨h.start, h.identityPos, h.identityLe, h.body, h.extensionLength, h.nodup⟩
        rw [ExtValue.addTo_eq]
        exact hbuilt.add hw v hfresh
      rw [List.append_cons] at hnodup ⊢
      exact ih (us ++ [v]) hadded hnodup

end Skylink
