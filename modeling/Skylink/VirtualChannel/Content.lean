import Skylink.Frame.Codec
import Skylink.VirtualChannel.Model

/-!
# What the frames of a channel say

The content of a frame as far as the virtual channel is concerned, the content that
`sky_vc_fill_frame` writes in each state of the channel, and the content that
`sky_vc_process_frame` finds in the parsed frame.
-/

namespace Skylink

variable {w : Nat}

/-- The handshake carries a state and an identifier in host byte order, the request a
sequence and a mask, the control extension the transmit and the receive head. -/
structure ArqContent (w : Nat) where
  arqOn : Bool
  handshake : Option (UInt8 × UInt32)
  request : Option (BitVec w × UInt16)
  ctrl : Option (BitVec w × BitVec w)
  sequence : Option (BitVec w)
  payload : Option Bytes
deriving DecidableEq, Repr

namespace ArqContent

def nothing : ArqContent w :=
  { arqOn := false, handshake := none, request := none, ctrl := none, sequence := none
    payload := none }

/-- The extension of a type. -/
def extension (c : ArqContent w) : Nat → Option (ExtValue w)
  | 0 => c.sequence.map .arqSequence
  | 1 => c.request.map fun r => .arqRequest r.1 r.2
  | 2 => c.ctrl.map fun s => .arqCtrl s.1 s.2
  | 3 => c.handshake.map fun h => .arqHandshake h.1 h.2
  | _ => none

/-- The extensions in the order in which they are added. -/
def extensions (c : ArqContent w) : List (ExtValue w) :=
  (c.extension 3).toList ++ (c.extension 1).toList ++ (c.extension 2).toList ++
    (c.extension 0).toList

@[simp] theorem extensions_nothing : (nothing : ArqContent w).extensions = [] := rfl

theorem type_of_extension {c : ArqContent w} {t : Nat} {e : ExtValue w}
    (h : c.extension t = some e) : e.type = t ∧ t < 4 := by
  unfold extension at h
  split at h
  case h_5 => cases h
  all_goals
    obtain ⟨s, -, rfl⟩ := Option.map_eq_some_iff.mp h
    exact ⟨rfl, by decide⟩

theorem mem_extensions {c : ArqContent w} {e : ExtValue w} :
    e ∈ c.extensions ↔ c.extension e.type = some e := by
  simp only [extensions, List.mem_append, Option.mem_toList]
  constructor
  · rintro (((h | h) | h) | h) <;> rwa [(type_of_extension h).1]
  · intro h
    obtain ⟨-, hlt⟩ := type_of_extension h
    generalize e.type = t at h hlt
    interval_cases t
    · exact .inr h
    · exact .inl (.inl (.inr h))
    · exact .inl (.inr h)
    · exact .inl (.inl (.inl h))

end ArqContent

/-- A frame of channel `v` whose extensions are those of other parts of the protocol,
followed by those of the content. -/
structure SkyTransmitFrame.Carries (tx : SkyTransmitFrame) (identity : Bytes)
    (others : List (ExtValue w)) (v : Fin skyNumVirtualChannels) (c : ArqContent w) : Prop where
  built : tx.Built identity (others ++ c.extensions) (c.payload.getD [])
  others_le : ∀ e ∈ others, 4 ≤ e.type
  channel : tx.hdr.vc = v
  arqOn : tx.hdr.hasFlag skyFlagArqOn = c.arqOn
  hasPayload : tx.hdr.hasFlag skyFlagHasPayload = c.payload.isSome

namespace SkyTransmitFrame.Carries

variable {tx : SkyTransmitFrame} {identity : Bytes} {others : List (ExtValue w)}
  {v : Fin skyNumVirtualChannels} {c : ArqContent w}

theorem assert (h : tx.Carries identity others v c) (condition : Bool) :
    (tx.assert condition).Carries identity others v c :=
  ⟨h.built.assert condition, h.others_le, h.channel, h.arqOn, h.hasPayload⟩

theorem setArqOn (h : tx.Carries identity others v c) :
    { tx with hdr := tx.hdr.setFlag skyFlagArqOn }.Carries identity others v
      { c with arqOn := true } := by
  refine ⟨h.built.setFlag skyFlagArqOn, h.others_le, ?_, ?_, ?_⟩
  · exact (tx.hdr.vc_setFlag (by decide)).trans h.channel
  · exact tx.hdr.hasFlag_setFlag (by decide)
  · exact (tx.hdr.hasFlag_setFlag_of_disjoint (by decide)).trans h.hasPayload

/-- Neither the other extensions nor those of the content have a type that is free. -/
theorem notMem_types (h : tx.Carries identity others v c) {t : Nat} (ht : t < 4)
    (hfree : c.extension t = none) : t ∉ (others ++ c.extensions).map ExtValue.type := by
  rw [List.mem_map]
  rintro ⟨e, he, rfl⟩
  rcases List.mem_append.mp he with he | he
  · exact absurd (h.others_le e he) (by omega)
  · rw [ArqContent.mem_extensions.mp he] at hfree
    cases hfree

/-- One more extension, of a type that is not there yet. -/
theorem add (hw : w ≤ 56) (h : tx.Carries identity others v c) (hpayload : c.payload = none)
    (e : ExtValue w) {c' : ArqContent w} (hext : c'.extensions = c.extensions ++ [e])
    (hsame : c'.arqOn = c.arqOn ∧ c'.payload = c.payload)
    (hnew : c.extension e.type = none) :
    (skyFrameAddExtension e.type e.fields tx).Carries identity others v c' := by
  have hbuilt := h.built
  rw [hpayload, Option.getD_none] at hbuilt
  have hmem : e ∈ c'.extensions := by simp [hext]
  have hfour := (ArqContent.type_of_extension (ArqContent.mem_extensions.mp hmem)).2
  have hadd := hbuilt.add hw e (h.notMem_types hfour hnew)
  rw [List.append_assoc, ← hext] at hadd
  refine ⟨?_, h.others_le, h.channel, ?_, ?_⟩
  · rwa [hsame.2, hpayload, Option.getD_none]
  · rw [hsame.1]
    exact h.arqOn
  · rw [hsame.2]
    exact h.hasPayload

theorem addHandshake (hw : w ≤ 56) (h : tx.Carries identity others v c)
    (hnone : c.handshake = none ∧ c.request = none ∧ c.ctrl = none ∧ c.sequence = none ∧
      c.payload = none) (state : UInt8) (identifier : UInt32) :
    (skyFrameAddExtensionArqHandshake tx state identifier).Carries identity others v
      { c with handshake := some (state, identifier) } :=
  ((h.assert _).assert _).add hw hnone.2.2.2.2 (.arqHandshake state identifier)
    (by simp [ArqContent.extensions, ArqContent.extension, hnone]) ⟨rfl, rfl⟩
    (Option.map_eq_none_iff.mpr hnone.1)

theorem addRequest (hw : w ≤ 56) (h : tx.Carries identity others v c)
    (hnone : c.request = none ∧ c.ctrl = none ∧ c.sequence = none ∧ c.payload = none)
    (sequence : BitVec w) (mask : UInt16) :
    (skyFrameAddExtensionArqRequest tx sequence mask).Carries identity others v
      { c with request := some (sequence, mask) } :=
  ((h.assert _).assert _).add hw hnone.2.2.2 (.arqRequest sequence mask)
    (by simp [ArqContent.extensions, ArqContent.extension, hnone]) ⟨rfl, rfl⟩
    (Option.map_eq_none_iff.mpr hnone.1)

theorem addCtrl (hw : w ≤ 56) (h : tx.Carries identity others v c)
    (hnone : c.ctrl = none ∧ c.sequence = none ∧ c.payload = none)
    (txSequence rxSequence : BitVec w) :
    (skyFrameAddExtensionArqCtrl tx txSequence rxSequence).Carries identity others v
      { c with ctrl := some (txSequence, rxSequence) } :=
  ((h.assert _).assert _).add hw hnone.2.2 (.arqCtrl txSequence rxSequence)
    (by simp [ArqContent.extensions, ArqContent.extension, hnone]) ⟨rfl, rfl⟩
    (Option.map_eq_none_iff.mpr hnone.1)

theorem addSequence (hw : w ≤ 56) (h : tx.Carries identity others v c)
    (hnone : c.sequence = none ∧ c.payload = none) (sequence : BitVec w) :
    (skyFrameAddExtensionArqSequence tx sequence).Carries identity others v
      { c with sequence := some sequence } :=
  ((h.assert _).assert _).add hw hnone.2 (.arqSequence sequence)
    (by simp [ArqContent.extensions, ArqContent.extension, hnone]) ⟨rfl, rfl⟩
    (Option.map_eq_none_iff.mpr hnone.1)

theorem extend (h : tx.Carries identity others v c) (hpayload : c.payload = none)
    (payload : Bytes) :
    (tx.extend payload).Carries identity others v { c with payload := some payload } := by
  have hbuilt := h.built
  rw [hpayload, Option.getD_none] at hbuilt
  refine ⟨hbuilt.extend payload, h.others_le, ?_, ?_, ?_⟩
  · exact (tx.hdr.vc_setFlag (by decide)).trans h.channel
  · exact (tx.hdr.hasFlag_setFlag_of_disjoint (by decide)).trans h.arqOn
  · exact tx.hdr.hasFlag_setFlag (by decide)

end SkyTransmitFrame.Carries

/-! ## Reading a frame -/

/-- What the functions of the channel read in a parsed frame. The handshake identifier
is read as it lies in memory. -/
structure SkyParsedFrame.Reads (parsed : SkyParsedFrame) (c : ArqContent w) : Prop where
  arqOn : parsed.hdr.hasFlag skyFlagArqOn = c.arqOn
  handshake : parsed.arqHandshake.map SkyHeaderExtension.arqHandshake =
    c.handshake.map fun h => (h.1, skyHton32 h.2)
  request : parsed.arqRequest.map SkyHeaderExtension.arqReq = c.request
  ctrl : parsed.arqCtrl.map SkyHeaderExtension.arqCtrlSequences = c.ctrl
  sequence : parsed.arqSequence.map SkyHeaderExtension.arqSeqSequence = c.sequence
  payloadLen : parsed.payloadLen = (c.payload.getD []).length
  payloadBytes : parsed.payloadBytes = c.payload.getD []

/-- What a reader of the pointer for one type sees, if it undoes what was written. -/
theorem slot_map {parsed : SkyParsedFrame} {c : ArqContent w} (t : Nat) {α β : Type}
    {value : Option α} {make : α → ExtValue w} (see : α → β) (hext : c.extension t = value.map make)
    (read : SkyHeaderExtension → β) (hread : ∀ a offset, read ((make a).parsedAt offset) = see a)
    (hfree : c.extension t = none → parsed.slot t = none)
    (hslot : ∀ e, c.extension t = some e → ∃ offset, parsed.slot t = some (e.parsedAt offset)) :
    (parsed.slot t).map read = value.map see := by
  cases value with
  | none => rw [hfree hext, Option.map_none, Option.map_none]
  | some a =>
      obtain ⟨offset, hsome⟩ := hslot _ hext
      rw [hsome, Option.map_some, Option.map_some, hread]

/-- The receiver reads what the sender wrote. -/
theorem SkyTransmitFrame.Carries.reads {tx : SkyTransmitFrame} {identity : Bytes}
    {others : List (ExtValue w)} {v : Fin skyNumVirtualChannels} {c : ArqContent w}
    (hw : w ≤ 56) (h8 : 8 ∣ w) (h : tx.Carries identity others v c) :
    ∃ parsed, rxHeader w tx.frame (identity, identity.length) = .ok parsed ∧
      parsed.hdr = tx.hdr ∧ parsed.Reads c := by
  obtain ⟨parsed, hparsed, hhdr, hlen, ⟨rest, hbytes⟩, hslots, hnone⟩ := h.built.rxHeader hw
  have hpayload : parsed.payloadLen = (c.payload.getD []).length := by
    rw [hlen, h.hasPayload]
    cases c.payload <;> rfl
  have hfree : ∀ t, t < 4 → c.extension t = none → parsed.slot t = none :=
    fun t ht hc => hnone t (h.notMem_types ht hc)
  have hslot : ∀ t e, c.extension t = some e →
      ∃ offset, parsed.slot t = some (e.parsedAt offset) := by
    intro t e he
    obtain ⟨rfl, -⟩ := ArqContent.type_of_extension he
    exact hslots e (List.mem_append_right _ (ArqContent.mem_extensions.mpr he))
  refine ⟨parsed, hparsed, hhdr, hhdr ▸ h.arqOn, ?_, ?_, ?_, ?_, hpayload, ?_⟩
  · refine slot_map 3 _ rfl _ (fun a offset => ?_) (hfree 3 (by decide)) (hslot 3)
    simp [SkyHeaderExtension.arqHandshake, ExtValue.parsedAt, ExtValue.fields,
      loadU32_storeU32]
    rfl
  · have hread := slot_map 1 id rfl SkyHeaderExtension.arqReq (fun a offset => ?_)
      (hfree 1 (by decide)) (hslot 1)
    · rwa [Option.map_id] at hread
    · simp [SkyHeaderExtension.arqReq, ExtValue.parsedAt, ExtValue.fields,
        skyArqSeqNtoh_hton_append h8, loadU16_storeU16, skyNtoh16, skyHton16_hton16]
  · have hread := slot_map 2 id rfl SkyHeaderExtension.arqCtrlSequences (fun a offset => ?_)
      (hfree 2 (by decide)) (hslot 2)
    · rwa [Option.map_id] at hread
    · simp [SkyHeaderExtension.arqCtrlSequences, ExtValue.parsedAt, ExtValue.fields,
        skyArqSeqNtoh_hton_append h8, skyArqSeqNtoh_hton h8]
  · have hread := slot_map 0 id rfl SkyHeaderExtension.arqSeqSequence (fun a offset => ?_)
      (hfree 0 (by decide)) (hslot 0)
    · rwa [Option.map_id] at hread
    · simp [SkyHeaderExtension.arqSeqSequence, ExtValue.parsedAt, ExtValue.fields,
        skyArqSeqNtoh_hton h8]
  · rw [SkyParsedFrame.payloadBytes, hpayload, hbytes, List.take_left]

/-! ## Filling a frame -/

/-- How the payload of a connected channel is chosen: nothing is due, or what is due
cannot be peeked at, or it is read and either written or discarded. -/
inductive PayloadFilled (vc vc' : SkyVirtualChannel w) (c : ArqContent w) (ret : SkyRet) : Prop
  | idle (hdue : sendRingCountPacketsToSend vc.sendRing true = 0)
      (hring : vc'.sendRing = vc.sendRing) (hseq : c.sequence = none)
      (hpayload : c.payload = none) (hret : 0 ≤ ret)
  | failed (hdue : 0 < sendRingCountPacketsToSend vc.sendRing true)
      (hpeek : sendRingPeekNextTxSizeAndSequence vc.sendRing vc.elementBuffer true = .error ret)
      (hring : vc'.sendRing = vc.sendRing) (hseq : c.sequence = none)
      (hpayload : c.payload = none)
  | written (hdue : 0 < sendRingCountPacketsToSend vc.sendRing true) (length : Nat)
      (sequence : BitVec w)
      (hpeek : sendRingPeekNextTxSizeAndSequence vc.sendRing vc.elementBuffer true =
        .ok (length, sequence))
      (hring : vc'.sendRing = (sendRingReadToTx vc.sendRing vc.elementBuffer true).1)
      (hseq : c.sequence = some sequence)
      (hpayload : c.payload = some
        (match (sendRingReadToTx vc.sendRing vc.elementBuffer true).2 with
          | .ok (read, _) => read
          | .error _ => []))
      (hret : ret = 1)
  | discarded (hdue : 0 < sendRingCountPacketsToSend vc.sendRing true) (length : Nat)
      (sequence : BitVec w)
      (hpeek : sendRingPeekNextTxSizeAndSequence vc.sendRing vc.elementBuffer true =
        .ok (length, sequence))
      (hring : vc'.sendRing = (sendRingReadToTx vc.sendRing vc.elementBuffer true).1)
      (hseq : c.sequence = none) (hpayload : c.payload = none)
      (hret : ret = .noSpaceForPayload)

/-- What `sky_vc_fill_frame` does to a connected channel, and what it writes. -/
structure FilledOn (vc vc' : SkyVirtualChannel w) (c : ArqContent w) (ret : SkyRet) : Prop where
  arqOn : c.arqOn = true
  handshake : c.handshake =
    if 0 < vc.handshakeSend then some (ArqState.on.toByte, vc.arqSessionIdentifier) else none
  ctrl : ∀ s, c.ctrl = some s → s = (vc.sendRing.txSequence, vc.rcvRing.headSequence)
  arqStateFlag : vc'.arqStateFlag = vc.arqStateFlag
  arqSessionIdentifier : vc'.arqSessionIdentifier = vc.arqSessionIdentifier
  rcvRing : vc'.rcvRing = vc.rcvRing
  elementBuffer : vc'.elementBuffer = vc.elementBuffer
  payload : PayloadFilled vc vc' c ret

/-- The condition for a retransmit request. -/
def SkyVirtualChannel.requestDue (vc : SkyVirtualChannel w) (config : SkyConfig)
    (frames : UInt16) : Bool :=
  idleFramesLeft config frames && (rcvRingGetHorizonBitmap vc.rcvRing != 0 || vc.needRecall != 0)

section FillOn

variable (vc : SkyVirtualChannel w) {tx : SkyTransmitFrame} {identity : Bytes}
  {others : List (ExtValue w)} {v : Fin skyNumVirtualChannels} {c : ArqContent w}
  (config : SkyConfig) (now : Int) (frames : UInt16) (ret : SkyRet)

theorem fillHandshake_carries (hw : w ≤ 56) (h : tx.Carries identity others v c)
    (hnone : c.handshake = none ∧ c.request = none ∧ c.ctrl = none ∧ c.sequence = none ∧
      c.payload = none) :
    ∃ vc' tx' ret', fillHandshake vc tx ret = (vc', tx', ret') ∧
      tx'.Carries identity others v
        { c with handshake :=
            if 0 < vc.handshakeSend then
              some (ArqState.on.toByte, vc.arqSessionIdentifier)
            else c.handshake } ∧
      vc' = { vc with handshakeSend := vc'.handshakeSend } ∧ (0 ≤ ret → 0 ≤ ret') := by
  rw [fillHandshake]
  by_cases hsend : 0 < vc.handshakeSend
  · rw [if_pos hsend, if_pos hsend]
    exact ⟨_, _, _, rfl, h.addHandshake hw hnone _ _, rfl, fun _ => by decide⟩
  · rw [if_neg hsend, if_neg hsend]
    exact ⟨_, _, _, rfl, h, rfl, id⟩

theorem fillRequest_carries (hw : w ≤ 56) (h : tx.Carries identity others v c)
    (hnone : c.request = none ∧ c.ctrl = none ∧ c.sequence = none ∧ c.payload = none) :
    ∃ vc' tx' ret' request, fillRequest vc config tx frames ret = (vc', tx', ret') ∧
      tx'.Carries identity others v { c with request := request } ∧
      vc' = { vc with needRecall := vc'.needRecall } ∧ (0 ≤ ret → 0 ≤ ret') := by
  rw [fillRequest]
  split
  · exact ⟨_, _, _, _, rfl, h.addRequest hw hnone _ _, rfl, fun _ => by decide⟩
  · exact ⟨_, _, _, c.request, rfl, h, rfl, id⟩

theorem fillCtrl_carries (hw : w ≤ 56) (h : tx.Carries identity others v c)
    (hnone : c.ctrl = none ∧ c.sequence = none ∧ c.payload = none) :
    ∃ vc' tx' ret' ctrl, fillCtrl vc config tx now frames ret = (vc', tx', ret') ∧
      tx'.Carries identity others v { c with ctrl := ctrl } ∧
      (∀ s, ctrl = some s → s = (vc.sendRing.txSequence, vc.rcvRing.headSequence)) ∧
      vc' = { vc with
        lastCtrlSendTick := vc'.lastCtrlSendTick
        unconfirmedPayloads := vc'.unconfirmedPayloads } ∧ (0 ≤ ret → 0 ≤ ret') := by
  rw [fillCtrl]
  split
  · refine ⟨_, _, _, _, rfl, h.addCtrl hw hnone _ _, fun s hs => ?_, rfl, fun _ => by decide⟩
    cases hs
    rfl
  · refine ⟨_, _, _, c.ctrl, rfl, h, fun s hs => ?_, rfl, id⟩
    rw [hnone.1] at hs
    cases hs

theorem fillPayload_carries (hw : w ≤ 56) (h : tx.Carries identity others v c)
    (hnone : c.sequence = none ∧ c.payload = none) (hret : 0 ≤ ret) :
    ∃ vc' tx' ret' sequence payload, fillPayload vc tx ret = (vc', tx', ret') ∧
      tx'.Carries identity others v { c with sequence := sequence, payload := payload } ∧
      vc' = { vc with sendRing := vc'.sendRing } ∧
      PayloadFilled vc vc' { c with sequence := sequence, payload := payload } ret' := by
  have hsame : { c with sequence := none, payload := none } = c := by
    cases c
    simp_all
  rw [fillPayload]
  by_cases hdue : 0 < sendRingCountPacketsToSend vc.sendRing true
  · rw [if_pos hdue]
    cases hpeek : sendRingPeekNextTxSizeAndSequence vc.sendRing vc.elementBuffer true with
    | error e =>
        exact ⟨_, _, _, none, none, rfl, by rwa [hsame], rfl, .failed hdue hpeek rfl rfl rfl⟩
    | ok peeked =>
        obtain ⟨length, sequence⟩ := peeked
        dsimp only
        split
        · have hseq := h.addSequence hw hnone sequence
          cases hread : (sendRingReadToTx vc.sendRing vc.elementBuffer true).2 with
          | ok read =>
              refine ⟨_, _, _, some sequence, some read.1, rfl, hseq.extend hnone.2 _, rfl,
                .written hdue length sequence hpeek rfl rfl ?_ rfl⟩
              rw [hread]
          | error e =>
              refine ⟨_, _, _, some sequence, some [], rfl,
                (hseq.assert false).extend hnone.2 _, rfl,
                .written hdue length sequence hpeek rfl rfl ?_ rfl⟩
              rw [hread]
        · exact ⟨_, _, _, none, none, rfl, by rwa [hsame], rfl,
            .discarded hdue length sequence hpeek rfl rfl rfl rfl⟩
  · rw [if_neg hdue]
    exact ⟨_, _, _, none, none, rfl, by rwa [hsame], rfl,
      .idle (Nat.eq_zero_of_not_pos hdue) rfl rfl rfl hret⟩

/-- A connected channel announces its session as often as it owes a handshake, its
heads, and at most one payload under its sequence. -/
theorem fillFrameOn_carries (hw : w ≤ 56) (h : tx.Carries identity others v .nothing) :
    ∃ vc' tx' ret' c, fillFrameOn vc config tx now frames = (vc', tx', ret') ∧
      tx'.Carries identity others v c ∧ FilledOn vc vc' c ret' ∧
      vc'.handshakeSend =
        if 0 < vc.handshakeSend then vc.handshakeSend - 1 else vc.handshakeSend := by
  rw [fillFrameOn]
  dsimp only
  obtain ⟨vc₁, tx₁, ret₁, heq₁, hc₁, hvc₁, hret₁⟩ :=
    fillHandshake_carries vc 0 hw h.setArqOn ⟨rfl, rfl, rfl, rfl, rfl⟩
  have hsend : vc₁.handshakeSend =
      if 0 < vc.handshakeSend then vc.handshakeSend - 1 else vc.handshakeSend := by
    have := congrArg (fun r => r.1.handshakeSend) heq₁
    rw [← this, fillHandshake]
    split <;> rfl
  rw [heq₁]
  dsimp only
  obtain ⟨vc₂, tx₂, ret₂, request, heq₂, hc₂, hvc₂, hret₂⟩ :=
    fillRequest_carries vc₁ config frames ret₁ hw hc₁ ⟨rfl, rfl, rfl, rfl⟩
  rw [heq₂]
  dsimp only
  obtain ⟨vc₃, tx₃, ret₃, ctrl, heq₃, hc₃, hctrl, hvc₃, hret₃⟩ :=
    fillCtrl_carries vc₂ config now frames ret₂ hw hc₂ ⟨rfl, rfl, rfl⟩
  rw [heq₃]
  dsimp only
  obtain ⟨vc₄, tx₄, ret₄, sequence, payload, heq₄, hc₄, hvc₄, hfilled⟩ :=
    fillPayload_carries vc₃ ret₃ hw hc₃ ⟨rfl, rfl⟩
      (hret₃ (hret₂ (hret₁ le_rfl)))
  rw [heq₄]
  have hring : vc₃.sendRing = vc.sendRing ∧ vc₃.rcvRing = vc.rcvRing ∧
      vc₃.elementBuffer = vc.elementBuffer := by
    rw [hvc₃, hvc₂, hvc₁]
    exact ⟨rfl, rfl, rfl⟩
  have hring₂ : vc₂.sendRing = vc.sendRing ∧ vc₂.rcvRing = vc.rcvRing := by
    rw [hvc₂, hvc₁]
    exact ⟨rfl, rfl⟩
  refine ⟨vc₄, tx₄, ret₄, _, rfl, hc₄, ⟨rfl, rfl, fun s hs => ?_, ?_, ?_, ?_, ?_, ?_⟩, ?_⟩
  · rw [hctrl s hs, hring₂.1, hring₂.2]
  · rw [hvc₄, hvc₃, hvc₂, hvc₁]
  · rw [hvc₄, hvc₃, hvc₂, hvc₁]
  · rw [hvc₄]
    exact hring.2.1
  · rw [hvc₄]
    exact hring.2.2
  · cases hfilled with
    | idle hdue hring' hseq hpayload hret =>
        rw [hring.1] at hdue hring'
        exact .idle hdue hring' hseq hpayload hret
    | failed hdue hpeek hring' hseq hpayload =>
        rw [hring.1] at hdue hring' hpeek
        rw [hring.2.2] at hpeek
        exact .failed hdue hpeek hring' hseq hpayload
    | written hdue length sequence hpeek hring' hseq hpayload hret =>
        rw [hring.1] at hdue
        rw [hring.1, hring.2.2] at hpeek hring' hpayload
        exact .written hdue length sequence hpeek hring' hseq hpayload hret
    | discarded hdue length sequence hpeek hring' hseq hpayload hret =>
        rw [hring.1] at hdue
        rw [hring.1, hring.2.2] at hpeek hring'
        exact .discarded hdue length sequence hpeek hring' hseq hpayload hret
  · rw [hvc₄, hvc₃, hvc₂]
    exact hsend

end FillOn

end Skylink
