import Skylink.Frame.Encoding
import Skylink.Node.Model
import Skylink.VirtualChannel.Runs

/-!
# What is announced and what is filled

`sky_vc_content_to_send` decides whether a frame is worth building, and
`sky_vc_fill_frame` builds it. They disagree where the next packet is empty, where the
only entry left in the resend list is out of date, and with 16-bit sequence numbers
where the packet does not fit next to the extensions.
-/

namespace Skylink

open SerialNumber

variable {w : Nat}

section Fill

variable (vc : SkyVirtualChannel w) (config : SkyConfig) (tx : SkyTransmitFrame) (now : Int)
  (frames : UInt16) (ret : SkyRet)

/-- The condition for a control extension. -/
def SkyVirtualChannel.ctrlDue : Bool :=
  (idleFramesLeft config frames && idleControlDue vc config now) ||
    decide (0 < sendRingCountPacketsToSend vc.sendRing true)

/-- The length of the extensions that a connected channel puts before a payload. -/
def SkyVirtualChannel.extensionsLength : Nat :=
  (if 0 < vc.handshakeSend then 6 else 0) +
    (if vc.requestDue config frames then 1 + (w / 8 + 2) else 0) +
    (if vc.ctrlDue config now frames then 1 + (w / 8 + w / 8) else 0)

/-- The channel when its extensions are in the frame. -/
def SkyVirtualChannel.controlFilled : SkyVirtualChannel w :=
  { vc with
    handshakeSend := if 0 < vc.handshakeSend then vc.handshakeSend - 1 else vc.handshakeSend
    needRecall := if vc.requestDue config frames then 0 else vc.needRecall
    lastCtrlSendTick := if vc.ctrlDue config now frames then now else vc.lastCtrlSendTick
    unconfirmedPayloads :=
      if vc.ctrlDue config now frames then 0 else vc.unconfirmedPayloads }

/-- The extensions that a connected channel puts before a payload. -/
def SkyVirtualChannel.pendingExtensions : List (ExtValue w) :=
  (if 0 < vc.handshakeSend then
      [.arqHandshake ArqState.on.toByte vc.arqSessionIdentifier] else []) ++
    ((if vc.requestDue config frames then
        [.arqRequest vc.rcvRing.headSequence (rcvRingGetHorizonBitmap vc.rcvRing)] else []) ++
      (if vc.ctrlDue config now frames then
        [.arqCtrl vc.sendRing.txSequence vc.rcvRing.headSequence] else []))

theorem pendingExtensions_length :
    (extensionBytes (vc.pendingExtensions config now frames)).length =
      vc.extensionsLength config now frames := by
  rw [SkyVirtualChannel.pendingExtensions, SkyVirtualChannel.extensionsLength]
  split_ifs <;> simp [ExtValue.fields] <;> omega

theorem fillHandshake_eq :
    fillHandshake vc tx ret =
      ({ vc with
          handshakeSend :=
            if 0 < vc.handshakeSend then vc.handshakeSend - 1 else vc.handshakeSend },
        addExtensions tx (if 0 < vc.handshakeSend then
          [ExtValue.arqHandshake (w := w) ArqState.on.toByte vc.arqSessionIdentifier] else []),
        if 0 < vc.handshakeSend then 1 else ret) := by
  rw [fillHandshake]
  split_ifs <;> rfl

theorem fillRequest_eq :
    fillRequest vc config tx frames ret =
      ({ vc with needRecall := if vc.requestDue config frames then 0 else vc.needRecall },
        addExtensions tx (if vc.requestDue config frames then
          [.arqRequest vc.rcvRing.headSequence (rcvRingGetHorizonBitmap vc.rcvRing)] else []),
        if vc.requestDue config frames then 1 else ret) := by
  have hfill : fillRequest vc config tx frames ret =
      if vc.requestDue config frames then
        ({ vc with needRecall := 0 },
          skyFrameAddExtensionArqRequest tx vc.rcvRing.headSequence
            (rcvRingGetHorizonBitmap vc.rcvRing), 1)
      else (vc, tx, ret) := rfl
  rw [hfill]
  split_ifs <;> rfl

theorem fillCtrl_eq :
    fillCtrl vc config tx now frames ret =
      ({ vc with
          lastCtrlSendTick := if vc.ctrlDue config now frames then now else vc.lastCtrlSendTick
          unconfirmedPayloads :=
            if vc.ctrlDue config now frames then 0 else vc.unconfirmedPayloads },
        addExtensions tx (if vc.ctrlDue config now frames then
          [.arqCtrl vc.sendRing.txSequence vc.rcvRing.headSequence] else []),
        if vc.ctrlDue config now frames then 1 else ret) := by
  have hfill : fillCtrl vc config tx now frames ret =
      if vc.ctrlDue config now frames then
        ({ vc with lastCtrlSendTick := now, unconfirmedPayloads := 0 },
          skyFrameAddExtensionArqCtrl tx vc.sendRing.txSequence vc.rcvRing.headSequence, 1)
      else (vc, tx, ret) := rfl
  rw [hfill]
  split_ifs <;> rfl

/-- The return code for the payload part. -/
theorem fillPayload_ret : (fillPayload vc tx ret).2.2 =
    if 0 < sendRingCountPacketsToSend vc.sendRing true then
      match sendRingPeekNextTxSizeAndSequence vc.sendRing vc.elementBuffer true with
      | .error packetLength => packetLength
      | .ok (packetLength, _) =>
          if (packetLength + (w / 8 : Nat) + 1 : Int) ≤ skyFrameGetSpaceLeft tx.length then 1
          else .noSpaceForPayload
    else ret := by
  rw [fillPayload]
  by_cases hdue : 0 < sendRingCountPacketsToSend vc.sendRing true
  · rw [if_pos hdue, if_pos hdue]
    cases sendRingPeekNextTxSizeAndSequence vc.sendRing vc.elementBuffer true with
    | error packetLength => rfl
    | ok peeked =>
        dsimp only
        split
        · cases (sendRingReadToTx vc.sendRing vc.elementBuffer true).2 <;> rfl
        · rfl
  · rw [if_neg hdue, if_neg hdue]

/-- A connected channel fills in its extensions and then its payload. -/
theorem fillFrameOn_pending :
    fillFrameOn vc config tx now frames = fillPayload (vc.controlFilled config now frames)
      (addExtensions { tx with hdr := tx.hdr.setFlag skyFlagArqOn }
        (vc.pendingExtensions config now frames))
      (if vc.ctrlDue config now frames then 1
        else if vc.requestDue config frames then 1
        else if 0 < vc.handshakeSend then 1 else 0) := by
  have hsplit : addExtensions { tx with hdr := tx.hdr.setFlag skyFlagArqOn }
      (vc.pendingExtensions config now frames) =
        addExtensions (addExtensions (addExtensions
          { tx with hdr := tx.hdr.setFlag skyFlagArqOn } (if 0 < vc.handshakeSend then
            [ExtValue.arqHandshake (w := w) ArqState.on.toByte vc.arqSessionIdentifier] else []))
          (if vc.requestDue config frames then
            [.arqRequest vc.rcvRing.headSequence (rcvRingGetHorizonBitmap vc.rcvRing)] else []))
          (if vc.ctrlDue config now frames then
            [.arqCtrl vc.sendRing.txSequence vc.rcvRing.headSequence] else []) := by
    rw [SkyVirtualChannel.pendingExtensions, addExtensions_append, addExtensions_append]
  rw [hsplit, fillFrameOn, fillHandshake_eq]
  dsimp only
  rw [fillRequest_eq]
  dsimp only
  rw [fillCtrl_eq]
  rfl

theorem fillFrameOn_eq : ∃ tx',
    fillFrameOn vc config tx now frames = fillPayload (vc.controlFilled config now frames) tx'
        (if vc.ctrlDue config now frames then 1
          else if vc.requestDue config frames then 1
          else if 0 < vc.handshakeSend then 1 else 0) ∧
      tx.Extended tx' (vc.extensionsLength config now frames) := by
  refine ⟨_, fillFrameOn_pending vc config tx now frames, ?_⟩
  have hall := tx.extended_setArqOn.trans (addExtensions_extended
    (vc.pendingExtensions config now frames) { tx with hdr := tx.hdr.setFlag skyFlagArqOn })
  rwa [Nat.zero_add, pendingExtensions_length] at hall

/-- The return code of `sky_vc_fill_frame` for a connected channel. -/
theorem fillFrameOn_ret : (fillFrameOn vc config tx now frames).2.2 =
    if 0 < sendRingCountPacketsToSend vc.sendRing true then
      match sendRingPeekNextTxSizeAndSequence vc.sendRing vc.elementBuffer true with
      | .error packetLength => packetLength
      | .ok (packetLength, _) =>
          if (packetLength + (w / 8 : Nat) + 1 : Int) ≤
              skyFrameGetSpaceLeft (tx.length + vc.extensionsLength config now frames) then 1
          else .noSpaceForPayload
    else if vc.ctrlDue config now frames then 1
    else if vc.requestDue config frames then 1
    else if 0 < vc.handshakeSend then 1 else 0 := by
  obtain ⟨tx', heq, hext⟩ := fillFrameOn_eq vc config tx now frames
  rw [heq, fillPayload_ret, hext.length]
  rfl

theorem contentToSend_on (hstate : vc.arqStateFlag = .on) :
    skyVcContentToSend vc config now frames =
      (vc.ctrlDue config now frames || vc.requestDue config frames ||
        decide (0 < vc.handshakeSend)) := by
  have hhandshake : vc.handshakeSend ≠ 0 ↔ 0 < vc.handshakeSend := UInt8.pos_iff_ne_zero.symm
  simp only [skyVcContentToSend, hstate, hhandshake, SkyVirtualChannel.ctrlDue,
    SkyVirtualChannel.requestDue]
  split_ifs <;> simp_all

end Fill

/-! ## The next packet -/

/-- Something due is new, or stands first in the resend list and can be recalled. -/
def SkySendRing.Servable (r : SkySendRing w) : Prop :=
  0 < r.resendCount → 0 < sendRingCountPacketsToSend r false ∨
    sendRingCanRecall r (r.resendList.getD 0 0)

/-- The item of the packet that a connected channel sends next. -/
def SkySendRing.nextItem (r : SkySendRing w) : RingItem w :=
  if 0 < r.resendCount then
    match sendRingGetRecallRingIndex r (r.resendList.getD 0 0) with
    | .ok idx => r.item idx
    | .error _ => r.item r.txHead
  else r.item r.txHead

namespace SendRep

variable {r : SkySendRing w} {start : BitVec w} {tail tx head : Nat} {payload : Nat → Bytes}
  {m : Nat → Option Bytes} {eb : SkyElementBuffer}

theorem getDataLength_item (h : SendRep r start tail tx head payload m) (hstores : Stores eb m)
    {u : Nat} (hu : tail ≤ u) (hu' : u < head) :
    skyElementBufferGetDataLength eb (r.item (u % r.length)).idx = .ok (payload u).length :=
  hstores.getDataLength (h.stored hu hu').2.2

theorem peekNew (h : SendRep r start tail tx head payload m) (hstores : Stores eb m)
    (hlt : tx < head) :
    ∃ packetLength sequence, sendRingPeekNew r eb = .ok (packetLength, sequence) ∧
      skyElementBufferGetDataLength eb (r.item r.txHead).idx = .ok packetLength ∧
      packetLength ≤ skyPayloadMaxLen := by
  obtain ⟨-, -, hpeek, -, -⟩ := h.readNew hstores hlt
  have hlength := h.getDataLength_item hstores h.tail_le_tx hlt
  rw [← h.txIdx] at hlength
  exact ⟨_, _, hpeek, hlength, h.payloadLe tx h.tail_le_tx hlt⟩

/-- A new packet, or a first entry of the resend list that the tail has not passed, can
be peeked at. -/
theorem peekDue (h : SendRep r start tail tx head payload m) (hstores : Stores eb m)
    (hdue : 0 < sendRingCountPacketsToSend r true)
    (hserve : r.Servable) :
    ∃ packetLength sequence,
      sendRingPeekNextTxSizeAndSequence r eb true = .ok (packetLength, sequence) ∧
      skyElementBufferGetDataLength eb r.nextItem.idx = .ok packetLength ∧
      packetLength ≤ skyPayloadMaxLen := by
  have htail := h.tail_le_tx
  have hall := h.countAll
  have hnew := h.countNew
  rw [sendRingPeekNextTxSizeAndSequence, if_neg (by omega), SkySendRing.nextItem]
  by_cases hpos : 0 < r.resendCount
  · rw [if_pos ⟨rfl, hpos⟩, if_pos hpos, h.recallIndex]
    by_cases hlt : tail + (r.resendList.getD 0 0 - r.tailSequence).toNat < tx
    · have hu := lt_of_lt_of_le hlt h.tx_le_head
      rw [if_pos hlt]
      exact ⟨_, _, h.peekStored hstores (Nat.le_add_right _ _) hu,
        h.getDataLength_item hstores (Nat.le_add_right _ _) hu,
        h.payloadLe _ (Nat.le_add_right _ _) hu⟩
    · have hnext := (hserve hpos).resolve_right fun hrecall =>
        hlt ((h.canRecall_iff _).mp hrecall)
      rw [if_neg hlt]
      exact h.peekNew hstores (by omega)
  · rw [if_neg fun hresend => hpos hresend.2, if_neg hpos]
    exact h.peekNew hstores (by omega)

/-- The only entry of the resend list is out of date. -/
theorem peekStale (h : SendRep r start tail tx head payload m) (eb : SkyElementBuffer)
    (hserve : ¬r.Servable) :
    sendRingPeekNextTxSizeAndSequence r eb true = .error .ringEmpty := by
  rw [SkySendRing.Servable, Classical.not_imp, not_or, not_lt, Nat.le_zero] at hserve
  obtain ⟨hpos, hnew, hstale⟩ := hserve
  have hall := h.countAll
  have hlt : ¬tail + (r.resendList.getD 0 0 - r.tailSequence).toNat < tx := fun hlt =>
    hstale ((h.canRecall_iff _).mpr hlt)
  rw [sendRingPeekNextTxSizeAndSequence, if_neg (by omega), if_pos ⟨rfl, hpos⟩, h.recallIndex,
    if_neg hlt]
  exact (if_pos hnew :)

end SendRep

/-! ## Agreement -/

/-- The frame that `sky_tx` hands to a channel, with every extension it can have so far. -/
def startedFrame (config : SkyConfig) (mac : SkyMAC) (v : Fin skyNumVirtualChannels) (now : Int)
    (sequence : UInt16) : SkyTransmitFrame :=
  skyFrameAddExtensionHmacSequenceReset
    (macSetFrameFields config.mac mac (skyTxStartFrame config v) now) sequence

theorem macSetFrameFields_extended (config : SkyMACConfig) (mac : SkyMAC)
    (tx : SkyTransmitFrame) (now : Int) : tx.Extended (macSetFrameFields config mac tx now) 5 :=
  tx.extended_addExtension _ _ fun hlt => decide_eq_true <| by
    simp only [SkyTransmitFrame.length_assert, List.length_append, storeU16_length,
      skyPayloadMaxLen] at hlt ⊢
    omega

theorem hmacSequenceReset_extended (tx : SkyTransmitFrame) (sequence : UInt16) :
    tx.Extended (skyFrameAddExtensionHmacSequenceReset tx sequence) 3 :=
  tx.extended_addExtension _ _ fun hlt => decide_eq_true <| by
    simp only [SkyTransmitFrame.length_assert, storeU16_length, skyPayloadMaxLen] at hlt ⊢
    omega

theorem skyTxStartFrame_length {config : SkyConfig} (hle : config.identityLen ≤ skyMaxIdentityLen)
    (v : Fin skyNumVirtualChannels) :
    (skyTxStartFrame config v).length = 5 + config.identityLen := by
  simp [skyTxStartFrame, SkyTransmitFrame.length, config.identity_length, staticHeaderSize]
  omega

theorem startedFrame_length {config : SkyConfig}
    (hidentity : config.identityLen = skyMaxIdentityLen)
    (mac : SkyMAC) (v : Fin skyNumVirtualChannels) (now : Int) (sequence : UInt16) :
    (startedFrame config mac v now sequence).length = 20 := by
  rw [startedFrame, (hmacSequenceReset_extended _ _).length,
    (macSetFrameFields_extended _ _ _ _).length, skyTxStartFrame_length hidentity.le, hidentity]
  rfl

namespace SkyVirtualChannel

/-- A frame is filled exactly where content is announced, and filling never fails. -/
def FillsWhatIsAnnounced (vc : SkyVirtualChannel w) (config : SkyConfig) (tx : SkyTransmitFrame)
    (now : Int) (frames : UInt16) : Prop :=
  (skyVcContentToSend vc config now frames = true ↔
      (skyVcFillFrame vc config tx now frames).2.2 = 1) ∧
    0 ≤ (skyVcFillFrame vc config tx now frames).2.2

instance decidableFillsWhatIsAnnounced (vc : SkyVirtualChannel w) (config : SkyConfig)
    (tx : SkyTransmitFrame) (now : Int) (frames : UInt16) :
    Decidable (vc.FillsWhatIsAnnounced config tx now frames) :=
  inferInstanceAs (Decidable (_ ∧ _))

/-- A packet of full length is due together with a handshake and a retransmit request, and
sequence numbers have 16 bits. -/
def Crowded (vc : SkyVirtualChannel w) (config : SkyConfig) (frames : UInt16) : Prop :=
  w = 16 ∧ 0 < sendRingCountPacketsToSend vc.sendRing true ∧
    skyElementBufferGetDataLength vc.elementBuffer vc.sendRing.nextItem.idx =
      .ok skyPayloadMaxLen ∧
    0 < vc.handshakeSend ∧ vc.requestDue config frames

/-- The next packet of a disconnected channel is not empty. A connected channel has more to
send than one entry of the resend list that is out of date, and it has room for it. -/
def Fillable (vc : SkyVirtualChannel w) (config : SkyConfig) (frames : UInt16) : Prop :=
  match vc.arqStateFlag with
  | .off =>
      0 < sendRingCountPacketsToSend vc.sendRing false →
        skyElementBufferGetDataLength vc.elementBuffer
          (vc.sendRing.item vc.sendRing.txHead).idx ≠ .ok 0
  | .inInit => True
  | .on => vc.sendRing.Servable ∧ ¬vc.Crowded config frames

end SkyVirtualChannel

namespace VcRep

variable {vc : SkyVirtualChannel w} {v : VcView} {config : SkyConfig} {tx : SkyTransmitFrame}
  {frames : UInt16}

theorem agrees_off (h : VcRep vc v) (hstate : vc.arqStateFlag = .off) (now : Int) :
    vc.FillsWhatIsAnnounced config tx now frames ↔ vc.Fillable config frames := by
  have hcount := h.countNew
  rw [SkyVirtualChannel.FillsWhatIsAnnounced, SkyVirtualChannel.Fillable, skyVcContentToSend,
    skyVcFillFrame]
  simp only [hstate, decide_eq_true_eq]
  rcases Nat.lt_or_ge v.sendTx v.sendHead with hlt | hge
  · have hdue : 0 < sendRingCountPacketsToSend vc.sendRing false := by omega
    obtain ⟨vc', hread, -⟩ := h.readMonotonic hlt
    obtain ⟨m, hm⟩ := h
    obtain ⟨packetLength, sequence, hpeek, hlength, -⟩ := hm.send.peekNew hm.pool.stores hlt
    have hnext : sendRingPeekNextTxSizeAndSequence vc.sendRing vc.elementBuffer false =
        .ok (packetLength, sequence) := by
      rw [sendRingPeekNextTxSizeAndSequence, if_neg (by omega), if_neg (by simp), hpeek]
    rw [Skylink.fillFrameOff, hnext, hlength]
    dsimp only
    by_cases hpos : 0 < packetLength
    · rw [if_pos hpos, hread]
      simp [hdue, hpos.ne']
    · have hzero : packetLength = 0 := by omega
      rw [if_neg hpos]
      simp [hdue, hzero]
  · have hidle : sendRingCountPacketsToSend vc.sendRing false = 0 := by omega
    rw [Skylink.fillFrameOff, sendRingPeekNextTxSizeAndSequence, if_pos hidle]
    simp [hidle]

theorem agrees_init (hstate : vc.arqStateFlag = .inInit) (now : Int) :
    vc.FillsWhatIsAnnounced config tx now frames ↔ vc.Fillable config frames := by
  rw [SkyVirtualChannel.FillsWhatIsAnnounced, SkyVirtualChannel.Fillable, skyVcContentToSend,
    skyVcFillFrame]
  simp only [hstate, iff_true]
  cases idleFramesLeft config frames <;> simp

/-- Next to the extensions there is room for every packet, but for one case. -/
theorem spaceLeft_iff (hw : ArqSequenceWidth w) (hlen : tx.length = 20) {packetLength : Nat}
    (hpacket : packetLength ≤ skyPayloadMaxLen) {now : Int}
    (hctrl : vc.ctrlDue config now frames = true) :
    (packetLength + (w / 8 : Nat) + 1 : Int) ≤
        skyFrameGetSpaceLeft (tx.length + vc.extensionsLength config now frames) ↔
      ¬(w = 16 ∧ packetLength = skyPayloadMaxLen ∧ 0 < vc.handshakeSend ∧
        vc.requestDue config frames) := by
  rw [skyPayloadMaxLen] at hpacket ⊢
  rw [skyFrameGetSpaceLeft, SkyVirtualChannel.extensionsLength, rsMsglen, skyHmacLength, hlen,
    if_pos hctrl]
  by_cases hshake : 0 < vc.handshakeSend <;>
    by_cases hrequest : vc.requestDue config frames = true <;>
      rcases hw with rfl | rfl <;> simp [hshake, hrequest] <;> omega

theorem agrees_on (hw : ArqSequenceWidth w) (h : VcRep vc v) (hstate : vc.arqStateFlag = .on)
    (hlen : tx.length = 20) (now : Int) :
    vc.FillsWhatIsAnnounced config tx now frames ↔ vc.Fillable config frames := by
  obtain ⟨m, hm⟩ := h
  rw [SkyVirtualChannel.FillsWhatIsAnnounced, SkyVirtualChannel.Fillable,
    contentToSend_on vc config now frames hstate, skyVcFillFrame]
  simp only [hstate, fillFrameOn_ret]
  by_cases hdue : 0 < sendRingCountPacketsToSend vc.sendRing true
  · have hctrl : vc.ctrlDue config now frames = true := by
      simp [SkyVirtualChannel.ctrlDue, hdue]
    rw [if_pos hdue, hctrl]
    by_cases hserve : vc.sendRing.Servable
    · obtain ⟨packetLength, sequence, hpeek, hlength, hle⟩ :=
        hm.send.peekDue hm.pool.stores hdue hserve
      have hspace := spaceLeft_iff hw hlen hle hctrl
      have hcrowded : vc.Crowded config frames ↔ w = 16 ∧ packetLength = skyPayloadMaxLen ∧
          0 < vc.handshakeSend ∧ vc.requestDue config frames := by
        rw [SkyVirtualChannel.Crowded, hlength, Except.ok.injEq]
        exact and_congr_right fun _ => and_iff_right hdue
      rw [hpeek]
      dsimp only
      by_cases hfits : (packetLength + (w / 8 : Nat) + 1 : Int) ≤
          skyFrameGetSpaceLeft (tx.length + vc.extensionsLength config now frames)
      · have hroom : ¬vc.Crowded config frames := fun hc => hspace.mp hfits (hcrowded.mp hc)
        rw [if_pos hfits]
        simp [hserve, hroom]
      · have hfull : vc.Crowded config frames :=
          hcrowded.mpr (not_not.mp fun hn => hfits (hspace.mpr hn))
        rw [if_neg hfits]
        simp [hfull, SkyRet.noSpaceForPayload]
    · rw [hm.send.peekStale _ hserve]
      simp [hserve, SkyRet.ringEmpty]
  · have hall := hm.send.countAll
    have hserve : vc.sendRing.Servable := fun hpos => absurd hdue (by omega)
    have hroom : ¬vc.Crowded config frames := fun hcrowded => hdue hcrowded.2.1
    rw [if_neg hdue]
    by_cases hctrl : vc.ctrlDue config now frames = true
    · simp [hctrl, hserve, hroom]
    · by_cases hrequest : vc.requestDue config frames = true
      · simp [hctrl, hrequest, hserve, hroom]
      · by_cases hshake : 0 < vc.handshakeSend <;>
          simp [hctrl, hrequest, hshake, hserve, hroom]

end VcRep

/-! ## Runs -/

/-- The configuration of the examples with an identity of full length. -/
def exampleFullIdentity : SkyConfig := { exampleConfig 0 1 with identityLen := 7 }

/-- A connected channel whose peer asks for a packet again and then acknowledges it. -/
def staleResendOps : List (VcOp 8) :=
  [.handshake 0 1 7, .push [1],
    .fillFrame exampleFullIdentity
      (startedFrame exampleFullIdentity (skyMacCreate exampleFullIdentity.mac) 0 10 3) 10 0,
    .scheduleResendsByMask 0 0xffff, .cleanTail 1 11]

end Skylink
