import Skylink.Node.Reachable
import Skylink.Node.Scheduling

/-!
# The frames that a node builds

Start byte, identity, length and assertions of a frame of `sky_tx`, told from the state
of the node before the call.
-/

namespace Skylink

variable {w : Nat}

/-! ## The start of a frame -/

section Start

variable (vc : SkyVirtualChannel w) (config : SkyConfig) (tx : SkyTransmitFrame) (now : Int)
  (frames : UInt16) (ret : SkyRet)

theorem fillPayload_start : (fillPayload vc tx ret).2.1.start = tx.start := by
  rw [fillPayload]
  split
  · split
    · rfl
    · dsimp only
      split
      · split <;> rfl
      · rfl
  · rfl

theorem fillFrame_start : (skyVcFillFrame vc config tx now frames).2.1.start = tx.start := by
  rw [skyVcFillFrame]
  split
  · rw [fillFrameOff]
    split
    · rfl
    · split
      · split <;> rfl
      · rfl
  · split <;> rfl
  · obtain ⟨tx', heq, hext⟩ := fillFrameOn_eq vc config tx now frames
    rw [heq, fillPayload_start, hext.start]

end Start

theorem skyTxExtensionEvalHmacReset_start (hmac : SkyHMAC) (tx : SkyTransmitFrame)
    (v : Fin skyNumVirtualChannels) :
    (skyTxExtensionEvalHmacReset hmac tx v).2.start = tx.start := by
  rw [skyTxExtensionEvalHmacReset]
  split <;> rfl

theorem finishFrame_start (H : KeyedHash) (node : SkyNode w) (v : Fin skyNumVirtualChannels)
    (tx : SkyTransmitFrame) : (finishFrame H node v tx).2.start = tx.start := by
  simp only [finishFrame, skyHmacExtendWithAuthentication]
  split_ifs <;> rfl

theorem craftFrame_start (H : KeyedHash) (node : SkyNode w) (v : Fin skyNumVirtualChannels)
    (now : Int) :
    (craftFrame H node v now).2.1.start =
      (skylinkFrameVersionByte ||| UInt8.ofNat node.conf.identityLen) ::
        node.conf.identity.take node.conf.identityLen := by
  simp only [craftFrame]
  split
  · rw [fillFrame_start, skyTxExtensionEvalHmacReset_start]
    rfl
  · rw [finishFrame_start, fillFrame_start, skyTxExtensionEvalHmacReset_start]
    rfl

/-- A frame that `sky_tx` returns was crafted for the channel that was picked. -/
theorem skyTx_crafted {H : KeyedHash} {tick : Int} {node : SkyNode w} {tx : SkyTransmitFrame}
    (h : (skyTx H tick node).2.1 = some tx) :
    ∃ v, macCanSend node.conf.mac node.mac tick = true ∧ node.picked tick = some v ∧
      skyTx H tick node = ((craftFrame H (node.readyToSend tick) v tick).1, some tx, 1) ∧
      (craftFrame H (node.readyToSend tick) v tick).2 = (tx, 1) := by
  rw [skyTx_eq] at h ⊢
  cases hsend : macCanSend node.conf.mac node.mac tick with
  | false => simp [hsend] at h
  | true =>
      cases hpicked : node.picked tick with
      | none => simp [hsend, hpicked] at h
      | some v =>
          simp only [hsend, hpicked] at h
          split at h
          · rename_i hret
            cases h
            exact ⟨v, rfl, rfl, by simp [hret], Prod.ext rfl hret⟩
          · cases h

theorem skyTx_start {H : KeyedHash} {tick : Int} {node : SkyNode w} {tx : SkyTransmitFrame}
    (h : (skyTx H tick node).2.1 = some tx) :
    tx.start = (skylinkFrameVersionByte ||| UInt8.ofNat node.conf.identityLen) ::
      node.conf.identity.take node.conf.identityLen := by
  obtain ⟨v, -, -, -, hcraft⟩ := skyTx_crafted h
  have hstart := craftFrame_start H (node.readyToSend tick) v tick
  rwa [hcraft] at hstart

/-! ## The length of a frame -/

/-- The bytes that the next packet of a connected channel adds to a frame of the given
length with its sequence, or `none` where it is not sent. -/
def SkyVirtualChannel.payloadLength (vc : SkyVirtualChannel w) (length : Nat) : Option Nat :=
  if 0 < sendRingCountPacketsToSend vc.sendRing true then
    match sendRingPeekNextTxSizeAndSequence vc.sendRing vc.elementBuffer true with
    | .error _ => none
    | .ok (packetLength, _) =>
        if (packetLength + (w / 8 : Nat) + 1 : Int) ≤ skyFrameGetSpaceLeft length then
          some (1 + w / 8 + packetLength)
        else none
  else some 0

/-- The bytes that a channel adds to a frame of the given length, or `none` where it
fails. -/
def SkyVirtualChannel.fillLength (vc : SkyVirtualChannel w) (config : SkyConfig) (now : Int)
    (frames : UInt16) (length : Nat) : Option Nat :=
  match vc.arqStateFlag with
  | .off =>
      match sendRingPeekNextTxSizeAndSequence vc.sendRing vc.elementBuffer false with
      | .error _ => some 0
      | .ok (packetLength, _) => some packetLength
  | .inInit => some (if idleFramesLeft config frames then 6 else 0)
  | .on =>
      let extensions := vc.extensionsLength config now frames
      (vc.payloadLength (length + extensions)).map fun n => extensions + n

/-- Filling `tx` gave `tx'`: the assertions hold, the trailer fits, and the length is the
one that was foretold. -/
structure FilledTo (tx tx' : SkyTransmitFrame) (ret : SkyRet) (added : Option Nat) : Prop where
  asserts : tx'.assertsHold = true
  room : tx'.length + skyHmacLength ≤ skyFrameMaxLen
  fails : added = none → ret < 0
  succeeds : ∀ n, added = some n → 0 ≤ ret ∧ tx'.length = tx.length + n

section FilledTo

variable {tx tx' : SkyTransmitFrame} {ret : SkyRet}

theorem FilledTo.grown {n : Nat} (hasserts : tx'.assertsHold = true)
    (hroom : tx'.length + skyHmacLength ≤ skyFrameMaxLen) (hret : 0 ≤ ret)
    (hlength : tx'.length = tx.length + n) : FilledTo tx tx' ret (some n) :=
  ⟨hasserts, hroom, nofun, fun m hm => by cases hm; exact ⟨hret, hlength⟩⟩

theorem FilledTo.failed (hasserts : tx'.assertsHold = true)
    (hroom : tx'.length + skyHmacLength ≤ skyFrameMaxLen) (hret : ret < 0) :
    FilledTo tx tx' ret none :=
  ⟨hasserts, hroom, fun _ => hret, nofun⟩

/-- What was added before counts as well. -/
theorem FilledTo.after {tx₀ : SkyTransmitFrame} {added : Option Nat} {n : Nat}
    (h : FilledTo tx tx' ret added) (hlength : tx.length = tx₀.length + n) :
    FilledTo tx₀ tx' ret (added.map fun k => n + k) := by
  cases added with
  | none => exact .failed h.asserts h.room (h.fails rfl)
  | some k =>
      obtain ⟨hret, hlen⟩ := h.succeeds k rfl
      exact .grown h.asserts h.room hret (by show tx'.length = tx₀.length + (n + k); omega)

end FilledTo

/-- A packet fits behind the header of every frame. -/
theorem packet_fits {length n : Nat} (hlen : length ≤ 20) (hn : n ≤ skyPayloadMaxLen) :
    (n : Int) ≤ skyFrameGetSpaceLeft length := by
  simp only [skyFrameGetSpaceLeft, rsMsglen, skyHmacLength, skyPayloadMaxLen] at hn ⊢
  omega

theorem room_of_space {length n : Nat} (h : (n : Int) ≤ skyFrameGetSpaceLeft length) :
    length + n + skyHmacLength ≤ skyFrameMaxLen := by
  simp only [skyFrameGetSpaceLeft, rsMsglen, skyHmacLength, skyFrameMaxLen] at h ⊢
  omega

@[simp] theorem SkyTransmitFrame.length_extend (tx : SkyTransmitFrame) (payload : Bytes) :
    (tx.extend payload).length = tx.length + payload.length := by
  simp [SkyTransmitFrame.length, SkyTransmitFrame.extend, Nat.add_assoc]

theorem extensionsLength_le (hw : ArqSequenceWidth w) (vc : SkyVirtualChannel w)
    (config : SkyConfig) (now : Int) (frames : UInt16) :
    vc.extensionsLength config now frames ≤ 16 := by
  rw [SkyVirtualChannel.extensionsLength]
  rcases hw with rfl | rfl <;> split_ifs <;> decide

namespace VcRep

variable {vc : SkyVirtualChannel w} {v : VcView} {tx : SkyTransmitFrame}

theorem filledTo_off (h : VcRep vc v) (hsound : tx.Sound) (hlen : tx.length ≤ 20)
    (hstate : vc.arqStateFlag = .off) (config : SkyConfig) (now : Int) (frames : UInt16) :
    FilledTo tx (Skylink.fillFrameOff vc tx).2.1 (Skylink.fillFrameOff vc tx).2.2
      (vc.fillLength config now frames tx.length) := by
  have hroom := room_of_space (packet_fits hlen (Nat.zero_le _))
  have hcount := h.countNew
  rw [Skylink.fillFrameOff, SkyVirtualChannel.fillLength, hstate]
  rcases Nat.lt_or_ge v.sendTx v.sendHead with hlt | hge
  · obtain ⟨vc', hread, hpeek, -⟩ := h.readMonotonic hlt
    have hfits := packet_fits hlen (h.payload_length_le h.sendOrder.1 hlt)
    rw [hpeek]
    dsimp only
    by_cases hpos : 0 < (v.payload v.sendTx).length
    · rw [if_pos hpos, hread]
      refine .grown ?_ ?_ Int.one_nonneg ?_
      · simpa [SkyTransmitFrame.extend, SkyTransmitFrame.assert, hsound.1] using hfits
      · simpa using room_of_space hfits
      · simp
    · rw [if_neg hpos]
      exact .grown hsound.1 hroom le_rfl (by show tx.length = _; omega)
  · rw [sendRingPeekNextTxSizeAndSequence, if_pos (by omega)]
    exact .grown hsound.1 hroom le_rfl rfl

theorem filledTo_payload (hw : ArqSequenceWidth w) (h : VcRep vc v) (hsound : tx.Sound)
    (hlen : tx.length ≤ 36) {ret : SkyRet} (hret : 0 ≤ ret) :
    FilledTo tx (Skylink.fillPayload vc tx ret).2.1 (Skylink.fillPayload vc tx ret).2.2
      (vc.payloadLength tx.length) := by
  have hroom : tx.length + skyHmacLength ≤ skyFrameMaxLen := by
    rw [skyHmacLength, skyFrameMaxLen]
    omega
  rw [Skylink.fillPayload, SkyVirtualChannel.payloadLength]
  by_cases hdue : 0 < sendRingCountPacketsToSend vc.sendRing true
  · rw [if_pos hdue, if_pos hdue]
    obtain ⟨sendRing, u, tx', hread, hpeek, -⟩ | ⟨hpeek, -⟩ := h.readToTx true
    · generalize (SerialNumber.serial 0 u : BitVec w) = sequence at hread hpeek
      rw [hpeek]
      dsimp only
      rw [hread]
      dsimp only
      by_cases hfits : ((v.payload u).length + (w / 8 : Nat) + 1 : Int) ≤
          skyFrameGetSpaceLeft tx.length
      · rw [if_pos hfits, if_pos hfits]
        have hfields : (skyArqSeqHton sequence).length = w / 8 := by simp
        have hext : tx.Extended (skyFrameAddExtensionArqSequence tx sequence) (1 + w / 8) :=
          hfields ▸ tx.extended_addExtension _ _ fun hlt => by simpa [Nat.add_assoc] using hlt
        have hlength := hext.length
        have hseq : 1 + w / 8 ≤ 3 := by rcases hw with rfl | rfl <;> decide
        have hsound' := hext.sound hsound (by rw [hlength, skyPayloadMaxLen]; omega)
        have hspace : ((1 + w / 8 + (v.payload u).length : Nat) : Int) ≤
            skyFrameGetSpaceLeft tx.length := by omega
        refine .grown hsound'.1 ?_ Int.one_nonneg ?_
        · simpa [hlength, Nat.add_assoc] using room_of_space hspace
        · simp [hlength, Nat.add_assoc]
      · rw [if_neg hfits, if_neg hfits]
        exact .failed hsound.1 hroom (show SkyRet.noSpaceForPayload < 0 by decide)
    · rw [hpeek]
      exact .failed hsound.1 hroom (show SkyRet.ringEmpty < 0 by decide)
  · rw [if_neg hdue, if_neg hdue]
    exact .grown hsound.1 hroom hret rfl

/-- What is filled into a frame has the foretold length, and passes the assertions. -/
theorem filledTo (hw : ArqSequenceWidth w) (h : VcRep vc v) (hsound : tx.Sound)
    (hlen : tx.length ≤ 20) (config : SkyConfig) (now : Int) (frames : UInt16) :
    FilledTo tx (skyVcFillFrame vc config tx now frames).2.1
      (skyVcFillFrame vc config tx now frames).2.2
      (vc.fillLength config now frames tx.length) := by
  have hroom := room_of_space (packet_fits hlen (Nat.zero_le _))
  cases hstate : vc.arqStateFlag with
  | off =>
      rw [skyVcFillFrame, hstate]
      exact h.filledTo_off hsound hlen hstate config now frames
  | inInit =>
      rw [skyVcFillFrame, SkyVirtualChannel.fillLength, hstate]
      dsimp only
      by_cases hleft : idleFramesLeft config frames = true
      · rw [if_pos hleft, if_pos hleft]
        have hext : tx.Extended (skyFrameAddExtensionArqHandshake tx ArqState.inInit.toByte
            vc.arqSessionIdentifier) 6 :=
          tx.extended_addExtension _ _ fun hlt => by simpa [Nat.add_assoc] using hlt
        have hlength := hext.length
        refine .grown (hext.sound hsound ?_).1 ?_ Int.one_nonneg hlength
        · rw [hlength, skyPayloadMaxLen]
          omega
        · rw [hlength]
          exact room_of_space (packet_fits hlen (by decide))
      · rw [if_neg hleft, if_neg hleft]
        exact .grown hsound.1 hroom le_rfl rfl
  | on =>
      obtain ⟨tx', heq, hext⟩ := fillFrameOn_eq vc config tx now frames
      have hle := extensionsLength_le hw vc config now frames
      have hlength := hext.length
      have hsound' := hext.sound hsound (by rw [hlength, skyPayloadMaxLen]; omega)
      have hrep : VcRep (vc.controlFilled config now frames) v := h.congr rfl rfl rfl
      have hret : (0 : SkyRet) ≤ if vc.ctrlDue config now frames then 1
          else if vc.requestDue config frames then 1
          else if 0 < vc.handshakeSend then 1 else 0 := by
        split_ifs <;> decide
      have hpayload := (hrep.filledTo_payload hw hsound' (by omega) hret).after hlength
      rw [skyVcFillFrame, SkyVirtualChannel.fillLength, hstate]
      dsimp only
      rw [heq, ← hlength]
      exact hpayload

end VcRep

namespace SkyNode

/-- The bytes of a frame before those of its channel. -/
def headerLength (node : SkyNode w) (v : Fin skyNumVirtualChannels) : Nat :=
  10 + node.conf.identityLen + if node.hmac.vcEnforcementNeed v ≠ 0 then 0 else 3

/-- The length of the frame that is built for a channel, or `none` where that fails. -/
def frameLength (node : SkyNode w) (v : Fin skyNumVirtualChannels) (now : Int)
    (frames : UInt16) : Option Nat :=
  ((node.virtualChannels v).fillLength node.conf now frames (node.headerLength v)).map fun n =>
    node.headerLength v + n +
      if (node.conf.vc v).hasFlag skyConfigFlagAuthenticateTx then skyHmacLength else 0

end SkyNode

theorem skyTxStartFrame_sound (config : SkyConfig) (v : Fin skyNumVirtualChannels) :
    (skyTxStartFrame config v).Sound :=
  ⟨rfl, (SkyStaticHeader.setVc_zero v).2.2⟩

/-- The frame that is handed to a channel. -/
def SkyNode.startedFor (node : SkyNode w) (v : Fin skyNumVirtualChannels) (now : Int) :
    SkyTransmitFrame :=
  (skyTxExtensionEvalHmacReset node.hmac
    (macSetFrameFields node.conf.mac node.mac (skyTxStartFrame node.conf v) now) v).2

theorem SkyNode.startedFor_spec {node : SkyNode w} (hid : node.conf.identityLen ≤ skyMaxIdentityLen)
    (v : Fin skyNumVirtualChannels) (now : Int) :
    (node.startedFor v now).Sound ∧ (node.startedFor v now).length = node.headerLength v ∧
      node.headerLength v ≤ 20 := by
  have hstart := skyTxStartFrame_length hid v
  have hmac := macSetFrameFields_extended node.conf.mac node.mac (skyTxStartFrame node.conf v) now
  have hmacLength := hmac.length
  rw [skyMaxIdentityLen] at hid
  have hsound := hmac.sound (skyTxStartFrame_sound node.conf v) (by
    rw [hmacLength, hstart, skyPayloadMaxLen]
    omega)
  rw [startedFor, skyTxExtensionEvalHmacReset, headerLength]
  by_cases hneed : node.hmac.vcEnforcementNeed v ≠ 0
  · rw [if_pos hneed, if_pos hneed]
    refine ⟨hsound, ?_, by omega⟩
    show (macSetFrameFields _ _ _ _).length = _
    omega
  · rw [if_neg hneed, if_neg hneed]
    have hreset := hmacSequenceReset_extended
      (macSetFrameFields node.conf.mac node.mac (skyTxStartFrame node.conf v) now)
      (node.hmac.sequenceRx v + 3)
    have hresetLength := hreset.length
    refine ⟨hreset.sound hsound ?_, ?_, by omega⟩
    · rw [hresetLength, hmacLength, hstart, skyPayloadMaxLen]
      omega
    · show (skyFrameAddExtensionHmacSequenceReset _ _).length = _
      omega

theorem extendWithAuthentication_length (H : KeyedHash) (hmac : SkyHMAC) {tx : SkyTransmitFrame}
    (hroom : tx.length + skyHmacLength ≤ skyFrameMaxLen) :
    (skyHmacExtendWithAuthentication H hmac tx).assertsHold = tx.assertsHold ∧
      (skyHmacExtendWithAuthentication H hmac tx).length = tx.length + skyHmacLength := by
  have hfits : ¬skyFrameMaxLen - skyHmacLength < tx.length := by omega
  rw [skyHmacExtendWithAuthentication, if_neg hfits]
  refine ⟨rfl, ?_⟩
  simp [SkyTransmitFrame.length, H.hash_length, Nat.add_assoc]

theorem finishFrame_length (H : KeyedHash) (node : SkyNode w) (v : Fin skyNumVirtualChannels)
    {tx : SkyTransmitFrame} (hroom : tx.length + skyHmacLength ≤ skyFrameMaxLen) :
    (finishFrame H node v tx).2.assertsHold = tx.assertsHold ∧
      (finishFrame H node v tx).2.length = tx.length +
        if (node.conf.vc v).hasFlag skyConfigFlagAuthenticateTx then skyHmacLength else 0 := by
  simp only [finishFrame]
  by_cases hflag : (node.conf.vc v).hasFlag skyConfigFlagAuthenticateTx = true
  · rw [if_pos hflag, if_pos hflag]
    exact extendWithAuthentication_length H _ hroom
  · rw [if_neg hflag, if_neg hflag]
    exact ⟨rfl, rfl⟩

/-- Building a frame for a channel passes the assertions, and gives a frame of the length
that was foretold, if any. -/
theorem craftFrame_length (hw : ArqSequenceWidth w) (H : KeyedHash) {node : SkyNode w}
    (hid : node.conf.identityLen ≤ skyMaxIdentityLen) (hnode : node.RingsHold)
    (v : Fin skyNumVirtualChannels) (now : Int) :
    (craftFrame H node v now).2.1.assertsHold = true ∧
      (craftFrame H node v now).2.1.length ≤ skyFrameMaxLen ∧
      (node.frameLength v now (node.mac.framesSentInCurrentWindowPerVc v) = none →
        (craftFrame H node v now).2.2 < 0) ∧
      ∀ n, node.frameLength v now (node.mac.framesSentInCurrentWindowPerVc v) = some n →
        (craftFrame H node v now).2.2 = 1 ∧ (craftFrame H node v now).2.1.length = n := by
  obtain ⟨view, hrep⟩ := hnode v
  obtain ⟨hsound, hlength, hle⟩ := SkyNode.startedFor_spec hid v now
  have hfilled := hrep.filledTo hw hsound (hlength.le.trans hle) node.conf now
    (node.mac.framesSentInCurrentWindowPerVc v)
  have hcraft : ∃ self : SkyNode w, self.conf = node.conf ∧ (craftFrame H node v now).2 =
      if (skyVcFillFrame (node.virtualChannels v) node.conf (node.startedFor v now) now
          (node.mac.framesSentInCurrentWindowPerVc v)).2.2 < 0 then
        (skyVcFillFrame (node.virtualChannels v) node.conf (node.startedFor v now) now
          (node.mac.framesSentInCurrentWindowPerVc v)).2
      else ((finishFrame H self v (skyVcFillFrame (node.virtualChannels v) node.conf
        (node.startedFor v now) now (node.mac.framesSentInCurrentWindowPerVc v)).2.1).2, 1) := by
    simp only [craftFrame]
    split
    · rename_i hfail
      exact ⟨node, rfl, (if_pos hfail).symm⟩
    · rename_i hfail
      refine ⟨_, ?_, (if_neg hfail).symm⟩
      rfl
  obtain ⟨self, hself, hcraft⟩ := hcraft
  generalize skyVcFillFrame (node.virtualChannels v) node.conf (node.startedFor v now) now
    (node.mac.framesSentInCurrentWindowPerVc v) = filled at hfilled hcraft
  rw [hlength] at hfilled
  obtain ⟨hasserts, hfinish⟩ := finishFrame_length H self v hfilled.room
  have hroom := hfilled.room
  rw [hself] at hfinish
  rw [SkyNode.frameLength]
  cases hadded : (node.virtualChannels v).fillLength node.conf now
      (node.mac.framesSentInCurrentWindowPerVc v) (node.headerLength v) with
  | none =>
      have hfail := hfilled.fails hadded
      rw [hcraft, if_pos hfail]
      exact ⟨hfilled.asserts, by omega, fun _ => hfail, fun n hn => by cases hn⟩
  | some n =>
      obtain ⟨hret, hlen⟩ := hfilled.succeeds n hadded
      rw [hcraft, if_neg (not_lt.mpr hret)]
      refine ⟨hasserts.trans hfilled.asserts, ?_, ?_, ?_⟩
      · show (finishFrame H self v filled.2.1).2.length ≤ skyFrameMaxLen
        rw [hfinish]
        split_ifs <;> omega
      · intro hnone
        cases hnone
      · intro m hm
        rw [Option.map_some, Option.some.injEq] at hm
        exact ⟨rfl, by show (finishFrame H self v filled.2.1).2.length = m; omega⟩

end Skylink
