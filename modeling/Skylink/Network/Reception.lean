import Skylink.Link.Model
import Skylink.Node.Accounting
import Skylink.Node.Authentication
import Skylink.Node.Locality
import Skylink.Node.Rejection
import Skylink.VirtualChannel.Exchange

/-!
# What a sent frame does at the receiver

Whatever `sky_tx` has added to a frame, the trailer included, the channel of the receiver
reads what the channel of the sender has filled in, or the frame is not accepted at all.
-/

namespace Skylink

variable {w : Nat}

/-! ## A channel reads the content of a frame -/

section Reads

variable {parsed parsed' : SkyParsedFrame} {c : ArqContent w}

theorem SkyParsedFrame.Reads.processCtrl_eq (h : parsed.Reads c) (h' : parsed'.Reads c)
    (vc : SkyVirtualChannel w) (now : Int) :
    processCtrl vc parsed' now = processCtrl vc parsed now := by
  have hctrl (p : SkyParsedFrame) (hp : p.Reads c) : processCtrl vc p now =
      (c.ctrl.map fun s =>
        skyVcUpdateRxSync (skyVcUpdateTxSync vc s.2 now) s.1 now).getD vc := by
    rw [processCtrl, ← hp.ctrl]
    cases p.arqCtrl <;> rfl
  rw [hctrl parsed h, hctrl parsed' h']

theorem SkyParsedFrame.Reads.processRequest_eq (h : parsed.Reads c) (h' : parsed'.Reads c)
    (vc : SkyVirtualChannel w) : processRequest vc parsed' = processRequest vc parsed := by
  have hrequest (p : SkyParsedFrame) (hp : p.Reads c) : processRequest vc p =
      (c.request.map fun r =>
        { vc with sendRing := (sendRingScheduleResendsByMask vc.sendRing r.1 r.2).1 }).getD vc := by
    rw [processRequest, ← hp.request]
    cases p.arqRequest <;> rfl
  rw [hrequest parsed h, hrequest parsed' h']

theorem SkyParsedFrame.Reads.processFrameOn_eq (h : parsed.Reads c) (h' : parsed'.Reads c)
    (vc : SkyVirtualChannel w) (now : Int) :
    processFrameOn vc parsed' now = processFrameOn vc parsed now := by
  have hsequence : parsed'.arqSequence.map SkyHeaderExtension.arqSeqSequence =
      parsed.arqSequence.map (SkyHeaderExtension.arqSeqSequence (w := w)) := by
    rw [h.sequence, h'.sequence]
  rw [processFrameOn, processFrameOn, h.processCtrl_eq h', h.payloadLen, h'.payloadLen,
    h.payloadBytes, h'.payloadBytes]
  dsimp only
  split
  case isTrue =>
    cases hseq : parsed.arqSequence with
    | none =>
        rw [hseq, Option.map_none, Option.map_eq_none_iff] at hsequence
        rw [hsequence]
    | some ext =>
        rw [hseq, Option.map_some, Option.map_eq_some_iff] at hsequence
        obtain ⟨ext', hseq', hval⟩ := hsequence
        rw [hseq']
        dsimp only
        rw [hval, h.processRequest_eq h']
  case isFalse => rw [h.processRequest_eq h']

/-- Two parsed frames with the same content do the same to a channel. -/
theorem SkyParsedFrame.Reads.skyVcProcessFrame_eq (h : parsed.Reads c) (h' : parsed'.Reads c)
    (tickTime : Int) (vc : SkyVirtualChannel w) (now : Int) :
    skyVcProcessFrame tickTime vc parsed' now = skyVcProcessFrame tickTime vc parsed now := by
  rw [skyVcProcessFrame, skyVcProcessFrame, processHandshake_reads h, processHandshake_reads h',
    h.payloadLen, h'.payloadLen, h.payloadBytes, h'.payloadBytes]
  simp only [h.processFrameOn_eq h']

end Reads

/-! ## The authentication flag -/

section Flag

variable (vc : SkyVirtualChannel w) (config : SkyConfig) (tx : SkyTransmitFrame) (now : Int)
  (frames : UInt16) (ret : SkyRet)

theorem extend_authenticated (payload : Bytes) :
    (tx.extend payload).hdr.hasFlag skyFlagAuthenticated =
      tx.hdr.hasFlag skyFlagAuthenticated :=
  SkyStaticHeader.hasFlag_setFlag_of_disjoint _ (by decide)

theorem fillPayload_authenticated :
    (fillPayload vc tx ret).2.1.hdr.hasFlag skyFlagAuthenticated =
      tx.hdr.hasFlag skyFlagAuthenticated := by
  rw [fillPayload]
  split
  · split
    · rfl
    · dsimp only
      split
      · split
        · exact extend_authenticated _ _
        · exact extend_authenticated _ _
      · rfl
  · rfl

/-- No channel sets the flag. -/
theorem fillFrame_authenticated :
    (skyVcFillFrame vc config tx now frames).2.1.hdr.hasFlag skyFlagAuthenticated =
      tx.hdr.hasFlag skyFlagAuthenticated := by
  rw [skyVcFillFrame]
  split
  · rw [fillFrameOff]
    split
    · rfl
    · split
      · split
        · exact extend_authenticated _ _
        · exact extend_authenticated _ _
      · rfl
  · split <;> rfl
  · rw [fillFrameOn_pending, fillPayload_authenticated, SkyStaticHeader.hasFlag,
      (addExtensions_flags _ _).1]
    exact SkyStaticHeader.hasFlag_setFlag_of_disjoint _ (by decide)

end Flag

theorem SkyNode.startedFor_authenticated (node : SkyNode w) (v : Fin skyNumVirtualChannels)
    (now : Int) : (node.startedFor v now).hdr.hasFlag skyFlagAuthenticated = false := by
  have hzero : ∀ v : Fin skyNumVirtualChannels,
      (SkyStaticHeader.setVc ⟨0, 0, 0⟩ v).hasFlag skyFlagAuthenticated = false := by decide
  rw [startedFor, skyTxExtensionEvalHmacReset]
  split
  · exact hzero v
  · exact hzero v

/-! ## What is left of a frame once it is checked -/

section Checked

variable {parsed : SkyParsedFrame} {c : ArqContent w}

theorem SkyParsedFrame.Reads.checked (h : parsed.Reads c)
    (hflag : parsed.hdr.hasFlag skyFlagAuthenticated = false) : parsed.checked.Reads c := by
  have hlen : parsed.plainLen = parsed.payloadLen := by
    rw [SkyParsedFrame.plainLen, hflag]
    rfl
  refine ⟨h.arqOn, h.handshake, h.request, h.ctrl, h.sequence, hlen.trans h.payloadLen, ?_⟩
  rw [← h.payloadBytes]
  exact congrArg (parsed.payload.take ·) hlen

/-- The trailer is taken off. -/
theorem SkyParsedFrame.Reads.checked_trailer {payload trailer : Bytes}
    (h : parsed.Reads { c with payload := some (payload ++ trailer) })
    (hflag : parsed.hdr.hasFlag skyFlagAuthenticated) (htrailer : trailer.length = skyHmacLength)
    (hpayload : c.payload = some payload) : parsed.checked.Reads c := by
  have hlength : parsed.payloadLen = payload.length + skyHmacLength := by
    rw [h.payloadLen, Option.getD_some, List.length_append, htrailer]
  have hlen : parsed.plainLen = payload.length := by
    rw [SkyParsedFrame.plainLen, if_pos hflag, hlength, Nat.add_sub_cancel]
  refine ⟨h.arqOn, h.handshake, h.request, h.ctrl, h.sequence, ?_, ?_⟩
  · rw [hpayload]
    exact hlen
  · have hbytes := congrArg (List.take payload.length) h.payloadBytes
    rw [SkyParsedFrame.payloadBytes, List.take_take, hlength,
      Nat.min_eq_left (Nat.le_add_right _ _), Option.getD_some, List.take_left' rfl] at hbytes
    rw [hpayload, SkyParsedFrame.payloadBytes]
    show parsed.payload.take parsed.plainLen = payload
    rw [hlen]
    exact hbytes

end Checked

/-- A frame with the flag and without room for a trailer is never accepted. -/
theorem check_short (H : KeyedHash) (self : SkyNode w) (frame : SkyRadioFrame)
    {parsed : SkyParsedFrame}
    (h : parsed.hdr.hasFlag skyFlagAuthenticated ∧ parsed.payloadLen < skyHmacLength) :
    (skyHmacCheckAuthentication H self frame parsed).2 = .error .frameTooShortForHmac := by
  have hcheck : skyHmacCheckAuthentication H self frame parsed =
      ({ self with diag := { self.diag with rxHmacFail := self.diag.rxHmacFail + 1 } },
        .error .frameTooShortForHmac) := by
    rw [skyHmacCheckAuthentication]
    exact if_pos h
  rw [hcheck]

/-- A frame that is not accepted leaves the channels as they are. -/
theorem skyRx_rejected {H : KeyedHash} (tick : Int) {node : SkyNode w} {frame : SkyRadioFrame}
    (h : node.accepts H frame = false) :
    (skyRx H tick node frame).1.virtualChannels = node.virtualChannels := by
  by_cases hlen : frame.length < skyFrameMinLen
  case pos => rw [skyRx, if_pos hlen]
  rw [SkyNode.accepts] at h
  rw [skyRx_eq H tick node frame hlen]
  cases hreceived : node.received frame with
  | error ret => rfl
  | ok parsed =>
      rw [hreceived] at h
      have hsame : (node.countReceived frame).SameOutsideCounters
          (skyHmacCheckAuthentication H (node.countReceived frame) frame parsed).1 :=
        check_sameOutsideCounters
      dsimp only at h ⊢
      cases hcheck : skyHmacCheckAuthentication H (node.countReceived frame) frame parsed with
      | mk node' ret =>
          rw [hcheck] at h hsame
          cases ret with
          | error ret => exact hsame.virtualChannels
          | ok parsed' => cases h

/-- An accepted frame is processed by its channel, without its trailer. -/
theorem skyRx_accepted {H : KeyedHash} (tick : Int) {node : SkyNode w} {frame : SkyRadioFrame}
    (h : node.accepts H frame = true) :
    ∃ parsed, node.received frame = .ok parsed ∧
      ¬(parsed.hdr.hasFlag skyFlagAuthenticated ∧ parsed.payloadLen < skyHmacLength) ∧
      (skyRx H tick node frame).1.virtualChannels =
        Function.update node.virtualChannels frame.header.channel
          (skyVcProcessFrame tick (node.virtualChannels frame.header.channel) parsed.checked
            tick).1 := by
  obtain ⟨parsed, hreceived⟩ := exists_received H h
  have hlen := (received_ok node frame hreceived).1
  have hhdr := received_hdr node frame hreceived
  rw [SkyNode.accepts, hreceived] at h
  dsimp only at h
  rw [skyRx_eq H tick node frame hlen, hreceived]
  dsimp only
  refine ⟨parsed, rfl, ?_, ?_⟩
  · intro hshort
    rw [check_short H _ frame hshort] at h
    cases h
  · obtain ⟨node', ret, hcheck, -⟩ | ⟨node', hcheck, -, hvc, -⟩ :=
      @check_outcome w (node.countReceived frame) parsed H frame (received_resetShort hreceived)
    · rw [hcheck] at h
      cases h
    · have hchannel : parsed.checked.hdr.channel = frame.header.channel := by
        rw [← hhdr]
        rfl
      rw [hcheck]
      dsimp only
      rw [acceptFrame_virtualChannels, hchannel, hvc]
      rfl

/-! ## Finished frames -/

/-- Whatever node receives the frame and does not find it too short for a trailer reads the
content. -/
structure SkyTransmitFrame.Conveys (tx : SkyTransmitFrame) (v : Fin skyNumVirtualChannels)
    (c : ArqContent w) : Prop where
  channel : tx.frame.header.channel = v
  reads : ∀ (node : SkyNode w) (parsed : SkyParsedFrame), node.received tx.frame = .ok parsed →
    ¬(parsed.hdr.hasFlag skyFlagAuthenticated ∧ parsed.payloadLen < skyHmacLength) →
    parsed.checked.Reads c

section Finish

variable {tx : SkyTransmitFrame} {identity : Bytes} {others : List (ExtValue w)}
  {v : Fin skyNumVirtualChannels} {c : ArqContent w}

theorem SkyTransmitFrame.Carries.header_channel (h : tx.Carries identity others v c) :
    tx.frame.header.channel = v := by
  rw [h.built.header, SkyStaticHeader.channel, h.channel]
  exact Fin.cast_val_eq_self v

theorem SkyTransmitFrame.Carries.received_reads (h : tx.Carries identity others v c)
    (hw : w ≤ 56) (h8 : 8 ∣ w) {node : SkyNode w} {parsed : SkyParsedFrame}
    (hreceived : node.received tx.frame = .ok parsed) :
    parsed.hdr = tx.hdr ∧ parsed.Reads c := by
  obtain ⟨-, identity', hid, hheader⟩ := received_ok node tx.frame hreceived
  obtain ⟨parsed', hheader', hhdr, hreads⟩ := h.reads hw h8
  obtain rfl : (identity, identity.length) = identity' :=
    Except.ok.inj (h.built.rxIdentity.symm.trans hid)
  obtain rfl : parsed' = parsed := Except.ok.inj (hheader'.symm.trans hheader)
  exact ⟨hhdr, hreads⟩

/-- The sequence and the flags that say nothing about the channel may change. -/
theorem SkyTransmitFrame.Carries.setHdr (h : tx.Carries identity others v c)
    {hdr : SkyStaticHeader} (hlength : hdr.extensionLength = tx.hdr.extensionLength)
    (hvc : hdr.vc = tx.hdr.vc) (harqOn : hdr.hasFlag skyFlagArqOn = tx.hdr.hasFlag skyFlagArqOn)
    (hpayload : hdr.hasFlag skyFlagHasPayload = tx.hdr.hasFlag skyFlagHasPayload) :
    { tx with hdr := hdr }.Carries identity others v c :=
  ⟨⟨h.built.start, h.built.identityPos, h.built.identityLe, h.built.body,
      (congrArg UInt8.toNat hlength).trans h.built.extensionLength, h.built.nodup⟩,
    h.others_le, hvc.trans h.channel, harqOn.trans h.arqOn, hpayload.trans h.hasPayload⟩

/-- A trailer behind a payload is payload. -/
theorem SkyTransmitFrame.Carries.appendTrailer (h : tx.Carries identity others v c)
    {payload : Bytes} (hpayload : c.payload = some payload) (trailer : Bytes) :
    { tx with body := tx.body ++ trailer }.Carries identity others v
      { c with payload := some (payload ++ trailer) } := by
  refine ⟨⟨h.built.start, h.built.identityPos, h.built.identityLe, ?_,
    h.built.extensionLength, h.built.nodup⟩, h.others_le, h.channel, h.arqOn, ?_⟩
  · have hbody := h.built.body
    rw [hpayload, Option.getD_some] at hbody
    show tx.body ++ trailer = _
    rw [hbody, Option.getD_some, List.append_assoc]
    rfl
  · have hflag := h.hasPayload
    rw [hpayload] at hflag
    exact hflag

/-- What `sky_tx` makes of a frame without authentication. -/
theorem finishFrame_plain (H : KeyedHash) (node : SkyNode w)
    (hflag : (node.conf.vc v).hasFlag skyConfigFlagAuthenticateTx = false)
    (tx : SkyTransmitFrame) :
    (finishFrame H node v tx).2 =
      { tx with hdr := { tx.hdr with frameSequence := skyHton16 (node.hmac.sequenceTx v) } } := by
  simp only [finishFrame, skyHmacGetNextTxSequence, hflag]
  rfl

/-- What `sky_tx` makes of a frame with authentication. -/
theorem finishFrame_trailer (H : KeyedHash) (node : SkyNode w)
    (hflag : (node.conf.vc v).hasFlag skyConfigFlagAuthenticateTx)
    (hroom : tx.length + skyHmacLength ≤ skyFrameMaxLen) :
    ∃ trailer, trailer.length = skyHmacLength ∧ (finishFrame H node v tx).2 =
      { tx with
        hdr := { tx.hdr with frameSequence := skyHton16 (node.hmac.sequenceTx v) }.setFlag
          skyFlagAuthenticated
        body := tx.body ++ trailer } := by
  let hdr : SkyStaticHeader :=
    { tx.hdr with frameSequence := skyHton16 (node.hmac.sequenceTx v) }.setFlag
      skyFlagAuthenticated
  let front : SkyTransmitFrame := { tx with hdr := hdr }
  have hfits : ¬skyFrameMaxLen - skyHmacLength < tx.length := by omega
  refine ⟨H.hash node.hmac.key front.bytes, H.hash_length _ _, ?_⟩
  simp only [finishFrame, skyHmacGetNextTxSequence, hflag, if_true,
    skyHmacExtendWithAuthentication]
  exact if_neg hfits

/-- A frame with a trailer and without payload is too short for whoever receives it. -/
theorem SkyTransmitFrame.Sealed.too_short {H : KeyedHash} {key : Bytes} {sequence : UInt16}
    (h : tx.Sealed w H key identity v sequence none) (hw : w ≤ 56) {node : SkyNode w}
    {parsed : SkyParsedFrame} (hreceived : node.received tx.frame = .ok parsed) :
    parsed.hdr.hasFlag skyFlagAuthenticated ∧ parsed.payloadLen < skyHmacLength := by
  obtain ⟨vs, trailer, -, hbuilt⟩ := h.built
  obtain ⟨-, identity', hid, hheader⟩ := received_ok node tx.frame hreceived
  obtain ⟨parsed', hheader', hhdr, hlen, -⟩ := hbuilt.rxHeader hw
  obtain rfl : (identity, identity.length) = identity' :=
    Except.ok.inj (hbuilt.rxIdentity.symm.trans hid)
  obtain rfl : parsed' = parsed := Except.ok.inj (hheader'.symm.trans hheader)
  rw [h.hasPayload] at hlen
  rw [hhdr, hlen]
  exact ⟨h.authenticated, show 0 < skyHmacLength by decide⟩

/-- The flag was not set when the channel was done with the frame. -/
theorem finishFrame_conveys (hw : w ≤ 56) (h8 : 8 ∣ w) (H : KeyedHash) (node : SkyNode w)
    (h : tx.Carries identity others v c)
    (hflag : tx.hdr.hasFlag skyFlagAuthenticated = false)
    (hroom : tx.length + skyHmacLength ≤ skyFrameMaxLen) :
    (finishFrame H node v tx).2.Conveys v c := by
  let sequenced : SkyStaticHeader :=
    { tx.hdr with frameSequence := skyHton16 (node.hmac.sequenceTx v) }
  cases hauth : (node.conf.vc v).hasFlag skyConfigFlagAuthenticateTx with
  | false =>
      rw [finishFrame_plain H node hauth tx]
      have hcarries : { tx with hdr := sequenced }.Carries identity others v c :=
        h.setHdr rfl rfl rfl rfl
      refine ⟨hcarries.header_channel, fun node' parsed hreceived _ => ?_⟩
      obtain ⟨hhdr, hreads⟩ := hcarries.received_reads hw h8 hreceived
      apply hreads.checked
      rw [hhdr]
      exact hflag
  | true =>
      obtain ⟨trailer, htrailer, heq⟩ := finishFrame_trailer H node hauth hroom
      have hcarries : { tx with hdr := sequenced.setFlag skyFlagAuthenticated }.Carries identity
          others v c :=
        h.setHdr rfl (sequenced.vc_setFlag (by decide))
          (sequenced.hasFlag_setFlag_of_disjoint (by decide))
          (sequenced.hasFlag_setFlag_of_disjoint (by decide))
      have hset : (sequenced.setFlag skyFlagAuthenticated).hasFlag skyFlagAuthenticated :=
        sequenced.hasFlag_setFlag (by decide)
      cases hpayload : c.payload with
      | some payload =>
          rw [heq]
          have hwhole := hcarries.appendTrailer hpayload trailer
          refine ⟨hwhole.header_channel, fun node' parsed hreceived _ => ?_⟩
          obtain ⟨hhdr, hreads⟩ := hwhole.received_reads hw h8 hreceived
          refine hreads.checked_trailer ?_ htrailer hpayload
          rw [hhdr]
          exact hset
      | none =>
          have hsealed := finishFrame_sealed H node hauth h hroom
          rw [hpayload] at hsealed
          refine ⟨?_, fun node' parsed hreceived hlong =>
            absurd (hsealed.too_short hw hreceived) hlong⟩
          rw [hsealed.header]
          exact hsealed.channel

/-! ## Reception -/

theorem parseExtensionsLoop_setTime (frame : SkyRadioFrame) (rxTimeTicks : Int)
    (stop turns cursor : Nat) (parsed : SkyParsedFrame) :
    parseExtensionsLoop w { frame with rxTimeTicks := rxTimeTicks } stop turns cursor parsed =
      parseExtensionsLoop w frame stop turns cursor parsed := by
  induction turns generalizing cursor parsed with
  | zero => rfl
  | succ turns ih =>
      rw [parseExtensionsLoop, parseExtensionsLoop]
      simp only [ih]
      rfl

/-- The parser does not read the time of a reception. -/
theorem SkyNode.received_receivedAt (node : SkyNode w) (tx : SkyTransmitFrame)
    (rxTimeTicks : Int) :
    node.received (tx.receivedAt rxTimeTicks) = node.received tx.frame := by
  simp only [SkyNode.received, SkyTransmitFrame.receivedAt, rxHeader,
    skyFrameParseExtensionHeaders, parseExtensionsLoop_setTime]
  rfl

/-- An accepted frame hands its content to the channel of the receiver. -/
theorem SkyTransmitFrame.Conveys.skyRx (h : tx.Conveys v c) {H : KeyedHash} (tick : Int)
    {node : SkyNode w} {frame : SkyRadioFrame} (hsame : tx.frame.SameFrame frame)
    (haccepts : node.accepts H (tx.receivedAt frame.rxTimeTicks) = true)
    {parsed : SkyParsedFrame} (hreads : parsed.Reads c) :
    (Skylink.skyRx H tick node frame).1.virtualChannels =
      Function.update node.virtualChannels v
        (skyVcProcessFrame tick (node.virtualChannels v) parsed tick).1 := by
  have hsame' : (tx.receivedAt frame.rxTimeTicks).SameFrame frame :=
    ⟨hsame.length, hsame.contents⟩
  obtain ⟨parsed', hreceived, hlong, hvc⟩ := skyRx_accepted tick haccepts
  rw [node.received_receivedAt] at hreceived
  have hchannel : (tx.receivedAt frame.rxTimeTicks).header.channel = v := h.channel
  have hprocess := hreads.skyVcProcessFrame_eq (h.reads node parsed' hreceived hlong) tick
    (node.virtualChannels v) tick
  rw [hsame'.skyRx_node rfl, hvc, hchannel, hprocess]

/-- A frame of another channel, or one that is not accepted. -/
theorem skyRx_other {H : KeyedHash} (tick : Int) {node : SkyNode w} {frame : SkyRadioFrame}
    (h : ¬(frame.header.channel = v ∧ node.accepts H frame = true)) :
    (skyRx H tick node frame).1.virtualChannels v = node.virtualChannels v := by
  cases haccepts : node.accepts H frame with
  | false => rw [skyRx_rejected tick haccepts]
  | true =>
      obtain ⟨parsed, -, -, hvc⟩ := skyRx_accepted tick haccepts
      rw [hvc, Function.update_of_ne]
      rintro rfl
      exact h ⟨rfl, haccepts⟩

end Finish

/-! ## Transmission -/

/-- The channels of a node once their timeouts are checked. -/
def SkyNode.checkedChannel (node : SkyNode w) (tick : Int) (v : Fin skyNumVirtualChannels) :
    SkyVirtualChannel w :=
  skyVcCheckTimeouts (node.virtualChannels v) tick node.conf.arq.timeoutTicks

/-- `sky_tx` sends nothing, or fills a frame for one channel. The frame that leaves the node
conveys what the channel has filled in. -/
inductive TxOutcome (H : KeyedHash) (tick : Int) (node : SkyNode w) : Prop
  | silent (hvc : (skyTx H tick node).1.virtualChannels = node.checkedChannel tick)
      (hsent : (skyTx H tick node).2.1 = none)
  | failed (first : FrameStart w) (frames : UInt16) (vc : SkyVirtualChannel w)
      (tx : SkyTransmitFrame) (ret : SkyRet)
      (hfill : skyVcFillFrame (node.checkedChannel tick first.channel) node.conf first.tx tick
        frames = (vc, tx, ret)) (hret : ret < 0)
      (hstate : vc.arqStateFlag = (node.checkedChannel tick first.channel).arqStateFlag)
      (hvc : (skyTx H tick node).1.virtualChannels =
        Function.update (node.checkedChannel tick) first.channel vc)
      (hsent : (skyTx H tick node).2.1 = none)
  | filled (first : FrameStart w) (frames : UInt16) (vc : SkyVirtualChannel w)
      (tx : SkyTransmitFrame) (ret : SkyRet) (c : ArqContent w) (sent : SkyTransmitFrame)
      (hfill : skyVcFillFrame (node.checkedChannel tick first.channel) node.conf first.tx tick
        frames = (vc, tx, ret)) (hret : ¬ret < 0)
      (hstate : vc.arqStateFlag = (node.checkedChannel tick first.channel).arqStateFlag)
      (hcarries : tx.Carries first.identity first.others first.channel c)
      (hvc : (skyTx H tick node).1.virtualChannels =
        Function.update (node.checkedChannel tick) first.channel vc)
      (hpicked : node.picked tick = some first.channel)
      (hsent : (skyTx H tick node).2.1 = some sent)
      (hconveys : sent.Conveys first.channel c)

section Transmit

variable {node : SkyNode w}

theorem craftFrame_eq (H : KeyedHash) (node : SkyNode w) (v : Fin skyNumVirtualChannels)
    (now : Int) {vc : SkyVirtualChannel w} {tx : SkyTransmitFrame} {ret : SkyRet}
    (hfill : skyVcFillFrame (node.virtualChannels v) node.conf (node.startedFor v now) now
      (node.mac.framesSentInCurrentWindowPerVc v) = (vc, tx, ret)) :
    craftFrame H node v now =
      if ret < 0 then
        ({ node with virtualChannels := Function.update node.virtualChannels v vc }, tx, ret)
      else
        ((finishFrame H
            { node with virtualChannels := Function.update node.virtualChannels v vc } v tx).1,
          (finishFrame H
            { node with virtualChannels := Function.update node.virtualChannels v vc } v tx).2,
          1) := by
  have hhmac := skyTxExtensionEvalHmacReset_fst node.hmac
    (macSetFrameFields node.conf.mac node.mac (skyTxStartFrame node.conf v) now) v
  rw [SkyNode.startedFor] at hfill
  simp only [craftFrame, hhmac, hfill]

theorem skyTx_outcome (hw : ArqSequenceWidth w) (H : KeyedHash) (tick : Int)
    (hpos : 0 < node.conf.identityLen) (hid : node.conf.identityLen ≤ skyMaxIdentityLen)
    (hnode : node.RingsHold) : TxOutcome H tick node := by
  obtain ⟨h8, hw56, -⟩ := hw.bounds
  by_cases hsend : macCanSend node.conf.mac node.mac tick = true
  case neg =>
    rw [Bool.not_eq_true] at hsend
    apply TxOutcome.silent
    · rw [skyTx_eq, hsend]
      rfl
    · rw [skyTx_eq, hsend]
  cases hpicked : node.picked tick with
  | none =>
      apply TxOutcome.silent
      · rw [skyTx_eq, hsend, hpicked]
        rfl
      · rw [skyTx_eq, hsend, hpicked]
  | some v =>
      let ready := node.readyToSend tick
      let frames := ready.mac.framesSentInCurrentWindowPerVc v
      have hready : 0 < ready.conf.identityLen ∧ ready.conf.identityLen ≤ skyMaxIdentityLen :=
        ⟨hpos, hid⟩
      obtain ⟨others, hcarries⟩ := SkyNode.startedFor_carries hw56 hready.1 hready.2 v tick
      let first : FrameStart w :=
        ⟨ready.startedFor v tick, ready.conf.sender, others, v, hcarries⟩
      obtain ⟨hsound, hlength, hle⟩ := SkyNode.startedFor_spec hready.2 v tick
      obtain ⟨view, hrep⟩ : ∃ view, VcRep (node.checkedChannel tick v) view :=
        hnode.checkTimeouts tick v
      have hfilledTo := hrep.filledTo hw hsound (hlength.le.trans hle) node.conf tick frames
      have hauth := fillFrame_authenticated (node.checkedChannel tick v) node.conf
        (ready.startedFor v tick) tick frames
      obtain ⟨vc, tx, ret, c, -, hfill, hfilled, -, -, hstate, -⟩ :=
        hrep.fill hw56 hcarries node.conf tick frames
      rw [hfill] at hfilledTo hauth
      have hcraft := craftFrame_eq H ready v tick hfill
      have htx : skyTx H tick node = ((craftFrame H ready v tick).1,
          if (craftFrame H ready v tick).2.2 = 1 then some (craftFrame H ready v tick).2.1
            else none,
          (craftFrame H ready v tick).2.2) := by
        rw [skyTx_eq, hsend, hpicked]
      by_cases hret : ret < 0
      case pos =>
        rw [if_pos hret] at hcraft
        refine .failed first frames vc tx ret hfill hret hstate ?_ ?_
        · rw [htx, hcraft]
          rfl
        · rw [htx, hcraft]
          exact if_neg (by rintro rfl; exact absurd hret (by decide))
      case neg =>
        rw [if_neg hret] at hcraft
        let served : SkyNode w :=
          { ready with virtualChannels := Function.update ready.virtualChannels v vc }
        refine .filled first frames vc tx ret c (finishFrame H served v tx).2 hfill hret hstate
          hfilled ?_ hpicked ?_ (finishFrame_conveys hw56 h8 H served hfilled
            (hauth.trans (ready.startedFor_authenticated v tick)) hfilledTo.room)
        · rw [htx, hcraft]
          rfl
        · rw [htx, hcraft]
          rfl

end Transmit

end Skylink
