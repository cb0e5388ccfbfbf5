import Skylink.Configuration
import Skylink.SequenceRing.Model

/-!
# Virtual channels

The ARQ state machine of one virtual channel. The functions that call
`sky_get_tick_time` take the global tick as the argument `tickTime`; the argument
`now` is the tick their caller passes.
-/

namespace Skylink

variable {w : Nat}

inductive ArqState
  | off
  | inInit
  | on
deriving DecidableEq, Repr

/-- The value of the state on the wire. -/
def ArqState.toByte : ArqState → UInt8
  | .off => 0
  | .inInit => 1
  | .on => 2

structure SkyVirtualChannel (w : Nat) where
  elementBuffer : SkyElementBuffer
  sendRing : SkySendRing w
  rcvRing : SkyRcvRing w
  arqStateFlag : ArqState
  handshakeSend : UInt8
  arqSessionIdentifier : UInt32
  needRecall : UInt8
  lastTxTick : Int
  lastRxTick : Int
  lastCtrlSendTick : Int
  unconfirmedPayloads : Int16
deriving DecidableEq, Repr

/-! ## Creation and wipes -/

def skyVcWipeToArqOffState (vc : SkyVirtualChannel w) : SkyVirtualChannel w :=
  let (sendRing, eb) := skySendRingWipe vc.sendRing vc.elementBuffer 0
  let (rcvRing, eb) := skyRcvRingWipe vc.rcvRing eb 0
  { elementBuffer := skyElementBufferWipe eb
    sendRing := sendRing
    rcvRing := rcvRing
    needRecall := 0
    arqStateFlag := .off
    arqSessionIdentifier := 0
    lastTxTick := 0
    lastRxTick := 0
    lastCtrlSendTick := 0
    unconfirmedPayloads := 0
    handshakeSend := 0 }

/-- The wipe of both rings that starts a session; the element buffer keeps its state. -/
def wipeRings (vc : SkyVirtualChannel w) : SkyVirtualChannel w :=
  let (rcvRing, eb) := skyRcvRingWipe vc.rcvRing vc.elementBuffer 0
  let (sendRing, eb) := skySendRingWipe vc.sendRing eb 0
  { vc with elementBuffer := eb, sendRing := sendRing, rcvRing := rcvRing }

def skyVcWipeToArqInitState (tickTime : Int) (vc : SkyVirtualChannel w) :
    SkyVirtualChannel w :=
  { wipeRings vc with
    needRecall := 0
    arqStateFlag := .inInit
    arqSessionIdentifier := UInt32.ofInt tickTime
    lastTxTick := tickTime
    lastRxTick := tickTime
    lastCtrlSendTick := 0
    unconfirmedPayloads := 0
    handshakeSend := 0 }

def skyVcWipeToArqOnState (tickTime : Int) (vc : SkyVirtualChannel w) (identifier : UInt32) :
    SkyVirtualChannel w :=
  { wipeRings vc with
    needRecall := 0
    arqStateFlag := .on
    arqSessionIdentifier := identifier
    lastTxTick := tickTime
    lastRxTick := tickTime
    lastCtrlSendTick := 0
    unconfirmedPayloads := 0
    handshakeSend := 1 }

/-- The configuration that `sky_vc_create` leaves in force. -/
def SkyVCConfig.normalise (config : SkyVCConfig) : SkyVCConfig :=
  let rcvRingLen :=
    if config.rcvRingLen < 6 ∨ 250 < config.rcvRingLen then 32 else config.rcvRingLen
  let horizonWidth :=
    if rcvRingLen - 3 < config.horizonWidth then rcvRingLen - 3 else config.horizonWidth
  let sendRingLen :=
    if config.sendRingLen < 6 ∨ 250 < config.sendRingLen then 32 else config.sendRingLen
  let usableElementSize :=
    if config.usableElementSize < 12 ∨ 500 < config.usableElementSize then 32
    else config.usableElementSize
  let requireAuthentication :=
    if config.requireAuthentication &&&
        (skyConfigFlagAuthenticateTx ||| skyConfigFlagUseCrc32) = 0 then
      config.requireAuthentication ||| skyConfigFlagUseCrc32
    else config.requireAuthentication
  { usableElementSize, rcvRingLen, horizonWidth, sendRingLen, requireAuthentication }

def computeRequiredElementCount (elementSize totalRingSlots maximumPlSize : Nat) : Nat :=
  totalRingSlots * skyElementBufferElementRequirement elementSize maximumPlSize

/-- `none` when a ring cannot be created: the C code then dereferences `NULL`. -/
def skyVcCreate (config : SkyVCConfig) : Option (SkyVCConfig × SkyVirtualChannel w) := do
  let config := config.normalise
  let sendRing ← skySendRingCreate config.sendRingLen 0
  let rcvRing ← skyRcvRingCreate config.rcvRingLen config.horizonWidth 0
  let ringSlots := config.rcvRingLen + config.sendRingLen - 2
  let optimalElementCount := computeRequiredElementCount
    (config.usableElementSize + 4).toNat ringSlots.toNat skyPayloadMaxLen
  let elementBuffer :=
    skyElementBufferCreate config.usableElementSize.toNat optimalElementCount
  some (config, skyVcWipeToArqOffState
    { elementBuffer, sendRing, rcvRing
      arqStateFlag := .off, handshakeSend := 0, arqSessionIdentifier := 0, needRecall := 0
      lastTxTick := 0, lastRxTick := 0, lastCtrlSendTick := 0, unconfirmedPayloads := 0 })

def skyVcArqConnect (tickTime : Int) (vc : SkyVirtualChannel w) : SkyVirtualChannel w :=
  skyVcWipeToArqInitState tickTime vc

def skyVcArqDisconnect (vc : SkyVirtualChannel w) : SkyVirtualChannel w :=
  skyVcWipeToArqOffState vc

def skyVcCheckTimeouts (vc : SkyVirtualChannel w) (now timeout : Int) : SkyVirtualChannel w :=
  if vc.arqStateFlag = .off then vc
  else
    let txTimeout := decide (timeout < wrapTimeTicks (now - vc.lastTxTick))
    let rxTimeout := decide (timeout < wrapTimeTicks (now - vc.lastRxTick))
    if txTimeout || rxTimeout then skyVcWipeToArqOffState vc else vc

/-! ## Sending -/

def skyVcPushPacketToSend (vc : SkyVirtualChannel w) (payload : Bytes) :
    SkyVirtualChannel w × Except SkyRet (BitVec w) :=
  if skyPayloadMaxLen < payload.length then (vc, .error .tooLongPayload)
  else
    let (sendRing, eb, ret) := sendRingPushPacketToSend vc.sendRing vc.elementBuffer payload
    ({ vc with sendRing := sendRing, elementBuffer := eb }, ret)

def skyVcReadPacketForTxMonotonic (vc : SkyVirtualChannel w) :
    SkyVirtualChannel w × Except SkyRet (Bytes × BitVec w) :=
  match sendRingReadToTx vc.sendRing vc.elementBuffer false with
  | (sendRing, .error ret) => ({ vc with sendRing := sendRing }, .error ret)
  | (sendRing, .ok read) =>
      let (sendRing, eb, _) :=
        sendRingCleanTailUpTo sendRing vc.elementBuffer sendRing.txSequence
      ({ vc with sendRing := sendRing, elementBuffer := eb }, .ok read)

def skyVcUpdateTxSync (vc : SkyVirtualChannel w) (peerRxHeadSequenceByCtrl : BitVec w)
    (now : Int) : SkyVirtualChannel w :=
  let (sendRing, eb, cleared) :=
    sendRingCleanTailUpTo vc.sendRing vc.elementBuffer peerRxHeadSequenceByCtrl
  let nCleared := match cleared with | .ok n => n | .error _ => 0
  let lastTxTick := if 0 < nCleared then now else vc.lastTxTick
  let lastTxTick := if sendRing.txSequence = peerRxHeadSequenceByCtrl then now else lastTxTick
  { vc with sendRing := sendRing, elementBuffer := eb, lastTxTick := lastTxTick }

/-! ## Receiving -/

def skyVcReadNextReceived (vc : SkyVirtualChannel w) (maxLength : Nat) :
    SkyVirtualChannel w × Except SkyRet (SkyRet × Bytes) :=
  let (rcvRing, eb, ret) := rcvRingReadNextReceived vc.rcvRing vc.elementBuffer maxLength
  ({ vc with rcvRing := rcvRing, elementBuffer := eb }, ret)

def skyVcPushRxPacketMonotonic (vc : SkyVirtualChannel w) (src : Bytes) :
    SkyVirtualChannel w × Except SkyRet Nat :=
  let (rcvRing, eb, ret) :=
    rcvRingPushRxPacket vc.rcvRing vc.elementBuffer src vc.rcvRing.headSequence
  ({ vc with rcvRing := rcvRing, elementBuffer := eb }, ret)

def skyVcPushRxPacket (vc : SkyVirtualChannel w) (src : Bytes) (sequence : BitVec w)
    (now : Int) : SkyVirtualChannel w × Except SkyRet Nat :=
  let (rcvRing, eb, ret) := rcvRingPushRxPacket vc.rcvRing vc.elementBuffer src sequence
  let advanced := match ret with | .ok n => n | .error _ => 0
  ({ vc with
     rcvRing := rcvRing
     elementBuffer := eb
     lastRxTick := if 0 < advanced then now else vc.lastRxTick
     unconfirmedPayloads := vc.unconfirmedPayloads + 1 }, ret)

def skyVcUpdateRxSync (vc : SkyVirtualChannel w) (peerTxHeadSequenceByCtrl : BitVec w)
    (now : Int) : SkyVirtualChannel w :=
  let sync := rcvRingGetSequenceSyncStatus vc.rcvRing peerTxHeadSequenceByCtrl
  if sync = 0 then { vc with lastRxTick := now, needRecall := 0 }
  else if sync = .ringSequencesOutOfSync then { vc with needRecall := 1 }
  else vc

/-! ## Filling a frame -/

/-- The conditions `b1`, `b2`, `b3` and `b4` under which an idle frame is due. -/
def idleControlDue (vc : SkyVirtualChannel w) (config : SkyConfig) (now : Int) : Bool :=
  let b1 := decide (config.arq.idleFrameThreshold < wrapTimeTicks (now - vc.lastCtrlSendTick))
  let b2 := decide (config.arq.idleFrameThreshold < wrapTimeTicks (now - vc.lastTxTick))
  let b3 := decide (config.arq.idleFrameThreshold < wrapTimeTicks (now - vc.lastRxTick))
  let b4 := decide (0 < vc.unconfirmedPayloads)
  b1 || b2 || b3 || b4

/-- `frames_sent_in_this_vc_window < config->arq.idle_frames_per_window`. -/
def idleFramesLeft (config : SkyConfig) (framesSentInThisVcWindow : UInt16) : Bool :=
  decide ((framesSentInThisVcWindow.toNat : Int) < config.arq.idleFramesPerWindow)

def skyVcContentToSend (vc : SkyVirtualChannel w) (config : SkyConfig) (now : Int)
    (framesSentInThisVcWindow : UInt16) : Bool :=
  match vc.arqStateFlag with
  | .off => decide (0 < sendRingCountPacketsToSend vc.sendRing false)
  | .inInit => idleFramesLeft config framesSentInThisVcWindow
  | .on =>
      if 0 < sendRingCountPacketsToSend vc.sendRing true then true
      else if idleFramesLeft config framesSentInThisVcWindow &&
          (rcvRingGetHorizonBitmap vc.rcvRing != 0 || vc.needRecall != 0) then true
      else if vc.handshakeSend ≠ 0 then true
      else if idleFramesLeft config framesSentInThisVcWindow then idleControlDue vc config now
      else false

/-- The case `ARQ_STATE_OFF` of `sky_vc_fill_frame`. The assertions are not compiled
in; after a successful peek the read does not fail. -/
def fillFrameOff (vc : SkyVirtualChannel w) (tx : SkyTransmitFrame) :
    SkyVirtualChannel w × SkyTransmitFrame × SkyRet :=
  match sendRingPeekNextTxSizeAndSequence vc.sendRing vc.elementBuffer false with
  | .error _ => (vc, tx, 0)
  | .ok (length, _) =>
      if 0 < length then
        let tx := tx.assert (decide ((length : Int) ≤ skyFrameGetSpaceLeft tx.length))
        match skyVcReadPacketForTxMonotonic vc with
        | (vc, .ok (read, _)) => (vc, tx.extend read, 1)
        | (vc, .error _) => (vc, (tx.assert false).extend [], 1)
      else (vc, tx, 0)

/-- The handshake response of a connected channel. -/
def fillHandshake (vc : SkyVirtualChannel w) (tx : SkyTransmitFrame) (ret : SkyRet) :
    SkyVirtualChannel w × SkyTransmitFrame × SkyRet :=
  if 0 < vc.handshakeSend then
    ({ vc with handshakeSend := vc.handshakeSend - 1 },
      skyFrameAddExtensionArqHandshake tx ArqState.on.toByte vc.arqSessionIdentifier, 1)
  else (vc, tx, ret)

/-- The retransmit request of a connected channel. -/
def fillRequest (vc : SkyVirtualChannel w) (config : SkyConfig) (tx : SkyTransmitFrame)
    (framesSentInThisVcWindow : UInt16) (ret : SkyRet) :
    SkyVirtualChannel w × SkyTransmitFrame × SkyRet :=
  let mask := rcvRingGetHorizonBitmap vc.rcvRing
  if idleFramesLeft config framesSentInThisVcWindow && (mask != 0 || vc.needRecall != 0) then
    ({ vc with needRecall := 0 },
      skyFrameAddExtensionArqRequest tx vc.rcvRing.headSequence mask, 1)
  else (vc, tx, ret)

/-- The control extension of a connected channel. -/
def fillCtrl (vc : SkyVirtualChannel w) (config : SkyConfig) (tx : SkyTransmitFrame)
    (now : Int) (framesSentInThisVcWindow : UInt16) (ret : SkyRet) :
    SkyVirtualChannel w × SkyTransmitFrame × SkyRet :=
  let payloadToSend := decide (0 < sendRingCountPacketsToSend vc.sendRing true)
  if (idleFramesLeft config framesSentInThisVcWindow && idleControlDue vc config now) ||
      payloadToSend then
    ({ vc with lastCtrlSendTick := now, unconfirmedPayloads := 0 },
      skyFrameAddExtensionArqCtrl tx vc.sendRing.txSequence vc.rcvRing.headSequence, 1)
  else (vc, tx, ret)

/-- The payload of a connected channel. A packet that does not fit is discarded. -/
def fillPayload (vc : SkyVirtualChannel w) (tx : SkyTransmitFrame) (ret : SkyRet) :
    SkyVirtualChannel w × SkyTransmitFrame × SkyRet :=
  if 0 < sendRingCountPacketsToSend vc.sendRing true then
    match sendRingPeekNextTxSizeAndSequence vc.sendRing vc.elementBuffer true with
    | .error packetLength => (vc, tx, packetLength)
    | .ok (packetLength, packetSequence) =>
        let requiredLength : Int := packetLength + (w / 8 : Nat) + 1
        let (sendRing, read) := sendRingReadToTx vc.sendRing vc.elementBuffer true
        let vc := { vc with sendRing := sendRing }
        if requiredLength ≤ skyFrameGetSpaceLeft tx.length then
          let tx := skyFrameAddExtensionArqSequence tx packetSequence
          match read with
          | .ok (read, _) => (vc, tx.extend read, 1)
          | .error _ => (vc, (tx.assert false).extend [], 1)
        else (vc, tx, .noSpaceForPayload)
  else (vc, tx, ret)

/-- The case `ARQ_STATE_ON` of `sky_vc_fill_frame`. -/
def fillFrameOn (vc : SkyVirtualChannel w) (config : SkyConfig) (tx : SkyTransmitFrame)
    (now : Int) (framesSentInThisVcWindow : UInt16) :
    SkyVirtualChannel w × SkyTransmitFrame × SkyRet :=
  let tx := { tx with hdr := tx.hdr.setFlag skyFlagArqOn }
  let (vc, tx, ret) := fillHandshake vc tx 0
  let (vc, tx, ret) := fillRequest vc config tx framesSentInThisVcWindow ret
  let (vc, tx, ret) := fillCtrl vc config tx now framesSentInThisVcWindow ret
  fillPayload vc tx ret

def skyVcFillFrame (vc : SkyVirtualChannel w) (config : SkyConfig) (tx : SkyTransmitFrame)
    (now : Int) (framesSentInThisVcWindow : UInt16) :
    SkyVirtualChannel w × SkyTransmitFrame × SkyRet :=
  match vc.arqStateFlag with
  | .off => fillFrameOff vc tx
  | .inInit =>
      if idleFramesLeft config framesSentInThisVcWindow then
        (vc, skyFrameAddExtensionArqHandshake tx ArqState.inInit.toByte
          vc.arqSessionIdentifier, 1)
      else (vc, tx, 0)
  | .on => fillFrameOn vc config tx now framesSentInThisVcWindow

/-! ## Processing a frame -/

def skyVcHandleHandshake (tickTime : Int) (vc : SkyVirtualChannel w) (peerState : UInt8)
    (identifier : UInt32) : SkyVirtualChannel w × SkyRet :=
  match vc.arqStateFlag with
  | .off => ({ skyVcWipeToArqOnState tickTime vc identifier with handshakeSend := 1 }, 1)
  | .inInit =>
      if identifier = vc.arqSessionIdentifier then
        ({ vc with arqStateFlag := .on, handshakeSend := 0 }, 1)
      else if vc.arqSessionIdentifier < identifier then
        ({ skyVcWipeToArqOnState tickTime vc identifier with handshakeSend := 1 }, 1)
      else (vc, 0)
  | .on =>
      if identifier = vc.arqSessionIdentifier then
        ({ vc with handshakeSend := if peerState = ArqState.inInit.toByte then 1 else 0 }, 0)
      else ({ skyVcWipeToArqOnState tickTime vc identifier with handshakeSend := 1 }, 1)

/-- Whether `sky_vc_handle_handshake` wipes the rings for another session. -/
def SkyVirtualChannel.enters (vc : SkyVirtualChannel w) (identifier : UInt32) : Bool :=
  match vc.arqStateFlag with
  | .off => true
  | .inInit => decide (vc.arqSessionIdentifier < identifier)
  | .on => identifier != vc.arqSessionIdentifier

/-- The fields `peer_state` and `identifier` of a handshake extension. The identifier
is read as it lies in memory. -/
def SkyHeaderExtension.arqHandshake (ext : SkyHeaderExtension) : UInt8 × UInt32 :=
  (ext.data.getD 0 0, loadU32 (ext.data.drop 1))

def SkyHeaderExtension.arqSeqSequence (ext : SkyHeaderExtension) : BitVec w :=
  skyArqSeqNtoh ext.data

/-- The fields `tx_sequence` and `rx_sequence` in host byte order. -/
def SkyHeaderExtension.arqCtrlSequences (ext : SkyHeaderExtension) : BitVec w × BitVec w :=
  (skyArqSeqNtoh ext.data, skyArqSeqNtoh (ext.data.drop (w / 8)))

/-- The fields `sequence` and `mask` of a request in host byte order. -/
def SkyHeaderExtension.arqReq (ext : SkyHeaderExtension) : BitVec w × UInt16 :=
  (skyArqSeqNtoh ext.data, skyNtoh16 (loadU16 (ext.data.drop (w / 8))))

/-- The handshake part of `sky_vc_process_frame`. -/
def processHandshake (tickTime : Int) (vc : SkyVirtualChannel w) (parsed : SkyParsedFrame) :
    SkyVirtualChannel w :=
  match parsed.arqHandshake with
  | none => vc
  | some ext => (skyVcHandleHandshake tickTime vc ext.arqHandshake.1 ext.arqHandshake.2).1

/-- The control part of `sky_vc_process_frame` in `ARQ_STATE_ON`. -/
def processCtrl (vc : SkyVirtualChannel w) (parsed : SkyParsedFrame) (now : Int) :
    SkyVirtualChannel w :=
  match parsed.arqCtrl with
  | none => vc
  | some ext =>
      let sequences : BitVec w × BitVec w := ext.arqCtrlSequences
      skyVcUpdateRxSync (skyVcUpdateTxSync vc sequences.2 now) sequences.1 now

/-- The request part of `sky_vc_process_frame` in `ARQ_STATE_ON`. -/
def processRequest (vc : SkyVirtualChannel w) (parsed : SkyParsedFrame) :
    SkyVirtualChannel w :=
  match parsed.arqRequest with
  | none => vc
  | some ext =>
      let request : BitVec w × UInt16 := ext.arqReq
      { vc with
        sendRing := (sendRingScheduleResendsByMask vc.sendRing request.1 request.2).1 }

/-- The case `ARQ_STATE_ON` of `sky_vc_process_frame`. -/
def processFrameOn (vc : SkyVirtualChannel w) (parsed : SkyParsedFrame) (now : Int) :
    SkyVirtualChannel w × SkyRet :=
  let vc := processCtrl vc parsed now
  if 0 < parsed.payloadLen then
    match parsed.arqSequence with
    | none => (vc, -1)
    | some ext =>
        let vc := (skyVcPushRxPacket vc parsed.payloadBytes ext.arqSeqSequence now).1
        (processRequest vc parsed, 0)
  else (processRequest vc parsed, 0)

def skyVcProcessFrame (tickTime : Int) (vc : SkyVirtualChannel w) (parsed : SkyParsedFrame)
    (now : Int) : SkyVirtualChannel w × SkyRet :=
  let vc := processHandshake tickTime vc parsed
  match vc.arqStateFlag with
  | .off =>
      if 0 < parsed.payloadLen then
        ((skyVcPushRxPacketMonotonic vc parsed.payloadBytes).1, 0)
      else (vc, 0)
  | .inInit => (vc, 0)
  | .on => processFrameOn vc parsed now

end Skylink
