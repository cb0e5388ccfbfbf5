import Mathlib.Data.Fin.VecNotation
import Mathlib.Logic.Function.Basic
import Skylink.Node.Mac
import Skylink.VirtualChannel.Model

/-!
# A node

Authentication, reception and transmission of plain frames. The keyed hash stands
for the vendored BLAKE3: it maps a key and a byte string to the bytes that
`blake3_hasher_finalize` writes for the length of the trailer. The tick is the value
of `sky_get_tick_time` during the call.
-/

namespace Skylink

variable {w : Nat}

/-- The truncated keyed hash. -/
structure KeyedHash where
  hash : Bytes → Bytes → Bytes
  hash_length : ∀ key data, (hash key data).length = skyHmacLength

/-- `nonce_seed` and the hash context are left out. -/
structure SkyHMAC where
  key : Bytes
  sequenceTx : Fin skyNumVirtualChannels → UInt16
  sequenceRx : Fin skyNumVirtualChannels → UInt16
  vcEnforcementNeed : Fin skyNumVirtualChannels → UInt8

structure SkyVCDiagnostics where
  arqRetransmits : UInt16
  txFrames : UInt16
  rxFrames : UInt16
deriving DecidableEq, Repr

/-- The counters of `SkyDiagnostics` that frames without error correction touch. -/
structure SkyDiagnostics where
  rxFrames : UInt16
  rxBytes : UInt16
  rxHmacFail : UInt16
  txFrames : UInt16
  txBytes : UInt16
  vcStats : Fin skyNumVirtualChannels → SkyVCDiagnostics

structure SkyNode (w : Nat) where
  conf : SkyConfig
  diag : SkyDiagnostics
  virtualChannels : Fin skyNumVirtualChannels → SkyVirtualChannel w
  mac : SkyMAC
  hmac : SkyHMAC

/-! ## Creation -/

def skyHmacCreate (config : SkyHMACConfig) : SkyHMAC :=
  { key := config.key.take config.keyLength.toNat
    sequenceTx := fun _ => 0
    sequenceRx := fun _ => 0
    vcEnforcementNeed := fun _ => 0 }

def SkyARQConfig.normalise (arq : SkyARQConfig) : SkyARQConfig :=
  { timeoutTicks :=
      if arq.timeoutTicks < 1000 ∨ 30000 < arq.timeoutTicks then 10000 else arq.timeoutTicks
    idleFrameThreshold :=
      if arq.idleFrameThreshold < 100 ∨ 10000 < arq.idleFrameThreshold then 1000
      else arq.idleFrameThreshold
    idleFramesPerWindow :=
      if arq.idleFramesPerWindow < 1 ∨ 4 < arq.idleFramesPerWindow then 1
      else arq.idleFramesPerWindow }

def SkyDiagnostics.zero : SkyDiagnostics :=
  { rxFrames := 0, rxBytes := 0, rxHmacFail := 0, txFrames := 0, txBytes := 0
    vcStats := fun _ => ⟨0, 0, 0⟩ }

/-- `none` for the null handle, and where a virtual channel cannot be created. -/
def skyCreate (config : SkyConfig) : Option (SkyNode w) := do
  guard (3 ≤ config.identityLen ∧ config.identityLen ≤ 7)
  let vc0 ← skyVcCreate (config.vc 0)
  let vc1 ← skyVcCreate (config.vc 1)
  let vc2 ← skyVcCreate (config.vc 2)
  let vc3 ← skyVcCreate (config.vc 3)
  let conf := { config with
    arq := config.arq.normalise
    mac := config.mac.normalise
    vc := ![vc0.1, vc1.1, vc2.1, vc3.1] }
  some
    { conf := conf
      diag := .zero
      mac := skyMacCreate conf.mac
      hmac := skyHmacCreate conf.hmac
      virtualChannels := ![vc0.2, vc1.2, vc2.2, vc3.2] }

/-! ## Authentication -/

def skyHmacGetNextTxSequence (hmac : SkyHMAC) (vc : Fin skyNumVirtualChannels) :
    SkyHMAC × UInt16 :=
  let seq := hmac.sequenceTx vc
  ({ hmac with sequenceTx := Function.update hmac.sequenceTx vc (seq + 1) }, seq)

/-- The frame without change where the trailer does not fit; `sky_tx` ignores the
return code. -/
def skyHmacExtendWithAuthentication (H : KeyedHash) (hmac : SkyHMAC)
    (tx : SkyTransmitFrame) : SkyTransmitFrame :=
  if skyFrameMaxLen - skyHmacLength < tx.length then tx
  else
    let tx := { tx with hdr := tx.hdr.setFlag skyFlagAuthenticated }
    { tx with body := tx.body ++ H.hash hmac.key tx.bytes }

def skyRxProcessExtHmacSequenceReset (hmac : SkyHMAC) (ext : SkyHeaderExtension)
    (vc : Fin skyNumVirtualChannels) : SkyHMAC :=
  if ext.length ≠ 2 + 1 then hmac
  else
    { hmac with
      sequenceTx := Function.update hmac.sequenceTx vc (skyNtoh16 (loadU16 ext.data)) }

/-- The reset extension is processed before the sequence number is validated. -/
def processHmacReset (hmac : SkyHMAC) (parsed : SkyParsedFrame)
    (vc : Fin skyNumVirtualChannels) : SkyHMAC :=
  match parsed.hmacReset with
  | none => hmac
  | some ext => skyRxProcessExtHmacSequenceReset hmac ext vc

/-- The field `vc` of a static header; the bit field has two bits. -/
def SkyStaticHeader.channel (h : SkyStaticHeader) : Fin skyNumVirtualChannels :=
  Fin.ofNat skyNumVirtualChannels h.vc

/-- What every rejection after the length check does. -/
def SkyNode.rejectFrame (self : SkyNode w) (vc : Fin skyNumVirtualChannels) : SkyNode w :=
  { self with
    diag := { self.diag with rxHmacFail := self.diag.rxHmacFail + 1 }
    hmac := { self.hmac with
      vcEnforcementNeed := Function.update self.hmac.vcEnforcementNeed vc 1 } }

/-- The trailer that the receiver compares with the hash. -/
def SkyRadioFrame.trailer (frame : SkyRadioFrame) : Bytes :=
  (frame.raw.drop (frame.length - skyHmacLength)).take skyHmacLength

/-- The bytes that the receiver hashes. -/
def SkyRadioFrame.hashed (frame : SkyRadioFrame) : Bytes :=
  frame.raw.take (frame.length - skyHmacLength)

/-- On success the value is the parsed frame without its trailer. -/
def skyHmacCheckAuthentication (H : KeyedHash) (self : SkyNode w) (frame : SkyRadioFrame)
    (parsed : SkyParsedFrame) : SkyNode w × Except SkyRet SkyParsedFrame :=
  let vc := parsed.hdr.channel
  let vcConf := self.conf.vc vc
  let frameSequence := skyNtoh16 parsed.hdr.frameSequence
  let parsed := { parsed with hdr := { parsed.hdr with frameSequence := frameSequence } }
  let withoutTrailer := { parsed with payloadLen := parsed.payloadLen - skyHmacLength }
  if parsed.hdr.hasFlag skyFlagAuthenticated ∧ parsed.payloadLen < skyHmacLength then
    ({ self with diag := { self.diag with rxHmacFail := self.diag.rxHmacFail + 1 } },
      .error .frameTooShortForHmac)
  else if !vcConf.hasFlag skyConfigFlagRequireAuthentication then
    (self, .ok (if parsed.hdr.hasFlag skyFlagAuthenticated then withoutTrailer else parsed))
  else if !parsed.hdr.hasFlag skyFlagAuthenticated then
    (self.rejectFrame vc, .error .authMissing)
  else if frame.trailer ≠ H.hash self.hmac.key frame.hashed then
    (self.rejectFrame vc, .error .authFailed)
  else
    let self := { self with hmac := processHmacReset self.hmac parsed vc }
    let jump := frameSequence - self.hmac.sequenceRx vc
    if vcConf.hasFlag skyConfigFlagRequireSequence ∧
        self.conf.hmac.maximumJump < (jump.toNat : Int) then
      (self.rejectFrame vc, .error .excessiveHmacJump)
    else
      ({ self with
         hmac := { self.hmac with
           sequenceRx := Function.update self.hmac.sequenceRx vc (frameSequence + 1) } },
        .ok withoutTrailer)

/-! ## Reception -/

def filterByIdentity (self : SkyNode w) (identity : Bytes × Nat) : Bool :=
  identity.1 == self.conf.identity.take identity.2 && self.conf.identityLen == identity.2

/-- The fields `window` and `remaining` in host byte order. -/
def SkyHeaderExtension.tddControl (ext : SkyHeaderExtension) : UInt16 × UInt16 :=
  (skyNtoh16 (loadU16 ext.data), skyNtoh16 (loadU16 (ext.data.drop 2)))

def skyRxProcessExtMacControl (tick : Int) (self : SkyNode w) (rxTimeTicks : Int)
    (parsed : SkyParsedFrame) : SkyNode w :=
  match parsed.macTdd with
  | none => self
  | some ext =>
      if self.conf.mac.unauthenticatedMacUpdates = 0 ∧
          ¬parsed.hdr.hasFlag skyFlagAuthenticated then self
      else
        { self with
          mac := macUpdateBelief self.conf.mac self.mac tick rxTimeTicks
            ext.tddControl.1.toNat ext.tddControl.2.toNat }

/-- The steps of `sky_rx` once the frame is authenticated. -/
def acceptFrame (tick : Int) (self : SkyNode w) (rxTimeTicks : Int) (parsed : SkyParsedFrame) :
    SkyNode w × SkyRet :=
  let vc := parsed.hdr.channel
  let self := skyRxProcessExtMacControl tick self rxTimeTicks parsed
  let stats := self.diag.vcStats vc
  let diag := { self.diag with
    vcStats := Function.update self.diag.vcStats vc
      { stats with rxFrames := stats.rxFrames + 1 } }
  let (channel, ret) := skyVcProcessFrame tick (self.virtualChannels vc) parsed tick
  ({ self with
     diag := diag
     virtualChannels := Function.update self.virtualChannels vc channel }, ret)

/-- The statistics of a received frame. -/
def SkyNode.countReceived (self : SkyNode w) (frame : SkyRadioFrame) : SkyNode w :=
  { self with
    diag := { self.diag with
      rxFrames := self.diag.rxFrames + 1
      rxBytes := self.diag.rxBytes + UInt16.ofNat frame.length } }

def skyRx (H : KeyedHash) (tick : Int) (self : SkyNode w) (frame : SkyRadioFrame) :
    SkyNode w × SkyRet :=
  if frame.length < skyFrameMinLen then (self, .invalidPlainLength)
  else
    let self := self.countReceived frame
    match rxIdentity frame with
    | .error ret => (self, ret)
    | .ok identity =>
        if filterByIdentity self identity then (self, .filteredByIdentity)
        else
          match rxHeader w frame identity with
          | .error ret => (self, ret)
          | .ok parsed =>
              match skyHmacCheckAuthentication H self frame parsed with
              | (self, .error ret) => (self, ret)
              | (self, .ok parsed) => acceptFrame tick self frame.rxTimeTicks parsed

/-! ## Transmission -/

def skyTxTrackTddState (self : SkyNode w) (canSend contentToSend : Bool) (now : Int) :
    SkyNode w :=
  let conf := self.conf.mac
  let mac := self.mac
  let mac := if canSend && !contentToSend then { mac with unusedWindowTime := true } else mac
  let mac :=
    if !canSend && mac.windowOn then
      { mac with
        windowAdjustCounter :=
          if mac.unusedWindowTime then mac.windowAdjustCounter - 1
          else mac.windowAdjustCounter + 1 }
    else mac
  let mac :=
    if canSend && !mac.windowOn then
      let mac :=
        if mac.windowAdjustCounter ≤ -conf.windowAdjustmentPeriod then
          { macShrinkWindow conf mac now with windowAdjustCounter := 0 }
        else mac
      if conf.windowAdjustmentPeriod ≤ mac.windowAdjustCounter then
        { macExpandWindow conf mac now with windowAdjustCounter := 0 }
      else mac
    else mac
  let mac :=
    if !canSend then
      { mac with
        windowOn := false
        unusedWindowTime := false
        framesSentInCurrentWindowPerVc := fun _ => 0
        totalFramesSentInCurrentWindow := 0 }
    else { mac with windowOn := true }
  { self with mac := mac }

/-- The reset extension is left out when `vc_enforcement_need` is set. -/
def skyTxExtensionEvalHmacReset (hmac : SkyHMAC) (tx : SkyTransmitFrame)
    (vc : Fin skyNumVirtualChannels) : SkyHMAC × SkyTransmitFrame :=
  if hmac.vcEnforcementNeed vc ≠ 0 then (hmac, tx)
  else
    ({ hmac with vcEnforcementNeed := Function.update hmac.vcEnforcementNeed vc 0 },
      skyFrameAddExtensionHmacSequenceReset tx (hmac.sequenceRx vc + 3))

def skyTxPickVcLoop (self : SkyNode w) (now : Int) : List Nat → Option (Fin skyNumVirtualChannels)
  | [] => none
  | i :: rest =>
      let vc := Fin.ofNat skyNumVirtualChannels (self.mac.vcRoundRobinStart + i)
      if self.hmac.vcEnforcementNeed vc ≠ 0 then some vc
      else if skyVcContentToSend (self.virtualChannels vc) self.conf now
          (self.mac.framesSentInCurrentWindowPerVc vc) then some vc
      else skyTxPickVcLoop self now rest

def skyTxPickVc (self : SkyNode w) (now : Int) : Option (Fin skyNumVirtualChannels) :=
  match skyTxPickVcLoop self now (List.range skyNumVirtualChannels) with
  | some vc => some vc
  | none => if macIdleFrameNeeded self.conf.mac self.mac now then some 0 else none

/-- The frame with its start byte, identity and static header. -/
def skyTxStartFrame (conf : SkyConfig) (vc : Fin skyNumVirtualChannels) : SkyTransmitFrame :=
  { start := (skylinkFrameVersionByte ||| UInt8.ofNat conf.identityLen) ::
      conf.identity.take conf.identityLen
    hdr := SkyStaticHeader.setVc ⟨0, 0, 0⟩ vc
    body := []
    assertsHold := true }

/-- The steps of `sky_tx` after the frame is filled. -/
def finishFrame (H : KeyedHash) (self : SkyNode w) (vc : Fin skyNumVirtualChannels)
    (tx : SkyTransmitFrame) : SkyNode w × SkyTransmitFrame :=
  let (hmac, sequence) := skyHmacGetNextTxSequence self.hmac vc
  let tx := { tx with hdr := { tx.hdr with frameSequence := skyHton16 sequence } }
  let tx :=
    if (self.conf.vc vc).hasFlag skyConfigFlagAuthenticateTx then
      skyHmacExtendWithAuthentication H hmac tx
    else tx
  let mac := { self.mac with
    totalFramesSentInCurrentWindow := self.mac.totalFramesSentInCurrentWindow + 1
    framesSentInCurrentWindowPerVc :=
      Function.update self.mac.framesSentInCurrentWindowPerVc vc
        (self.mac.framesSentInCurrentWindowPerVc vc + 1) }
  let stats := self.diag.vcStats vc
  let diag := { self.diag with
    txBytes := self.diag.txBytes + UInt16.ofNat tx.length
    txFrames := self.diag.txFrames + 1
    vcStats := Function.update self.diag.vcStats vc
      { stats with rxFrames := stats.rxFrames + 1 } }
  ({ self with hmac := hmac, mac := mac, diag := diag }, tx)

/-- The frame is built for the channel that was picked. -/
def craftFrame (H : KeyedHash) (self : SkyNode w) (vc : Fin skyNumVirtualChannels) (now : Int) :
    SkyNode w × SkyTransmitFrame × SkyRet :=
  let tx := skyTxStartFrame self.conf vc
  let tx := macSetFrameFields self.conf.mac self.mac tx now
  let (hmac, tx) := skyTxExtensionEvalHmacReset self.hmac tx vc
  let self := { self with hmac := hmac }
  let (channel, tx, ret) := skyVcFillFrame (self.virtualChannels vc) self.conf tx now
    (self.mac.framesSentInCurrentWindowPerVc vc)
  let self := { self with
    virtualChannels := Function.update self.virtualChannels vc channel }
  if ret < 0 then (self, tx, ret)
  else
    let (self, tx) := finishFrame H self vc tx
    (self, tx, 1)

/-- The timeout checks at the start of `sky_tx`. -/
def SkyNode.checkTimeouts (self : SkyNode w) (now : Int) : SkyNode w :=
  { self with
    virtualChannels := fun vc =>
      skyVcCheckTimeouts (self.virtualChannels vc) now self.conf.arq.timeoutTicks }

/-- The frame is `none` when the return code is not 1: no frame was created. -/
def skyTx (H : KeyedHash) (tick : Int) (self : SkyNode w) :
    SkyNode w × Option SkyTransmitFrame × SkyRet :=
  let canSend := macCanSend self.conf.mac self.mac tick
  let self := self.checkTimeouts tick
  let picked := skyTxPickVc self tick
  let self := skyTxTrackTddState self canSend picked.isSome tick
  match canSend, picked with
  | true, some vc =>
      let self := { self with
        mac := { self.mac with
          vcRoundRobinStart := (self.mac.vcRoundRobinStart + 1) % skyNumVirtualChannels } }
      let (self, tx, ret) := craftFrame H self vc tick
      (self, if ret = 1 then some tx else none, ret)
  | _, _ => (self, none, 0)

end Skylink
