import Skylink.Configuration
import Skylink.Frame.Model

/-!
# Time division

The belief of a node about the transmission windows of both sides. The pointer to
the configuration is an argument.
-/

namespace Skylink

structure SkyMAC where
  t0 : Int
  myWindowLength : Int
  peerWindowLength : Int
  lastBeliefUpdate : Int
  windowAdjustCounter : Int
  vcRoundRobinStart : Nat
  windowOn : Bool
  unusedWindowTime : Bool
  framesSentInCurrentWindowPerVc : Fin skyNumVirtualChannels → UInt16
  totalFramesSentInCurrentWindow : UInt16

/-- The configuration that `sky_mac_create` leaves in force. -/
def SkyMACConfig.normalise (config : SkyMACConfig) : SkyMACConfig :=
  let maximumWindowLengthTicks :=
    if config.maximumWindowLengthTicks < config.minimumWindowLengthTicks then
      config.minimumWindowLengthTicks
    else config.maximumWindowLengthTicks
  let carrierLimit := config.minimumWindowLengthTicks + config.gapConstantTicks
  { config with
    maximumWindowLengthTicks := maximumWindowLengthTicks
    idleFramesPerWindow := if 3 < config.idleFramesPerWindow then 3 else config.idleFramesPerWindow
    idleTimeoutTicks :=
      if config.idleTimeoutTicks < 5000 ∨ 90000 < config.idleTimeoutTicks then 25000
      else config.idleTimeoutTicks
    carrierSenseTicks :=
      if carrierLimit ≤ config.carrierSenseTicks then carrierLimit else config.carrierSenseTicks
    windowAdjustmentPeriod :=
      if config.windowAdjustmentPeriod < 1 then 1
      else if 4 < config.windowAdjustmentPeriod then 4 else config.windowAdjustmentPeriod }

/-- The state that `sky_mac_create` returns, for a normalised configuration. -/
def skyMacCreate (config : SkyMACConfig) : SkyMAC :=
  { t0 := 0
    windowAdjustCounter := 0
    windowOn := false
    unusedWindowTime := false
    myWindowLength := config.minimumWindowLengthTicks
    peerWindowLength := config.minimumWindowLengthTicks
    lastBeliefUpdate := modTimeTicks - 300000
    totalFramesSentInCurrentWindow := 0
    vcRoundRobinStart := 0
    framesSentInCurrentWindowPerVc := fun _ => 0 }

def getMacCycle (config : SkyMACConfig) (mac : SkyMAC) : Int :=
  mac.myWindowLength + config.gapConstantTicks + mac.peerWindowLength +
    config.tailConstantTicks

def wrapTddCycle (config : SkyMACConfig) (mac : SkyMAC) (ticks : Int) : Int :=
  positiveModulo ticks (getMacCycle config mac)

def macShiftWindowing (mac : SkyMAC) (tShift : Int) : SkyMAC :=
  let tShift := if 0 < tShift then tShift else -tShift
  { mac with t0 := wrapTimeTicks (mac.t0 - tShift) }

def macExpandWindow (config : SkyMACConfig) (mac : SkyMAC) (now : Int) : SkyMAC :=
  let extended := mac.myWindowLength + config.windowAdjustIncrementTicks
  let mac := { mac with
    myWindowLength :=
      if config.maximumWindowLengthTicks < extended then config.maximumWindowLengthTicks
      else extended }
  { mac with t0 := wrapTimeTicks (now - getMacCycle config mac) }

def macShrinkWindow (config : SkyMACConfig) (mac : SkyMAC) (now : Int) : SkyMAC :=
  let shrunk := mac.myWindowLength - config.windowAdjustIncrementTicks
  let mac := { mac with
    myWindowLength :=
      if shrunk < config.minimumWindowLengthTicks then config.minimumWindowLengthTicks
      else shrunk }
  { mac with t0 := wrapTimeTicks (now - getMacCycle config mac) }

def macTimeToOwnWindow (config : SkyMACConfig) (mac : SkyMAC) (now : Int) : Int :=
  let dt := wrapTddCycle config mac (wrapTimeTicks (now - mac.t0))
  if dt < mac.myWindowLength then 0 else getMacCycle config mac - dt

def macOwnWindowRemaining (config : SkyMACConfig) (mac : SkyMAC) (now : Int) : Int :=
  mac.myWindowLength - wrapTddCycle config mac (wrapTimeTicks (now - mac.t0))

def macPeerWindowRemaining (config : SkyMACConfig) (mac : SkyMAC) (now : Int) : Int :=
  let peerWindowStarts := mac.t0 + mac.myWindowLength + config.gapConstantTicks
  mac.peerWindowLength - wrapTddCycle config mac (wrapTimeTicks (now - peerWindowStarts))

def macCanSend (config : SkyMACConfig) (mac : SkyMAC) (now : Int) : Bool :=
  decide (0 < macOwnWindowRemaining config mac now)

def macUpdateBelief (config : SkyMACConfig) (mac : SkyMAC)
    (now receiveTime peerMacLength peerMacRemaining : Int) : SkyMAC :=
  let peerMacLength :=
    if peerMacLength < config.minimumWindowLengthTicks then config.minimumWindowLengthTicks
    else if config.maximumWindowLengthTicks < peerMacLength then
      config.maximumWindowLengthTicks
    else peerMacLength
  let peerMacRemaining :=
    if peerMacLength < peerMacRemaining then peerMacLength else peerMacRemaining
  let now' := if now < receiveTime then receiveTime + wrapTimeTicks (now - receiveTime) else now
  let mac := { mac with lastBeliefUpdate := now, peerWindowLength := peerMacLength }
  let cycle := getMacCycle config mac
  let impliedT0 := receiveTime + peerMacRemaining + (config.tailConstantTicks - cycle)
  let minimumT0 := now' + (config.tailConstantTicks - cycle)
  { mac with
    t0 := if impliedT0 < minimumT0 then wrapTimeTicks minimumT0 else wrapTimeTicks impliedT0
    totalFramesSentInCurrentWindow := 0
    framesSentInCurrentWindowPerVc := fun _ => 0 }

def macReset (config : SkyMACConfig) (mac : SkyMAC) (now : Int) : SkyMAC :=
  let mac := { mac with
    windowAdjustCounter := 0
    myWindowLength := config.minimumWindowLengthTicks }
  { mac with t0 := wrapTimeTicks (now - getMacCycle config mac) }

def skyMacCarrierSensed (config : SkyMACConfig) (mac : SkyMAC) (now : Int) : SkyMAC :=
  if macTimeToOwnWindow config mac now ≤ config.carrierSenseTicks then
    { mac with
      t0 := wrapTimeTicks (now - getMacCycle config mac + config.carrierSenseTicks) }
  else mac

def macIdleFrameNeeded (config : SkyMACConfig) (mac : SkyMAC) (now : Int) : Bool :=
  if config.idleFramesPerWindow = 0 then false
  else if config.idleTimeoutTicks < wrapTimeTicks (now - mac.lastBeliefUpdate) then false
  else decide (mac.totalFramesSentInCurrentWindow.toNat < config.idleFramesPerWindow)

def macSetFrameFields (config : SkyMACConfig) (mac : SkyMAC) (tx : SkyTransmitFrame)
    (now : Int) : SkyTransmitFrame :=
  let remaining := macOwnWindowRemaining config mac now
  let remaining := if remaining < 1 then 1 else remaining
  skyFrameAddExtensionMacTddControl tx (UInt16.ofInt mac.myWindowLength)
    (UInt16.ofInt remaining)

end Skylink
