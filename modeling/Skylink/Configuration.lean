import Skylink.Utilities

/-!
# Protocol configuration

The configuration record of a node. Signed fields are `Int`; `shift_threshold_ticks`,
which nothing reads, is left out.
-/

namespace Skylink

abbrev skyNumVirtualChannels : Nat := 4

instance : NeZero skyNumVirtualChannels := ⟨Nat.succ_ne_zero _⟩

def skyMaxIdentityLen : Nat := 7

structure SkyMACConfig where
  maximumWindowLengthTicks : Int
  minimumWindowLengthTicks : Int
  gapConstantTicks : Int
  tailConstantTicks : Int
  idleTimeoutTicks : Int
  windowAdjustIncrementTicks : Int
  carrierSenseTicks : Int
  unauthenticatedMacUpdates : UInt8
  windowAdjustmentPeriod : Int
  idleFramesPerWindow : Nat
deriving DecidableEq, Repr

def skyConfigFlagAuthenticateTx : UInt8 := 0x01

def skyConfigFlagRequireAuthentication : UInt8 := 0x02

def skyConfigFlagRequireSequence : UInt8 := 0x04

def skyConfigFlagUseCrc32 : UInt8 := 0x08

structure SkyVCConfig where
  usableElementSize : Int
  rcvRingLen : Int
  horizonWidth : Int
  sendRingLen : Int
  requireAuthentication : UInt8
deriving DecidableEq, Repr

def SkyVCConfig.hasFlag (conf : SkyVCConfig) (flag : UInt8) : Bool :=
  conf.requireAuthentication &&& flag != 0

structure SkyHMACConfig where
  keyLength : Int
  maximumJump : Int
  key : Bytes
deriving DecidableEq, Repr

structure SkyARQConfig where
  timeoutTicks : Int
  idleFrameThreshold : Int
  idleFramesPerWindow : Int
deriving DecidableEq, Repr

structure SkyConfig where
  mac : SkyMACConfig
  hmac : SkyHMACConfig
  vc : Fin skyNumVirtualChannels → SkyVCConfig
  arq : SkyARQConfig
  identity : Bytes
  identityLen : Nat
  identity_length : identity.length = skyMaxIdentityLen

/-- A configuration with short rings and the same flags on every channel. -/
def exampleConfig (flags name : UInt8) : SkyConfig :=
  { mac :=
      { maximumWindowLengthTicks := 1000, minimumWindowLengthTicks := 300
        gapConstantTicks := 500, tailConstantTicks := 80, idleTimeoutTicks := 30000
        windowAdjustIncrementTicks := 250, carrierSenseTicks := 200
        unauthenticatedMacUpdates := 0, windowAdjustmentPeriod := 2, idleFramesPerWindow := 0 }
    hmac := { keyLength := 32, maximumJump := 24, key := List.replicate 32 0 }
    vc := fun _ =>
      { usableElementSize := 200, rcvRingLen := 6, horizonWidth := 2, sendRingLen := 6
        requireAuthentication := flags }
    arq := { timeoutTicks := 8000, idleFrameThreshold := 1600, idleFramesPerWindow := 1 }
    identity := [name, 0, 0, 0, 0, 0, 0]
    identityLen := 3
    identity_length := rfl }

end Skylink
