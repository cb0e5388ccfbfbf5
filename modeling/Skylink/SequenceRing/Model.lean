import Skylink.ElementBuffer.Model
import Skylink.Frame.Model

/-!
# Sequence rings

The receive ring and the send ring of a virtual channel. `w` is the width of
`sky_arq_sequence_t`: 8, or 16 when `SKY_16BIT_ARQ_SEQUENCES` is defined.
Sequence numbers overflow naturally; ring indices are wrapped by `ringWrap`.
-/

namespace Skylink

variable {w : Nat}

/-- `ARQ_RESEND_SCHEDULE_DEPTH`. -/
def arqResendScheduleDepth : Nat := 16

/-- `ARQ_MAXIMUM_HORIZON`. -/
def arqMaximumHorizon : Nat := 64

def ringWrap (idx : Int) (len : Nat) : Nat := (positiveModulo idx len).toNat

structure RingItem (w : Nat) where
  idx : Nat
  sequence : BitVec w
deriving DecidableEq, Repr

/-- A vacant slot. -/
def RingItem.vacant : RingItem w := ⟨ebNullIdx, 0⟩

/-- The loop over a ring that deletes every payload it refers to. -/
def wipePayloads (items : List (RingItem w)) (eb : SkyElementBuffer) : SkyElementBuffer :=
  items.foldl (fun eb item =>
    if item.idx = ebNullIdx then eb else skyElementBufferDelete eb item.idx) eb

/-! ## Receive ring -/

structure SkyRcvRing (w : Nat) where
  buff : List (RingItem w)
  length : Nat
  horizonWidth : Nat
  head : Nat
  tail : Nat
  headSequence : BitVec w
  tailSequence : BitVec w
  storageCount : Int
deriving DecidableEq, Repr

def SkyRcvRing.item (r : SkyRcvRing w) (i : Nat) : RingItem w := r.buff.getD i RingItem.vacant

def SkyRcvRing.setItem (r : SkyRcvRing w) (i : Nat) (item : RingItem w) : SkyRcvRing w :=
  { r with buff := r.buff.set i item }

def SkyRcvRing.reset (r : SkyRcvRing w) (initialSequence : BitVec w) : SkyRcvRing w :=
  { r with
    buff := List.replicate r.length RingItem.vacant
    head := 0
    tail := 0
    storageCount := 0
    headSequence := initialSequence
    tailSequence := initialSequence }

def skyRcvRingWipe (r : SkyRcvRing w) (eb : SkyElementBuffer) (initialSequence : BitVec w) :
    SkyRcvRing w × SkyElementBuffer :=
  (r.reset initialSequence, wipePayloads r.buff eb)

/-- `NULL` is `none`. The wipe of a new ring is given no element buffer. -/
def skyRcvRingCreate (length horizonWidth : Int) (initialSequence : BitVec w) :
    Option (SkyRcvRing w) :=
  if length < 3 ∨ horizonWidth < 0 then none
  else if length < horizonWidth + 3 then none
  else
    let ring : SkyRcvRing w :=
      { buff := []
        length := length.toNat
        horizonWidth := min horizonWidth.toNat arqMaximumHorizon
        head := 0, tail := 0, headSequence := 0, tailSequence := 0, storageCount := 0 }
    some (ring.reset initialSequence)

def rcvRingCountReadablePackets (r : SkyRcvRing w) : Nat :=
  ringWrap ((r.head : Int) - r.tail) r.length

/-- The loop of `rcvRing_advance_head`; the horizon meets the tail before the head
has gone once around, which bounds the number of turns. -/
def rcvRingAdvanceHeadLoop : Nat → SkyRcvRing w → Nat → SkyRcvRing w × Nat
  | 0, r, advanced => (r, advanced)
  | turns + 1, r, advanced =>
      if (r.item r.head).idx = ebNullIdx then (r, advanced)
      else if ringWrap (r.head + r.horizonWidth + 1) r.length = r.tail then (r, advanced)
      else
        rcvRingAdvanceHeadLoop turns
          { r with
            head := ringWrap (r.head + 1) r.length
            headSequence := r.headSequence + 1 } (advanced + 1)

def rcvRingAdvanceHead (r : SkyRcvRing w) : SkyRcvRing w × Nat :=
  rcvRingAdvanceHeadLoop r.length r 0

/-- On success the value is the return code, `SKY_RET_OK`, and the bytes written
to the target. -/
def rcvRingReadNextReceived (r : SkyRcvRing w) (eb : SkyElementBuffer) (maxLength : Nat) :
    SkyRcvRing w × SkyElementBuffer × Except SkyRet (SkyRet × Bytes) :=
  if rcvRingCountReadablePackets r = 0 then (r, eb, .error .ringEmpty)
  else
    let tailItem := r.item r.tail
    match skyElementBufferRead eb tailItem.idx maxLength with
    | .error ret => (r, eb, .error ret)
    | .ok target =>
        let eb := skyElementBufferDelete eb tailItem.idx
        let r := r.setItem r.tail RingItem.vacant
        let r := { r with
          storageCount := r.storageCount - 1
          tail := ringWrap (r.tail + 1) r.length
          tailSequence := r.tailSequence + 1 }
        ((rcvRingAdvanceHead r).1, eb, .ok (0, target))

/-- On success the value is the number of steps the head advanced. -/
def rcvRingPushRxPacket (r : SkyRcvRing w) (eb : SkyElementBuffer) (src : Bytes)
    (sequence : BitVec w) : SkyRcvRing w × SkyElementBuffer × Except SkyRet Nat :=
  let diff := sequence - r.headSequence
  if r.horizonWidth < diff.toNat then (r, eb, .error .ringInvalidSequence)
  else
    let ringIdx := ringWrap (r.head + diff.toNat) r.length
    if (r.item ringIdx).idx ≠ ebNullIdx then (r, eb, .error .ringPacketAlreadyIn)
    else
      match skyElementBufferStore eb src with
      | (eb, .error ret) => (r, eb, .error ret)
      | (eb, .ok idx) =>
          let r := r.setItem ringIdx ⟨idx, sequence⟩
          let r := { r with storageCount := r.storageCount + 1 }
          let (r, advanced) := rcvRingAdvanceHead r
          (r, eb, .ok advanced)

/-- Bit `i` of the bitmap is set when the packet `i + 1` after the head is held. -/
def rcvRingGetHorizonBitmap (r : SkyRcvRing w) : UInt16 :=
  let scanCount := if r.horizonWidth < 16 then r.horizonWidth else 16
  (List.range scanCount).foldl (fun (map : UInt16) (i : Nat) =>
    if (r.item (ringWrap (r.head + 1 + i : Nat) r.length)).idx = ebNullIdx then map
    else map ||| ((1 : UInt16) <<< UInt16.ofNat i)) 0

def rcvRingGetSequenceSyncStatus (r : SkyRcvRing w) (peerTxHeadSequence : BitVec w) : SkyRet :=
  if peerTxHeadSequence = r.headSequence then 0
  else if (peerTxHeadSequence - r.headSequence).toNat ≤ arqMaximumHorizon then
    .ringSequencesOutOfSync
  else .ringSequencesDetached

/-! ## Send ring -/

structure SkySendRing (w : Nat) where
  buff : List (RingItem w)
  length : Nat
  head : Nat
  txHead : Nat
  tail : Nat
  headSequence : BitVec w
  txSequence : BitVec w
  tailSequence : BitVec w
  storageCount : Int
  resendCount : Nat
  resendList : List (BitVec w)
deriving DecidableEq, Repr

def SkySendRing.item (r : SkySendRing w) (i : Nat) : RingItem w := r.buff.getD i RingItem.vacant

def SkySendRing.setItem (r : SkySendRing w) (i : Nat) (item : RingItem w) : SkySendRing w :=
  { r with buff := r.buff.set i item }

def SkySendRing.reset (r : SkySendRing w) (initialSequence : BitVec w) : SkySendRing w :=
  { r with
    buff := List.replicate r.length RingItem.vacant
    resendList := List.replicate arqResendScheduleDepth 0
    head := 0
    txHead := 0
    tail := 0
    storageCount := 0
    headSequence := initialSequence
    tailSequence := initialSequence
    txSequence := initialSequence
    resendCount := 0 }

def skySendRingWipe (r : SkySendRing w) (eb : SkyElementBuffer) (initialSequence : BitVec w) :
    SkySendRing w × SkyElementBuffer :=
  (r.reset initialSequence, wipePayloads r.buff eb)

def skySendRingCreate (length : Int) (initialSequence : BitVec w) : Option (SkySendRing w) :=
  if length < 4 then none
  else
    let ring : SkySendRing w :=
      { buff := []
        length := length.toNat
        head := 0, txHead := 0, tail := 0
        headSequence := 0, txSequence := 0, tailSequence := 0
        storageCount := 0
        resendCount := 0
        resendList := [] }
    some (ring.reset initialSequence)

def sendRingIsFull (r : SkySendRing w) : Bool :=
  ringWrap (r.head + 1) r.length == ringWrap r.tail r.length

def sendRingCanRecall (r : SkySendRing w) (sequence : BitVec w) : Bool :=
  let txHeadAheadOfTail := ringWrap ((r.txHead : Int) - r.tail) r.length
  let sequenceAheadOfTail := sequence - r.tailSequence
  decide (sequenceAheadOfTail.toNat < txHeadAheadOfTail)

def sendRingGetRecallRingIndex (r : SkySendRing w) (recallSequence : BitVec w) :
    Except SkyRet Nat :=
  if !sendRingCanRecall r recallSequence then .error .ringCannotRecall
  else
    let sequenceAheadOfTail := recallSequence - r.tailSequence
    .ok (ringWrap (r.tail + sequenceAheadOfTail.toNat) r.length)

/-- On success the value is the sequence the packet is associated with. -/
def sendRingPushPacketToSend (r : SkySendRing w) (eb : SkyElementBuffer) (payload : Bytes) :
    SkySendRing w × SkyElementBuffer × Except SkyRet (BitVec w) :=
  if sendRingIsFull r then (r, eb, .error .ringRingFull)
  else
    match skyElementBufferStore eb payload with
    | (eb, .error ret) => (r, eb, .error ret)
    | (eb, .ok idx) =>
        let item : RingItem w := ⟨idx, r.headSequence⟩
        let r := r.setItem r.head item
        ({ r with
           storageCount := r.storageCount + 1
           head := ringWrap (r.head + 1) r.length
           headSequence := r.headSequence + 1 }, eb, .ok item.sequence)

def sendRingScheduleResend (r : SkySendRing w) (sequence : BitVec w) : SkySendRing w × SkyRet :=
  if arqResendScheduleDepth ≤ r.resendCount then (r, .ringResendFull)
  else if !sendRingCanRecall r sequence then (r, .ringCannotRecall)
  else if sequence ∈ r.resendList.take r.resendCount then (r, 0)
  else
    ({ r with
       resendList := r.resendList.set r.resendCount sequence
       resendCount := r.resendCount + 1 }, 0)

/-- The loop of `sendRing_schedule_resends_by_mask` over the bits of the mask. -/
def scheduleMaskLoop (mask : UInt16) :
    Nat → SkySendRing w → BitVec w → UInt16 → SkySendRing w × SkyRet
  | 0, r, _, _ => (r, 0)
  | turns + 1, r, sequence, selectMask =>
      if mask &&& selectMask = 0 then
        let (r, ret) := sendRingScheduleResend r sequence
        if ret ≠ 0 then (r, ret)
        else scheduleMaskLoop mask turns r (sequence + 1) (selectMask <<< 1)
      else scheduleMaskLoop mask turns r (sequence + 1) (selectMask <<< 1)

def sendRingScheduleResendsByMask (r : SkySendRing w) (sequence : BitVec w) (mask : UInt16) :
    SkySendRing w × SkyRet :=
  let (r, ret) := sendRingScheduleResend r sequence
  if ret ≠ 0 then (r, ret) else scheduleMaskLoop mask 16 r (sequence + 1) 1

def sendRingCountPacketsToSend (r : SkySendRing w) (includeResend : Bool) : Nat :=
  let n := ringWrap ((r.head : Int) - r.txHead) r.length
  if includeResend then n + r.resendCount else n

/-- The count is decremented before the shift, so the last entry stays in place. -/
def sendRingPopResendSequence (r : SkySendRing w) : SkySendRing w × Option (BitVec w) :=
  if r.resendCount = 0 then (r, none)
  else
    let popped := r.resendList.getD 0 0
    let resendCount := r.resendCount - 1
    let resendList := (List.range' 1 (resendCount - 1)).foldl
      (fun list i => list.set (i - 1) (list.getD i 0)) r.resendList
    ({ r with resendCount := resendCount, resendList := resendList }, some popped)

def sendRingReadNewPacketToTx (r : SkySendRing w) (eb : SkyElementBuffer) :
    SkySendRing w × Except SkyRet (Bytes × BitVec w) :=
  if sendRingCountPacketsToSend r false = 0 then (r, .error .ringEmpty)
  else
    match skyElementBufferRead eb (r.item r.txHead).idx (skyPayloadMaxLen + 100) with
    | .error ret => (r, .error ret)
    | .ok target =>
        ({ r with
           txHead := ringWrap (r.txHead + 1) r.length
           txSequence := r.txSequence + 1 }, .ok (target, r.txSequence))

def sendRingReadRecallPacketToTx (r : SkySendRing w) (eb : SkyElementBuffer) :
    SkySendRing w × Except SkyRet (Bytes × BitVec w) :=
  match sendRingPopResendSequence r with
  | (r, none) => (r, .error .ringEmpty)
  | (r, some recallSeq) =>
      match sendRingGetRecallRingIndex r recallSeq with
      | .error _ => (r, .error .ringCannotRecall)
      | .ok recallRingIndex =>
          match skyElementBufferRead eb (r.item recallRingIndex).idx
              (skyPayloadMaxLen + 100) with
          | .error ret => (r, .error ret)
          | .ok target => (r, .ok (target, recallSeq))

/-- On success the value is what was written to the target and its sequence. -/
def sendRingReadToTx (r : SkySendRing w) (eb : SkyElementBuffer) (includeResend : Bool) :
    SkySendRing w × Except SkyRet (Bytes × BitVec w) :=
  if includeResend ∧ 0 < r.resendCount then
    match sendRingReadRecallPacketToTx r eb with
    | (r, .ok read) => (r, .ok read)
    | (r, .error _) => sendRingReadNewPacketToTx r eb
  else sendRingReadNewPacketToTx r eb

/-- The part of `sendRing_peek_next_tx_size_and_sequence` for a new packet. -/
def sendRingPeekNew (r : SkySendRing w) (eb : SkyElementBuffer) :
    Except SkyRet (Nat × BitVec w) :=
  if sendRingCountPacketsToSend r false = 0 then .error .ringEmpty
  else
    let item := r.item r.txHead
    (skyElementBufferGetDataLength eb item.idx).map fun length => (length, item.sequence)

/-- On success the value is the length and the sequence of the next packet. -/
def sendRingPeekNextTxSizeAndSequence (r : SkySendRing w) (eb : SkyElementBuffer)
    (includeResend : Bool) : Except SkyRet (Nat × BitVec w) :=
  if sendRingCountPacketsToSend r includeResend = 0 then .error .ringEmpty
  else if includeResend ∧ 0 < r.resendCount then
    match sendRingGetRecallRingIndex r (r.resendList.getD 0 0) with
    | .ok idx =>
        let item := r.item idx
        (skyElementBufferGetDataLength eb item.idx).map fun length => (length, item.sequence)
    | .error _ => sendRingPeekNew r eb
  else sendRingPeekNew r eb

/-- The loop of `sendRing_clean_tail_up_to`; any sequence is met within one lap. -/
def cleanTailLoop (newTailSequence : BitVec w) :
    Nat → SkySendRing w → SkyElementBuffer → Nat → SkySendRing w × SkyElementBuffer × Nat
  | 0, r, eb, nCleared => (r, eb, nCleared)
  | turns + 1, r, eb, nCleared =>
      if r.tailSequence = newTailSequence then (r, eb, nCleared)
      else
        let eb := skyElementBufferDelete eb (r.item r.tail).idx
        let r := r.setItem r.tail RingItem.vacant
        cleanTailLoop newTailSequence turns
          { r with
            storageCount := r.storageCount - 1
            tail := ringWrap (r.tail + 1) r.length
            tailSequence := r.tailSequence + 1 } eb (nCleared + 1)

/-- On success the value is the number of payloads cleared. -/
def sendRingCleanTailUpTo (r : SkySendRing w) (eb : SkyElementBuffer)
    (newTailSequence : BitVec w) : SkySendRing w × SkyElementBuffer × Except SkyRet Nat :=
  let txAheadOfTail := r.txSequence - r.tailSequence
  let peerHeadAheadOfTail := newTailSequence - r.tailSequence
  if txAheadOfTail.toNat < peerHeadAheadOfTail.toNat then
    (r, eb, .error .ringInvalidAcknowledge)
  else
    let (r, eb, nCleared) := cleanTailLoop newTailSequence (2 ^ w) r eb 0
    (r, eb, .ok nCleared)

end Skylink
