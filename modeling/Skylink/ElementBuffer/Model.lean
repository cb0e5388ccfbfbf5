import Skylink.Utilities

/-!
# The element buffer

Payloads are stored as doubly linked chains of fixed-size elements. An element
is addressed by its index in the pool; reading outside the pool yields a free
element. `element_size` only places elements in memory and is left out.
-/

namespace Skylink

/-- `EB_MAX_ELEMENT_COUNT`. -/
def ebMaxElementCount : Nat := 65530

/-- `EB_END_IDX`, the link before the first and after the last element. -/
def ebEndIdx : Nat := ebMaxElementCount + 1

/-- `EB_NULL_IDX`, both links of a free element. -/
def ebNullIdx : Nat := ebMaxElementCount + 2

/-- `EB_LEN_BYTES`, the length field before the data of a chain. -/
def ebLenBytes : Nat := 2

structure BufferElement where
  previous : Nat
  next : Nat
  data : Bytes
deriving DecidableEq, Repr

structure SkyElementBuffer where
  pool : List BufferElement
  lastWriteIndex : Nat
  freeElements : Int
  elementCount : Nat
  elementUsableSpace : Nat
deriving DecidableEq, Repr

namespace SkyElementBuffer

def wrapElement (b : SkyElementBuffer) (idx : Int) : Nat :=
  (positiveModulo idx b.elementCount).toNat

/-- `element_i`. -/
def elementI (b : SkyElementBuffer) (i : Nat) : BufferElement :=
  b.pool.getD i ⟨ebNullIdx, ebNullIdx, []⟩

def setElement (b : SkyElementBuffer) (i : Nat) (el : BufferElement) : SkyElementBuffer :=
  { b with pool := b.pool.set i el }

end SkyElementBuffer

def BufferElement.isFree (el : BufferElement) : Bool :=
  el.previous == ebNullIdx && el.next == ebNullIdx

/-- `wipe_element`. -/
def BufferElement.wipe (el : BufferElement) : BufferElement :=
  { el with previous := ebNullIdx, next := ebNullIdx }

namespace SkyElementBuffer

def elementIsFirst (b : SkyElementBuffer) (el : BufferElement) : Bool :=
  (el.previous == ebEndIdx && el.next == ebEndIdx) ||
    (el.previous == ebEndIdx && decide (el.next < b.elementCount))

def elementIsLast (b : SkyElementBuffer) (el : BufferElement) : Bool :=
  (el.next == ebEndIdx && el.previous == ebEndIdx) ||
    (el.next == ebEndIdx && decide (el.previous < b.elementCount))

/-- The loop of `element_buffer_get_next_free`, from its `i`-th turn on. -/
def nextFreeLoop (b : SkyElementBuffer) (startIdx : Nat) : Nat → Nat → Option Nat
  | 0, _ => none
  | turns + 1, i =>
      let idx := b.wrapElement (startIdx + i)
      if (b.elementI idx).isFree then some idx else nextFreeLoop b startIdx turns (i + 1)

def getNextFree (b : SkyElementBuffer) (startIdx : Nat) : Option Nat :=
  b.nextFreeLoop startIdx b.elementCount 0

/-- The loop of `element_buffer_get_n_free`: `count` more indices after `prev`. -/
def getNFreeLoop (b : SkyElementBuffer) (idx0 : Nat) : Nat → Nat → Option (List Nat)
  | 0, _ => some []
  | count + 1, prev => do
      let idx ← b.getNextFree (b.wrapElement (prev + 1))
      if idx = idx0 then none
      else
        let rest ← getNFreeLoop b idx0 count idx
        some (idx :: rest)

def getNFree (b : SkyElementBuffer) (n startIdx : Nat) : Option (List Nat) := do
  let idx0 ← b.getNextFree startIdx
  let rest ← b.getNFreeLoop idx0 (n - 1) idx0
  some (idx0 :: rest)

end SkyElementBuffer

/-- `sky_element_buffer_element_requirement`. -/
def skyElementBufferElementRequirement (elementSize length : Nat) : Nat :=
  let usableSize := elementSize - 4
  (length + ebLenBytes + usableSize - 1) / usableSize

/-- `sky_element_buffer_element_requirement_for`. -/
def skyElementBufferElementRequirementFor (b : SkyElementBuffer) (length : Nat) : Nat :=
  (length + ebLenBytes + b.elementUsableSpace - 1) / b.elementUsableSpace

/-- `sky_element_buffer_wipe`. -/
def skyElementBufferWipe (b : SkyElementBuffer) : SkyElementBuffer :=
  { b with
    pool := b.pool.map BufferElement.wipe
    lastWriteIndex := 0
    freeElements := b.elementCount }

/-- `sky_element_buffer_create`. -/
def skyElementBufferCreate (usableElementSize elementCount : Nat) : SkyElementBuffer :=
  skyElementBufferWipe
    { pool := List.replicate elementCount ⟨0, 0, List.replicate usableElementSize 0⟩
      lastWriteIndex := 0
      freeElements := elementCount
      elementCount := elementCount
      elementUsableSpace := usableElementSize }

/-- `memcpy` of `src` to offset `off` of a memory block. -/
def copyTo (block : Bytes) (off : Nat) (src : Bytes) : Bytes :=
  block.take off ++ src ++ block.drop (off + src.length)

namespace SkyElementBuffer

/-- The loop of `sky_element_buffer_store` over the elements after the first. -/
def storeLoop (data : Bytes) :
    SkyElementBuffer → Nat → List Nat → Nat → SkyElementBuffer
  | b, _, [], _ => b
  | b, prev, idx :: idxs, dataCursor =>
      let b := b.setElement prev { b.elementI prev with next := idx }
      let toCopy := min b.elementUsableSpace (data.length - dataCursor)
      let chunk := (data.drop dataCursor).take toCopy
      let b := b.setElement idx
        { previous := prev, next := ebEndIdx, data := copyTo (b.elementI idx).data 0 chunk }
      storeLoop data b idx idxs (dataCursor + toCopy)

end SkyElementBuffer

/-- `sky_element_buffer_store`; the length argument has type `uint16_t`. -/
def skyElementBufferStore (b : SkyElementBuffer) (src : Bytes) :
    SkyElementBuffer × Except SkyRet Nat :=
  let length := src.length % 65536
  let data := src.take length
  let nRequired := skyElementBufferElementRequirementFor b length
  if b.freeElements < nRequired then (b, .error .ebufferNoSpace)
  else
    let nRequired := if nRequired = 0 then 1 else nRequired
    match b.getNFree nRequired b.lastWriteIndex with
    | none => (b, .error .ebufferNoSpace)
    | some [] => (b, .error .ebufferNoSpace)
    | some (idx0 :: idxs) =>
        let toCopy := min length (b.elementUsableSpace - ebLenBytes)
        let block := copyTo (b.elementI idx0).data 0 (storeU16 (UInt16.ofNat length))
        let el0 : BufferElement :=
          { previous := ebEndIdx, next := ebEndIdx,
            data := copyTo block ebLenBytes (data.take toCopy) }
        let b := (b.setElement idx0 el0).storeLoop data idx0 idxs toCopy
        ({ b with
           lastWriteIndex := (idx0 :: idxs).getLastD idx0
           freeElements := b.freeElements - nRequired }, .ok idx0)

/-- `sky_element_buffer_get_data_length`. -/
def skyElementBufferGetDataLength (b : SkyElementBuffer) (idx : Nat) : Except SkyRet Nat :=
  let el := b.elementI idx
  if b.elementIsFirst el then .ok (loadU16 el.data).toNat else .error .ebufferInvalidIndex

namespace SkyElementBuffer

/-- The loop of `sky_element_buffer_read`: `count` elements after `el`, then the
check that the last one read ends the chain. -/
def readLoop (b : SkyElementBuffer) (elementLength : Nat) :
    Nat → BufferElement → Nat → Bytes → Except SkyRet Bytes
  | 0, el, _, target =>
      if b.elementIsLast el then .ok target else .error .ebufferChainCorrupted
  | count + 1, el, cursor, target =>
      let el := b.elementI el.next
      if el.isFree then .error .ebufferChainCorrupted
      else
        let toRead := min b.elementUsableSpace (elementLength - cursor)
        readLoop b elementLength count el (cursor + toRead) (target ++ el.data.take toRead)

end SkyElementBuffer

/-- `sky_element_buffer_read`; the value is what is written to the target. -/
def skyElementBufferRead (b : SkyElementBuffer) (idx maxLen : Nat) : Except SkyRet Bytes :=
  let el := b.elementI idx
  if !b.elementIsFirst el then .error .ebufferInvalidIndex
  else
    let elementLength := (loadU16 el.data).toNat
    if maxLen < elementLength then .error .ebufferTooLongPayload
    else
      let toRead := min (b.elementUsableSpace - ebLenBytes) elementLength
      let nElements := skyElementBufferElementRequirementFor b elementLength
      b.readLoop elementLength (nElements - 1) el toRead ((el.data.drop ebLenBytes).take toRead)

namespace SkyElementBuffer

/-- The loop of `sky_element_buffer_delete`. A chain has at most as many elements
as the pool, which bounds the number of turns. -/
def deleteLoop : Nat → SkyElementBuffer → Nat → SkyElementBuffer
  | 0, b, _ => b
  | turns + 1, b, i =>
      let el := b.elementI i
      let wiped := b.setElement i el.wipe
      let wiped := { wiped with freeElements := wiped.freeElements + 1 }
      if b.elementIsLast el then wiped else deleteLoop turns wiped el.next

end SkyElementBuffer

/-- `sky_element_buffer_delete`. No caller uses the return code. -/
def skyElementBufferDelete (b : SkyElementBuffer) (idx : Nat) : SkyElementBuffer :=
  if b.elementIsFirst (b.elementI idx) then b.deleteLoop b.elementCount idx else b

end Skylink
