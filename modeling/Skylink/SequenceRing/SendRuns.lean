import Skylink.SequenceRing.Send

/-!
# Runs of the send ring

Any sequence of calls on a new send ring keeps its three cursors and its three sequence
numbers in step, and every slot holds what was pushed under its sequence.
-/

namespace Skylink

open SerialNumber

variable {w : Nat}

/-! ## Sizes that never change -/

theorem cleanTailLoop_sameShape (newTail : BitVec w) (turns : Nat) (r : SkySendRing w)
    (eb : SkyElementBuffer) (n : Nat) :
    SameShape eb (cleanTailLoop newTail turns r eb n).2.1 := by
  induction turns generalizing r eb n with
  | zero => exact ⟨rfl, rfl⟩
  | succ turns ih =>
      rw [cleanTailLoop]
      split
      · exact ⟨rfl, rfl⟩
      · exact (skyElementBufferDelete_sameShape _ _).trans (ih _ _ _)

theorem cleanTailLoop_length (newTail : BitVec w) (turns : Nat) (r : SkySendRing w)
    (eb : SkyElementBuffer) (n : Nat) :
    (cleanTailLoop newTail turns r eb n).1.length = r.length := by
  induction turns generalizing r eb n with
  | zero => rfl
  | succ turns ih =>
      rw [cleanTailLoop]
      split
      · rfl
      · exact ih _ _ _

theorem sendRingCleanTailUpTo_layout (r : SkySendRing w) (eb : SkyElementBuffer)
    (newTail : BitVec w) :
    (sendRingCleanTailUpTo r eb newTail).1.length = r.length ∧
      SameShape eb (sendRingCleanTailUpTo r eb newTail).2.1 := by
  rw [sendRingCleanTailUpTo]
  dsimp only
  split
  · exact ⟨rfl, rfl, rfl⟩
  · exact ⟨cleanTailLoop_length _ _ _ _ _, cleanTailLoop_sameShape _ _ _ _ _⟩

theorem sendRingPushPacketToSend_layout (r : SkySendRing w) (eb : SkyElementBuffer)
    (payload : Bytes) :
    (sendRingPushPacketToSend r eb payload).1.length = r.length ∧
      SameShape eb (sendRingPushPacketToSend r eb payload).2.1 := by
  have hstore := skyElementBufferStore_sameShape eb payload
  rw [sendRingPushPacketToSend]
  split
  · exact ⟨rfl, rfl, rfl⟩
  · split
    · rename_i heq
      rw [heq] at hstore
      exact ⟨rfl, hstore⟩
    · rename_i heq
      rw [heq] at hstore
      exact ⟨rfl, hstore⟩

/-! ## Calls -/

inductive SendRingOp (w : Nat)
  | push (payload : Bytes)
  | readToTx (includeResend : Bool)
  | scheduleResend (sequence : BitVec w)
  | scheduleResendsByMask (sequence : BitVec w) (mask : UInt16)
  | cleanTailUpTo (sequence : BitVec w)

def SendRingOp.Valid (b : SkyElementBuffer) : SendRingOp w → Prop
  | .push payload => Storable b payload
  | _ => True

instance SendRingOp.decidableValid (b : SkyElementBuffer) (op : SendRingOp w) :
    Decidable (op.Valid b) :=
  match op with
  | .push payload => inferInstanceAs (Decidable (Storable b payload))
  | .readToTx _ => inferInstanceAs (Decidable True)
  | .scheduleResend _ => inferInstanceAs (Decidable True)
  | .scheduleResendsByMask _ _ => inferInstanceAs (Decidable True)
  | .cleanTailUpTo _ => inferInstanceAs (Decidable True)

theorem SendRingOp.Valid.congr {b b' : SkyElementBuffer} {op : SendRingOp w} (h : op.Valid b)
    (hshape : SameShape b b') : op.Valid b' := by
  cases op with
  | push payload => exact Storable.congr h hshape
  | readToTx | scheduleResend | scheduleResendsByMask | cleanTailUpTo => trivial

/-- A send ring with its element buffer and every payload that was pushed, each with
the sequence that the push returned. -/
structure SendRingState (w : Nat) where
  ring : SkySendRing w
  buffer : SkyElementBuffer
  pushed : List (BitVec w × Bytes)

namespace SendRingState

def step (c : SendRingState w) : SendRingOp w → SendRingState w
  | .push payload =>
      match sendRingPushPacketToSend c.ring c.buffer payload with
      | (ring, buffer, .ok sequence) => ⟨ring, buffer, c.pushed ++ [(sequence, payload)]⟩
      | (ring, buffer, .error _) => ⟨ring, buffer, c.pushed⟩
  | .readToTx includeResend =>
      { c with ring := (sendRingReadToTx c.ring c.buffer includeResend).1 }
  | .scheduleResend sequence => { c with ring := (sendRingScheduleResend c.ring sequence).1 }
  | .scheduleResendsByMask sequence mask =>
      { c with ring := (sendRingScheduleResendsByMask c.ring sequence mask).1 }
  | .cleanTailUpTo sequence =>
      let cleaned := sendRingCleanTailUpTo c.ring c.buffer sequence
      { c with ring := cleaned.1, buffer := cleaned.2.1 }

def run (c : SendRingState w) (ops : List (SendRingOp w)) : SendRingState w := ops.foldl step c

/-- The slot `i` places after the tail. -/
def slot (c : SendRingState w) (i : Nat) : RingItem w :=
  c.ring.item ((c.ring.tail + i) % c.ring.length)

/-- Cursors, sequence numbers and slots agree. -/
structure Consistent (c : SendRingState w) : Prop where
  head : ((c.ring.head : Int) - c.ring.tail) % c.ring.length = c.ring.storageCount
  headSequence : ((c.ring.headSequence - c.ring.tailSequence).toNat : Int) = c.ring.storageCount
  bounds : 0 ≤ c.ring.storageCount ∧ c.ring.storageCount ≤ c.ring.length - 1
  txHead : ((c.ring.txHead : Int) - c.ring.tail) % c.ring.length =
    (c.ring.txSequence - c.ring.tailSequence).toNat
  tx_le : ((c.ring.txSequence - c.ring.tailSequence).toNat : Int) ≤ c.ring.storageCount
  held : ∀ i : Nat, i < c.ring.storageCount →
    (c.slot i).sequence = c.ring.tailSequence + BitVec.ofNat w i ∧
      ∃ payload, c.pushed[c.pushed.length - c.ring.storageCount.toNat + i]? =
          some ((c.slot i).sequence, payload) ∧
        skyElementBufferRead c.buffer (c.slot i).idx payload.length = .ok payload
  vacant : ∀ i : Nat, c.ring.storageCount ≤ i → i < c.ring.length → (c.slot i).idx = ebNullIdx
  full : ∀ payload, Storable c.buffer payload →
    ((sendRingPushPacketToSend c.ring c.buffer payload).2.2 = .error .ringRingFull ↔
      c.ring.storageCount = c.ring.length - 1)

/-- The invariant of a run, in unbounded sequence numbers. -/
structure Rep (c : SendRingState w) (start : BitVec w) (tail tx : Nat) (payload : Nat → Bytes)
    (m : Nat → Option Bytes) (rest : List Nat) : Prop where
  ring : SendWindow c.ring start tail tx c.pushed.length payload m
  pool : PoolHolds c.buffer m (ownedIdx c.ring.buff ++ rest)
  pushed : ∀ u < c.pushed.length, c.pushed[u]? = some (serial start u, payload u)

section Rep

variable {c : SendRingState w} {start : BitVec w} {tail tx : Nat} {payload : Nat → Bytes}
  {m : Nat → Option Bytes} {rest : List Nat}

theorem Rep.consistent (h : Rep c start tail tx payload m rest) : c.Consistent := by
  have htail := h.ring.tail_le_tx
  have htx := h.ring.tx_le_head
  have hroom := h.ring.room
  have hlength := h.ring.lengthLe
  have hpos := h.ring.slots.pos
  have hcount := h.ring.count
  have hslot (i : Nat) : c.slot i = c.ring.item ((tail + i) % c.ring.length) := by
    rw [slot, h.ring.tailIdx, Nat.mod_add_mod]
  have hahead := h.ring.txAhead
  refine ⟨?_, ?_, ⟨by omega, by omega⟩, ?_, by omega, fun i hi => ?_, fun i hi hi' => ?_,
    fun p hp => ?_⟩
  · rw [h.ring.headIdx, h.ring.tailIdx, slot_sub (by omega) (by omega), hcount]
    omega
  · rw [h.ring.headSequence, h.ring.tailSequence, serial_sub start (by omega) (by omega), hcount]
    omega
  · rw [h.ring.txIdx, h.ring.tailIdx, slot_sub htail (by omega), hahead]
  · have hlt : tail + i < c.pushed.length := by omega
    obtain ⟨-, hseq, hm⟩ := h.ring.stored (u := tail + i) (by omega) hlt
    have hpushed := h.pushed (tail + i) hlt
    have hindex : c.pushed.length - c.ring.storageCount.toNat + i = tail + i := by omega
    rw [hslot, hindex, hseq, hpushed, h.ring.tailSequence, serial_add]
    exact ⟨rfl, _, rfl, h.pool.stores.read_ok hm le_rfl⟩
  · have hnone : pendingPayload tail c.pushed.length payload (tail + i) = none := by
      simp only [pendingPayload, ite_eq_right_iff]
      intro hlt
      omega
    rw [hslot]
    exact (h.ring.slots.vacant_iff (by omega) (by omega)).mpr hnone
  · obtain ⟨hfull, hpush⟩ | ⟨hfree, hpush⟩ | ⟨hfree, r', eb', m', hpush, -⟩ :=
      h.ring.push h.pool hp.1
    · rw [hpush]
      exact ⟨fun _ => by omega, fun _ => rfl⟩
    · rw [hpush]
      exact ⟨fun heq => by simp [SkyRet.ebufferNoSpace, SkyRet.ringRingFull] at heq, by omega⟩
    · rw [hpush]
      exact ⟨fun heq => by simp at heq, by omega⟩

theorem Rep.push (h : Rep c start tail tx payload m rest) {p : Bytes} (hp : p.length < 65536) :
    ∃ payload' m', Rep (c.step (.push p)) start tail tx payload' m' rest := by
  have htail := h.ring.tail_le_tx
  obtain ⟨-, hpush⟩ | ⟨-, hpush⟩ | ⟨-, r', eb', m', hpush, hring, hpool, -, -⟩ :=
    h.ring.push h.pool hp
  · rw [step, hpush]
    exact ⟨payload, m, h⟩
  · rw [step, hpush]
    exact ⟨payload, m, h⟩
  · rw [step, hpush]
    refine ⟨Function.update payload c.pushed.length p, m', ⟨?_, hpool, fun u hu => ?_⟩⟩
    · rw [List.length_append, List.length_singleton]
      exact hring
    · rw [List.length_append, List.length_singleton] at hu
      by_cases hlast : u = c.pushed.length
      · subst hlast
        simp
      · rw [List.getElem?_append_left (by omega), Function.update_of_ne hlast]
        exact h.pushed u (by omega)

/-- Where the resend list allows no payload, the next new one is taken, if any. -/
theorem Rep.readNew (h : Rep c start tail tx payload m rest) :
    ∃ tx', tx ≤ tx' ∧ Rep { c with ring := (sendRingReadNewPacketToTx c.ring c.buffer).1 } start
      tail tx' payload m rest := by
  rw [sendRingReadNewPacketToTx]
  split
  · exact ⟨tx, le_rfl, h⟩
  · rename_i hcount
    rw [h.ring.countNew] at hcount
    split
    · exact ⟨tx, le_rfl, h⟩
    · have htail := h.ring.tail_le_tx
      refine ⟨tx + 1, Nat.le_succ tx, { h.ring with
        tail_le_tx := by omega, tx_le_head := by simp only; omega, txIdx := ?_, txSequence := ?_ },
        h.pool, h.pushed⟩
      · show ringWrap ((c.ring.txHead : Int) + 1) c.ring.length = (tx + 1) % c.ring.length
        rw [h.ring.txIdx]
        exact_mod_cast ringWrap_slot_add h.ring.slots.pos tx 1
      · show c.ring.txSequence + 1 = _
        rw [h.ring.txSequence, serial_succ]

theorem Rep.readRecall (h : Rep c start tail tx payload m rest) :
    Rep { c with ring := (sendRingReadRecallPacketToTx c.ring c.buffer).1 } start tail tx
      payload m rest := by
  rw [sendRingReadRecallPacketToTx]
  by_cases hpos : 0 < c.ring.resendCount
  · obtain ⟨r', hpop, hring, hsame, -⟩ := h.ring.popResend hpos
    have hrep : Rep { c with ring := r' } start tail tx payload m rest :=
      ⟨hring, by rw [hsame.buff]; exact h.pool, h.pushed⟩
    rw [hpop]
    dsimp only
    split
    · exact hrep
    · split <;> exact hrep
  · rw [sendRingPopResendSequence, if_pos (by omega)]
    exact h

theorem Rep.readToTx (h : Rep c start tail tx payload m rest) (includeResend : Bool) :
    ∃ tx', tx ≤ tx' ∧
      Rep (c.step (.readToTx includeResend)) start tail tx' payload m rest := by
  have hrecall := h.readRecall
  rw [step, sendRingReadToTx]
  split
  · split
    · rename_i heq
      rw [heq] at hrecall
      exact ⟨tx, le_rfl, hrecall⟩
    · rename_i heq
      rw [heq] at hrecall
      exact hrecall.readNew
  · exact h.readNew

theorem Rep.ofSameButResend (h : Rep c start tail tx payload m rest) {r' : SkySendRing w}
    (hring : SendWindow r' start tail tx c.pushed.length payload m)
    (hsame : SameButResend c.ring r') :
    Rep { c with ring := r' } start tail tx payload m rest :=
  ⟨hring, by rw [hsame.buff]; exact h.pool, h.pushed⟩

theorem Rep.cleanTailUpTo (h : Rep c start tail tx payload m rest) (sequence : BitVec w) :
    ∃ tail' m', Rep (c.step (.cleanTailUpTo sequence)) start tail' tx payload m' rest := by
  rw [step]
  obtain ⟨-, hclean⟩ | ⟨-, r', eb', m', hclean, hring, hpool, -, -, -⟩ :=
    h.ring.cleanTailUpTo h.pool sequence
  · rw [hclean]
    exact ⟨tail, m, h⟩
  · rw [hclean]
    exact ⟨_, m', hring, hpool, h.pushed⟩

theorem Rep.step (h : Rep c start tail tx payload m rest) {op : SendRingOp w}
    (hop : op.Valid c.buffer) :
    ∃ tail' tx' payload' m', Rep (c.step op) start tail' tx' payload' m' rest := by
  cases op with
  | push p =>
      obtain ⟨payload', m', h'⟩ := h.push hop.1
      exact ⟨tail, tx, payload', m', h'⟩
  | readToTx includeResend =>
      obtain ⟨tx', -, h'⟩ := h.readToTx includeResend
      exact ⟨tail, tx', payload, m, h'⟩
  | scheduleResend sequence =>
      obtain ⟨hring, hsame⟩ := h.ring.scheduleResend sequence
      exact ⟨tail, tx, payload, m, h.ofSameButResend hring hsame⟩
  | scheduleResendsByMask sequence mask =>
      obtain ⟨hring, hsame⟩ := h.ring.scheduleResendsByMask sequence mask
      exact ⟨tail, tx, payload, m, h.ofSameButResend hring hsame⟩
  | cleanTailUpTo sequence =>
      obtain ⟨tail', m', h'⟩ := h.cleanTailUpTo sequence
      exact ⟨tail', tx, payload, m', h'⟩

end Rep

/-! ## Runs -/

theorem step_sameShape (c : SendRingState w) (op : SendRingOp w) :
    SameShape c.buffer (c.step op).buffer := by
  cases op with
  | push payload =>
      obtain ⟨-, hpush⟩ := sendRingPushPacketToSend_layout c.ring c.buffer payload
      simp only [step]
      split
      · rename_i heq
        rwa [heq] at hpush
      · rename_i heq
        rwa [heq] at hpush
  | readToTx | scheduleResend | scheduleResendsByMask => exact ⟨rfl, rfl⟩
  | cleanTailUpTo sequence => exact (sendRingCleanTailUpTo_layout c.ring c.buffer sequence).2

theorem Rep.run {c : SendRingState w} {start : BitVec w} {tail tx : Nat}
    {payload : Nat → Bytes} {m : Nat → Option Bytes} {rest : List Nat}
    (h : Rep c start tail tx payload m rest) {ops : List (SendRingOp w)}
    (hops : ∀ op ∈ ops, op.Valid c.buffer) :
    ∃ tail' tx' payload' m', Rep (c.run ops) start tail' tx' payload' m' rest := by
  induction ops generalizing c tail tx payload m with
  | nil => exact ⟨tail, tx, payload, m, h⟩
  | cons op ops ih =>
      obtain ⟨tail', tx', payload', m', h'⟩ := h.step (hops op (by simp))
      exact ih h' fun op' hop' => (hops op' (by simp [hop'])).congr (c.step_sameShape op)

/-- A new ring represents no packets. -/
theorem Rep.created {length : Int} {start : BitVec w} {ring : SkySendRing w}
    (hring : skySendRingCreate length start = some ring) (hlength : length ≤ 2 ^ w)
    {eb : SkyElementBuffer} {m : Nat → Option Bytes} {rest : List Nat}
    (hpool : PoolHolds eb m rest) : Rep ⟨ring, eb, []⟩ start 0 0 (fun _ => []) m rest := by
  obtain ⟨r, rfl, hpos, hle⟩ := skySendRingCreate_reset hring
  have hle' : r.length ≤ 2 ^ w := by
    rw [← hle] at hlength
    exact_mod_cast hlength
  have hwindow := (SendRep.reset r start (fun _ => []) m hpos hle').toSendWindow
  refine ⟨hwindow, ?_, fun u hu => by simp at hu⟩
  rw [SkySendRing.reset, ownedIdx_replicate_vacant]
  exact hpool

end SendRingState

/-- Every run of a new ring on a buffer in use leaves it consistent. -/
theorem sendRing_consistent {length : Int} {start : BitVec w} {ring : SkySendRing w}
    (hring : skySendRingCreate length start = some ring) (hlength : length ≤ 2 ^ w)
    {usableElementSize elementCount : Nat} (hu : 2 ≤ usableElementSize)
    (hc : elementCount ≤ 65530) (others : List BufferOp)
    (hothers : ∀ op ∈ others, op.Valid (skyElementBufferCreate usableElementSize elementCount))
    (ops : List (SendRingOp w))
    (hops : ∀ op ∈ ops, op.Valid (skyElementBufferCreate usableElementSize elementCount)) :
    (SendRingState.run
      ⟨ring, ((TrackedBuffer.create usableElementSize elementCount).run others).buffer, []⟩
      ops).Consistent := by
  obtain ⟨rest, m, hpool, hshape⟩ := TrackedBuffer.exists_poolHolds hu hc others hothers
  obtain ⟨tail', tx', payload', m', hrun⟩ :=
    (SendRingState.Rep.created hring hlength hpool).run fun op hop => (hops op hop).congr hshape
  exact hrun.consistent

def exampleSendRing : SkySendRing 8 := (skySendRingCreate 4 254).get rfl

/-- The ring fills up, resends, is acknowledged across the overflow and refuses a false
acknowledgement. -/
def exampleSendOps : List (SendRingOp 8) :=
  [.push [1], .push [2], .push [3], .push [4], .readToTx true, .readToTx false,
    .scheduleResendsByMask 254 0xfffe, .readToTx true, .cleanTailUpTo 7, .cleanTailUpTo 0,
    .push [5]]

theorem sendRing_consistent_example :
    (SendRingState.run
      ⟨exampleSendRing, ((TrackedBuffer.create 4 20).run [.store [7, 7, 7]]).buffer, []⟩
      exampleSendOps).Consistent :=
  sendRing_consistent (Option.some_get _).symm (by decide) (by decide) (by decide) _ (by decide)
    exampleSendOps (by decide)

end Skylink
