import Mathlib.Data.Nat.Periodic
import Skylink.SequenceRing.SendRuns
import Skylink.VirtualChannel.OldPackets
import Skylink.VirtualChannel.Runs

/-!
# Room for the payloads of both rings

The element buffer is created with room for all slots of both rings but two, each with a
payload of the greatest length. The rings hold one payload more than that.
-/

namespace Skylink

open SerialNumber

variable {w : Nat}

/-! ## Sizes that never change -/

/-- Rings and element buffer have the same sizes. -/
structure SameLayout (vc vc' : SkyVirtualChannel w) : Prop where
  sendLength : vc'.sendRing.length = vc.sendRing.length
  rcvLength : vc'.rcvRing.length = vc.rcvRing.length
  shape : SameShape vc.elementBuffer vc'.elementBuffer

theorem SameLayout.refl (vc : SkyVirtualChannel w) : SameLayout vc vc := ⟨rfl, rfl, rfl, rfl⟩

theorem SameLayout.trans {vc vc' vc'' : SkyVirtualChannel w} (h : SameLayout vc vc')
    (h' : SameLayout vc' vc'') : SameLayout vc vc'' :=
  ⟨h'.1.trans h.1, h'.2.trans h.2, h.3.trans h'.3⟩

/-! ### The rings -/

theorem sendRingReadNewPacketToTx_length (r : SkySendRing w) (eb : SkyElementBuffer) :
    (sendRingReadNewPacketToTx r eb).1.length = r.length := by
  rw [sendRingReadNewPacketToTx]
  split
  · rfl
  · split <;> rfl

theorem sendRingPopResendSequence_length (r : SkySendRing w) :
    (sendRingPopResendSequence r).1.length = r.length := by
  rw [sendRingPopResendSequence]
  split <;> rfl

theorem sendRingReadRecallPacketToTx_length (r : SkySendRing w) (eb : SkyElementBuffer) :
    (sendRingReadRecallPacketToTx r eb).1.length = r.length := by
  have hpop := sendRingPopResendSequence_length r
  rw [sendRingReadRecallPacketToTx]
  cases h : sendRingPopResendSequence r with
  | mk r' popped =>
      rw [h] at hpop
      cases popped with
      | none => exact hpop
      | some s =>
          dsimp only
          split
          · exact hpop
          · split <;> exact hpop

theorem sendRingReadToTx_length (r : SkySendRing w) (eb : SkyElementBuffer)
    (includeResend : Bool) : (sendRingReadToTx r eb includeResend).1.length = r.length := by
  have hrecall := sendRingReadRecallPacketToTx_length r eb
  rw [sendRingReadToTx]
  split
  · split
    · rename_i heq
      rw [heq] at hrecall
      exact hrecall
    · rename_i heq
      rw [heq] at hrecall
      exact (sendRingReadNewPacketToTx_length _ eb).trans hrecall
  · exact sendRingReadNewPacketToTx_length r eb

theorem sendRingScheduleResend_length (r : SkySendRing w) (sequence : BitVec w) :
    (sendRingScheduleResend r sequence).1.length = r.length := by
  rw [sendRingScheduleResend]
  split_ifs <;> rfl

theorem scheduleMaskLoop_length (mask : UInt16) (turns : Nat) (r : SkySendRing w)
    (sequence : BitVec w) (selectMask : UInt16) :
    (scheduleMaskLoop mask turns r sequence selectMask).1.length = r.length := by
  induction turns generalizing r sequence selectMask with
  | zero => rfl
  | succ turns ih =>
      rw [scheduleMaskLoop]
      dsimp only
      split_ifs
      · exact sendRingScheduleResend_length r sequence
      · rw [ih]
        exact sendRingScheduleResend_length r sequence
      · exact ih _ _ _

theorem sendRingScheduleResendsByMask_length (r : SkySendRing w) (sequence : BitVec w)
    (mask : UInt16) : (sendRingScheduleResendsByMask r sequence mask).1.length = r.length := by
  rw [sendRingScheduleResendsByMask]
  dsimp only
  split_ifs
  · exact sendRingScheduleResend_length r sequence
  · rw [scheduleMaskLoop_length]
    exact sendRingScheduleResend_length r sequence

/-! ### The channel -/

namespace SkyVirtualChannel

variable (vc : SkyVirtualChannel w)

theorem wipeRings_layout : SameLayout vc (wipeRings vc) :=
  ⟨rfl, rfl, (wipePayloads_sameShape vc.rcvRing.buff _).trans (wipePayloads_sameShape _ _)⟩

theorem wipeToOff_layout : SameLayout vc (skyVcWipeToArqOffState vc) :=
  ⟨rfl, rfl, (wipePayloads_sameShape vc.sendRing.buff vc.elementBuffer).trans
    (wipePayloads_sameShape vc.rcvRing.buff _)⟩

theorem wipeToOn_layout (tickTime : Int) (identifier : UInt32) :
    SameLayout vc (skyVcWipeToArqOnState tickTime vc identifier) :=
  ⟨rfl, rfl, vc.wipeRings_layout.shape⟩

theorem handleHandshake_layout (tickTime : Int) (peerState : UInt8) (identifier : UInt32) :
    SameLayout vc (skyVcHandleHandshake tickTime vc peerState identifier).1 := by
  have hwipe := vc.wipeToOn_layout tickTime identifier
  rw [skyVcHandleHandshake]
  cases vc.arqStateFlag with
  | off => exact ⟨hwipe.1, hwipe.2, hwipe.3⟩
  | inInit =>
      dsimp only
      split_ifs
      · exact ⟨rfl, rfl, rfl, rfl⟩
      · exact ⟨hwipe.1, hwipe.2, hwipe.3⟩
      · exact SameLayout.refl vc
  | on =>
      dsimp only
      split
      · exact ⟨rfl, rfl, rfl, rfl⟩
      · exact ⟨hwipe.1, hwipe.2, hwipe.3⟩

theorem pushPacketToSend_layout (payload : Bytes) :
    SameLayout vc (skyVcPushPacketToSend vc payload).1 := by
  obtain ⟨hlength, hshape⟩ := sendRingPushPacketToSend_layout vc.sendRing vc.elementBuffer payload
  rw [skyVcPushPacketToSend]
  split
  · exact SameLayout.refl vc
  · exact ⟨hlength, rfl, hshape⟩

theorem readPacketForTx_layout :
    SameLayout vc (skyVcReadPacketForTxMonotonic vc).1 := by
  have hread := sendRingReadToTx_length vc.sendRing vc.elementBuffer false
  rw [skyVcReadPacketForTxMonotonic]
  split
  · rename_i heq
    rw [heq] at hread
    exact ⟨hread, rfl, rfl, rfl⟩
  · rename_i sendRing read heq
    rw [heq] at hread
    obtain ⟨hlength, hshape⟩ :=
      sendRingCleanTailUpTo_layout sendRing vc.elementBuffer sendRing.txSequence
    exact ⟨hlength.trans hread, rfl, hshape⟩

theorem updateTxSync_layout (sequence : BitVec w) (now : Int) :
    SameLayout vc (skyVcUpdateTxSync vc sequence now) := by
  obtain ⟨hlength, hshape⟩ :=
    sendRingCleanTailUpTo_layout vc.sendRing vc.elementBuffer sequence
  exact ⟨hlength, rfl, hshape⟩

theorem updateRxSync_layout (sequence : BitVec w) (now : Int) :
    SameLayout vc (skyVcUpdateRxSync vc sequence now) := by
  rw [skyVcUpdateRxSync]
  split_ifs <;> exact ⟨rfl, rfl, rfl, rfl⟩

theorem pushRxPacket_layout (src : Bytes) (sequence : BitVec w) (now : Int) :
    SameLayout vc (skyVcPushRxPacket vc src sequence now).1 := by
  obtain ⟨hlength, hshape⟩ :=
    rcvRingPushRxPacket_layout vc.rcvRing vc.elementBuffer src sequence
  exact ⟨rfl, hlength, hshape⟩

theorem pushRxPacketMonotonic_layout (src : Bytes) :
    SameLayout vc (skyVcPushRxPacketMonotonic vc src).1 := by
  obtain ⟨hlength, hshape⟩ :=
    rcvRingPushRxPacket_layout vc.rcvRing vc.elementBuffer src vc.rcvRing.headSequence
  exact ⟨rfl, hlength, hshape⟩

theorem readNextReceived_layout (maxLength : Nat) :
    SameLayout vc (skyVcReadNextReceived vc maxLength).1 := by
  obtain ⟨hlength, hshape⟩ :=
    rcvRingReadNextReceived_layout vc.rcvRing vc.elementBuffer maxLength
  exact ⟨rfl, hlength, hshape⟩

theorem fillFrameOff_layout (tx : SkyTransmitFrame) : SameLayout vc (fillFrameOff vc tx).1 := by
  rcases vc.fillFrameOff_vc tx with heq | heq
  · rw [heq]
    exact SameLayout.refl vc
  · rw [heq]
    exact vc.readPacketForTx_layout

theorem fillPayload_layout (tx : SkyTransmitFrame) (ret : SkyRet) :
    SameLayout vc (fillPayload vc tx ret).1 := by
  rcases vc.fillPayload_vc tx ret with heq | heq
  · rw [heq]
    exact SameLayout.refl vc
  · rw [heq]
    exact ⟨sendRingReadToTx_length vc.sendRing vc.elementBuffer true, rfl, rfl, rfl⟩

theorem fillFrameOn_layout (config : SkyConfig) (tx : SkyTransmitFrame) (now : Int)
    (frames : UInt16) : SameLayout vc (fillFrameOn vc config tx now frames).1 := by
  obtain ⟨handshake, request, tick, unconfirmed, tx', ret, heq⟩ :=
    vc.fillFrameOn_control config tx now frames
  have hcontrol : SameLayout vc { vc with
      handshakeSend := handshake, needRecall := request, lastCtrlSendTick := tick,
      unconfirmedPayloads := unconfirmed } := ⟨rfl, rfl, rfl, rfl⟩
  rw [heq]
  exact hcontrol.trans (fillPayload_layout _ tx' ret)

theorem fillFrame_layout (config : SkyConfig) (tx : SkyTransmitFrame) (now : Int)
    (frames : UInt16) : SameLayout vc (skyVcFillFrame vc config tx now frames).1 := by
  rw [skyVcFillFrame]
  cases vc.arqStateFlag with
  | off => exact vc.fillFrameOff_layout tx
  | inInit =>
      dsimp only
      split <;> exact SameLayout.refl vc
  | on => exact vc.fillFrameOn_layout config tx now frames

theorem processFrameOn_layout (parsed : SkyParsedFrame) (now : Int) :
    SameLayout vc (processFrameOn vc parsed now).1 := by
  have hctrl : SameLayout vc (processCtrl vc parsed now) := by
    rw [processCtrl]
    split
    · exact SameLayout.refl vc
    · exact (vc.updateTxSync_layout _ now).trans (updateRxSync_layout _ _ now)
  have hrequest (vc : SkyVirtualChannel w) : SameLayout vc (processRequest vc parsed) := by
    rw [processRequest]
    split
    · exact SameLayout.refl vc
    · exact ⟨sendRingScheduleResendsByMask_length _ _ _, rfl, rfl, rfl⟩
  rw [processFrameOn]
  dsimp only
  split
  · split
    · exact hctrl
    · exact hctrl.trans ((pushRxPacket_layout _ _ _ now).trans (hrequest _))
  · exact hctrl.trans (hrequest _)

theorem processFrame_layout (tickTime : Int) (parsed : SkyParsedFrame) (now : Int) :
    SameLayout vc (skyVcProcessFrame tickTime vc parsed now).1 := by
  have hhandshake : SameLayout vc (processHandshake tickTime vc parsed) := by
    rw [processHandshake]
    split
    · exact SameLayout.refl vc
    · exact vc.handleHandshake_layout tickTime _ _
  rw [skyVcProcessFrame]
  split
  · split
    · exact hhandshake.trans (pushRxPacketMonotonic_layout _ _)
    · exact hhandshake
  · exact hhandshake
  · exact hhandshake.trans (processFrameOn_layout _ parsed now)

theorem step_layout (op : VcOp w) : SameLayout vc (vc.step op) := by
  cases op with
  | push payload => exact vc.pushPacketToSend_layout payload
  | pushRx src sequence now => exact vc.pushRxPacket_layout src sequence now
  | pushRxMonotonic src => exact vc.pushRxPacketMonotonic_layout src
  | read maxLength => exact vc.readNextReceived_layout maxLength
  | fillFrame config tx now frames => exact vc.fillFrame_layout config tx now frames
  | processFrame tickTime parsed now => exact vc.processFrame_layout tickTime parsed now
  | cleanTail sequence now => exact vc.updateTxSync_layout sequence now
  | scheduleResend sequence => exact ⟨sendRingScheduleResend_length _ _, rfl, rfl, rfl⟩
  | scheduleResendsByMask sequence mask =>
      exact ⟨sendRingScheduleResendsByMask_length _ _ _, rfl, rfl, rfl⟩
  | connect tickTime => exact ⟨rfl, rfl, vc.wipeRings_layout.shape⟩
  | disconnect => exact vc.wipeToOff_layout
  | handshake tickTime peerState identifier =>
      exact vc.handleHandshake_layout tickTime peerState identifier
  | checkTimeouts now timeout =>
      obtain heq | heq := skyVcCheckTimeouts_eq vc now timeout
      · rw [step, heq]
        exact SameLayout.refl vc
      · rw [step, heq]
        exact vc.wipeToOff_layout

theorem run_layout (ops : List (VcOp w)) : SameLayout vc (vc.run ops) := by
  induction ops generalizing vc with
  | nil => exact SameLayout.refl vc
  | cons op ops ih => exact (vc.step_layout op).trans (ih _)

end SkyVirtualChannel

/-! ## What is held -/

/-- The length of the payload whose chain starts at `idx`. -/
def SkyElementBuffer.lengthAt (b : SkyElementBuffer) (idx : Nat) : Nat :=
  match skyElementBufferGetDataLength b idx with
  | .ok length => length
  | .error _ => 0

/-- The free elements are those that the stored payloads do not require. -/
theorem PoolHolds.freeElements {b : SkyElementBuffer} {m : Nat → Option Bytes}
    {idxs : List Nat} (h : PoolHolds b m idxs) :
    (((idxs.map b.lengthAt).map (skyElementBufferElementRequirementFor b)).sum : Int) +
      b.freeElements = b.elementCount := by
  have hlength : ∀ idx ∈ idxs, skyElementBufferElementRequirementFor b (b.lengthAt idx) =
      (b.chainOf idx).length := by
    intro idx hidx
    obtain ⟨p, hp⟩ := Option.isSome_iff_exists.mp ((h.owns.stored idx).mp hidx)
    obtain ⟨c, rest, hok, hhead, rfl, -⟩ := h.stores.exists_chain hp
    rw [SkyElementBuffer.lengthAt, h.stores.getDataLength hp, hok.chainOf (by simp) hhead,
      (hok.chains c (by simp)).size]
  rw [← h.ownership.count, List.map_map]
  congr 3
  exact List.map_congr_left hlength

section Slots

variable {m : Nat → Option Bytes} {buff : List (RingItem w)} {len base : Nat}
  {start : BitVec w} {val : Nat → Option Bytes}

/-- A ring owns a chain for every number of its window that holds a payload. -/
theorem SlotsHold.owned_length (h : SlotsHold m buff len start base val) :
    (ownedIdx buff).length =
      ((Finset.Ico base (base + len)).filter fun u => (val u).isSome).card := by
  let held (u : Nat) : Prop := (buff.getD (u % len) RingItem.vacant).idx ≠ ebNullIdx
  have hperiodic : Function.Periodic held len := fun u => by
    show ((buff.getD ((u + len) % len) RingItem.vacant).idx ≠ ebNullIdx) = held u
    rw [Nat.add_mod_right]
  have hwindow : (Finset.Ico base (base + len)).filter (fun u => (val u).isSome) =
      (Finset.Ico base (base + len)).filter held := by
    apply Finset.filter_congr
    intro u hu
    obtain ⟨hlo, hhi⟩ := Finset.mem_Ico.mp hu
    show (val u).isSome ↔ (buff.getD (u % len) RingItem.vacant).idx ≠ ebNullIdx
    rw [ne_eq, h.vacant_iff hlo hhi, Option.isSome_iff_ne_none]
  have hbuff : buff = (List.range len).map fun i => buff.getD i RingItem.vacant := by
    apply List.ext_getElem (by simp [h.length])
    intro i hi _
    rw [List.getElem_map, List.getElem_range, List.getD_eq_getElem _ _ hi]
  have howned : (ownedIdx buff).length =
      (List.range len).countP fun i =>
        decide ((buff.getD i RingItem.vacant).idx ≠ ebNullIdx) := by
    conv_lhs => rw [hbuff]
    rw [ownedIdx, ← List.countP_eq_length_filter, List.countP_map, List.countP_map]
    rfl
  rw [hwindow, Nat.filter_Ico_card_eq_of_periodic base len held hperiodic, howned, Nat.count]
  apply List.countP_congr
  intro i hi
  have hmod : i % len = i := Nat.mod_eq_of_lt (List.mem_range.mp hi)
  show _ ↔ decide ((buff.getD (i % len) RingItem.vacant).idx ≠ ebNullIdx) = true
  rw [hmod]

end Slots

theorem SendWindow.owned_length {r : SkySendRing w} {start : BitVec w} {tail tx head : Nat}
    {payload : Nat → Bytes} {m : Nat → Option Bytes}
    (h : SendWindow r start tail tx head payload m) :
    (ownedIdx r.buff).length = head - tail := by
  have hroom := h.room
  rw [h.slots.owned_length]
  have hfilter : (Finset.Ico tail (tail + r.length)).filter
      (fun u => (pendingPayload tail head payload u).isSome) = Finset.Ico tail head := by
    ext u
    rw [Finset.mem_filter, Finset.mem_Ico, Finset.mem_Ico, pendingPayload]
    split_ifs with hu
    · simp
      omega
    · simp
      omega
  rw [hfilter, Nat.card_Ico]

namespace RcvRep

variable {r : SkyRcvRing w} {start : BitVec w} {tail head : Nat} {held m : Nat → Option Bytes}

theorem owned_length_le (h : RcvRep r start tail head held m) :
    (ownedIdx r.buff).length ≤ r.length := by
  rw [h.slots.owned_length]
  refine (Finset.card_filter_le _ _).trans ?_
  rw [Nat.card_Ico]
  omega

/-- As long as a slot is vacant, one within the horizon is. -/
theorem owned_length_lt_iff (h : RcvRep r start tail head held m) :
    (ownedIdx r.buff).length < r.length ↔
      ∃ d ≤ r.horizonWidth, held (head + d) = none := by
  have horder := h.order
  have hroom := h.room
  have hcard : (Finset.Ico tail (tail + r.length)).card = r.length := by
    rw [Nat.card_Ico]
    omega
  rw [h.slots.owned_length]
  constructor
  · intro hlt
    by_contra hvacant
    have hnone (d : Nat) (hd : d ≤ r.horizonWidth) : held (head + d) ≠ none :=
      fun hv => hvacant ⟨d, hd, hv⟩
    have hhead : held head ≠ none := hnone 0 (Nat.zero_le _)
    have hstall := h.stop.resolve_left hhead
    apply hlt.ne
    rw [Finset.filter_true_of_mem, hcard]
    intro u hu
    obtain ⟨hlo, hhi⟩ := Finset.mem_Ico.mp hu
    by_cases hbefore : u < head
    · exact h.readable u hlo hbefore
    · have hd := hnone (u - head) (by omega)
      rw [Nat.add_sub_cancel' (by omega)] at hd
      exact Option.isSome_iff_ne_none.mpr hd
  · rintro ⟨d, hd, hvacant⟩
    refine lt_of_lt_of_eq
      (Finset.card_lt_card (Finset.filter_ssubset.mpr ⟨head + d, ?_, ?_⟩)) hcard
    · rw [Finset.mem_Ico]
      omega
    · rw [hvacant]
      simp

end RcvRep

/-! ## Room for a push -/

/-- The sequence is inside the horizon, and its slot is empty. -/
def SkyRcvRing.SlotOpen (r : SkyRcvRing w) (sequence : BitVec w) : Prop :=
  (sequence - r.headSequence).toNat ≤ r.horizonWidth ∧
    (r.item (ringWrap (r.head + (sequence - r.headSequence).toNat) r.length)).idx = ebNullIdx

theorem sendRingPush_noSpace_iff {r : SkySendRing w} {eb : SkyElementBuffer}
    {m : Nat → Option Bytes} (hstores : Stores eb m) {p : Bytes} (hp : p.length < 65536)
    (hroom : sendRingIsFull r = false) :
    (sendRingPushPacketToSend r eb p).2.2 = .error .ebufferNoSpace ↔
      eb.freeElements < skyElementBufferElementRequirementFor eb p.length := by
  rw [sendRingPushPacketToSend, hroom, if_neg Bool.false_ne_true]
  by_cases hspace : (skyElementBufferElementRequirementFor eb p.length : Int) ≤ eb.freeElements
  · obtain ⟨idx, eb', hstore, -⟩ := hstores.store_room hp hspace
    rw [hstore]
    exact iff_of_false (fun h => by cases h) (not_lt.mpr hspace)
  · rw [store_noSpace hp (not_le.mp hspace)]
    exact iff_of_true rfl (not_le.mp hspace)

theorem rcvRingPush_noSpace_iff {r : SkyRcvRing w} {eb : SkyElementBuffer}
    {m : Nat → Option Bytes} (hstores : Stores eb m) {p : Bytes} (hp : p.length < 65536)
    {sequence : BitVec w} (hopen : r.SlotOpen sequence) :
    (rcvRingPushRxPacket r eb p sequence).2.2 = .error .ebufferNoSpace ↔
      eb.freeElements < skyElementBufferElementRequirementFor eb p.length := by
  rw [rcvRingPushRxPacket, if_neg (not_lt.mpr hopen.1), if_neg (not_not_intro hopen.2)]
  by_cases hspace : (skyElementBufferElementRequirementFor eb p.length : Int) ≤ eb.freeElements
  · obtain ⟨idx, eb', hstore, -⟩ := hstores.store_room hp hspace
    rw [hstore]
    exact iff_of_false (fun h => by cases h) (not_lt.mpr hspace)
  · rw [store_noSpace hp (not_le.mp hspace)]
    exact iff_of_true rfl (not_le.mp hspace)

namespace SkyVirtualChannel

/-- A payload that finds its slot finds room in the element buffer. -/
structure PushesFit (vc : SkyVirtualChannel w) : Prop where
  push : ∀ payload, payload.length ≤ skyPayloadMaxLen → sendRingIsFull vc.sendRing = false →
    (skyVcPushPacketToSend vc payload).2 ≠ .error .ebufferNoSpace
  pushRx : ∀ src sequence now, src.length ≤ skyPayloadMaxLen → vc.rcvRing.SlotOpen sequence →
    (skyVcPushRxPacket vc src sequence now).2 ≠ .error .ebufferNoSpace
  pushRxMonotonic : ∀ src, src.length ≤ skyPayloadMaxLen →
    vc.rcvRing.SlotOpen vc.rcvRing.headSequence →
      (skyVcPushRxPacketMonotonic vc src).2 ≠ .error .ebufferNoSpace

/-- The lengths of the payloads in both rings. -/
def heldLengths (vc : SkyVirtualChannel w) : List Nat :=
  (ownedIdx vc.sendRing.buff ++ ownedIdx vc.rcvRing.buff).map vc.elementBuffer.lengthAt

/-- The elements of a payload of the greatest length. -/
def longestRequirement (vc : SkyVirtualChannel w) : Nat :=
  skyElementBufferElementRequirementFor vc.elementBuffer skyPayloadMaxLen

/-- What the payloads leave of the elements that payloads of the greatest length take. -/
def sparedElements (vc : SkyVirtualChannel w) : Nat :=
  (vc.heldLengths.map fun n =>
    vc.longestRequirement - skyElementBufferElementRequirementFor vc.elementBuffer n).sum

/-- Some slot of the rings is available. -/
def SlotAvailable (vc : SkyVirtualChannel w) : Prop :=
  sendRingIsFull vc.sendRing = false ∨ ∃ sequence, vc.rcvRing.SlotOpen sequence

theorem pushesFit_iff_free {vc : SkyVirtualChannel w} {m : Nat → Option Bytes}
    (hstores : Stores vc.elementBuffer m) :
    vc.PushesFit ↔
      (vc.SlotAvailable → (vc.longestRequirement : Int) ≤ vc.elementBuffer.freeElements) := by
  have hlt {p : Bytes} (hp : p.length ≤ skyPayloadMaxLen) : p.length < 65536 :=
    hp.trans_lt (by decide)
  have hrequired {p : Bytes} (hp : p.length ≤ skyPayloadMaxLen) :
      skyElementBufferElementRequirementFor vc.elementBuffer p.length ≤ vc.longestRequirement :=
    Nat.div_le_div_right (by omega)
  have hpush {p : Bytes} (hp : p.length ≤ skyPayloadMaxLen) :
      (skyVcPushPacketToSend vc p).2 =
        (sendRingPushPacketToSend vc.sendRing vc.elementBuffer p).2.2 := by
    rw [skyVcPushPacketToSend, if_neg (not_lt.mpr hp)]
  let longest : Bytes := List.replicate skyPayloadMaxLen 0
  have hlongest : longest.length = skyPayloadMaxLen := List.length_replicate
  constructor
  · rintro hfit (hroom | ⟨sequence, hopen⟩)
    · have hne := hfit.push longest hlongest.le hroom
      rw [hpush hlongest.le, ne_eq, sendRingPush_noSpace_iff hstores (hlt hlongest.le) hroom,
        not_lt, hlongest] at hne
      exact hne
    · have hne := hfit.pushRx longest sequence 0 hlongest.le hopen
      rw [skyVcPushRxPacket, ne_eq, rcvRingPush_noSpace_iff hstores (hlt hlongest.le) hopen,
        not_lt, hlongest] at hne
      exact hne
  · intro hspace
    have hfree {p : Bytes} (hp : p.length ≤ skyPayloadMaxLen) (havailable : vc.SlotAvailable) :
        ¬vc.elementBuffer.freeElements <
          skyElementBufferElementRequirementFor vc.elementBuffer p.length := by
      have := hspace havailable
      have := hrequired hp
      omega
    refine ⟨fun p hp hroom => ?_, fun p sequence now hp hopen => ?_, fun p hp hopen => ?_⟩
    · rw [hpush hp, ne_eq, sendRingPush_noSpace_iff hstores (hlt hp) hroom]
      exact hfree hp (.inl hroom)
    · rw [skyVcPushRxPacket, ne_eq, rcvRingPush_noSpace_iff hstores (hlt hp) hopen]
      exact hfree hp (.inr ⟨sequence, hopen⟩)
    · rw [skyVcPushRxPacketMonotonic, ne_eq, rcvRingPush_noSpace_iff hstores (hlt hp) hopen]
      exact hfree hp (.inr ⟨_, hopen⟩)

/-- A slot is available until both rings are full, the send ring but for one slot. -/
theorem slotAvailable_iff {vc : SkyVirtualChannel w} {v : VcView} {m : Nat → Option Bytes}
    (h : VcHolds vc v m) (hhorizon : vc.rcvRing.horizonWidth < 2 ^ w) :
    vc.SlotAvailable ↔
      vc.heldLengths.length + 2 ≤ vc.sendRing.length + vc.rcvRing.length := by
  have htail := h.send.tail_le_tx
  have htx := h.send.tx_le_head
  have hroom := h.send.room
  have hsend := h.send.owned_length
  have hrcv := h.rcv.owned_length_le
  have horder := h.rcv.order
  have hwindow := h.rcv.room
  have hfull : sendRingIsFull vc.sendRing = false ↔
      (ownedIdx vc.sendRing.buff).length + 2 ≤ vc.sendRing.length := by
    rw [← Bool.not_eq_true, h.send.isFull_iff, hsend]
    omega
  have hopen : (∃ sequence, vc.rcvRing.SlotOpen sequence) ↔
      (ownedIdx vc.rcvRing.buff).length < vc.rcvRing.length := by
    have hslot (d : Nat) : ringWrap ((vc.rcvRing.head : Int) + d) vc.rcvRing.length =
        (v.rcvHead + d) % vc.rcvRing.length := by
      exact_mod_cast h.rcv.slot_ahead d
    rw [h.rcv.owned_length_lt_iff]
    constructor
    · rintro ⟨sequence, hd, hnull⟩
      rw [hslot, h.rcv.item_vacant_iff (by omega) (by omega)] at hnull
      exact ⟨_, hd, hnull⟩
    · rintro ⟨d, hd, hnone⟩
      have hdist : (vc.rcvRing.headSequence + BitVec.ofNat w d - vc.rcvRing.headSequence).toNat =
          d := by
        rw [BitVec.add_comm, BitVec.add_sub_cancel, BitVec.toNat_ofNat]
        exact Nat.mod_eq_of_lt (by omega)
      refine ⟨vc.rcvRing.headSequence + BitVec.ofNat w d, ?_, ?_⟩
      · rw [hdist]
        exact hd
      · rw [hdist, hslot, h.rcv.item_vacant_iff (by omega) (by omega)]
        exact hnone
  rw [SlotAvailable, hfull, hopen, heldLengths, List.length_map, List.length_append]
  omega

end SkyVirtualChannel

/-- What is left of the upper bounds and what is used make up the bounds. -/
theorem sum_left_add_sum_used {bound : Nat} {used : Nat → Nat} {ns : List Nat}
    (h : ∀ n ∈ ns, used n ≤ bound) :
    (ns.map fun n => bound - used n).sum + (ns.map used).sum = ns.length * bound := by
  induction ns with
  | nil => simp
  | cons n ns ih =>
      have hn := h n List.mem_cons_self
      have hrest := ih fun k hk => h k (List.mem_cons_of_mem _ hk)
      rw [List.map_cons, List.map_cons, List.sum_cons, List.sum_cons, List.length_cons,
        Nat.succ_mul]
      omega

theorem skyVcCreate_shape {config conf : SkyVCConfig} {vc : SkyVirtualChannel w}
    (h : skyVcCreate config = some (conf, vc)) :
    SameShape
      (skyElementBufferCreate config.normalise.usableElementSize.toNat
        (computeRequiredElementCount (config.normalise.usableElementSize + 4).toNat
          (config.normalise.rcvRingLen + config.normalise.sendRingLen - 2).toNat
          skyPayloadMaxLen))
      vc.elementBuffer := by
  simp only [skyVcCreate, Option.bind_eq_bind, Option.bind_eq_some_iff, Option.some.injEq,
    Prod.mk.injEq] at h
  obtain ⟨send, -, rcv, -, -, rfl⟩ := h
  exact (SkyVirtualChannel.wipeToOff_layout _).shape

/-- The element buffer of a new channel. -/
theorem skyVcCreate_elementCount (hw : 250 ≤ 2 ^ w) {config conf : SkyVCConfig}
    {vc : SkyVirtualChannel w} (h : skyVcCreate config = some (conf, vc)) :
    6 ≤ vc.sendRing.length ∧ 6 ≤ vc.rcvRing.length ∧ vc.rcvRing.length ≤ 250 ∧
      vc.elementBuffer.elementCount =
        (vc.sendRing.length + vc.rcvRing.length - 2) * vc.longestRequirement := by
  obtain ⟨hr, hr', -, hs, -, hu, -⟩ := config.normalise_bounds
  rcases Int.lt_or_le config.normalise.horizonWidth 0 with hneg | hpos
  · rw [skyVcCreate_eq_none config hneg] at h
    cases h
  · have hshape := skyVcCreate_shape h
    obtain ⟨vc', heq, -, -, hsend, hrcv, -⟩ := skyVcCreate_eq_some hw config hpos
    obtain ⟨rfl, rfl⟩ := Prod.mk.inj (Option.some.inj (heq.symm.trans h))
    refine ⟨by omega, by omega, by omega, ?_⟩
    have hslots : vc'.sendRing.length + vc'.rcvRing.length - 2 =
        (config.normalise.rcvRingLen + config.normalise.sendRingLen - 2).toNat := by omega
    have hsize : (config.normalise.usableElementSize + 4).toNat - 4 =
        config.normalise.usableElementSize.toNat := by omega
    rw [SkyVirtualChannel.longestRequirement, requirement_congr hshape.2, hslots, hshape.1]
    show _ * ((skyPayloadMaxLen + ebLenBytes +
      ((config.normalise.usableElementSize + 4).toNat - 4) - 1) /
        ((config.normalise.usableElementSize + 4).toNat - 4)) = _
    rw [hsize]
    rfl

/-- All slots but two have their elements, and all but one are used. -/
theorem room_iff {slots held longest required spared : Nat} {free : Int}
    (hfree : (required : Int) + free = ((slots - 2) * longest : Nat))
    (hspared : spared + required = held * longest) :
    (held + 2 ≤ slots → (longest : Int) ≤ free) ↔
      (held + 2 = slots → longest ≤ spared) := by
  have hlast (heq : held + 2 = slots) : free = spared := by
    have hslots : slots - 2 = held := by omega
    rw [hslots, ← hspared] at hfree
    push_cast at hfree
    omega
  constructor
  · intro hroom heq
    have := hroom heq.le
    rw [hlast heq] at this
    exact_mod_cast this
  · intro hspare hle
    rcases hle.eq_or_lt with heq | hlt
    · rw [hlast heq]
      exact_mod_cast hspare heq
    · have hmul : (held + 1) * longest ≤ (slots - 2) * longest :=
        Nat.mul_le_mul_right _ (by omega)
      rw [Nat.succ_mul, ← hspared] at hmul
      omega

/-- A push that finds its slot finds room, unless a single slot is left in both rings
together and the payloads held leave less than a payload of the greatest length takes. -/
theorem pushesFit_iff (hw : 250 ≤ 2 ^ w) {config conf : SkyVCConfig}
    {vc : SkyVirtualChannel w} (hvc : skyVcCreate config = some (conf, vc)) (ops : List (VcOp w))
    (hops : ∀ op ∈ ops, op.Valid vc.elementBuffer)
    (hheld : ∀ n ∈ (vc.run ops).heldLengths, n ≤ skyPayloadMaxLen) :
    (vc.run ops).PushesFit ↔
      ((vc.run ops).heldLengths.length + 2 =
          (vc.run ops).sendRing.length + (vc.run ops).rcvRing.length →
        (vc.run ops).longestRequirement ≤ (vc.run ops).sparedElements) := by
  obtain ⟨-, hempty, -⟩ := skyVcCreate_rep hw hvc
  obtain ⟨v, m, hm⟩ := hempty.run hops
  obtain ⟨hsend, hrcv, hrcvLe, hcount⟩ := skyVcCreate_elementCount hw hvc
  obtain ⟨hsend', hrcv', hshape⟩ := vc.run_layout ops
  have hhorizon : (vc.run ops).rcvRing.horizonWidth < 2 ^ w := by
    have := hm.rcv.order
    have := hm.rcv.room
    omega
  have hlongest : (vc.run ops).longestRequirement = vc.longestRequirement :=
    requirement_congr hshape.2 _
  have hfree := hm.pool.freeElements
  rw [← SkyVirtualChannel.heldLengths, hshape.1, hcount, ← hsend', ← hrcv', ← hlongest] at hfree
  have hspared : (vc.run ops).sparedElements +
      ((vc.run ops).heldLengths.map
        (skyElementBufferElementRequirementFor (vc.run ops).elementBuffer)).sum =
        (vc.run ops).heldLengths.length * (vc.run ops).longestRequirement :=
    sum_left_add_sum_used fun n hn => Nat.div_le_div_right (by have := hheld n hn; omega)
  rw [SkyVirtualChannel.pushesFit_iff_free hm.pool.stores,
    SkyVirtualChannel.slotAvailable_iff hm hhorizon]
  exact room_iff hfree hspared

/-- Payloads of the greatest length in all slots that the elements are counted for. -/
def exampleFullOps : List (VcOp 8) :=
  let longest := List.replicate skyPayloadMaxLen 1
  [.push longest, .push longest, .push longest, .push longest, .push longest,
    .pushRx longest 0 10, .pushRx longest 1 10, .pushRx longest 2 10, .pushRx longest 3 10,
    .pushRx longest 4 10]

theorem pushesFit_iff_example : (exampleChannel.run exampleVcOps).PushesFit := by
  obtain ⟨conf, hconf⟩ := exampleChannel_eq
  exact (pushesFit_iff (by decide) hconf exampleVcOps (by decide +kernel)
    (by decide +kernel)).mpr (by decide +kernel)

/-- The receive ring is choked, and its horizon has a slot left. -/
theorem not_pushesFit :
    let full := exampleChannel.run exampleFullOps
    (∀ n ∈ full.heldLengths, n ≤ skyPayloadMaxLen) ∧ full.rcvRing.headSequence = 3 ∧
      full.rcvRing.SlotOpen 5 ∧
      (skyVcPushRxPacket full (List.replicate skyPayloadMaxLen 1) 5 20).2 =
        .error .ebufferNoSpace ∧
      ¬full.PushesFit := by
  have hopen : (exampleChannel.run exampleFullOps).rcvRing.SlotOpen 5 :=
    ⟨by decide +kernel, by decide +kernel⟩
  have hret : (skyVcPushRxPacket (exampleChannel.run exampleFullOps)
      (List.replicate skyPayloadMaxLen 1) 5 20).2 = .error .ebufferNoSpace := by
    decide +kernel
  refine ⟨by decide +kernel, by decide +kernel, hopen, hret, fun hfit => ?_⟩
  exact hfit.pushRx _ 5 20 List.length_replicate.le hopen hret

end Skylink
