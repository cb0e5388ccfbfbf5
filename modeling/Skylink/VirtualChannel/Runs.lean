import Skylink.VirtualChannel.Exchange

/-!
# Runs of a virtual channel

Any sequence of operations on a channel, in any state of the ARQ machine and with any
frames, leaves the element buffer divided among the items of the two rings.
-/

namespace Skylink

variable {w : Nat}

/-! ## Ownership of elements -/

/-- The chains of the buffer belong to the indices, each to one, and with the free
elements they make up the whole buffer. -/
structure ElementOwnership (b : SkyElementBuffer) (idxs : List Nat) : Prop where
  heads : idxs.Perm b.chainHeads
  distinct : idxs.Nodup
  first : ∀ idx ∈ idxs, (b.chainOf idx).head? = some idx
  disjoint : (idxs.flatMap b.chainOf).Nodup
  bound : ∀ i ∈ idxs.flatMap b.chainOf, i < b.elementCount
  free : ∀ i < b.elementCount, ((b.elementI i).isFree ↔ i ∉ idxs.flatMap b.chainOf)
  count : ((idxs.map fun idx => (b.chainOf idx).length).sum : Int) + b.freeElements =
    b.elementCount

theorem PoolHolds.ownership {b : SkyElementBuffer} {m : Nat → Option Bytes} {idxs : List Nat}
    (h : PoolHolds b m idxs) : ElementOwnership b idxs := by
  obtain ⟨live, hok, hmap⟩ := h.stores
  have hperm : idxs.Perm (liveHeads live) :=
    (List.perm_ext_iff_of_nodup h.owns.nodup hok.liveHeads_nodup).mpr fun i =>
      (h.owns.stored i).trans ((hok.owns hmap).stored i).symm
  have hcells : (idxs.flatMap b.chainOf).Perm (liveCells live) := by
    rw [← hok.flatMap_chainOf fun c hc => hc]
    exact hperm.flatMap_right _
  refine ⟨hperm.trans hok.liveHeads_perm, h.owns.nodup, fun idx hidx => ?_,
    hcells.nodup_iff.mpr hok.nodup, fun i hi => hok.liveCells_lt (hcells.mem_iff.mp hi),
    fun i _ => ?_, ?_⟩
  · obtain ⟨c, hc, hhead⟩ := PoolOk.mem_liveHeads.mp (hperm.mem_iff.mp hidx)
    rw [hok.chainOf hc hhead, hhead]
  · rw [hok.isFree_iff, hcells.mem_iff]
  · have hlength : (idxs.map fun idx => (b.chainOf idx).length).sum = (liveCells live).length := by
      rw [← hcells.length_eq, List.length_flatMap]
    rw [hlength, hok.freeElements]
    omega

/-! ## Operations -/

/-- The operations on a channel. Frames to process and frames to fill may be any. -/
inductive VcOp (w : Nat)
  | push (payload : Bytes)
  | pushRx (src : Bytes) (sequence : BitVec w) (now : Int)
  | pushRxMonotonic (src : Bytes)
  | read (maxLength : Nat)
  | fillFrame (config : SkyConfig) (tx : SkyTransmitFrame) (now : Int) (frames : UInt16)
  | processFrame (tickTime : Int) (parsed : SkyParsedFrame) (now : Int)
  | cleanTail (sequence : BitVec w) (now : Int)
  | scheduleResend (sequence : BitVec w)
  | scheduleResendsByMask (sequence : BitVec w) (mask : UInt16)
  | connect (tickTime : Int)
  | disconnect
  | handshake (tickTime : Int) (peerState : UInt8) (identifier : UInt32)
  | checkTimeouts (now timeout : Int)

/-- What is received can be stored at all. -/
def VcOp.Valid (b : SkyElementBuffer) : VcOp w → Prop
  | .pushRx src _ _ => Storable b src
  | .pushRxMonotonic src => Storable b src
  | .processFrame _ parsed _ => Storable b parsed.payloadBytes
  | _ => True

instance VcOp.decidableValid (b : SkyElementBuffer) (op : VcOp w) : Decidable (op.Valid b) :=
  match op with
  | .pushRx src _ _ => inferInstanceAs (Decidable (Storable b src))
  | .pushRxMonotonic src => inferInstanceAs (Decidable (Storable b src))
  | .processFrame _ parsed _ => inferInstanceAs (Decidable (Storable b parsed.payloadBytes))
  | .push _ | .read _ | .fillFrame .. | .cleanTail .. | .scheduleResend _
  | .scheduleResendsByMask .. | .connect _ | .disconnect | .handshake ..
  | .checkTimeouts .. => inferInstanceAs (Decidable True)

namespace SkyVirtualChannel

def step (vc : SkyVirtualChannel w) : VcOp w → SkyVirtualChannel w
  | .push payload => (skyVcPushPacketToSend vc payload).1
  | .pushRx src sequence now => (skyVcPushRxPacket vc src sequence now).1
  | .pushRxMonotonic src => (skyVcPushRxPacketMonotonic vc src).1
  | .read maxLength => (skyVcReadNextReceived vc maxLength).1
  | .fillFrame config tx now frames => (skyVcFillFrame vc config tx now frames).1
  | .processFrame tickTime parsed now => (skyVcProcessFrame tickTime vc parsed now).1
  | .cleanTail sequence now => skyVcUpdateTxSync vc sequence now
  | .scheduleResend sequence =>
      { vc with sendRing := (sendRingScheduleResend vc.sendRing sequence).1 }
  | .scheduleResendsByMask sequence mask =>
      { vc with sendRing := (sendRingScheduleResendsByMask vc.sendRing sequence mask).1 }
  | .connect tickTime => skyVcArqConnect tickTime vc
  | .disconnect => skyVcArqDisconnect vc
  | .handshake tickTime peerState identifier =>
      (skyVcHandleHandshake tickTime vc peerState identifier).1
  | .checkTimeouts now timeout => skyVcCheckTimeouts vc now timeout

def run (vc : SkyVirtualChannel w) (ops : List (VcOp w)) : SkyVirtualChannel w := ops.foldl step vc

/-! ## What a filled frame changes -/

section Filling

variable (vc : SkyVirtualChannel w)

/-- The payload part touches the send ring only. -/
theorem fillPayload_vc (tx : SkyTransmitFrame) (ret : SkyRet) :
    (fillPayload vc tx ret).1 = vc ∨
      (fillPayload vc tx ret).1 =
        { vc with sendRing := (sendRingReadToTx vc.sendRing vc.elementBuffer true).1 } := by
  rw [fillPayload]
  split
  · split
    · exact .inl rfl
    · dsimp only
      split
      · split <;> exact .inr rfl
      · exact .inr rfl
  · exact .inl rfl

theorem fillFrameOff_vc (tx : SkyTransmitFrame) :
    (fillFrameOff vc tx).1 = vc ∨
      (fillFrameOff vc tx).1 = (skyVcReadPacketForTxMonotonic vc).1 := by
  rw [fillFrameOff]
  split
  · exact .inl rfl
  · split
    · cases hread : skyVcReadPacketForTxMonotonic vc with
      | mk vc' read => cases read <;> exact .inr rfl
    · exact .inl rfl

/-- Before the payload, a connected channel changes nothing but what it remembers of the
extensions it has sent. -/
theorem fillFrameOn_control (config : SkyConfig) (tx : SkyTransmitFrame) (now : Int)
    (frames : UInt16) : ∃ handshake request tick unconfirmed tx' ret,
      fillFrameOn vc config tx now frames =
        fillPayload { vc with
          handshakeSend := handshake, needRecall := request, lastCtrlSendTick := tick,
          unconfirmedPayloads := unconfirmed } tx' ret := by
  have hhandshake (tx : SkyTransmitFrame) (ret : SkyRet) : ∃ handshake tx' ret',
      fillHandshake vc tx ret = ({ vc with handshakeSend := handshake }, tx', ret') := by
    rw [fillHandshake]
    split <;> exact ⟨_, _, _, rfl⟩
  have hrequest (vc : SkyVirtualChannel w) (tx : SkyTransmitFrame) (ret : SkyRet) :
      ∃ request tx' ret',
        fillRequest vc config tx frames ret = ({ vc with needRecall := request }, tx', ret') := by
    rw [fillRequest]
    split <;> exact ⟨_, _, _, rfl⟩
  have hctrl (vc : SkyVirtualChannel w) (tx : SkyTransmitFrame) (ret : SkyRet) :
      ∃ tick unconfirmed tx' ret',
        fillCtrl vc config tx now frames ret =
          ({ vc with lastCtrlSendTick := tick, unconfirmedPayloads := unconfirmed },
            tx', ret') := by
    rw [fillCtrl]
    split <;> exact ⟨_, _, _, _, rfl⟩
  obtain ⟨handshake, tx₁, ret₁, heq₁⟩ :=
    hhandshake { tx with hdr := tx.hdr.setFlag skyFlagArqOn } 0
  obtain ⟨request, tx₂, ret₂, heq₂⟩ := hrequest { vc with handshakeSend := handshake } tx₁ ret₁
  obtain ⟨tick, unconfirmed, tx₃, ret₃, heq₃⟩ :=
    hctrl { vc with handshakeSend := handshake, needRecall := request } tx₂ ret₂
  refine ⟨handshake, request, tick, unconfirmed, tx₃, ret₃, ?_⟩
  rw [fillFrameOn, heq₁]
  dsimp only
  rw [heq₂]
  dsimp only
  rw [heq₃]

end Filling

end SkyVirtualChannel

/-! ## Every operation keeps the rings -/

namespace VcRep

variable {vc : SkyVirtualChannel w} {v : VcView}

theorem fillPayload_any (h : VcRep vc v) (tx : SkyTransmitFrame) (ret : SkyRet) :
    ∃ v', VcRep (fillPayload vc tx ret).1 v' := by
  rw [fillPayload]
  split
  · obtain ⟨sendRing, u, tx', hread, hpeek, hrep, -⟩ | ⟨hpeek, -⟩ := h.readToTx true
    · rw [hpeek]
      dsimp only
      rw [hread]
      dsimp only
      split
      · exact ⟨_, hrep⟩
      · exact ⟨_, hrep⟩
    · rw [hpeek]
      exact ⟨v, h⟩
  · exact ⟨v, h⟩

theorem fillFrameOn_any (h : VcRep vc v) (config : SkyConfig) (tx : SkyTransmitFrame) (now : Int)
    (frames : UInt16) : ∃ v', VcRep (Skylink.fillFrameOn vc config tx now frames).1 v' := by
  obtain ⟨handshake, request, tick, unconfirmed, tx', ret, heq⟩ :=
    vc.fillFrameOn_control config tx now frames
  have hcontrol : VcRep { vc with
      handshakeSend := handshake, needRecall := request, lastCtrlSendTick := tick,
      unconfirmedPayloads := unconfirmed } v := h.congr rfl rfl rfl
  rw [heq]
  exact hcontrol.fillPayload_any tx' ret

theorem fillFrameOff_any (h : VcRep vc v) (tx : SkyTransmitFrame) :
    ∃ v', VcRep (Skylink.fillFrameOff vc tx).1 v' := by
  rw [Skylink.fillFrameOff]
  rcases Nat.lt_or_ge v.sendTx v.sendHead with hlt | hge
  · obtain ⟨vc', hread, hpeek, hrep, -⟩ := h.readMonotonic hlt
    rw [hpeek]
    dsimp only
    split
    · rw [hread]
      exact ⟨_, hrep⟩
    · exact ⟨v, h⟩
  · have hcount := h.countNew
    rw [sendRingPeekNextTxSizeAndSequence, if_pos (by omega)]
    exact ⟨v, h⟩

/-- Whatever frame is filled, the rings keep their form. -/
theorem fill_any (h : VcRep vc v) (config : SkyConfig) (tx : SkyTransmitFrame) (now : Int)
    (frames : UInt16) : ∃ v', VcRep (skyVcFillFrame vc config tx now frames).1 v' := by
  rw [skyVcFillFrame]
  cases vc.arqStateFlag with
  | off => exact h.fillFrameOff_any tx
  | inInit =>
      dsimp only
      split <;> exact ⟨v, h⟩
  | on => exact h.fillFrameOn_any config tx now frames

theorem handshake_any (h : VcRep vc v) (tickTime : Int) (peerState : UInt8)
    (identifier : UInt32) :
    ∃ v', VcRep (skyVcHandleHandshake tickTime vc peerState identifier).1 v' := by
  obtain ⟨-, ⟨hrep, -⟩ | hrep⟩ :=
    (skyVcHandleHandshake_outcome tickTime vc peerState identifier).rep h
  · exact ⟨v, hrep⟩
  · exact ⟨_, hrep⟩

theorem processCtrl_any (h : VcRep vc v) (parsed : SkyParsedFrame) (now : Int) :
    ∃ v', VcRep (Skylink.processCtrl vc parsed now) v' := by
  rw [Skylink.processCtrl]
  cases parsed.arqCtrl with
  | none => exact ⟨v, h⟩
  | some ext =>
      let sequences : BitVec w × BitVec w := ext.arqCtrlSequences
      obtain ⟨hrep, -⟩ := h.updateTxSync sequences now
      dsimp only
      rw [updateRxSync_eq]
      exact ⟨_, hrep.congr rfl rfl rfl⟩

theorem processFrameOn_any (h : VcRep vc v) {parsed : SkyParsedFrame}
    (hlen : parsed.payloadBytes.length < 65536) (now : Int) :
    ∃ v', VcRep (Skylink.processFrameOn vc parsed now).1 v' := by
  obtain ⟨v₁, hacked⟩ := h.processCtrl_any parsed now
  rw [Skylink.processFrameOn]
  dsimp only
  split
  · split
    · exact ⟨v₁, hacked⟩
    · obtain ⟨v₂, hrep, -⟩ := hacked.pushRxPacket hlen (SkyHeaderExtension.arqSeqSequence _) now
      exact ⟨v₂, (hrep.processRequest parsed).1⟩
  · exact ⟨v₁, (hacked.processRequest parsed).1⟩

/-- Whatever frame is processed, the rings keep their form. -/
theorem process_any (h : VcRep vc v) (tickTime : Int) {parsed : SkyParsedFrame}
    (hlen : parsed.payloadBytes.length < 65536) (now : Int) :
    ∃ v', VcRep (skyVcProcessFrame tickTime vc parsed now).1 v' := by
  have hshake : ∃ v₁, VcRep (processHandshake tickTime vc parsed) v₁ := by
    rw [processHandshake]
    split
    · exact ⟨v, h⟩
    · exact h.handshake_any _ _ _
  obtain ⟨v₁, h₁⟩ := hshake
  rw [skyVcProcessFrame]
  split
  · split
    · obtain ⟨v₂, hrep, -⟩ := h₁.pushRxPacketMonotonic hlen
      exact ⟨v₂, hrep⟩
    · exact ⟨v₁, h₁⟩
  · exact ⟨v₁, h₁⟩
  · exact h₁.processFrameOn_any hlen now

theorem ofSameButResend {m : Nat → Option Bytes} (hm : VcHolds vc v m) {sendRing : SkySendRing w}
    (hsend : SendWindow sendRing 0 v.sendTail v.sendTx v.sendHead v.payload m)
    (hsame : SameButResend vc.sendRing sendRing) : VcRep { vc with sendRing := sendRing } v := by
  refine ⟨m, ⟨hsend, hm.send.payloadLe⟩, hm.rcv, ?_⟩
  show PoolHolds vc.elementBuffer m (ownedIdx sendRing.buff ++ ownedIdx vc.rcvRing.buff)
  rw [hsame.buff]
  exact hm.pool

/-- Every operation keeps the rings in form. -/
theorem step (h : VcRep vc v) {op : VcOp w} {b : SkyElementBuffer} (hop : op.Valid b) :
    ∃ v', VcRep (vc.step op) v' := by
  cases op with
  | push payload =>
      obtain ⟨ret, heq⟩ | ⟨vc', heq, hrep, -⟩ := h.push payload
      · exact ⟨v, by rw [SkyVirtualChannel.step, heq]; exact h⟩
      · exact ⟨_, by rw [SkyVirtualChannel.step, heq]; exact hrep⟩
  | pushRx src sequence now =>
      obtain ⟨v', hrep, -⟩ := h.pushRxPacket hop.1 sequence now
      exact ⟨v', hrep⟩
  | pushRxMonotonic src =>
      obtain ⟨v', hrep, -⟩ := h.pushRxPacketMonotonic hop.1
      exact ⟨v', hrep⟩
  | read maxLength =>
      obtain ⟨ret, heq⟩ | ⟨vc', p, n, heq, -, -, hrep, -⟩ := h.read maxLength
      · exact ⟨v, by rw [SkyVirtualChannel.step, heq]; exact h⟩
      · exact ⟨_, by rw [SkyVirtualChannel.step, heq]; exact hrep⟩
  | fillFrame config tx now frames => exact h.fill_any config tx now frames
  | processFrame tickTime parsed now => exact h.process_any tickTime hop.1 now
  | cleanTail sequence now => exact ⟨_, (h.updateTxSync (0, sequence) now).1⟩
  | scheduleResend sequence =>
      obtain ⟨m, hm⟩ := h
      obtain ⟨hsend, hsame⟩ := hm.send.toSendWindow.scheduleResend sequence
      exact ⟨v, ofSameButResend hm hsend hsame⟩
  | scheduleResendsByMask sequence mask =>
      obtain ⟨m, hm⟩ := h
      obtain ⟨hsend, hsame⟩ := hm.send.toSendWindow.scheduleResendsByMask sequence mask
      exact ⟨v, ofSameButResend hm hsend hsame⟩
  | connect tickTime => exact ⟨_, (h.wipeToInit tickTime).1⟩
  | disconnect => exact ⟨_, h.wipeToOff.1⟩
  | handshake tickTime peerState identifier => exact h.handshake_any _ _ _
  | checkTimeouts now timeout =>
      obtain heq | heq := skyVcCheckTimeouts_eq vc now timeout
      · exact ⟨v, by rw [SkyVirtualChannel.step, heq]; exact h⟩
      · exact ⟨_, by rw [SkyVirtualChannel.step, heq]; exact h.wipeToOff.1⟩

end VcRep

/-! ## A channel for examples -/

theorem exampleChannel_created :
    (skyVcCreate ((exampleConfig 0 1).vc 0) :
      Option (SkyVCConfig × SkyVirtualChannel 8)).isSome := by
  decide +kernel

/-- A new channel with 8-bit sequence numbers, rings of six slots and a horizon of two. -/
def exampleChannel : SkyVirtualChannel 8 :=
  ((skyVcCreate ((exampleConfig 0 1).vc 0)).get exampleChannel_created).2

theorem exampleChannel_eq : ∃ conf, skyVcCreate ((exampleConfig 0 1).vc 0) =
    some (conf, exampleChannel) :=
  ⟨_, (Option.some_get exampleChannel_created).symm⟩

/-! ## Runs -/

theorem VcRep.run {vc : SkyVirtualChannel w} {v : VcView} (h : VcRep vc v) {ops : List (VcOp w)}
    {b : SkyElementBuffer} (hops : ∀ op ∈ ops, op.Valid b) : ∃ v', VcRep (vc.run ops) v' := by
  induction ops generalizing vc v with
  | nil => exact ⟨v, h⟩
  | cons op ops ih =>
      obtain ⟨v', h'⟩ := h.step (hops op (by simp))
      exact ih h' fun op' hop' => hops op' (by simp [hop'])

/-- After every run of a new channel the chains in its buffer are those of its rings. -/
theorem elementOwnership_run (hw : 250 ≤ 2 ^ w) {config conf : SkyVCConfig}
    {vc : SkyVirtualChannel w} (hvc : skyVcCreate config = some (conf, vc)) (ops : List (VcOp w))
    (hops : ∀ op ∈ ops, op.Valid vc.elementBuffer) :
    ElementOwnership (vc.run ops).elementBuffer
      (ownedIdx (vc.run ops).sendRing.buff ++ ownedIdx (vc.run ops).rcvRing.buff) := by
  obtain ⟨-, hempty, -⟩ := skyVcCreate_rep hw hvc
  obtain ⟨v, m, hm⟩ := hempty.run hops
  exact hm.pool.ownership

/-- Both rings in use, a packet twice, an acknowledgement and a handshake that wipes. -/
def exampleVcOps : List (VcOp 8) :=
  [.push [1, 2], .push [3], .pushRx [4] 1 10, .pushRx [4] 1 11, .read 100, .pushRxMonotonic [5],
    .fillFrame (exampleConfig 0 1) ⟨[0x63, 1, 2, 3], ⟨0, 0, 0⟩, [], true⟩ 12 0, .read 100,
    .cleanTail 1 13, .handshake 14 1 7, .push [6]]

theorem elementOwnership_run_example :
    ElementOwnership (exampleChannel.run exampleVcOps).elementBuffer
      (ownedIdx (exampleChannel.run exampleVcOps).sendRing.buff ++
        ownedIdx (exampleChannel.run exampleVcOps).rcvRing.buff) := by
  obtain ⟨conf, hconf⟩ := exampleChannel_eq
  exact elementOwnership_run (by decide) hconf exampleVcOps (by decide +kernel)

end Skylink
