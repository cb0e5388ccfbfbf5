import Skylink.Link.Reading
import Skylink.Node.Forgery
import Skylink.Node.Reachable
import Skylink.VirtualChannel.Capacity
import Skylink.VirtualChannel.OldPackets

/-!
# The state that a node reports

Each channel of a node runs as it would alone, so that what is proved of the runs of a channel
holds in a node. What `sky_get_state` reports of it follows. The header says that the frames
that wait for an acknowledgement count among those to be sent, but they do not.
-/

namespace Skylink

open SerialNumber

variable {w : Nat}

/-! ## The channels -/

/-- What fits into a frame can be stored. -/
theorem storable_of_le {b : SkyElementBuffer} {p : Bytes} (hb : 12 ≤ b.elementUsableSpace)
    (hp : p.length ≤ rawLen) : Storable b p := by
  rw [rawLen, skyFrameMaxLen] at hp
  refine ⟨by omega, ?_⟩
  rw [skyElementBufferElementRequirementFor, ebLenBytes,
    Nat.div_le_iff_le_mul_add_pred (by omega)]
  omega

namespace SkyNode

variable {created : SkyNode w} (node : SkyNode w)

theorem step_channel (H : KeyedHash) {v : Fin skyNumVirtualChannels}
    (hbuffer : 12 ≤ (created.virtualChannels v).elementBuffer.elementUsableSpace)
    {op : NodeOp w} (hop : op.Valid created) :
    ∃ ops : List (VcOp w), (∀ o ∈ ops, o.Valid (created.virtualChannels v).elementBuffer) ∧
      (node.step H op).virtualChannels v = (node.virtualChannels v).run ops := by
  cases op with
  | rx tick frame =>
      obtain hsame | ⟨parsed, hpayload, hprocessed⟩ := skyRx_virtualChannels H tick node frame
      · exact ⟨[], by simp, congrFun hsame v⟩
      · rcases eq_or_ne v parsed.hdr.channel with rfl | hne
        · have hstorable : Storable (created.virtualChannels parsed.hdr.channel).elementBuffer
              parsed.payloadBytes := by
            have hraw : frame.raw.length = rawLen := hop
            apply storable_of_le hbuffer
            rw [SkyParsedFrame.payloadBytes, List.length_take]
            omega
          refine ⟨[.processFrame tick parsed tick], ?_, ?_⟩
          · intro o ho
            rw [List.mem_singleton.mp ho]
            exact hstorable
          · exact (congrFun hprocessed _).trans (Function.update_self ..)
        · exact ⟨[], by simp, (congrFun hprocessed v).trans (Function.update_of_ne hne ..)⟩
  | tx tick =>
      obtain hidle | ⟨u, tx, frames, hfilled⟩ := skyTx_virtualChannels H tick node
      · exact ⟨[.checkTimeouts tick node.conf.arq.timeoutTicks], by simp [VcOp.Valid],
          congrFun hidle v⟩
      · rcases eq_or_ne v u with rfl | hne
        · exact ⟨[.checkTimeouts tick node.conf.arq.timeoutTicks,
              .fillFrame node.conf tx tick frames], by simp [VcOp.Valid],
            (congrFun hfilled v).trans (Function.update_self ..)⟩
        · exact ⟨[.checkTimeouts tick node.conf.arq.timeoutTicks], by simp [VcOp.Valid],
            (congrFun hfilled v).trans (Function.update_of_ne hne ..)⟩
  | channel u op =>
      rcases eq_or_ne v u with rfl | hne
      · refine ⟨[op], ?_, Function.update_self ..⟩
        intro o ho
        rw [List.mem_singleton.mp ho]
        exact hop
      · exact ⟨[], by simp, Function.update_of_ne hne ..⟩

theorem run_channel (H : KeyedHash) {v : Fin skyNumVirtualChannels}
    (hbuffer : 12 ≤ (created.virtualChannels v).elementBuffer.elementUsableSpace)
    {ops : List (NodeOp w)} (hops : ∀ op ∈ ops, op.Valid created) :
    ∃ vcOps : List (VcOp w), (∀ o ∈ vcOps, o.Valid (created.virtualChannels v).elementBuffer) ∧
      (node.run H ops).virtualChannels v = (node.virtualChannels v).run vcOps := by
  induction ops generalizing node with
  | nil => exact ⟨[], by simp, rfl⟩
  | cons op ops ih =>
      obtain ⟨first, hfirst, hstep⟩ := step_channel node H hbuffer (hops op (by simp))
      obtain ⟨rest, hrest, hrun⟩ := ih (node.step H op) fun op' hop' =>
        hops op' (by simp [hop'])
      refine ⟨first ++ rest, ?_, ?_⟩
      · intro o ho
        exact (List.mem_append.mp ho).elim (hfirst o) (hrest o)
      · rw [SkyVirtualChannel.run, List.foldl_append]
        exact hrun.trans (congrArg (·.run rest) hstep)

end SkyNode

/-- Whatever happens at a node, each of its channels has run some operations of its own. -/
theorem skyCreate_run_channel (H : KeyedHash) {config : SkyConfig} {created : SkyNode w}
    (h : skyCreate config = some created) {ops : List (NodeOp w)}
    (hops : ∀ op ∈ ops, op.Valid created) (v : Fin skyNumVirtualChannels) :
    ∃ vcOps : List (VcOp w),
      (∀ o ∈ vcOps, o.Valid (created.virtualChannels v).elementBuffer) ∧
      (created.run H ops).virtualChannels v = (created.virtualChannels v).run vcOps :=
  SkyNode.run_channel created H (skyVcCreate_buffer (skyCreate_channels h v)).2 hops

/-! ## The report -/

def sendRingCountFreeSendSlots (r : SkySendRing w) : Nat :=
  ringWrap ((r.tail : Int) - (r.head + 1)) r.length

structure SkyVCState where
  state : UInt16
  freeTxSlots : UInt16
  txFrames : UInt16
  rxFrames : UInt16
  sessionIdentifier : UInt32
deriving DecidableEq, Repr

def skyGetState (self : SkyNode w) (i : Fin skyNumVirtualChannels) : SkyVCState :=
  let vc := self.virtualChannels i
  { state := vc.arqStateFlag.toByte.toUInt16
    freeTxSlots := UInt16.ofNat (sendRingCountFreeSendSlots vc.sendRing)
    txFrames := UInt16.ofNat (sendRingCountPacketsToSend vc.sendRing true)
    rxFrames := UInt16.ofNat (rcvRingCountReadablePackets vc.rcvRing)
    sessionIdentifier := vc.arqSessionIdentifier }

/-- A report that is true of a channel. -/
structure SkyVCState.Tells (state : SkyVCState) (vc : SkyVirtualChannel w) : Prop where
  /-- The send ring is said to be full when a push is refused for that. -/
  full (payload : Bytes) (hlen : payload.length ≤ skyPayloadMaxLen) :
    (skyVcPushPacketToSend vc payload).2 = .error .ringRingFull ↔ state.freeTxSlots = 0
  /-- One slot stays empty. -/
  free : state.freeTxSlots.toNat + vc.sendRing.storageCount + 1 = vc.sendRing.length
  /-- What has not been sent yet, and what is scheduled to be sent again. -/
  toSend : state.txFrames.toNat =
    (vc.sendRing.headSequence - vc.sendRing.txSequence).toNat + vc.sendRing.resendCount
  unread : state.rxFrames.toNat = vc.unread.length

theorem SendWindow.countFree {r : SkySendRing w} {start : BitVec w} {tail tx head : Nat}
    {payload : Nat → Bytes} {m : Nat → Option Bytes}
    (h : SendWindow r start tail tx head payload m) :
    sendRingCountFreeSendSlots r = tail + r.length - (head + 1) := by
  have htail := h.tail_le_tx
  have htx := h.tx_le_head
  have hroom := h.room
  have hpos := h.slots.pos
  rw [sendRingCountFreeSendSlots, h.tailIdx, h.headIdx, ringWrap, positiveModulo_eq_emod (by omega)]
  have hmod : ((tail % r.length : Nat) : Int) - ((head % r.length : Nat) + 1) ≡
      tail - (head + 1) [ZMOD r.length] := by
    push_cast
    exact (Int.mod_modEq _ _).sub ((Int.mod_modEq _ _).add_right 1)
  have hlap : (((tail % r.length : Nat) : Int) - ((head % r.length : Nat) + 1)) % r.length =
      ((tail + r.length - (head + 1) : Nat) : Int) := by
    calc (((tail % r.length : Nat) : Int) - ((head % r.length : Nat) + 1)) % r.length
      _ = ((tail : Int) - (head + 1)) % r.length := hmod
      _ = ((tail : Int) - (head + 1) + r.length) % r.length := (Int.add_emod_right ..).symm
      _ = (tail : Int) - (head + 1) + r.length := Int.emod_eq_of_lt (by omega) (by omega)
      _ = ((tail + r.length - (head + 1) : Nat) : Int) := by omega
  rw [hlap]
  rfl

/-- The number of unread payloads. -/
theorem VcRep.unread_length {vc : SkyVirtualChannel w} {v : VcView} (h : VcRep vc v) :
    vc.unread.length = rcvRingCountReadablePackets vc.rcvRing := by
  rw [h.unread, h.countReadable, VcView.unread]
  refine (List.filterMap_length_eq_length.mpr fun u hu => ?_).trans List.length_range'
  obtain ⟨hle, hlt⟩ := List.mem_range'_1.mp hu
  exact h.readable hle (by omega)

theorem skyVcCreate_lengths (hw : 250 ≤ 2 ^ w) {config conf : SkyVCConfig}
    {vc : SkyVirtualChannel w} (h : skyVcCreate config = some (conf, vc)) :
    vc.sendRing.length ≤ 250 ∧ vc.rcvRing.length ≤ 250 := by
  obtain ⟨-, hr, -, -, hs, -⟩ := config.normalise_bounds
  rcases Int.lt_or_le config.normalise.horizonWidth 0 with hneg | hpos
  · rw [skyVcCreate_eq_none config hneg] at h
    cases h
  · obtain ⟨vc', heq, -, -, hsend, hrcv, -⟩ := skyVcCreate_eq_some hw config hpos
    obtain ⟨rfl, rfl⟩ := Prod.mk.inj (Option.some.inj (heq.symm.trans h))
    exact ⟨by omega, by omega⟩

/-- A push is refused for the ring exactly when no slot is free. -/
theorem VcHolds.push_ringFull_iff {vc : SkyVirtualChannel w} {v : VcView}
    {m : Nat → Option Bytes} (h : VcHolds vc v m) {payload : Bytes}
    (hlen : payload.length ≤ skyPayloadMaxLen) :
    (skyVcPushPacketToSend vc payload).2 = .error .ringRingFull ↔
      sendRingCountFreeSendSlots vc.sendRing = 0 := by
  have hshort : payload.length < 65536 := by
    rw [skyPayloadMaxLen] at hlen
    omega
  have hfree := h.send.countFree
  rw [skyVcPushPacketToSend, if_neg (Nat.not_lt.mpr hlen)]
  dsimp only
  obtain ⟨hfull, hpush⟩ | ⟨hroom, hpush⟩ | ⟨hroom, r', eb', m', hpush, -⟩ :=
    h.send.toSendWindow.push h.pool hshort
  · rw [hpush]
    exact iff_of_true rfl (by omega)
  · rw [hpush]
    refine iff_of_false ?_ (by omega)
    intro hret
    cases hret
  · rw [hpush]
    refine iff_of_false ?_ (by omega)
    intro hret
    cases hret

/-- What a node reports of its channels is true in every state that it can reach. -/
theorem skyGetState_tells (hw : 250 ≤ 2 ^ w) (H : KeyedHash) {config : SkyConfig}
    {created : SkyNode w} (h : skyCreate config = some created) {ops : List (NodeOp w)}
    (hops : ∀ op ∈ ops, op.Valid created) (v : Fin skyNumVirtualChannels) :
    (skyGetState (created.run H ops) v).Tells ((created.run H ops).virtualChannels v) := by
  obtain ⟨view, m, hm⟩ := (skyCreate_ringsHold hw h).run H hops v
  obtain ⟨vcOps, -, hrun⟩ := skyCreate_run_channel H h hops v
  obtain ⟨hsendLe, hrcvLe⟩ := skyVcCreate_lengths hw (skyCreate_channels h v)
  obtain ⟨hsend, hrcv, -⟩ := (created.virtualChannels v).run_layout vcOps
  rw [← hrun] at hsend hrcv
  have htail := hm.send.tail_le_tx
  have htx := hm.send.tx_le_head
  have hroom := hm.send.room
  have hrcvRoom := hm.rcv.room
  have hresend := hm.send.resendLe
  rw [arqResendScheduleDepth] at hresend
  have hsize : UInt16.size = 65536 := rfl
  have hfree : (skyGetState (created.run H ops) v).freeTxSlots.toNat =
      sendRingCountFreeSendSlots ((created.run H ops).virtualChannels v).sendRing :=
    UInt16.toNat_ofNat_of_lt' (by rw [hm.send.countFree]; omega)
  constructor
  · intro payload hlen
    rw [hm.push_ringFull_iff hlen, ← UInt16.toNat_inj, hfree]
    rfl
  · rw [hfree, hm.send.countFree, hm.send.count]
    omega
  · have hlt : view.sendHead - view.sendTx < 2 ^ w := by
      have := hm.send.lengthLe
      omega
    rw [hm.send.headSequence, hm.send.txSequence, serial_sub 0 htx hlt, ← hm.send.countAll]
    exact UInt16.toNat_ofNat_of_lt' (by rw [hm.send.countAll]; omega)
  · rw [VcRep.unread_length ⟨m, hm⟩]
    exact UInt16.toNat_ofNat_of_lt' (by rw [hm.rcv.countReadable]; omega)

/-- A channel of a node enters a session and sends a packet. -/
def exampleReportOps : List (NodeOp 8) :=
  [.channel 0 (.handshake 0 1 0x01010101), .channel 0 (.push [1, 2, 3]), .tx 1]

theorem skyGetState_tells_example :
    (skyGetState ((exampleNode 0 7).run exampleHash exampleReportOps) 0).Tells
      (((exampleNode 0 7).run exampleHash exampleReportOps).virtualChannels 0) :=
  skyGetState_tells (by decide) exampleHash (exampleNode_eq 0 7) (by decide +kernel) 0

-- The packet waits for its acknowledgement, and is not reported.
example :
    let node := (exampleNode 0 7).run exampleHash exampleReportOps
    (node.virtualChannels 0).sendRing.storageCount = 1 ∧ (skyGetState node 0).txFrames = 0 := by
  decide +kernel

end Skylink
