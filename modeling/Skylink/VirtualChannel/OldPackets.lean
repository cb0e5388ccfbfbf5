import Skylink.SequenceRing.ReceiveRuns
import Skylink.VirtualChannel.Runs

/-!
# Packets that were received before

A receiver tells an old packet from a new one by the distance of its sequence from the
head, modulo the number of sequences. This works as long as the send ring of the peer and
the horizon together are no longer than one round of sequence numbers.
-/

namespace Skylink

open SerialNumber

variable {w : Nat}

/-! ## The horizon is fixed -/

theorem rcvRingAdvanceHeadLoop_horizonWidth (turns : Nat) (r : SkyRcvRing w) (advanced : Nat) :
    (rcvRingAdvanceHeadLoop turns r advanced).1.horizonWidth = r.horizonWidth := by
  induction turns generalizing r advanced with
  | zero => rfl
  | succ turns ih =>
      rw [rcvRingAdvanceHeadLoop]
      split
      · rfl
      · split
        · rfl
        · exact ih _ _

theorem rcvRingPush_horizonWidth (r : SkyRcvRing w) (eb : SkyElementBuffer) (src : Bytes)
    (sequence : BitVec w) :
    (rcvRingPushRxPacket r eb src sequence).1.horizonWidth = r.horizonWidth := by
  simp only [rcvRingPushRxPacket]
  split
  · rfl
  · split
    · rfl
    · split
      · rfl
      · exact rcvRingAdvanceHeadLoop_horizonWidth _ _ _

theorem rcvRingRead_horizonWidth (r : SkyRcvRing w) (eb : SkyElementBuffer) (maxLength : Nat) :
    (rcvRingReadNextReceived r eb maxLength).1.horizonWidth = r.horizonWidth := by
  simp only [rcvRingReadNextReceived]
  split
  · rfl
  · split
    · rfl
    · exact rcvRingAdvanceHeadLoop_horizonWidth _ _ _

section Channel

variable (vc : SkyVirtualChannel w)

theorem fillFrame_rcvRing (config : SkyConfig) (tx : SkyTransmitFrame) (now : Int)
    (frames : UInt16) : (skyVcFillFrame vc config tx now frames).1.rcvRing = vc.rcvRing := by
  rw [skyVcFillFrame]
  split
  · have hmonotonic : (skyVcReadPacketForTxMonotonic vc).1.rcvRing = vc.rcvRing := by
      rw [skyVcReadPacketForTxMonotonic]
      split <;> rfl
    rcases vc.fillFrameOff_vc tx with heq | heq
    · rw [heq]
    · rw [heq, hmonotonic]
  · split <;> rfl
  · obtain ⟨handshake, request, tick, unconfirmed, tx', ret, heq⟩ :=
      vc.fillFrameOn_control config tx now frames
    rw [heq]
    rcases SkyVirtualChannel.fillPayload_vc _ tx' ret with hvc | hvc
    · rw [hvc]
    · rw [hvc]

theorem handshake_horizonWidth (tickTime : Int) (peerState : UInt8) (identifier : UInt32) :
    (skyVcHandleHandshake tickTime vc peerState identifier).1.rcvRing.horizonWidth =
      vc.rcvRing.horizonWidth := by
  rw [skyVcHandleHandshake]
  split
  · rfl
  · split_ifs <;> rfl
  · split_ifs <;> rfl

theorem processFrame_horizonWidth (tickTime : Int) (parsed : SkyParsedFrame) (now : Int) :
    (skyVcProcessFrame tickTime vc parsed now).1.rcvRing.horizonWidth =
      vc.rcvRing.horizonWidth := by
  have hhandshake : (processHandshake tickTime vc parsed).rcvRing.horizonWidth =
      vc.rcvRing.horizonWidth := by
    rw [processHandshake]
    split
    · rfl
    · exact handshake_horizonWidth vc _ _ _
  have hctrl (vc : SkyVirtualChannel w) :
      (processCtrl vc parsed now).rcvRing.horizonWidth = vc.rcvRing.horizonWidth := by
    rw [processCtrl]
    split
    · rfl
    · simp only [skyVcUpdateRxSync]
      split_ifs <;> rfl
  have hrequest (vc : SkyVirtualChannel w) :
      (processRequest vc parsed).rcvRing = vc.rcvRing := by
    rw [processRequest]
    split <;> rfl
  simp only [skyVcProcessFrame]
  split
  · split
    · exact (rcvRingPush_horizonWidth _ _ _ _).trans hhandshake
    · exact hhandshake
  · exact hhandshake
  · simp only [processFrameOn]
    split
    · split
      · exact (hctrl _).trans hhandshake
      · rw [hrequest]
        exact (rcvRingPush_horizonWidth _ _ _ _).trans ((hctrl _).trans hhandshake)
    · rw [hrequest]
      exact (hctrl _).trans hhandshake

theorem step_horizonWidth (op : VcOp w) :
    (vc.step op).rcvRing.horizonWidth = vc.rcvRing.horizonWidth := by
  cases op with
  | push payload =>
      simp only [SkyVirtualChannel.step, skyVcPushPacketToSend]
      split <;> rfl
  | pushRx src sequence now => exact rcvRingPush_horizonWidth _ _ _ _
  | pushRxMonotonic src => exact rcvRingPush_horizonWidth _ _ _ _
  | read maxLength => exact rcvRingRead_horizonWidth _ _ _
  | fillFrame config tx now frames =>
      rw [SkyVirtualChannel.step, fillFrame_rcvRing]
  | processFrame tickTime parsed now => exact processFrame_horizonWidth vc _ _ _
  | cleanTail sequence now => rfl
  | scheduleResend sequence => rfl
  | scheduleResendsByMask sequence mask => rfl
  | connect tickTime => rfl
  | disconnect => rfl
  | handshake tickTime peerState identifier => exact handshake_horizonWidth vc _ _ _
  | checkTimeouts now timeout =>
      obtain heq | heq := skyVcCheckTimeouts_eq vc now timeout
      · rw [SkyVirtualChannel.step, heq]
      · rw [SkyVirtualChannel.step, heq]
        rfl

theorem run_horizonWidth (ops : List (VcOp w)) :
    (vc.run ops).rcvRing.horizonWidth = vc.rcvRing.horizonWidth := by
  induction ops generalizing vc with
  | nil => rfl
  | cons op ops ih => exact (ih _).trans (step_horizonWidth vc op)

end Channel

/-! ## One packet after the other -/

/-- A ring whose slots are all vacant owns no chain. -/
theorem SlotsHold.ownedIdx_eq_nil {m : Nat → Option Bytes} {buff : List (RingItem w)} {len : Nat}
    {start : BitVec w} {base : Nat} (h : SlotsHold m buff len start base fun _ => none) :
    ownedIdx buff = [] := by
  have hpos := h.pos
  rw [ownedIdx, List.filter_eq_nil_iff]
  intro idx hidx
  obtain ⟨item, hitem, rfl⟩ := List.mem_map.mp hidx
  obtain ⟨i, hi, rfl⟩ := List.mem_iff_getElem.mp hitem
  have hlen : i < len := h.length ▸ hi
  -- The number in the window that falls on slot `i`.
  let u := base + (i + len - base % len) % len
  have hslot : u % len = i := by
    have hbase := Nat.mod_lt base hpos
    have hsplit : base + (i + len - base % len) = i + len + len * (base / len) := by
      have := Nat.mod_add_div base len
      omega
    rw [Nat.add_mod_mod, hsplit, Nat.add_mul_mod_self_left, Nat.add_mod_right,
      Nat.mod_eq_of_lt hlen]
  have hmod := Nat.mod_lt (i + len - base % len) hpos
  have hvacant : buff.getD (u % len) RingItem.vacant = RingItem.vacant :=
    h.item u (Nat.le_add_right _ _) (by omega)
  rw [hslot, List.getD_eq_getElem _ _ hi] at hvacant
  simp [hvacant, RingItem.vacant]

/-- A buffer without chains takes a packet of one byte. -/
theorem PoolHolds.store_byte {eb : SkyElementBuffer} {m : Nat → Option Bytes}
    (h : PoolHolds eb m []) (hcount : 0 < eb.elementCount) (husable : 12 ≤ eb.elementUsableSpace)
    (byte : UInt8) : ∃ idx, (skyElementBufferStore eb [byte]).2 = .ok idx := by
  have hfree := h.ownership.count
  simp only [List.map_nil, List.sum_nil, Nat.cast_zero, zero_add] at hfree
  have hneed : skyElementBufferElementRequirementFor eb 1 = 1 := by
    rw [skyElementBufferElementRequirementFor, ebLenBytes]
    exact Nat.div_eq_of_lt_le (by omega) (by omega)
  cases hstore : (skyElementBufferStore eb [byte]).2 with
  | ok idx => exact ⟨idx, rfl⟩
  | error ret =>
      have hfull := (h.stores.store_fails (by simp)).mp ⟨ret, hstore⟩
      rw [List.length_singleton, hneed] at hfull
      omega

/-- The receive side of a channel that has delivered `n` packets and holds none, with
nothing to send. -/
structure Delivered (vc : SkyVirtualChannel w) (n : Nat) : Prop where
  ring : ∃ m, RcvRep vc.rcvRing 0 n n (fun _ => none) m ∧ PoolHolds vc.elementBuffer m []
  idle : ownedIdx vc.sendRing.buff = []
  count : 0 < vc.elementBuffer.elementCount
  usable : 12 ≤ vc.elementBuffer.elementUsableSpace
  room : vc.rcvRing.horizonWidth + 2 ≤ vc.rcvRing.length

namespace Delivered

variable {vc : SkyVirtualChannel w} {n : Nat}

/-- The next sequences inside the horizon are accepted, whatever packets they stand for. -/
theorem push (h : Delivered vc n) {sequence : BitVec w}
    (hd : (sequence - serial 0 n).toNat ≤ vc.rcvRing.horizonWidth) (byte : UInt8) :
    ∃ r' eb' k m', rcvRingPushRxPacket vc.rcvRing vc.elementBuffer [byte] sequence =
        (r', eb', .ok k) ∧
      RcvRep r' 0 n (n + k) (Function.update (fun _ => none)
        (n + (sequence - serial 0 n).toNat) (some [byte])) m' ∧
      PoolHolds eb' m' (ownedIdx r'.buff) ∧ r'.horizonWidth = vc.rcvRing.horizonWidth ∧
      r'.length = vc.rcvRing.length := by
  obtain ⟨m, hrcv, hpool⟩ := h.ring
  have howned := hrcv.slots.ownedIdx_eq_nil
  have hpool' : PoolHolds vc.elementBuffer m (ownedIdx vc.rcvRing.buff ++ []) := by
    rw [howned]
    exact hpool
  rw [← hrcv.headSequence] at hd ⊢
  obtain hfull | ⟨r', eb', k, m', hpush, hrep, hpool', -, hlen, hwidth⟩ :=
    hrcv.push_new hpool' (show [byte].length < 65536 by simp) hd rfl
  · obtain ⟨idx, hstore⟩ := hpool.store_byte h.count h.usable byte
    simp only [rcvRingPushRxPacket] at hfull
    split at hfull
    · simp [SkyRet.ringInvalidSequence, SkyRet.ebufferNoSpace] at hfull
    · split at hfull
      · simp [SkyRet.ringPacketAlreadyIn, SkyRet.ebufferNoSpace] at hfull
      · split at hfull
        · rename_i heq
          rw [heq] at hstore
          cases hstore
        · simp at hfull
  · rw [List.append_nil] at hpool'
    exact ⟨r', eb', k, m', hpush, hrep, hpool', hwidth, hlen⟩

/-- A packet that is received in order and read leaves the ring as it was, one step on. -/
theorem next (h : Delivered vc n) (byte : UInt8) (now : Int) :
    Delivered ((vc.step (.pushRx [byte] (serial 0 n) now)).step (.read 1)) (n + 1) := by
  have hzero : ((serial 0 n : BitVec w) - serial 0 n).toNat = 0 := by
    rw [BitVec.sub_self, BitVec.toNat_zero]
  obtain ⟨r, eb, k, m, hpush, hrep, hpool, hwidth, hlen⟩ :=
    h.push (hzero.le.trans (Nat.zero_le _)) byte
  have hshape := RcvRingState.step_sameShape ⟨vc.rcvRing, vc.elementBuffer⟩
    (.push [byte] (serial 0 n))
  simp only [RcvRingState.step, hpush] at hshape
  rw [hzero, Nat.add_zero] at hrep
  have hroom := h.room
  have hk : k = 1 := by
    have hle : k ≤ 1 := by
      by_contra hlong
      have hreadable := hrep.readable (n + 1) (by omega) (by omega)
      rw [Function.update_of_ne (by omega)] at hreadable
      cases hreadable
    obtain hstop | hstall := hrep.stop
    · have hpos : k ≠ 0 := by
        rintro rfl
        rw [Nat.add_zero, Function.update_self] at hstop
        cases hstop
      omega
    · omega
  subst hk
  rw [← List.append_nil (ownedIdx r.buff)] at hpool
  obtain ⟨hshort, -⟩ | ⟨-, r', eb', k', m', hread, hrep', hpool', -, hlen', hwidth'⟩ :=
    hrep.read hpool (Nat.lt_succ_self n) (Function.update_self _ _ _) 1
  · simp at hshort
  · have hshape' := RcvRingState.step_sameShape ⟨r, eb⟩ (.read 1)
    simp only [RcvRingState.step, hread] at hshape'
    rw [Function.update_idem, Function.update_eq_self_iff.mpr rfl] at hrep'
    have hk' : k' = 0 := by
      by_contra hne
      have hreadable := hrep'.readable (n + 1) le_rfl (by omega)
      cases hreadable
    subst hk'
    have hstep : (vc.step (.pushRx [byte] (serial 0 n) now)).step (.read 1) =
        { vc with
          rcvRing := r'
          elementBuffer := eb'
          lastRxTick := now
          unconfirmedPayloads := vc.unconfirmedPayloads + 1 } := by
      simp only [SkyVirtualChannel.step, skyVcPushRxPacket, skyVcReadNextReceived, hpush, hread]
      rfl
    rw [hstep]
    rw [List.append_nil, hrep'.slots.ownedIdx_eq_nil] at hpool'
    have hsame := hshape.trans hshape'
    refine ⟨⟨m', hrep', hpool'⟩, h.idle, ?_, ?_, ?_⟩
    · show 0 < eb'.elementCount
      rw [hsame.1]
      exact h.count
    · show 12 ≤ eb'.elementUsableSpace
      rw [hsame.2]
      exact h.usable
    · show r'.horizonWidth + 2 ≤ r'.length
      omega

end Delivered

theorem wipePayloads_sameShape (items : List (RingItem w)) (eb : SkyElementBuffer) :
    SameShape eb (wipePayloads items eb) := by
  induction items generalizing eb with
  | nil => exact ⟨rfl, rfl⟩
  | cons item items ih =>
      rw [wipePayloads, List.foldl_cons]
      split
      · exact ih eb
      · exact (skyElementBufferDelete_sameShape eb item.idx).trans (ih _)

theorem skyVcCreate_buffer {config conf : SkyVCConfig} {vc : SkyVirtualChannel w}
    (h : skyVcCreate config = some (conf, vc)) :
    0 < vc.elementBuffer.elementCount ∧ 12 ≤ vc.elementBuffer.elementUsableSpace := by
  obtain ⟨hr, -, -, hs, -, hu, -⟩ := config.normalise_bounds
  simp only [skyVcCreate, Option.bind_eq_bind, Option.bind_eq_some_iff, Option.some.injEq,
    Prod.mk.injEq] at h
  obtain ⟨send, -, rcv, -, -, rfl⟩ := h
  let slots := (config.normalise.rcvRingLen + config.normalise.sendRingLen - 2).toNat
  let eb := skyElementBufferCreate config.normalise.usableElementSize.toNat
    (computeRequiredElementCount (config.normalise.usableElementSize + 4).toNat slots
      skyPayloadMaxLen)
  obtain ⟨hcount, husable⟩ := (wipePayloads_sameShape send.buff eb).trans
    (wipePayloads_sameShape rcv.buff _)
  constructor
  · show 0 < (wipePayloads rcv.buff (wipePayloads send.buff eb)).elementCount
    rw [hcount]
    have hslots : 0 < slots := by omega
    refine Nat.mul_pos hslots (Nat.div_pos ?_ ?_)
    · simp only [skyPayloadMaxLen, ebLenBytes]
      omega
    · omega
  · show 12 ≤ (wipePayloads rcv.buff (wipePayloads send.buff eb)).elementUsableSpace
    rw [husable]
    show 12 ≤ config.normalise.usableElementSize.toNat
    omega

theorem skyVcCreate_delivered (hw : 250 ≤ 2 ^ w) {config conf : SkyVCConfig}
    {vc : SkyVirtualChannel w} (h : skyVcCreate config = some (conf, vc)) : Delivered vc 0 := by
  obtain ⟨hcount, husable⟩ := skyVcCreate_buffer h
  obtain ⟨hr, -, hh, -⟩ := config.normalise_bounds
  obtain ⟨-, ⟨m, hm⟩, -⟩ := skyVcCreate_rep hw h
  have hsend : pendingPayload VcView.empty.sendTail VcView.empty.sendHead VcView.empty.payload =
      fun _ => none := by
    funext u
    exact if_neg (by simp [VcView.empty])
  have hslots := hm.send.slots
  rw [hsend] at hslots
  have hidle := hslots.ownedIdx_eq_nil
  have hpool := hm.pool
  rw [hidle, hm.rcv.slots.ownedIdx_eq_nil] at hpool
  refine ⟨⟨m, hm.rcv, hpool⟩, hidle, hcount, husable, ?_⟩
  rcases Int.lt_or_le config.normalise.horizonWidth 0 with hneg | hpos
  · rw [skyVcCreate_eq_none config hneg] at h
    cases h
  · obtain ⟨vc', heq, -, -, -, hlen, hwidth⟩ := skyVcCreate_eq_some hw config hpos
    obtain ⟨-, rfl⟩ := Prod.mk.inj (Option.some.inj (heq.symm.trans h))
    omega

/-! ## Old packets -/

/-- A packet for each of the first `n` sequences, read as soon as it is received. -/
def deliverOps (n : Nat) : List (VcOp w) :=
  (List.range n).flatMap fun i => [.pushRx [0] (serial 0 i) 0, .read 1]

theorem Delivered.run {vc : SkyVirtualChannel w} (h : Delivered vc 0) (n : Nat) :
    Delivered (vc.run (deliverOps n)) n := by
  induction n with
  | zero => exact h
  | succ n ih =>
      have hrun : vc.run (deliverOps (n + 1)) =
          ((vc.run (deliverOps n)).step (.pushRx [0] (serial 0 n) 0)).step (.read 1) := by
        rw [SkyVirtualChannel.run, deliverOps, List.range_succ, List.flatMap_append,
          List.foldl_append]
        rfl
      rw [hrun]
      exact ih.next 0 0

theorem deliverOps_valid {b : SkyElementBuffer} (husable : 12 ≤ b.elementUsableSpace) (n : Nat) :
    ∀ op ∈ (deliverOps n : List (VcOp w)), op.Valid b := by
  have hneed : skyElementBufferElementRequirementFor b 1 ≤ 42 :=
    Nat.div_le_of_le_mul (by rw [ebLenBytes]; omega)
  intro op hop
  obtain ⟨i, -, hi⟩ := List.mem_flatMap.mp hop
  rcases List.mem_pair.mp hi with rfl | rfl
  · exact ⟨by simp, hneed⟩
  · trivial

namespace SkyVirtualChannel

/-- The head of the receive ring stood at the sequence before and has moved on. -/
def Passed (vc : SkyVirtualChannel w) (ops : List (VcOp w)) (sequence : BitVec w) : Prop :=
  ∃ earlier later, ops = earlier ++ later ∧ (vc.run earlier).rcvRing.headSequence = sequence

/-- In every reachable state the receive ring refuses the old packets that a peer with a send
ring of the given length may send again, and nothing changes. -/
def RefusesOld (vc : SkyVirtualChannel w) (sendRingLen : Nat) : Prop :=
  ∀ ops : List (VcOp w), (∀ op ∈ ops, op.Valid vc.elementBuffer) → ∀ sequence,
    vc.Passed ops sequence → 1 ≤ ((vc.run ops).rcvRing.headSequence - sequence).toNat →
    ((vc.run ops).rcvRing.headSequence - sequence).toNat ≤ sendRingLen - 1 → ∀ src, ∃ ret < 0,
      rcvRingPushRxPacket (vc.run ops).rcvRing (vc.run ops).elementBuffer src sequence =
        ((vc.run ops).rcvRing, (vc.run ops).elementBuffer, .error ret)

/-- The distance back to an old packet, counted forwards, is beyond the horizon. -/
theorem refusesOld_of_le {vc : SkyVirtualChannel w} {sendRingLen : Nat}
    (h : sendRingLen + vc.rcvRing.horizonWidth ≤ 2 ^ w) : vc.RefusesOld sendRingLen := by
  intro ops _ sequence _ hpos hle src
  refine ⟨.ringInvalidSequence, by decide, rcvRingPush_beyond ?_⟩
  rw [run_horizonWidth]
  have hback := toNat_sub_add_sub hpos
  omega

end SkyVirtualChannel

/-- Where the two are longer than a round, the oldest packet that the peer still has is taken
for a new one after enough packets in order. -/
theorem Delivered.accepts_old {vc : SkyVirtualChannel w} (h : Delivered vc 0) {sendRingLen : Nat}
    (htwo : 2 ≤ sendRingLen) (hlen : sendRingLen ≤ 2 ^ w)
    (hlong : 2 ^ w < sendRingLen + vc.rcvRing.horizonWidth) : ¬vc.RefusesOld sendRingLen := by
  intro hrefuses
  have hrun := h.run (sendRingLen - 1)
  obtain ⟨m, hrcv, -⟩ := hrun.ring
  have hhead := hrcv.headSequence
  have hahead : ((serial 0 (sendRingLen - 1) : BitVec w) - serial 0 0).toNat = sendRingLen - 1 :=
    serial_sub 0 (Nat.zero_le _) (by omega)
  have hback := toNat_sub_add_sub (hahead.symm ▸ (by omega : 1 ≤ sendRingLen - 1))
  have hpassed : vc.Passed (deliverOps (sendRingLen - 1)) (serial 0 0) := by
    obtain ⟨m₀, hrcv₀, -⟩ := h.ring
    exact ⟨[], _, rfl, hrcv₀.headSequence⟩
  obtain ⟨ret, -, hpush⟩ := hrefuses (deliverOps (sendRingLen - 1))
    (deliverOps_valid h.usable _) (serial 0 0) hpassed (by rw [hhead, hahead]; omega)
    (by rw [hhead, hahead]) [0]
  have hwithin : ((serial 0 0 : BitVec w) - serial 0 (sendRingLen - 1)).toNat ≤
      (vc.run (deliverOps (sendRingLen - 1))).rcvRing.horizonWidth := by
    rw [run_horizonWidth]
    omega
  obtain ⟨r', eb', k, m', hok, -⟩ := hrun.push hwithin 0
  rw [hpush] at hok
  cases hok

/-- A configured receiver refuses the old packets of a configured sender exactly if the send
ring and the horizon are no longer than one round of sequences. -/
theorem refusesOld_iff (hw : 250 ≤ 2 ^ w) {senderConfig senderConf config conf : SkyVCConfig}
    {sender vc : SkyVirtualChannel w}
    (hsender : skyVcCreate senderConfig = some (senderConf, sender))
    (hvc : skyVcCreate config = some (conf, vc)) :
    vc.RefusesOld senderConf.sendRingLen.toNat ↔
      senderConf.sendRingLen.toNat + min conf.horizonWidth.toNat arqMaximumHorizon ≤ 2 ^ w := by
  obtain ⟨hsenderConf, -⟩ := skyVcCreate_rep hw hsender
  obtain ⟨-, -, -, hs, hs', -⟩ := senderConfig.normalise_bounds
  obtain ⟨-, -, -, -, hwidth⟩ := skyVcCreate_rep hw hvc
  rw [← hwidth]
  rw [← hsenderConf] at hs hs'
  constructor
  · intro hrefuses
    by_contra hlong
    exact (skyVcCreate_delivered hw hvc).accepts_old (by omega) (by omega) (by omega) hrefuses
  · exact SkyVirtualChannel.refusesOld_of_le

/-- Long rings and the widest horizon, as `sky_vc_create` leaves them. -/
def longRingConfig : SkyVCConfig :=
  { usableElementSize := 200, rcvRingLen := 250, horizonWidth := 64, sendRingLen := 250
    requireAuthentication := 8 }

theorem longRingConfig_created :
    ∃ vc : SkyVirtualChannel 8, skyVcCreate longRingConfig = some (longRingConfig, vc) := by
  obtain ⟨vc, hvc, -⟩ := skyVcCreate_eq_some (by decide : 250 ≤ 2 ^ 8) longRingConfig (by decide)
  exact ⟨vc, hvc⟩

/-- A new channel with long rings. -/
def longRingChannel : SkyVirtualChannel 8 :=
  ((skyVcCreate longRingConfig).get (by
    obtain ⟨vc, hvc⟩ := longRingConfig_created
    rw [hvc]
    rfl)).2

theorem longRingChannel_eq :
    skyVcCreate longRingConfig = some (longRingConfig, longRingChannel) := by
  obtain ⟨vc, hvc⟩ := longRingConfig_created
  simp [longRingChannel, hvc]

theorem refusesOld_iff_example :
    longRingChannel.RefusesOld longRingConfig.sendRingLen.toNat ↔
      longRingConfig.sendRingLen.toNat + min longRingConfig.horizonWidth.toNat arqMaximumHorizon ≤
        2 ^ 8 :=
  refusesOld_iff (by decide) longRingChannel_eq longRingChannel_eq

/-- After 249 packets in order the receiver takes the first of them once more. -/
theorem not_refusesOld : ¬longRingChannel.RefusesOld longRingConfig.sendRingLen.toNat := by
  have hdelivered := skyVcCreate_delivered (by decide) longRingChannel_eq
  obtain ⟨-, -, -, -, hwidth⟩ := skyVcCreate_rep (by decide) longRingChannel_eq
  have hhorizon : min longRingConfig.horizonWidth.toNat arqMaximumHorizon = 64 := by decide
  exact hdelivered.accepts_old (by decide) (by decide) (by
    rw [hwidth, hhorizon]
    decide)

end Skylink
