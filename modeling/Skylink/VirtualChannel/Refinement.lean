import Skylink.SequenceRing.Receive
import Skylink.SequenceRing.Send
import Skylink.VirtualChannel.Model

/-!
# What a virtual channel holds

Both rings of a channel in unbounded sequence numbers, counted since the last wipe.
Every operation of the channel acts on this view as on a pair of queues.
-/

namespace Skylink

open SerialNumber

variable {w : Nat}

/-- A channel since its last wipe: `payload u` is the `u`-th pushed payload. -/
structure VcView where
  sendTail : Nat
  sendTx : Nat
  sendHead : Nat
  payload : Nat → Bytes
  rcvTail : Nat
  rcvHead : Nat
  held : Nat → Option Bytes

/-- A wiped channel. -/
def VcView.empty : VcView :=
  { sendTail := 0, sendTx := 0, sendHead := 0, payload := fun _ => []
    rcvTail := 0, rcvHead := 0, held := fun _ => none }

/-- The rings hold the view, and the chains in the element buffer are theirs. -/
structure VcHolds (vc : SkyVirtualChannel w) (v : VcView) (m : Nat → Option Bytes) : Prop where
  send : SendRep vc.sendRing 0 v.sendTail v.sendTx v.sendHead v.payload m
  rcv : RcvRep vc.rcvRing 0 v.rcvTail v.rcvHead v.held m
  pool : PoolHolds vc.elementBuffer m (ownedIdx vc.sendRing.buff ++ ownedIdx vc.rcvRing.buff)

def VcRep (vc : SkyVirtualChannel w) (v : VcView) : Prop := ∃ m, VcHolds vc v m

/-- The state of the channel besides its rings. -/
structure SameControl (vc vc' : SkyVirtualChannel w) : Prop where
  arqStateFlag : vc'.arqStateFlag = vc.arqStateFlag
  handshakeSend : vc'.handshakeSend = vc.handshakeSend
  arqSessionIdentifier : vc'.arqSessionIdentifier = vc.arqSessionIdentifier

theorem SameControl.refl (vc : SkyVirtualChannel w) : SameControl vc vc := ⟨rfl, rfl, rfl⟩

theorem SameControl.trans {vc vc' vc'' : SkyVirtualChannel w} (h : SameControl vc vc')
    (h' : SameControl vc' vc'') : SameControl vc vc'' :=
  ⟨h'.1.trans h.1, h'.2.trans h.2, h'.3.trans h.3⟩

/-- The configured sizes, which no operation changes. -/
structure SameSizes (vc vc' : SkyVirtualChannel w) : Prop where
  sendLength : vc'.sendRing.length = vc.sendRing.length
  rcvLength : vc'.rcvRing.length = vc.rcvRing.length
  horizonWidth : vc'.rcvRing.horizonWidth = vc.rcvRing.horizonWidth

theorem SameSizes.refl (vc : SkyVirtualChannel w) : SameSizes vc vc := ⟨rfl, rfl, rfl⟩

theorem SameSizes.trans {vc vc' vc'' : SkyVirtualChannel w} (h : SameSizes vc vc')
    (h' : SameSizes vc' vc'') : SameSizes vc vc'' :=
  ⟨h'.1.trans h.1, h'.2.trans h.2, h'.3.trans h.3⟩

namespace VcRep

variable {vc : SkyVirtualChannel w} {v : VcView}

/-- Control fields do not matter to the view. -/
theorem congr {vc' : SkyVirtualChannel w} (h : VcRep vc v) (hsend : vc'.sendRing = vc.sendRing)
    (hrcv : vc'.rcvRing = vc.rcvRing) (heb : vc'.elementBuffer = vc.elementBuffer) :
    VcRep vc' v := by
  obtain ⟨m, hm⟩ := h
  exact ⟨m, by rw [hsend]; exact hm.send, by rw [hrcv]; exact hm.rcv,
    by rw [hsend, hrcv, heb]; exact hm.pool⟩

/-- A new send ring and pool; the receive ring keeps its chains. -/
theorem ofSend {m m' : Nat → Option Bytes} {sendRing : SkySendRing w} {eb : SkyElementBuffer}
    {v' : VcView} (h : VcHolds vc v m)
    (hsend : SendRep sendRing 0 v'.sendTail v'.sendTx v'.sendHead v'.payload m')
    (hpool : PoolHolds eb m' (ownedIdx sendRing.buff ++ ownedIdx vc.rcvRing.buff))
    (hkeep : KeepsRest (ownedIdx vc.rcvRing.buff) m m')
    (hrcv : v'.rcvTail = v.rcvTail ∧ v'.rcvHead = v.rcvHead ∧ v'.held = v.held) :
    VcRep { vc with sendRing := sendRing, elementBuffer := eb } v' := by
  refine ⟨m', hsend, ?_, hpool⟩
  rw [hrcv.1, hrcv.2.1, hrcv.2.2]
  exact h.rcv.mono hkeep

/-- A new receive ring and pool; the send ring keeps its chains. -/
theorem ofRcv {m m' : Nat → Option Bytes} {rcvRing : SkyRcvRing w} {eb : SkyElementBuffer}
    {v' : VcView} (h : VcHolds vc v m)
    (hrcv : RcvRep rcvRing 0 v'.rcvTail v'.rcvHead v'.held m')
    (hpool : PoolHolds eb m' (ownedIdx rcvRing.buff ++ ownedIdx vc.sendRing.buff))
    (hkeep : KeepsRest (ownedIdx vc.sendRing.buff) m m')
    (hsend : v'.sendTail = v.sendTail ∧ v'.sendTx = v.sendTx ∧ v'.sendHead = v.sendHead ∧
      v'.payload = v.payload) :
    VcRep { vc with rcvRing := rcvRing, elementBuffer := eb } v' := by
  refine ⟨m', ?_, hrcv, hpool.perm List.perm_append_comm⟩
  rw [hsend.1, hsend.2.1, hsend.2.2.1, hsend.2.2.2]
  exact h.send.mono hkeep

end VcRep

theorem VcHolds.poolRcv {vc : SkyVirtualChannel w} {v : VcView} {m : Nat → Option Bytes}
    (h : VcHolds vc v m) :
    PoolHolds vc.elementBuffer m (ownedIdx vc.rcvRing.buff ++ ownedIdx vc.sendRing.buff) :=
  h.pool.perm List.perm_append_comm

namespace VcRep

variable {vc : SkyVirtualChannel w} {v : VcView}

/-! ## Pushing and reading -/

theorem push (h : VcRep vc v) (p : Bytes) :
    (∃ ret, skyVcPushPacketToSend vc p = (vc, .error ret)) ∨
      ∃ vc', skyVcPushPacketToSend vc p = (vc', .ok (serial 0 v.sendHead)) ∧
        VcRep vc' { v with
          sendHead := v.sendHead + 1
          payload := Function.update v.payload v.sendHead p } ∧
        SameControl vc vc' ∧ SameSizes vc vc' := by
  obtain ⟨m, hm⟩ := h
  rw [skyVcPushPacketToSend]
  by_cases hlong : skyPayloadMaxLen < p.length
  · rw [if_pos hlong]
    exact .inl ⟨_, rfl⟩
  · rw [if_neg hlong]
    obtain ⟨ret, herr⟩ | ⟨r', eb', m', hpush, hsend, hpool, hkeep, hlen⟩ :=
      hm.send.push hm.pool (not_lt.mp hlong)
    · rw [herr]
      exact .inl ⟨ret, rfl⟩
    · rw [hpush]
      exact .inr ⟨_, rfl, ofSend hm hsend hpool hkeep ⟨rfl, rfl, rfl⟩, ⟨rfl, rfl, rfl⟩,
        ⟨hlen, rfl, rfl⟩⟩

/-- The payload at the tail of the receive ring is returned, unless the target is too
short: then it stays where it is. -/
theorem readOldest (h : VcRep vc v) (hlt : v.rcvTail < v.rcvHead) {p : Bytes}
    (hp : v.held v.rcvTail = some p) (maxLength : Nat) :
    (maxLength < p.length ∧
        skyVcReadNextReceived vc maxLength = (vc, .error .ebufferTooLongPayload)) ∨
      (p.length ≤ maxLength ∧ ∃ vc' n, skyVcReadNextReceived vc maxLength = (vc', .ok (0, p)) ∧
        VcRep vc' { v with
          rcvTail := v.rcvTail + 1
          rcvHead := v.rcvHead + n
          held := Function.update v.held v.rcvTail none } ∧
        SameControl vc vc' ∧ SameSizes vc vc') := by
  obtain ⟨m, hm⟩ := h
  rw [skyVcReadNextReceived]
  obtain ⟨hlong, herr⟩ | ⟨hfits, r', eb', n, m', hread, hrcv, hpool, hkeep, hlen, hwidth⟩ :=
    hm.rcv.read hm.poolRcv hlt hp maxLength
  · rw [herr]
    exact .inl ⟨hlong, rfl⟩
  · rw [hread]
    exact .inr ⟨hfits, _, n, rfl, ofRcv hm hrcv hpool hkeep ⟨rfl, rfl, rfl, rfl⟩,
      ⟨rfl, rfl, rfl⟩, ⟨rfl, hlen, hwidth⟩⟩

/-- A read returns the payload at the tail of the receive ring or changes nothing. -/
theorem read (h : VcRep vc v) (maxLength : Nat) :
    (∃ ret, skyVcReadNextReceived vc maxLength = (vc, .error ret)) ∨
      ∃ vc' p n, skyVcReadNextReceived vc maxLength = (vc', .ok (0, p)) ∧
        v.rcvTail < v.rcvHead ∧ v.held v.rcvTail = some p ∧
        VcRep vc' { v with
          rcvTail := v.rcvTail + 1
          rcvHead := v.rcvHead + n
          held := Function.update v.held v.rcvTail none } ∧
        SameControl vc vc' ∧ SameSizes vc vc' := by
  obtain ⟨m, hm⟩ := id h
  rcases Nat.eq_or_lt_of_le hm.rcv.order with hempty | hlt
  · refine .inl ⟨.ringEmpty, ?_⟩
    rw [skyVcReadNextReceived, hm.rcv.read_empty hempty.symm]
  · obtain ⟨p, hp⟩ := Option.isSome_iff_exists.mp (hm.rcv.readable _ le_rfl hlt)
    obtain ⟨-, herr⟩ | ⟨-, vc', n, hread, hrest⟩ := h.readOldest hlt hp maxLength
    · exact .inl ⟨_, herr⟩
    · exact .inr ⟨vc', p, n, hread, hlt, hp, hrest⟩

/-! ## Wipes -/

theorem empty_of_reset {vc' : SkyVirtualChannel w} {m : Nat → Option Bytes}
    (hsend : SendRep vc'.sendRing 0 0 0 0 (fun _ => []) m)
    (hrcv : RcvRep vc'.rcvRing 0 0 0 (fun _ => none) m)
    (hpool : PoolHolds vc'.elementBuffer m
      (ownedIdx vc'.sendRing.buff ++ ownedIdx vc'.rcvRing.buff)) : VcRep vc' .empty :=
  ⟨m, hsend, hrcv, hpool⟩

theorem wipeRings (h : VcRep vc v) :
    VcRep (Skylink.wipeRings vc) .empty ∧ SameSizes vc (Skylink.wipeRings vc) := by
  obtain ⟨m, hm⟩ := h
  obtain ⟨eb₁, m₁, hwipe₁, hrcv, hpool₁, hkeep₁⟩ := hm.rcv.toRcvWindow.wipe hm.poolRcv 0
  have hsend := hm.send.mono hkeep₁
  rw [SkyRcvRing.reset, ownedIdx_replicate_vacant, List.nil_append] at hpool₁
  have hpool₁' : PoolHolds eb₁ m₁ (ownedIdx vc.sendRing.buff ++ []) := by rwa [List.append_nil]
  obtain ⟨eb₂, m₂, hwipe₂, hsend', hpool₂, -⟩ :=
    hsend.wipe hpool₁' 0 fun _ => []
  have heq : Skylink.wipeRings vc =
      { vc with
        elementBuffer := eb₂
        sendRing := vc.sendRing.reset 0
        rcvRing := vc.rcvRing.reset 0 } := by
    rw [Skylink.wipeRings, hwipe₁]
    dsimp only
    rw [hwipe₂]
  rw [heq]
  refine ⟨empty_of_reset hsend' (rcvRep_reset vc.rcvRing 0 m₂ ?_) ?_, rfl, rfl, rfl⟩
  · have := hm.rcv.order
    have := hm.rcv.room
    omega
  · show PoolHolds eb₂ m₂
      (ownedIdx (vc.sendRing.reset 0).buff ++ ownedIdx (vc.rcvRing.reset 0).buff)
    rw [SkyRcvRing.reset, ownedIdx_replicate_vacant]
    exact hpool₂

theorem wipeToInit (h : VcRep vc v) (tickTime : Int) :
    VcRep (skyVcWipeToArqInitState tickTime vc) .empty ∧
      SameSizes vc (skyVcWipeToArqInitState tickTime vc) :=
  ⟨h.wipeRings.1.congr rfl rfl rfl, h.wipeRings.2.1, h.wipeRings.2.2, h.wipeRings.2.3⟩

theorem wipeToOn (h : VcRep vc v) (tickTime : Int) (identifier : UInt32) :
    VcRep (skyVcWipeToArqOnState tickTime vc identifier) .empty ∧
      SameSizes vc (skyVcWipeToArqOnState tickTime vc identifier) :=
  ⟨h.wipeRings.1.congr rfl rfl rfl, h.wipeRings.2.1, h.wipeRings.2.2, h.wipeRings.2.3⟩

theorem wipeToOff (h : VcRep vc v) :
    VcRep (skyVcWipeToArqOffState vc) .empty ∧ SameSizes vc (skyVcWipeToArqOffState vc) := by
  obtain ⟨m, hm⟩ := h
  obtain ⟨eb₁, m₁, hwipe₁, hsend, hpool₁, hkeep₁⟩ := hm.send.wipe hm.pool 0 fun _ => []
  have hrcv := hm.rcv.toRcvWindow.mono hkeep₁
  rw [SkySendRing.reset, ownedIdx_replicate_vacant, List.nil_append] at hpool₁
  have hpool₁' : PoolHolds eb₁ m₁ (ownedIdx vc.rcvRing.buff ++ []) := by rwa [List.append_nil]
  obtain ⟨eb₂, m₂, hwipe₂, hrcv', hpool₂, -⟩ := hrcv.wipe hpool₁' 0
  let eb₃ := skyElementBufferWipe eb₂
  have hsendOff : (skyVcWipeToArqOffState vc).sendRing = vc.sendRing.reset 0 := rfl
  have hrcvOff : (skyVcWipeToArqOffState vc).rcvRing = vc.rcvRing.reset 0 := rfl
  have hebOff : (skyVcWipeToArqOffState vc).elementBuffer = eb₃ := by
    show skyElementBufferWipe (skyRcvRingWipe vc.rcvRing
      (skySendRingWipe vc.sendRing vc.elementBuffer 0).2 0).2 = eb₃
    rw [hwipe₁, hwipe₂]
  refine ⟨empty_of_reset (m := fun _ => none) ?_ ?_ ?_, rfl, rfl, rfl⟩
  · rw [hsendOff]
    exact SendRep.reset _ _ _ _ hm.send.slots.pos hm.send.lengthLe
  · rw [hrcvOff]
    apply rcvRep_reset vc.rcvRing 0 _
    have := hm.rcv.order
    have := hm.rcv.room
    omega
  · rw [hsendOff, hrcvOff, hebOff, SkySendRing.reset, SkyRcvRing.reset,
      ownedIdx_replicate_vacant, ownedIdx_replicate_vacant]
    exact ⟨hpool₂.stores.wipe, List.nodup_nil, by simp⟩

end VcRep

theorem skyVcCheckTimeouts_eq (vc : SkyVirtualChannel w) (now timeout : Int) :
    skyVcCheckTimeouts vc now timeout = vc ∨
      skyVcCheckTimeouts vc now timeout = skyVcWipeToArqOffState vc := by
  rw [skyVcCheckTimeouts]
  split_ifs
  · exact .inl rfl
  · dsimp only
    split
    · exact .inr rfl
    · exact .inl rfl

/-! ## Creation -/

/-- The bounds that hold of every configuration in force. -/
theorem SkyVCConfig.normalise_bounds (config : SkyVCConfig) :
    6 ≤ config.normalise.rcvRingLen ∧ config.normalise.rcvRingLen ≤ 250 ∧
      config.normalise.horizonWidth + 3 ≤ config.normalise.rcvRingLen ∧
      6 ≤ config.normalise.sendRingLen ∧ config.normalise.sendRingLen ≤ 250 ∧
      12 ≤ config.normalise.usableElementSize ∧ config.normalise.usableElementSize ≤ 500 := by
  simp only [SkyVCConfig.normalise]
  refine ⟨?_, ?_, ?_, ?_, ?_, ?_, ?_⟩ <;> split_ifs <;> omega

/-- Enough elements for every slot, and not more than the index type can count. -/
theorem elementCount_le (usable slots : Nat) (hlo : 12 ≤ usable) (hslots : slots ≤ 498) :
    computeRequiredElementCount (usable + 4) slots skyPayloadMaxLen ≤ ebMaxElementCount := by
  have hone : (182 + usable) / usable ≤ 16 := by
    rw [Nat.div_le_iff_le_mul_add_pred (by omega)]
    omega
  simp only [computeRequiredElementCount, skyElementBufferElementRequirement, skyPayloadMaxLen,
    ebLenBytes, ebMaxElementCount]
  have hrw : (181 + 2 + (usable + 4 - 4) - 1) / (usable + 4 - 4) = (182 + usable) / usable := by
    congr 1
    omega
  rw [hrw]
  calc slots * ((182 + usable) / usable) ≤ 498 * 16 := Nat.mul_le_mul hslots hone
    _ ≤ 65530 := by norm_num

/-- A channel is created for every configuration whose horizon is not negative. -/
theorem skyVcCreate_eq_some (hw : 250 ≤ 2 ^ w) (config : SkyVCConfig)
    (hhorizon : 0 ≤ config.normalise.horizonWidth) :
    ∃ vc : SkyVirtualChannel w, skyVcCreate config = some (config.normalise, vc) ∧
      VcRep vc .empty ∧ vc.arqStateFlag = .off ∧
      vc.sendRing.length = config.normalise.sendRingLen.toNat ∧
      vc.rcvRing.length = config.normalise.rcvRingLen.toNat ∧
      vc.rcvRing.horizonWidth =
        min config.normalise.horizonWidth.toNat arqMaximumHorizon := by
  obtain ⟨hr, hr', hh, hs, hs', hu, hu'⟩ := config.normalise_bounds
  obtain ⟨send, hsend, hsendLen⟩ :=
    skySendRingCreate_eq_some (show 4 ≤ config.normalise.sendRingLen by omega) (0 : BitVec w)
  obtain ⟨rcv, hrcv, hrcvLen, hwidth⟩ := skyRcvRingCreate_eq_some hhorizon hh (0 : BitVec w)
  let slots := (config.normalise.rcvRingLen + config.normalise.sendRingLen - 2).toNat
  let eb := skyElementBufferCreate config.normalise.usableElementSize.toNat
    (computeRequiredElementCount (config.normalise.usableElementSize + 4).toNat slots
      skyPayloadMaxLen)
  let vc : SkyVirtualChannel w :=
    { elementBuffer := eb, sendRing := send.reset 0, rcvRing := rcv.reset 0
      arqStateFlag := .off, handshakeSend := 0, arqSessionIdentifier := 0, needRecall := 0
      lastTxTick := 0, lastRxTick := 0, lastCtrlSendTick := 0, unconfirmedPayloads := 0 }
  have hrep : VcRep vc .empty := by
    refine ⟨fun _ => none, SendRep.reset _ _ _ _ (by omega) (by omega),
      rcvRep_reset rcv 0 _ (by omega), ?_⟩
    have hsize : (config.normalise.usableElementSize + 4).toNat =
        config.normalise.usableElementSize.toNat + 4 := by omega
    have hcount := elementCount_le config.normalise.usableElementSize.toNat slots (by omega)
      (by omega)
    rw [← hsize] at hcount
    show PoolHolds eb _ (ownedIdx (send.reset 0).buff ++ ownedIdx (rcv.reset 0).buff)
    rw [SkySendRing.reset, SkyRcvRing.reset, ownedIdx_replicate_vacant,
      ownedIdx_replicate_vacant]
    exact ⟨.create (by simp only [ebLenBytes]; omega) hcount, List.nodup_nil, by simp⟩
  obtain ⟨hoff, hsizes⟩ := hrep.wipeToOff
  refine ⟨skyVcWipeToArqOffState vc, ?_, hoff, rfl, ?_, ?_, ?_⟩
  · rw [skyVcCreate]
    simp only [hsend, hrcv]
    rfl
  · rw [hsizes.sendLength]
    exact hsendLen
  · rw [hsizes.rcvLength]
    exact hrcvLen
  · rw [hsizes.horizonWidth]
    exact hwidth

/-- No channel is created with a negative horizon. -/
theorem skyVcCreate_eq_none (config : SkyVCConfig)
    (hhorizon : config.normalise.horizonWidth < 0) :
    (skyVcCreate config : Option (SkyVCConfig × SkyVirtualChannel w)) = none := by
  have hnone : (skyRcvRingCreate config.normalise.rcvRingLen config.normalise.horizonWidth 0 :
      Option (SkyRcvRing w)) = none := by
    rw [skyRcvRingCreate, if_pos (.inr hhorizon)]
  rw [skyVcCreate]
  simp only [hnone]
  cases (skySendRingCreate config.normalise.sendRingLen 0 : Option (SkySendRing w)) <;> rfl

/-- What holds of every channel that is created. -/
theorem skyVcCreate_rep (hw : 250 ≤ 2 ^ w) {config conf : SkyVCConfig}
    {vc : SkyVirtualChannel w} (h : skyVcCreate config = some (conf, vc)) :
    conf = config.normalise ∧ VcRep vc .empty ∧ vc.arqStateFlag = .off ∧
      vc.sendRing.length = conf.sendRingLen.toNat ∧
      vc.rcvRing.horizonWidth = min conf.horizonWidth.toNat arqMaximumHorizon := by
  rcases Int.lt_or_le config.normalise.horizonWidth 0 with hneg | hpos
  · rw [skyVcCreate_eq_none config hneg] at h
    cases h
  · obtain ⟨vc', heq, hrep, hoff, hsend, -, hhorizon⟩ := skyVcCreate_eq_some hw config hpos
    obtain ⟨rfl, rfl⟩ := Prod.mk.inj (Option.some.inj (heq.symm.trans h))
    exact ⟨rfl, hrep, hoff, hsend, hhorizon⟩

end Skylink
