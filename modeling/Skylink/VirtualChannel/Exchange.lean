import Skylink.VirtualChannel.Content
import Skylink.VirtualChannel.Refinement

/-!
# Filling and processing frames

What the two operations on frames do to the queues that a channel holds, in terms of
the content of the frame.
-/

namespace Skylink

open SerialNumber

variable {w : Nat}

namespace VcRep

variable {vc : SkyVirtualChannel w} {v : VcView}

theorem sendSequences (h : VcRep vc v) :
    vc.sendRing.tailSequence = serial 0 v.sendTail ∧
      vc.sendRing.txSequence = serial 0 v.sendTx ∧
      vc.sendRing.headSequence = serial 0 v.sendHead := by
  obtain ⟨m, hm⟩ := h
  exact ⟨hm.send.tailSequence, hm.send.txSequence, hm.send.headSequence⟩

theorem rcvSequences (h : VcRep vc v) :
    vc.rcvRing.tailSequence = serial 0 v.rcvTail ∧
      vc.rcvRing.headSequence = serial 0 v.rcvHead := by
  obtain ⟨m, hm⟩ := h
  exact ⟨hm.rcv.tailSequence, hm.rcv.headSequence⟩

/-- The send queue: acknowledged, transmitted, pushed. -/
theorem sendOrder (h : VcRep vc v) :
    v.sendTail ≤ v.sendTx ∧ v.sendTx ≤ v.sendHead ∧
      v.sendHead < v.sendTail + vc.sendRing.length ∧ vc.sendRing.length ≤ 2 ^ w := by
  obtain ⟨m, hm⟩ := h
  exact ⟨hm.send.tail_le_tx, hm.send.tx_le_head, hm.send.room, hm.send.lengthLe⟩

theorem sendLength_pos (h : VcRep vc v) : 0 < vc.sendRing.length := by
  obtain ⟨htail, hhead, hroom, -⟩ := h.sendOrder
  omega

theorem payload_length_le (h : VcRep vc v) {u : Nat} (hu : v.sendTail ≤ u)
    (hu' : u < v.sendHead) : (v.payload u).length ≤ skyPayloadMaxLen := by
  obtain ⟨m, hm⟩ := h
  exact hm.send.payloadLe u hu hu'

theorem rcvOrder (h : VcRep vc v) :
    v.rcvTail ≤ v.rcvHead ∧
      v.rcvHead + vc.rcvRing.horizonWidth + 1 ≤ v.rcvTail + vc.rcvRing.length := by
  obtain ⟨m, hm⟩ := h
  exact ⟨hm.rcv.order, hm.rcv.room⟩

/-- What is held lies between the tail and the horizon, without gaps up to the head. -/
theorem readable (h : VcRep vc v) {u : Nat} (hu : v.rcvTail ≤ u) (hu' : u < v.rcvHead) :
    (v.held u).isSome := by
  obtain ⟨m, hm⟩ := h
  exact hm.rcv.readable u hu hu'

theorem countNew (h : VcRep vc v) :
    sendRingCountPacketsToSend vc.sendRing false = v.sendHead - v.sendTx := by
  obtain ⟨m, hm⟩ := h
  exact hm.send.countNew

/-! ## Reading for transmission -/

/-- The next packet is one in the window or a new one; without resends it is new. -/
theorem readToTx (h : VcRep vc v) (includeResend : Bool) :
    (∃ sendRing u tx', sendRingReadToTx vc.sendRing vc.elementBuffer includeResend =
          (sendRing, .ok (v.payload u, serial 0 u)) ∧
        sendRingPeekNextTxSizeAndSequence vc.sendRing vc.elementBuffer includeResend =
          .ok ((v.payload u).length, serial 0 u) ∧
        VcRep { vc with sendRing := sendRing } { v with sendTx := tx' } ∧
        sendRing.length = vc.sendRing.length ∧ v.sendTail ≤ u ∧ u < tx' ∧
        (tx' = v.sendTx ∨ tx' = v.sendTx + 1) ∧
        (includeResend = false → u = v.sendTx ∧ tx' = v.sendTx + 1)) ∨
      (sendRingPeekNextTxSizeAndSequence vc.sendRing vc.elementBuffer includeResend =
          .error .ringEmpty ∧ v.sendTx = v.sendHead) := by
  obtain ⟨m, hm⟩ := h
  obtain ⟨r', u, tx', hread, hpeek, hsend, hsame, hu, hu', htx, hnew⟩ |
    ⟨r', -, hpeek, -, -, hempty⟩ := hm.send.readToTx hm.pool.stores includeResend
  · refine .inl ⟨r', u, tx', hread, hpeek, ⟨m, hsend, hm.rcv, ?_⟩, hsame.length, hu, hu', htx,
      hnew⟩
    show PoolHolds vc.elementBuffer m (ownedIdx r'.buff ++ ownedIdx vc.rcvRing.buff)
    rw [hsame.buff]
    exact hm.pool
  · exact .inr ⟨hpeek, hempty⟩

/-- An acknowledgement inside the window moves the tail, any other is refused. -/
theorem cleanTailUpTo (h : VcRep vc v) (sequence : BitVec w) :
    (v.sendTx < v.sendTail + (sequence - serial 0 v.sendTail).toNat ∧
        sendRingCleanTailUpTo vc.sendRing vc.elementBuffer sequence =
          (vc.sendRing, vc.elementBuffer, .error .ringInvalidAcknowledge)) ∨
      (v.sendTail + (sequence - serial 0 v.sendTail).toNat ≤ v.sendTx ∧
        ∃ sendRing eb, sendRingCleanTailUpTo vc.sendRing vc.elementBuffer sequence =
            (sendRing, eb, .ok (sequence - serial 0 v.sendTail).toNat) ∧
          VcRep { vc with sendRing := sendRing, elementBuffer := eb }
            { v with sendTail := v.sendTail + (sequence - serial 0 v.sendTail).toNat } ∧
          sendRing.length = vc.sendRing.length) := by
  obtain ⟨m, hm⟩ := h
  have hclean := hm.send.cleanTailUpTo hm.pool sequence
  rw [hm.send.tailSequence] at hclean
  obtain ⟨hlt, heq⟩ | ⟨hle, r', eb', m', heq, hsend, hpool, hkeep, hlen, -⟩ := hclean
  · exact .inl ⟨hlt, heq⟩
  · exact .inr ⟨hle, r', eb', heq, ofSend hm hsend hpool hkeep ⟨rfl, rfl, rfl⟩, hlen⟩

/-- Without ARQ a packet leaves the ring when it is read for transmission. -/
theorem readMonotonic (h : VcRep vc v) (hlt : v.sendTx < v.sendHead) :
    ∃ vc', skyVcReadPacketForTxMonotonic vc =
        (vc', .ok (v.payload v.sendTx, serial 0 v.sendTx)) ∧
      sendRingPeekNextTxSizeAndSequence vc.sendRing vc.elementBuffer false =
        .ok ((v.payload v.sendTx).length, serial 0 v.sendTx) ∧
      VcRep vc' { v with sendTail := v.sendTx + 1, sendTx := v.sendTx + 1 } ∧
      SameControl vc vc' ∧ SameSizes vc vc' := by
  obtain ⟨sendRing, u, tx', hread, hpeek, hrep, hlen, -, -, -, hnew⟩ | ⟨-, hempty⟩ :=
    h.readToTx false
  · obtain ⟨rfl, rfl⟩ := hnew rfl
    have htx := hrep.sendSequences.2.1
    obtain ⟨horder, -, hroom, hle⟩ := h.sendOrder
    have hahead : (sendRing.txSequence - serial 0 v.sendTail).toNat =
        v.sendTx + 1 - v.sendTail := by
      rw [show sendRing.txSequence = serial 0 (v.sendTx + 1) from htx]
      exact serial_sub 0 (by omega) (by omega)
    have hsum : v.sendTail + (v.sendTx + 1 - v.sendTail) = v.sendTx + 1 := by omega
    have hclean := hrep.cleanTailUpTo sendRing.txSequence
    simp only [hahead, hsum] at hclean
    obtain ⟨hlt', -⟩ | ⟨-, sendRing', eb', heq, hrep', hlen'⟩ := hclean
    · omega
    · refine ⟨{ vc with sendRing := sendRing', elementBuffer := eb' }, ?_, hpeek, hrep',
        ⟨rfl, rfl, rfl⟩, ⟨hlen'.trans hlen, rfl, rfl⟩⟩
      rw [skyVcReadPacketForTxMonotonic, hread]
      dsimp only
      rw [heq]
  · omega

end VcRep

/-! ## Filling a frame -/

/-- What a filled frame says, and what becomes of the queues. -/
inductive Filled (vc : SkyVirtualChannel w) (v v' : VcView) (c : ArqContent w) (ret : SkyRet) :
    Prop
  | idle (hstate : vc.arqStateFlag = .off) (hview : v' = v) (hc : c = .nothing) (hret : 0 ≤ ret)
      (hdue : ¬(v.sendTx < v.sendHead ∧ 0 < (v.payload v.sendTx).length))
  | packet (hstate : vc.arqStateFlag = .off) (hlt : v.sendTx < v.sendHead)
      (hview : v' = { v with sendTail := v.sendTx + 1, sendTx := v.sendTx + 1 })
      (hc : c = { ArqContent.nothing with payload := some (v.payload v.sendTx) })
      (hret : 0 ≤ ret) (hdue : 0 < (v.payload v.sendTx).length)
  | connecting (hstate : vc.arqStateFlag = .inInit) (hview : v' = v)
      (hc : c = { ArqContent.nothing with handshake := c.handshake })
      (hhandshake : ∀ h, c.handshake = some h →
        h = (ArqState.inInit.toByte, vc.arqSessionIdentifier)) (hret : 0 ≤ ret)
  | connected (hstate : vc.arqStateFlag = .on)
      (harqOn : c.arqOn = true)
      (hhandshake : c.handshake =
        if 0 < vc.handshakeSend then some (ArqState.on.toByte, vc.arqSessionIdentifier)
        else none)
      (hctrl : ∀ s, c.ctrl = some s → s = (serial 0 v.sendTx, serial 0 v.rcvHead))
      (tx' : Nat) (htx : tx' = v.sendTx ∨ tx' = v.sendTx + 1)
      (hview : v' = { v with sendTx := tx' })
      (hpayload : (c.sequence = none ∧ c.payload = none) ∨
        ∃ u, v.sendTail ≤ u ∧ u < tx' ∧ c.sequence = some (serial 0 u) ∧
          c.payload = some (v.payload u))
      (hdue : 0 ≤ ret → (c.payload.isSome ↔ 0 < sendRingCountPacketsToSend vc.sendRing true))

theorem VcRep.fillFrameOff {vc : SkyVirtualChannel w} {v : VcView} (h : VcRep vc v)
    (hstate : vc.arqStateFlag = .off) {tx : SkyTransmitFrame} {identity : Bytes}
    {others : List (ExtValue w)} {ch : Fin skyNumVirtualChannels}
    (hcarries : tx.Carries identity others ch .nothing) :
    ∃ vc' tx' ret c v', Skylink.fillFrameOff vc tx = (vc', tx', ret) ∧
      tx'.Carries identity others ch c ∧ Filled vc v v' c ret ∧ VcRep vc' v' ∧
      SameControl vc vc' ∧ SameSizes vc vc' := by
  rw [Skylink.fillFrameOff]
  by_cases hlt : v.sendTx < v.sendHead
  · obtain ⟨vc', hread, hpeek, hrep, hcontrol, hsizes⟩ := h.readMonotonic hlt
    rw [hpeek]
    dsimp only
    by_cases hlen : 0 < (v.payload v.sendTx).length
    · rw [if_pos hlen, hread]
      exact ⟨_, _, _, _, _, rfl, (hcarries.assert _).extend rfl _,
        .packet hstate hlt rfl rfl (by decide) hlen, hrep, hcontrol, hsizes⟩
    · rw [if_neg hlen]
      exact ⟨_, _, _, _, _, rfl, hcarries, .idle hstate rfl rfl (by decide) fun h => hlen h.2, h,
        .refl vc, .refl vc⟩
  · have hpeek : sendRingPeekNextTxSizeAndSequence vc.sendRing vc.elementBuffer false =
        .error .ringEmpty := by
      have hcount := h.countNew
      rw [sendRingPeekNextTxSizeAndSequence, if_pos (by omega)]
    rw [hpeek]
    exact ⟨_, _, _, _, _, rfl, hcarries, .idle hstate rfl rfl (by decide) fun h => hlt h.1, h,
      .refl vc, .refl vc⟩

/-- The payload of a connected channel comes from the window or is the next new one. -/
theorem VcRep.payloadFilled {vc vc' : SkyVirtualChannel w} {v : VcView} {c : ArqContent w}
    {ret : SkyRet} (h : VcRep vc v) (hfilled : PayloadFilled vc vc' c ret) :
    ∃ tx', (tx' = v.sendTx ∨ tx' = v.sendTx + 1) ∧
      VcRep { vc with sendRing := vc'.sendRing } { v with sendTx := tx' } ∧
      vc'.sendRing.length = vc.sendRing.length ∧
      ((c.sequence = none ∧ c.payload = none) ∨
        ∃ u, v.sendTail ≤ u ∧ u < tx' ∧ c.sequence = some (serial 0 u) ∧
          c.payload = some (v.payload u)) ∧
      (0 ≤ ret → (c.payload.isSome ↔ 0 < sendRingCountPacketsToSend vc.sendRing true)) := by
  cases hfilled with
  | idle hdue hring hseq hpayload hret =>
      rw [hring]
      exact ⟨_, .inl rfl, h, rfl, .inl ⟨hseq, hpayload⟩, fun _ => by simp [hpayload, hdue]⟩
  | failed hdue hpeek hring hseq hpayload =>
      have hneg : ret < 0 := by
        obtain ⟨_, _, _, -, hpeek', -⟩ | ⟨hpeek', -⟩ := h.readToTx true
        · rw [hpeek] at hpeek'
          cases hpeek'
        · rw [hpeek] at hpeek'
          cases hpeek'
          decide
      rw [hring]
      exact ⟨_, .inl rfl, h, rfl, .inl ⟨hseq, hpayload⟩,
        fun hret => absurd hret (not_le.mpr hneg)⟩
  | written hdue length sequence hpeek hring hseq hpayload hret =>
      obtain ⟨sendRing, u, tx', hread, hpeek', hrep, hlen, hu, hu', htx, -⟩ | ⟨hpeek', -⟩ :=
        h.readToTx true
      · rw [hpeek] at hpeek'
        cases hpeek'
        rw [hread] at hring hpayload
        rw [hring]
        exact ⟨tx', htx, hrep, hlen, .inr ⟨u, hu, hu', hseq, hpayload⟩,
          fun _ => by simp [hpayload, hdue]⟩
      · rw [hpeek] at hpeek'
        cases hpeek'
  | discarded hdue length sequence hpeek hring hseq hpayload hret =>
      obtain ⟨sendRing, u, tx', hread, -, hrep, hlen, -, -, htx, -⟩ | ⟨hpeek', -⟩ :=
        h.readToTx true
      · rw [hread] at hring
        rw [hring]
        refine ⟨tx', htx, hrep, hlen, .inl ⟨hseq, hpayload⟩, fun hle => ?_⟩
        rw [hret] at hle
        exact absurd hle (by decide)
      · rw [hpeek] at hpeek'
        cases hpeek'

theorem VcRep.fillFrameOn {vc : SkyVirtualChannel w} {v : VcView} (h : VcRep vc v) (hw : w ≤ 56)
    (hstate : vc.arqStateFlag = .on) {tx : SkyTransmitFrame} {identity : Bytes}
    {others : List (ExtValue w)} {ch : Fin skyNumVirtualChannels}
    (hcarries : tx.Carries identity others ch .nothing) (config : SkyConfig) (now : Int)
    (frames : UInt16) :
    ∃ vc' tx' ret c v', Skylink.fillFrameOn vc config tx now frames = (vc', tx', ret) ∧
      tx'.Carries identity others ch c ∧ Filled vc v v' c ret ∧ VcRep vc' v' ∧
      vc'.arqStateFlag = vc.arqStateFlag ∧
      vc'.arqSessionIdentifier = vc.arqSessionIdentifier ∧ SameSizes vc vc' := by
  obtain ⟨vc', tx', ret, c, heq, hcarries', hfilled, -⟩ :=
    fillFrameOn_carries vc config now frames hw hcarries
  have hctrl : ∀ s, c.ctrl = some s → s = (serial 0 v.sendTx, serial 0 v.rcvHead) := by
    intro s hs
    rw [hfilled.ctrl s hs, h.sendSequences.2.1, h.rcvSequences.2]
  obtain ⟨tx', htx, hrep, hlen, hpayload, hdue⟩ := h.payloadFilled hfilled.payload
  exact ⟨vc', _, ret, c, _, heq, hcarries', .connected hstate hfilled.arqOn hfilled.handshake
    hctrl tx' htx rfl hpayload hdue, hrep.congr rfl hfilled.rcvRing hfilled.elementBuffer,
    hfilled.arqStateFlag, hfilled.arqSessionIdentifier, hlen, by rw [hfilled.rcvRing],
    by rw [hfilled.rcvRing]⟩

theorem VcRep.fill {vc : SkyVirtualChannel w} {v : VcView} (h : VcRep vc v) (hw : w ≤ 56)
    {tx : SkyTransmitFrame} {identity : Bytes} {others : List (ExtValue w)}
    {ch : Fin skyNumVirtualChannels} (hcarries : tx.Carries identity others ch .nothing)
    (config : SkyConfig) (now : Int) (frames : UInt16) :
    ∃ vc' tx' ret c v', skyVcFillFrame vc config tx now frames = (vc', tx', ret) ∧
      tx'.Carries identity others ch c ∧ Filled vc v v' c ret ∧ VcRep vc' v' ∧
      vc'.arqStateFlag = vc.arqStateFlag ∧
      vc'.arqSessionIdentifier = vc.arqSessionIdentifier ∧ SameSizes vc vc' := by
  cases hstate : vc.arqStateFlag with
  | off =>
      obtain ⟨vc', tx', ret, c, v', heq, hc, hfilled, hrep, hcontrol, hsizes⟩ :=
        h.fillFrameOff hstate hcarries
      refine ⟨vc', tx', ret, c, v', ?_, hc, hfilled, hrep, hcontrol.1.trans hstate, hcontrol.3,
        hsizes⟩
      rw [skyVcFillFrame, hstate]
      exact heq
  | inInit =>
      rw [skyVcFillFrame, hstate]
      dsimp only
      split
      · refine ⟨_, _, _, _, _, rfl, hcarries.addHandshake hw ⟨rfl, rfl, rfl, rfl, rfl⟩ _ _,
          .connecting hstate rfl rfl (fun h hh => ?_) (by decide), h, hstate, rfl, .refl vc⟩
        cases hh
        rfl
      · exact ⟨_, _, _, _, _, rfl, hcarries,
          .connecting hstate rfl rfl (fun _ hh => by cases hh) (by decide), h, hstate, rfl,
          .refl vc⟩
  | on =>
      obtain ⟨vc', tx', ret, c, v', heq, hc, hfilled, hrep, hstate', hid, hsizes⟩ :=
        h.fillFrameOn hw hstate hcarries config now frames
      refine ⟨vc', tx', ret, c, v', ?_, hc, hfilled, hrep, hstate'.trans hstate, hid, hsizes⟩
      rw [skyVcFillFrame, hstate]
      exact heq

/-! ## Handshakes -/

/-- A handshake is ignored or answered, confirms the session that the channel has
offered, or makes it enter another session. -/
inductive HandshakeOutcome (tickTime : Int) (vc vc' : SkyVirtualChannel w)
    (identifier : UInt32) : Prop
  | kept (hoff : vc.arqStateFlag ≠ .off) (hstays : vc.enters identifier = false)
      (hother : vc.arqStateFlag = .inInit → identifier ≠ vc.arqSessionIdentifier)
      (heq : vc' = { vc with handshakeSend := vc'.handshakeSend })
  | joined (hinit : vc.arqStateFlag = .inInit) (hid : identifier = vc.arqSessionIdentifier)
      (hstays : vc.enters identifier = false)
      (heq : vc' = { vc with arqStateFlag := .on, handshakeSend := 0 })
  | entered (henters : vc.enters identifier = true)
      (heq : vc' = { skyVcWipeToArqOnState tickTime vc identifier with handshakeSend := 1 })

theorem skyVcHandleHandshake_outcome (tickTime : Int) (vc : SkyVirtualChannel w)
    (peerState : UInt8) (identifier : UInt32) :
    HandshakeOutcome tickTime vc (skyVcHandleHandshake tickTime vc peerState identifier).1
      identifier := by
  rw [skyVcHandleHandshake]
  cases hstate : vc.arqStateFlag with
  | off => exact .entered (by simp [SkyVirtualChannel.enters, hstate]) rfl
  | inInit =>
      dsimp only
      by_cases hid : identifier = vc.arqSessionIdentifier
      · rw [if_pos hid]
        exact .joined hstate hid (by simp [SkyVirtualChannel.enters, hstate, hid]) rfl
      · rw [if_neg hid]
        by_cases hlt : vc.arqSessionIdentifier < identifier
        · rw [if_pos hlt]
          exact .entered (by simp [SkyVirtualChannel.enters, hstate, hlt]) rfl
        · rw [if_neg hlt]
          exact .kept (by simp [hstate]) (by simp [SkyVirtualChannel.enters, hstate, hlt])
            (fun _ => hid) rfl
  | on =>
      dsimp only
      by_cases hid : identifier = vc.arqSessionIdentifier
      · rw [if_pos hid]
        exact .kept (by simp [hstate]) (by simp [SkyVirtualChannel.enters, hstate, hid])
          (by simp [hstate]) (by rw [hstate])
      · rw [if_neg hid]
        exact .entered (by simp [SkyVirtualChannel.enters, hstate, hid]) rfl

/-- The queues after a handshake: as before, or empty in another session. -/
theorem HandshakeOutcome.rep {tickTime : Int} {vc vc' : SkyVirtualChannel w}
    {identifier : UInt32} {v : VcView} (h : HandshakeOutcome tickTime vc vc' identifier)
    (hrep : VcRep vc v) :
    SameSizes vc vc' ∧
      ((VcRep vc' v ∧ vc'.arqSessionIdentifier = vc.arqSessionIdentifier) ∨ VcRep vc' .empty) := by
  cases h with
  | kept hoff hstays hother heq =>
      rw [heq]
      exact ⟨⟨rfl, rfl, rfl⟩, .inl ⟨hrep.congr rfl rfl rfl, rfl⟩⟩
  | joined hinit hid hstays heq =>
      rw [heq]
      exact ⟨⟨rfl, rfl, rfl⟩, .inl ⟨hrep.congr rfl rfl rfl, rfl⟩⟩
  | entered henters heq =>
      obtain ⟨hwipe, hsizes⟩ := hrep.wipeToOn tickTime identifier
      rw [heq]
      exact ⟨hsizes, .inr (hwipe.congr rfl rfl rfl)⟩

theorem processHandshake_reads {vc : SkyVirtualChannel w} {parsed : SkyParsedFrame}
    {c : ArqContent w} (hreads : parsed.Reads c) (tickTime : Int) :
    processHandshake tickTime vc parsed =
      match c.handshake with
      | none => vc
      | some h => (skyVcHandleHandshake tickTime vc h.1 (skyHton32 h.2)).1 := by
  have hread := hreads.handshake
  rw [processHandshake]
  cases hc : c.handshake with
  | none =>
      rw [hc, Option.map_none, Option.map_eq_none_iff] at hread
      rw [hread]
  | some h =>
      rw [hc, Option.map_some, Option.map_eq_some_iff] at hread
      obtain ⟨ext, hext, hval⟩ := hread
      rw [hext]
      dsimp only
      rw [hval]

/-! ## Processing a frame -/

/-- The queues after a control extension. -/
def VcView.acked (v : VcView) : Option (BitVec w × BitVec w) → VcView
  | none => v
  | some s =>
      let tail := v.sendTail + (s.2 - serial 0 v.sendTail).toNat
      if tail ≤ v.sendTx then { v with sendTail := tail } else v

namespace VcRep

variable {vc : SkyVirtualChannel w} {v : VcView}

theorem updateTxSync (h : VcRep vc v) (s : BitVec w × BitVec w) (now : Int) :
    VcRep (skyVcUpdateTxSync vc s.2 now) (v.acked (some s)) ∧
      SameControl vc (skyVcUpdateTxSync vc s.2 now) ∧
      SameSizes vc (skyVcUpdateTxSync vc s.2 now) := by
  rw [skyVcUpdateTxSync]
  obtain ⟨hlt, heq⟩ | ⟨hle, sendRing, eb, heq, hrep, hlen⟩ := h.cleanTailUpTo s.2
  · rw [heq, VcView.acked, if_neg (by omega)]
    exact ⟨h.congr rfl rfl rfl, ⟨rfl, rfl, rfl⟩, ⟨rfl, rfl, rfl⟩⟩
  · rw [heq, VcView.acked, if_pos hle]
    exact ⟨hrep.congr rfl rfl rfl, ⟨rfl, rfl, rfl⟩, ⟨hlen, rfl, rfl⟩⟩

theorem updateRxSync_eq (vc : SkyVirtualChannel w) (sequence : BitVec w) (now : Int) :
    skyVcUpdateRxSync vc sequence now =
      { vc with
        lastRxTick := (skyVcUpdateRxSync vc sequence now).lastRxTick
        needRecall := (skyVcUpdateRxSync vc sequence now).needRecall } := by
  rw [skyVcUpdateRxSync]
  split
  · rfl
  · split <;> rfl

theorem processCtrl (h : VcRep vc v) {parsed : SkyParsedFrame} {c : ArqContent w}
    (hreads : parsed.Reads c) (now : Int) :
    VcRep (Skylink.processCtrl vc parsed now) (v.acked c.ctrl) ∧
      SameControl vc (Skylink.processCtrl vc parsed now) ∧
      SameSizes vc (Skylink.processCtrl vc parsed now) := by
  have hread := hreads.ctrl
  rw [Skylink.processCtrl]
  cases hc : c.ctrl with
  | none =>
      rw [hc, Option.map_eq_none_iff] at hread
      rw [hread]
      exact ⟨h, .refl vc, .refl vc⟩
  | some s =>
      rw [hc, Option.map_eq_some_iff] at hread
      obtain ⟨ext, hext, hval⟩ := hread
      rw [hext]
      dsimp only
      rw [hval]
      obtain ⟨hrep, hcontrol, hsizes⟩ := h.updateTxSync s now
      rw [updateRxSync_eq]
      exact ⟨hrep.congr rfl rfl rfl, hcontrol.trans ⟨rfl, rfl, rfl⟩,
        hsizes.trans ⟨rfl, rfl, rfl⟩⟩

theorem processRequest (h : VcRep vc v) (parsed : SkyParsedFrame) :
    VcRep (Skylink.processRequest vc parsed) v ∧
      SameControl vc (Skylink.processRequest vc parsed) ∧
      SameSizes vc (Skylink.processRequest vc parsed) := by
  rw [Skylink.processRequest]
  cases parsed.arqRequest with
  | none => exact ⟨h, .refl vc, .refl vc⟩
  | some ext =>
      obtain ⟨m, hm⟩ := h
      let request : BitVec w × UInt16 := ext.arqReq
      obtain ⟨hsend, hsame⟩ := hm.send.scheduleResendsByMask request.1 request.2
      refine ⟨⟨m, hsend, hm.rcv, ?_⟩, ⟨rfl, rfl, rfl⟩, ⟨hsame.length, rfl, rfl⟩⟩
      show PoolHolds vc.elementBuffer m (ownedIdx _ ++ ownedIdx vc.rcvRing.buff)
      rw [hsame.buff]
      exact hm.pool

/-- A received packet is refused, or stored under its sequence inside the horizon. -/
theorem pushRx (h : VcRep vc v) {src : Bytes} (hsrc : src.length < 65536)
    (sequence : BitVec w) :
    (∃ ret, rcvRingPushRxPacket vc.rcvRing vc.elementBuffer src sequence =
        (vc.rcvRing, vc.elementBuffer, .error ret)) ∨
      ∃ rcvRing eb n, rcvRingPushRxPacket vc.rcvRing vc.elementBuffer src sequence =
          (rcvRing, eb, .ok n) ∧
        (sequence - serial 0 v.rcvHead).toNat ≤ vc.rcvRing.horizonWidth ∧
        v.held (v.rcvHead + (sequence - serial 0 v.rcvHead).toNat) = none ∧
        VcRep { vc with rcvRing := rcvRing, elementBuffer := eb }
          { v with
            rcvHead := v.rcvHead + n
            held := Function.update v.held
              (v.rcvHead + (sequence - serial 0 v.rcvHead).toNat) (some src) } ∧
        rcvRing.length = vc.rcvRing.length ∧
        rcvRing.horizonWidth = vc.rcvRing.horizonWidth := by
  obtain ⟨m, hm⟩ := h
  have hhead := hm.rcv.headSequence
  by_cases hd : (sequence - vc.rcvRing.headSequence).toNat ≤ vc.rcvRing.horizonWidth
  · cases hheld : v.held (v.rcvHead + (sequence - vc.rcvRing.headSequence).toNat) with
    | some p => exact .inl ⟨_, hm.rcv.push_held hd (by rw [hheld]; rfl)⟩
    | none =>
        obtain hfull | ⟨r', eb', n, m', hpush, hrcv, hpool, hkeep, hlen, hwidth⟩ :=
          hm.rcv.push_new hm.poolRcv hsrc hd hheld
        · exact .inl ⟨_, hfull⟩
        · rw [hhead] at hd hheld hrcv
          exact .inr ⟨r', eb', n, hpush, hd, hheld,
            ofRcv hm hrcv hpool hkeep ⟨rfl, rfl, rfl, rfl⟩, hlen, hwidth⟩
  · exact .inl ⟨_, rcvRingPush_beyond (not_le.mp hd)⟩

end VcRep

/-- The receive queue takes a packet at an offset from its head, or stays as it is. -/
inductive Taken (horizon : Nat) (v : VcView) (src : Bytes) (offset : Nat) : VcView → Prop
  | refused : Taken horizon v src offset v
  | stored (n : Nat) (hd : offset ≤ horizon) (hfree : v.held (v.rcvHead + offset) = none) :
      Taken horizon v src offset
        { v with
          rcvHead := v.rcvHead + n
          held := Function.update v.held (v.rcvHead + offset) (some src) }

namespace VcRep

variable {vc : SkyVirtualChannel w} {v : VcView}

theorem pushRxPacket (h : VcRep vc v) {src : Bytes} (hsrc : src.length < 65536)
    (sequence : BitVec w) (now : Int) :
    ∃ v', VcRep (skyVcPushRxPacket vc src sequence now).1 v' ∧
      Taken vc.rcvRing.horizonWidth v src (sequence - serial 0 v.rcvHead).toNat v' ∧
      SameControl vc (skyVcPushRxPacket vc src sequence now).1 ∧
      SameSizes vc (skyVcPushRxPacket vc src sequence now).1 := by
  rw [skyVcPushRxPacket]
  obtain ⟨ret, heq⟩ | ⟨rcvRing, eb, n, heq, hd, hfree, hrep, hlen, hwidth⟩ :=
    h.pushRx hsrc sequence
  · rw [heq]
    exact ⟨v, h.congr rfl rfl rfl, .refused, ⟨rfl, rfl, rfl⟩, ⟨rfl, rfl, rfl⟩⟩
  · rw [heq]
    exact ⟨_, hrep.congr rfl rfl rfl, .stored n hd hfree, ⟨rfl, rfl, rfl⟩,
      ⟨rfl, hlen, hwidth⟩⟩

/-- Without ARQ a packet goes to the head of the queue. -/
theorem pushRxPacketMonotonic (h : VcRep vc v) {src : Bytes} (hsrc : src.length < 65536) :
    ∃ v', VcRep (skyVcPushRxPacketMonotonic vc src).1 v' ∧
      Taken vc.rcvRing.horizonWidth v src 0 v' ∧
      SameControl vc (skyVcPushRxPacketMonotonic vc src).1 ∧
      SameSizes vc (skyVcPushRxPacketMonotonic vc src).1 := by
  have hzero : (vc.rcvRing.headSequence - serial 0 v.rcvHead).toNat = 0 := by
    rw [h.rcvSequences.2, BitVec.sub_self, BitVec.toNat_zero]
  rw [skyVcPushRxPacketMonotonic]
  obtain ⟨ret, heq⟩ | ⟨rcvRing, eb, n, heq, hd, hfree, hrep, hlen, hwidth⟩ :=
    h.pushRx hsrc vc.rcvRing.headSequence
  · rw [heq]
    exact ⟨v, h.congr rfl rfl rfl, .refused, ⟨rfl, rfl, rfl⟩, ⟨rfl, rfl, rfl⟩⟩
  · rw [hzero] at hfree hrep
    rw [heq]
    exact ⟨_, hrep, .stored n (Nat.zero_le _) hfree, ⟨rfl, rfl, rfl⟩, ⟨rfl, hlen, hwidth⟩⟩

/-- What a connected channel does with a frame: the acknowledgement, then the packet. -/
theorem processFrameOn (h : VcRep vc v) {parsed : SkyParsedFrame} {c : ArqContent w}
    (hreads : parsed.Reads c) (hlen : (c.payload.getD []).length < 65536) (now : Int) :
    ∃ v', VcRep (Skylink.processFrameOn vc parsed now).1 v' ∧
      (v' = v.acked c.ctrl ∨ ∃ s, c.sequence = some s ∧ c.payload.isSome ∧
        Taken vc.rcvRing.horizonWidth (v.acked c.ctrl) (c.payload.getD [])
          (s - serial 0 (v.acked c.ctrl).rcvHead).toNat v') ∧
      SameControl vc (Skylink.processFrameOn vc parsed now).1 ∧
      SameSizes vc (Skylink.processFrameOn vc parsed now).1 := by
  obtain ⟨hacked, hcontrol, hsizes⟩ := h.processCtrl hreads now
  have hwidth := hsizes.horizonWidth
  rw [Skylink.processFrameOn]
  generalize Skylink.processCtrl vc parsed now = vc₁ at *
  dsimp only
  by_cases hpos : 0 < parsed.payloadLen
  · rw [if_pos hpos]
    have hsome : c.payload.isSome := by
      rw [hreads.payloadLen] at hpos
      cases hc : c.payload with
      | none => simp [hc] at hpos
      | some p => rfl
    cases hseq : parsed.arqSequence with
    | none => exact ⟨_, hacked, .inl rfl, hcontrol, hsizes⟩
    | some ext =>
        dsimp only
        have hread := hreads.sequence
        rw [hseq, Option.map_some] at hread
        rw [hreads.payloadBytes]
        obtain ⟨v', hrep, htaken, hcontrol', hsizes'⟩ :=
          hacked.pushRxPacket hlen ext.arqSeqSequence now
        obtain ⟨hrep', hcontrol'', hsizes''⟩ := hrep.processRequest parsed
        rw [hwidth] at htaken
        exact ⟨v', hrep', .inr ⟨_, hread.symm, hsome, htaken⟩,
          (hcontrol.trans hcontrol').trans hcontrol'', (hsizes.trans hsizes').trans hsizes''⟩
  · rw [if_neg hpos]
    obtain ⟨hrep, hcontrol', hsizes'⟩ := hacked.processRequest parsed
    exact ⟨_, hrep, .inl rfl, hcontrol.trans hcontrol', hsizes.trans hsizes'⟩

end VcRep

end Skylink
