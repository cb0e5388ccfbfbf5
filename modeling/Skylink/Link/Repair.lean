import Skylink.Link.Stall
import Skylink.Node.Acknowledgement
import Skylink.VirtualChannel.Capacity

/-!
# One frame of a repair

A sender that has sent all its packets, and a receiver that lacks some of them and has nothing
to send itself. What each of the two does when it fills a frame, and when it meets one.
-/

namespace Skylink

open SerialNumber

variable {w : Nat}

/-! ## What a frame says -/

/-- The content of a frame of a connected channel, with what becomes of the request. -/
theorem skyVcFillFrame_filled (vc : SkyVirtualChannel w) (first : FrameStart w)
    (config : SkyConfig) (now : Int) (frames : UInt16) (hw : w ≤ 56) (h8 : 8 ∣ w)
    (hon : vc.arqStateFlag = .on) :
    ∃ vc' tx ret c, skyVcFillFrame vc config first.tx now frames = (vc', tx, ret) ∧
      tx.Carries first.identity first.others first.channel c ∧ FilledOn vc vc' c ret ∧
      c.request = (if vc.requestDue config frames then
        some (vc.rcvRing.headSequence, rcvRingGetHorizonBitmap vc.rcvRing) else none) ∧
      c.ctrl = (if vc.ctrlDue config now frames then
        some (vc.sendRing.txSequence, vc.rcvRing.headSequence) else none) ∧
      vc'.needRecall = (if vc.requestDue config frames then 0 else vc.needRecall) ∧
      vc'.handshakeSend =
        if 0 < vc.handshakeSend then vc.handshakeSend - 1 else vc.handshakeSend := by
  obtain ⟨vc', tx, ret, c, heq, hcarries, hfilled, hsend⟩ :=
    fillFrameOn_carries vc config now frames hw first.carries
  have hfill : skyVcFillFrame vc config first.tx now frames = (vc', tx, ret) := by
    rw [skyVcFillFrame, hon]
    exact heq
  obtain ⟨hrequest, hneed, -, -⟩ := skyVcFillFrame_request vc first config now frames hw h8 hon
  have hctrl := skyVcFillFrame_ctrl_eq vc first config now frames hw h8 hon
  rw [hfill] at hrequest hneed hctrl
  dsimp only at hrequest hneed hctrl
  rw [hcarries.request hw h8] at hrequest
  rw [hcarries.ctrl hw h8] at hctrl
  exact ⟨vc', tx, ret, c, hfill, hcarries, hfilled, hrequest, hctrl, hneed, hsend⟩

/-- Where no packet is due the return code is no error. -/
theorem skyVcFillFrame_idle_ret {vc : SkyVirtualChannel w} (config : SkyConfig)
    (tx : SkyTransmitFrame) (now : Int) (frames : UInt16) (hon : vc.arqStateFlag = .on)
    (hnone : sendRingCountPacketsToSend vc.sendRing true = 0) :
    0 ≤ (skyVcFillFrame vc config tx now frames).2.2 := by
  rw [skyVcFillFrame, hon]
  dsimp only
  rw [fillFrameOn_ret, if_neg (by omega)]
  split_ifs <;> decide

/-! ## The sender -/

/-- The channel has sent the packets of the log, owes no handshake, and can send again what is
in its resend list. -/
structure Resender (vc : SkyVirtualChannel w) (v : VcView) (log : List Bytes) : Prop where
  rep : VcRep vc v
  on : vc.arqStateFlag = .on
  settled : vc.handshakeSend = 0
  drained : v.sendTx = v.sendHead
  recallable : ∀ s ∈ vc.sendRing.resends, sendRingCanRecall vc.sendRing s = true
  logged : log.length = v.sendHead ∧ ∀ i < v.sendHead, log[i]? = some (v.payload i)

namespace Resender

variable {vc : SkyVirtualChannel w} {v : VcView} {log : List Bytes}

theorem fit (h : Resender vc v log) : vc.sendRing.ResendsFit := by
  obtain ⟨m, hm⟩ := h.rep
  exact hm.send.resendsFit

/-- Packets are due as long as some are in the resend list. -/
theorem count (h : Resender vc v log) :
    sendRingCountPacketsToSend vc.sendRing true = vc.sendRing.resends.length := by
  obtain ⟨m, hm⟩ := h.rep
  rw [hm.send.countAll, h.drained, Nat.sub_self, Nat.zero_add, h.fit.length_resends]

/-- What the first entry of the resend list stands for. -/
theorem recalled (h : Resender vc v log) {s : BitVec w} (hs : s ∈ vc.sendRing.resends) :
    ∃ i, v.sendTail ≤ i ∧ i < v.sendTx ∧ serial 0 i = s := by
  have hrecall := (h.rep.canRecall_iff s).mp (h.recallable s hs)
  exact ⟨_, Nat.le_add_right _ _, hrecall, exists_serial _ _ _⟩

/-- The first entry of the resend list is read, and the list is shorter then. -/
theorem read (h : Resender vc v log) {s : BitVec w} (hs : vc.sendRing.resends.head? = some s) :
    ∃ i r, v.sendTail ≤ i ∧ i < v.sendTx ∧ serial 0 i = s ∧
      sendRingReadToTx vc.sendRing vc.elementBuffer true = (r, .ok (v.payload i, s)) ∧
      sendRingPeekNextTxSizeAndSequence vc.sendRing vc.elementBuffer true =
        .ok ((v.payload i).length, s) ∧
      VcRep { vc with sendRing := r } v ∧ r.length = vc.sendRing.length ∧
      r.resends = poppedEntries vc.sendRing.resends := by
  obtain ⟨i, hi, hi', hseq⟩ := h.recalled (List.mem_of_head? hs)
  obtain ⟨m, hm⟩ := id h.rep
  have hhead := hm.send.tx_le_head
  have hdiff : (s - vc.sendRing.tailSequence).toNat = i - v.sendTail := by
    have hroom := hm.send.room
    have hlen := hm.send.lengthLe
    rw [hm.send.tailSequence, ← hseq, serial_sub 0 hi (by omega)]
  have hindex : sendRingGetRecallRingIndex vc.sendRing s = .ok (i % vc.sendRing.length) := by
    rw [hm.send.recallIndex, hdiff, Nat.add_sub_cancel' hi, if_pos hi']
  have hstored := hm.send.readStored hm.pool.stores hi (hi'.trans_le hhead)
  obtain ⟨r, hresends, -, -, -, hreads⟩ :=
    sendRingReadToTx_cases hm.send.resendsFit vc.elementBuffer true
  have hread := hreads s _ _ rfl hs hindex hstored
  obtain ⟨r', u, tx', hread', hpeek, hsend, hsame, -, -, htx, -⟩ | ⟨r', hread', -⟩ :=
    hm.send.readToTx hm.pool.stores true
  · rw [hread] at hread'
    obtain ⟨rfl, hpacket⟩ := Prod.mk.inj hread'
    obtain ⟨hpayload, hserial⟩ := Prod.mk.inj (Except.ok.inj hpacket)
    -- all packets have been sent, so that the transmit head stays where it is
    have hle := hsend.tx_le_head
    have hdrained := h.drained
    obtain rfl : tx' = v.sendTx := by omega
    refine ⟨i, r, hi, hi', hseq, hread, ?_, ⟨m, hsend, hm.rcv, ?_⟩, hsame.length, hresends⟩
    · rw [hpeek, ← hpayload, ← hserial]
    · show PoolHolds vc.elementBuffer m (ownedIdx r.buff ++ ownedIdx vc.rcvRing.buff)
      rw [hsame.buff]
      exact hm.pool
  · rw [hread] at hread'
    cases hread'

end Resender

/-- A frame start of `sky_tx` leaves room for the longest packet behind all extensions but a
handshake. -/
theorem spaceLeft_settled (hw : ArqSequenceWidth w) {vc : SkyVirtualChannel w}
    (hsettled : vc.handshakeSend = 0) {length packetLength : Nat} (hlen : length ≤ 20)
    (hpacket : packetLength ≤ skyPayloadMaxLen) (config : SkyConfig) (now : Int)
    (frames : UInt16) :
    (packetLength + (w / 8 : Nat) + 1 : Int) ≤
      skyFrameGetSpaceLeft (length + vc.extensionsLength config now frames) := by
  rw [skyPayloadMaxLen] at hpacket
  rw [skyFrameGetSpaceLeft, SkyVirtualChannel.extensionsLength, rsMsglen, skyHmacLength, hsettled,
    if_neg (by decide)]
  rcases hw with rfl | rfl <;> split_ifs <;> omega

/-- What the frame of a sender says: its heads, and the packet that is first in its resend
list. -/
structure Answers (v : VcView) (entries : List (BitVec w)) (c : ArqContent w) : Prop where
  handshake : c.handshake = none
  ctrl : ∀ s, c.ctrl = some s → s.1 = serial 0 v.sendTx
  silent : entries = [] → c.payload = none
  packet : ∀ s, entries.head? = some s → ∃ i, v.sendTail ≤ i ∧ i < v.sendTx ∧ serial 0 i = s ∧
    c.sequence = some s ∧ c.payload = some (v.payload i)

/-- The sender sends the packet that is first in its resend list. -/
theorem Resender.fill {vc : SkyVirtualChannel w} {v : VcView} {log : List Bytes}
    (h : Resender vc v log) (hw : ArqSequenceWidth w) (first : FrameStart w)
    (hlen : first.tx.length ≤ 20) (config : SkyConfig) (now : Int) (frames : UInt16) :
    ∃ vc' tx ret c, skyVcFillFrame vc config first.tx now frames = (vc', tx, ret) ∧ 0 ≤ ret ∧
      tx.Carries first.identity first.others first.channel c ∧
      Answers v vc.sendRing.resends c ∧ Resender vc' v log ∧ SameSizes vc vc' ∧
      vc'.sendRing.resends = poppedEntries vc.sendRing.resends ∧
      (vc.ctrlDue config now frames = true → c.ctrl.isSome) := by
  obtain ⟨h8, hw56, -⟩ := hw.bounds
  obtain ⟨vc', tx, ret, c, heq, hcarries, hfilled, -, hctrl, -, hsend⟩ :=
    skyVcFillFrame_filled vc first config now frames hw56 h8 h.on
  have hcount := h.count
  have hhandshake : c.handshake = none := by
    rw [hfilled.handshake, h.settled, if_neg (by decide)]
  have hsettled : vc'.handshakeSend = 0 := by
    rw [hsend, h.settled, if_neg (by decide)]
  have htells : ∀ s, c.ctrl = some s → s.1 = serial 0 v.sendTx := by
    intro s hs
    rw [hfilled.ctrl s hs]
    exact h.rep.sendSequences.2.1
  have hcalled : vc.ctrlDue config now frames = true → c.ctrl.isSome := by
    intro hdue
    rw [hctrl, if_pos hdue]
    rfl
  refine ⟨vc', tx, ret, c, heq, ?_⟩
  cases hentries : vc.sendRing.resends with
  | nil =>
      rw [hentries, List.length_nil] at hcount
      have hret : 0 ≤ ret := by
        have hidle := skyVcFillFrame_idle_ret config first.tx now frames h.on hcount
        rwa [heq] at hidle
      have hring : vc'.sendRing = vc.sendRing ∧ c.payload = none := by
        cases hfilled.payload with
        | idle hdue hring hseq hpayload => exact ⟨hring, hpayload⟩
        | failed hdue => omega
        | written hdue => omega
        | discarded hdue => omega
      have hrep : VcRep vc' v := h.rep.congr hring.1 hfilled.rcvRing hfilled.elementBuffer
      refine ⟨hret, hcarries, ⟨hhandshake, htells, fun _ => hring.2,
        fun s hs => by cases hs⟩, ⟨hrep, hfilled.arqStateFlag.trans h.on,
        hsettled, h.drained, fun s hs => ?_, h.logged⟩, ?_, ?_, hcalled⟩
      · rw [hring.1, hentries] at hs
        cases hs
      · exact ⟨by rw [hring.1], by rw [hfilled.rcvRing], by rw [hfilled.rcvRing]⟩
      · rw [hring.1, hentries]
        rfl
  | cons s entries =>
      have hhead : vc.sendRing.resends.head? = some s := by rw [hentries, List.head?_cons]
      obtain ⟨i, r, hi, hi', hseq, hread, hpeek, hrep, hlength, hresends⟩ := h.read hhead
      have hpos : 0 < sendRingCountPacketsToSend vc.sendRing true := by
        rw [hcount, hentries]
        exact Nat.succ_pos _
      have hpacket := h.rep.payload_length_le hi (hi'.trans_le h.rep.sendOrder.2.1)
      have hret : ret = 1 := by
        have hcode : (skyVcFillFrame vc config first.tx now frames).2.2 = 1 := by
          rw [skyVcFillFrame, h.on]
          dsimp only
          rw [fillFrameOn_ret, if_pos hpos, hpeek]
          exact if_pos (spaceLeft_settled hw h.settled hlen hpacket config now frames)
        rwa [heq] at hcode
      have hring : vc'.sendRing = r ∧ c.sequence = some s ∧ c.payload = some (v.payload i) := by
        cases hfilled.payload with
        | idle hdue => omega
        | failed hdue hpeek' =>
            rw [hpeek] at hpeek'
            cases hpeek'
        | written hdue length sequence hpeek' hring hseq' hpayload =>
            rw [hpeek] at hpeek'
            cases hpeek'
            rw [hread] at hring hpayload
            exact ⟨hring, hseq', hpayload⟩
        | discarded hdue length sequence hpeek' hring hseq' hpayload hcode =>
            rw [hret] at hcode
            cases hcode
      have hrep' : VcRep vc' v := hrep.congr hring.1 hfilled.rcvRing hfilled.elementBuffer
      refine ⟨by rw [hret]; decide, hcarries, ⟨hhandshake, htells,
        fun hnil => absurd hnil (List.cons_ne_nil _ _), fun s' hs' => ?_⟩, ⟨hrep',
        hfilled.arqStateFlag.trans h.on, hsettled, h.drained, fun s' hs' => ?_, h.logged⟩, ?_, ?_,
        hcalled⟩
      · rw [List.head?_cons] at hs'
        cases hs'
        exact ⟨i, hi, hi', hseq, hring.2.1, hring.2.2⟩
      · rw [hring.1, hresends] at hs'
        have hmem := List.mem_of_mem_dropLast (mem_poppedEntries hs')
        rw [hrep'.canRecall_iff, ← h.rep.canRecall_iff]
        exact h.recallable s' hmem
      · exact ⟨by rw [hring.1, hlength], by rw [hfilled.rcvRing], by rw [hfilled.rcvRing]⟩
      · rw [hring.1, hresends, hentries]

/-- A frame without handshake is met in the state that the channel is in. -/
theorem skyVcProcessFrame_settled {vc : SkyVirtualChannel w} {parsed : SkyParsedFrame}
    {c : ArqContent w} (hreads : parsed.Reads c) (hnone : c.handshake = none)
    (hon : vc.arqStateFlag = .on) (tickTime now : Int) :
    (skyVcProcessFrame tickTime vc parsed now).1 = (processFrameOn vc parsed now).1 := by
  have hsame : processHandshake tickTime vc parsed = vc := by
    rw [processHandshake_reads hreads, hnone]
  rw [skyVcProcessFrame_fst, hsame, processContents, hon]

theorem processCtrl_resends (vc : SkyVirtualChannel w) (parsed : SkyParsedFrame) (now : Int) :
    (processCtrl vc parsed now).sendRing.resends = vc.sendRing.resends := by
  rw [processCtrl]
  cases parsed.arqCtrl with
  | none => rfl
  | some ext =>
      dsimp only
      rw [VcRep.updateRxSync_eq]
      exact sendRingCleanTailUpTo_resends _ _ _

/-- A request is added to the resend list, as far as it can be recalled. -/
theorem processRequest_resends {vc : SkyVirtualChannel w} (hfit : vc.sendRing.ResendsFit)
    {parsed : SkyParsedFrame} {c : ArqContent w} (hreads : parsed.Reads c) :
    (processRequest vc parsed).sendRing.resends =
        c.request.elim vc.sendRing.resends (fun request =>
          scheduled (sendRingCanRecall vc.sendRing) vc.sendRing.resends
            (requestedSequences request.1 request.2)) ∧
      sendRingCanRecall (processRequest vc parsed).sendRing =
        sendRingCanRecall vc.sendRing := by
  have hread := hreads.request
  rw [processRequest]
  cases hext : parsed.arqRequest with
  | none =>
      rw [hext, Option.map_none] at hread
      rw [← hread]
      exact ⟨rfl, rfl⟩
  | some ext =>
      rw [hext, Option.map_some] at hread
      rw [← hread]
      let request : BitVec w × UInt16 := ext.arqReq
      obtain ⟨r', heq, hresends, -, hsame⟩ :=
        sendRingScheduleResendsByMask_eq hfit request.1 request.2
      have hring : (sendRingScheduleResendsByMask vc.sendRing request.1 request.2).1 = r' := heq
      dsimp only
      refine ⟨(congrArg SkySendRing.resends hring).trans hresends, ?_⟩
      refine (congrArg sendRingCanRecall hring).trans ?_
      rw [hsame]
      rfl

/-- The sender acknowledges what the receiver has told, and schedules what it asks for. -/
theorem Resender.process {vc : SkyVirtualChannel w} {v : VcView} {log : List Bytes}
    (h : Resender vc v log) {parsed : SkyParsedFrame} {c : ArqContent w}
    (hreads : parsed.Reads c) (hsilent : c.handshake = none ∧ c.payload = none) {k : Nat}
    (hk : v.sendTail ≤ k) (hk' : k ≤ v.sendTx)
    (hctrl : ∀ s, c.ctrl = some s → s.2 = serial 0 k) (hempty : vc.sendRing.resends = [])
    (tickTime now : Int) :
    ∃ vc' v', (skyVcProcessFrame tickTime vc parsed now).1 = vc' ∧ Resender vc' v' log ∧
      v'.sendTail ≤ k ∧ v'.sendTx = v.sendTx ∧ SameSizes vc vc' ∧
      ∀ mask, c.request = some (serial 0 k, mask) → k < v.sendTx →
        vc'.sendRing.resends.head? = some (serial 0 k) := by
  obtain ⟨hle, hle', hroom, hlen⟩ := h.rep.sendOrder
  obtain ⟨hrep, hcontrol, hsizes⟩ := h.rep.processCtrl hreads now
  have hacked : v.acked c.ctrl = { v with sendTail := (v.acked c.ctrl).sendTail } ∧
      (v.acked c.ctrl).sendTail ≤ k := by
    cases hc : c.ctrl with
    | none => exact ⟨rfl, hk⟩
    | some s =>
        rw [VcView.acked, hctrl s hc, serial_sub 0 hk (by omega), Nat.add_sub_cancel' hk,
          if_pos hk']
        exact ⟨rfl, le_rfl⟩
  have hnil := (processCtrl_resends vc parsed now).trans hempty
  have hprocess : (skyVcProcessFrame tickTime vc parsed now).1 =
      processRequest (processCtrl vc parsed now) parsed := by
    have hnone : ¬0 < parsed.payloadLen := by
      rw [hreads.payloadLen, hsilent.2]
      exact Nat.lt_irrefl 0
    rw [skyVcProcessFrame_settled hreads hsilent.1 h.on, processFrameOn]
    dsimp only
    rw [if_neg hnone]
  rw [hprocess]
  generalize processCtrl vc parsed now = vc₁ at *
  generalize v.acked c.ctrl = v₁ at *
  obtain ⟨hsame, htail⟩ := hacked
  obtain ⟨hrep', hcontrol', hsizes'⟩ := hrep.processRequest parsed
  have hfit : vc₁.sendRing.ResendsFit := by
    obtain ⟨m, hm⟩ := hrep
    exact hm.send.resendsFit
  obtain ⟨hresends, hrecall⟩ := processRequest_resends hfit hreads
  rw [hnil] at hresends
  refine ⟨_, v₁, rfl, ⟨hrep', ?_, ?_, ?_, ?_, ?_⟩, htail, by rw [hsame],
    hsizes.trans hsizes', ?_⟩
  · exact (hcontrol.trans hcontrol').arqStateFlag.trans h.on
  · exact (hcontrol.trans hcontrol').handshakeSend.trans h.settled
  · rw [hsame]
    exact h.drained
  · intro s hs
    rw [hresends] at hs
    rw [hrecall]
    cases hc : c.request with
    | none =>
        rw [hc] at hs
        cases hs
    | some request =>
        rw [hc] at hs
        exact (mem_scheduled hs).resolve_left List.not_mem_nil
  · rw [hsame]
    exact h.logged
  · intro mask hmask hlt
    have hfirst : sendRingCanRecall vc₁.sendRing (serial 0 k) = true := by
      have htx : v₁.sendTx = v.sendTx := by rw [hsame]
      obtain ⟨-, hle₁, hroom₁, hlen₁⟩ := hrep.sendOrder
      rw [hrep.canRecall_iff, serial_sub 0 htail (by omega)]
      omega
    rw [hresends, hmask]
    show (scheduled _ [] (requestedSequences (serial 0 k) mask)).head? = _
    have hempty : ([] : List (BitVec w)).length < arqResendScheduleDepth := Nat.succ_pos _
    rw [requestedSequences, scheduled_cons, if_pos ⟨hempty, hfirst⟩, if_neg List.not_mem_nil]
    obtain ⟨rest, hrest⟩ := scheduled_prefix (sendRingCanRecall vc₁.sendRing) [serial 0 k]
      ((clearBits mask 0 16).map fun i => serial 0 k + 1 + BitVec.ofNat w i)
    rw [List.nil_append, ← hrest]
    rfl

/-! ## The receiver -/

/-- The number in a window that falls on a slot. -/
theorem exists_slot {len i : Nat} (hi : i < len) (base : Nat) :
    ∃ u, base ≤ u ∧ u < base + len ∧ u % len = i := by
  have hbase := Nat.div_add_mod base len
  have hlt := Nat.mod_lt base (Nat.zero_lt_of_lt hi)
  by_cases hle : base % len ≤ i
  · refine ⟨len * (base / len) + i, by omega, by omega, ?_⟩
    rw [Nat.mul_add_mod, Nat.mod_eq_of_lt hi]
  · refine ⟨len * (base / len) + (len + i), by omega, by omega, ?_⟩
    rw [Nat.mul_add_mod, Nat.add_mod_left, Nat.mod_eq_of_lt hi]

/-- A chain that a ring owns holds a payload of its window. -/
theorem SlotsHold.of_owned {m : Nat → Option Bytes} {buff : List (RingItem w)} {len base : Nat}
    {start : BitVec w} {val : Nat → Option Bytes} (h : SlotsHold m buff len start base val)
    {idx : Nat} (hidx : idx ∈ ownedIdx buff) : ∃ u p, val u = some p ∧ m idx = some p := by
  obtain ⟨hmem, hne⟩ := List.mem_filter.mp hidx
  obtain ⟨item, hitem, rfl⟩ := List.mem_map.mp hmem
  obtain ⟨i, hi, rfl⟩ := List.mem_iff_getElem.mp hitem
  obtain ⟨u, hlo, hhi, hslot⟩ := exists_slot (h.length ▸ hi : i < len) base
  have hget : buff.getD (u % len) RingItem.vacant = buff[i] := by
    rw [hslot, List.getD_eq_getElem _ _ hi]
  cases hval : val u with
  | none =>
      have hvacant := (h.vacant_iff hlo hhi).mpr hval
      rw [hget] at hvacant
      exact absurd hvacant (of_decide_eq_true hne)
  | some p =>
      obtain ⟨-, -, -, hm⟩ := h.held hlo hval
      rw [hget] at hm
      exact ⟨u, p, hval, hm⟩

/-- The element buffer has room for a payload of the greatest length in every slot of the
receive ring. -/
def SkyVirtualChannel.RcvRingFits (vc : SkyVirtualChannel w) : Prop :=
  vc.rcvRing.length * vc.longestRequirement ≤ vc.elementBuffer.elementCount

theorem SameLayout.rcvRingFits {vc vc' : SkyVirtualChannel w} (h : SameLayout vc vc')
    (hfits : vc.RcvRingFits) : vc'.RcvRingFits := by
  rw [SkyVirtualChannel.RcvRingFits, SkyVirtualChannel.longestRequirement, h.rcvLength,
    requirement_congr h.shape.2, h.shape.1]
  exact hfits

/-- The channel has nothing to send and owes no handshake. What it holds is of the log, and
there is room for the rest of the log. -/
structure Requester (vc : SkyVirtualChannel w) (u : VcView) (log : List Bytes) : Prop where
  rep : VcRep vc u
  on : vc.arqStateFlag = .on
  settled : vc.handshakeSend = 0
  quiet : u.sendTail = u.sendHead
  idle : vc.sendRing.resends = []
  short : ∀ p ∈ log, p.length ≤ skyPayloadMaxLen
  content : ∀ i p, u.held i = some p → log[i]? = some p
  head_le : u.rcvHead ≤ log.length
  gap : log.length ≤ u.rcvHead + arqMaximumHorizon
  room : log.length + vc.rcvRing.horizonWidth < u.rcvTail + vc.rcvRing.length
  capacity : vc.RcvRingFits

/-- Nothing is missing, or the receiver remembers that something is. -/
def Noticed (vc : SkyVirtualChannel w) (u : VcView) (log : List Bytes) : Prop :=
  u.rcvHead = log.length ∨ vc.needRecall ≠ 0

namespace Requester

variable {vc vc' : SkyVirtualChannel w} {u : VcView} {log : List Bytes}

/-- Control fields do not matter, and neither does what has become of the acknowledged
packets. -/
theorem congr (h : Requester vc u log) (hrep : VcRep vc' u) (hcontrol : SameControl vc vc')
    (hsizes : SameSizes vc vc') (hlayout : SameLayout vc vc')
    (hresends : vc'.sendRing.resends = []) : Requester vc' u log := by
  refine ⟨hrep, hcontrol.arqStateFlag.trans h.on, hcontrol.handshakeSend.trans h.settled,
    h.quiet, hresends, h.short, h.content, h.head_le, h.gap, ?_, hlayout.rcvRingFits h.capacity⟩
  rw [hsizes.horizonWidth, hsizes.rcvLength]
  exact h.room

/-- Nothing can be recalled from an empty window. -/
theorem canRecall (h : Requester vc u log) (s : BitVec w) :
    sendRingCanRecall vc.sendRing s = false := by
  obtain ⟨hle, hle', -, -⟩ := h.rep.sendOrder
  have hquiet := h.quiet
  rw [← Bool.not_eq_true, h.rep.canRecall_iff]
  omega

theorem count (h : Requester vc u log) : sendRingCountPacketsToSend vc.sendRing true = 0 := by
  obtain ⟨hle, hle', -, -⟩ := h.rep.sendOrder
  have hquiet := h.quiet
  obtain ⟨m, hm⟩ := h.rep
  have hnone := hm.send.resendsFit.resends_eq_nil.mp h.idle
  rw [hm.send.countAll, hnone]
  omega

/-- The receiver asks for what comes from its head on. -/
theorem fill (h : Requester vc u log) (hw : ArqSequenceWidth w) (first : FrameStart w)
    (config : SkyConfig) (now : Int) (frames : UInt16) :
    ∃ vc' tx ret c, skyVcFillFrame vc config first.tx now frames = (vc', tx, ret) ∧ 0 ≤ ret ∧
      tx.Carries first.identity first.others first.channel c ∧ c.handshake = none ∧
      c.payload = none ∧ (∀ s, c.ctrl = some s → s.2 = serial 0 u.rcvHead) ∧
      (vc.requestDue config frames = true →
        ∃ mask, c.request = some (serial 0 u.rcvHead, mask)) ∧
      Requester vc' u log ∧ SameSizes vc vc' := by
  obtain ⟨h8, hw56, -⟩ := hw.bounds
  obtain ⟨vc', tx, ret, c, heq, hcarries, hfilled, hrequest, -, -, hsend⟩ :=
    skyVcFillFrame_filled vc first config now frames hw56 h8 h.on
  have hcount := h.count
  have hhead := h.rep.rcvSequences.2
  have hret : 0 ≤ ret := by
    have hidle := skyVcFillFrame_idle_ret config first.tx now frames h.on hcount
    rwa [heq] at hidle
  have hring : vc'.sendRing = vc.sendRing ∧ c.payload = none := by
    cases hfilled.payload with
    | idle hdue hring hseq hpayload => exact ⟨hring, hpayload⟩
    | failed hdue => omega
    | written hdue => omega
    | discarded hdue => omega
  have hhandshake : c.handshake = none := by
    rw [hfilled.handshake, h.settled, if_neg (by decide)]
  have hsettled : vc'.handshakeSend = vc.handshakeSend := by
    rw [hsend, h.settled, if_neg (by decide)]
  have hsizes : SameSizes vc vc' :=
    ⟨by rw [hring.1], by rw [hfilled.rcvRing], by rw [hfilled.rcvRing]⟩
  have hlayout : SameLayout vc vc' := by
    have hfill := vc.fillFrame_layout config first.tx now frames
    rwa [heq] at hfill
  refine ⟨vc', tx, ret, c, heq, hret, hcarries, hhandshake, hring.2, fun s hs => ?_,
    fun hdue => ?_, h.congr ?_ ?_ hsizes hlayout ?_, hsizes⟩
  · rw [hfilled.ctrl s hs]
    exact hhead
  · rw [hrequest, if_pos hdue, hhead]
    exact ⟨_, rfl⟩
  · exact h.rep.congr hring.1 hfilled.rcvRing hfilled.elementBuffer
  · exact ⟨hfilled.arqStateFlag, hsettled, hfilled.arqSessionIdentifier⟩
  · rw [hring.1]
    exact h.idle

/-- A request to the receiver is for nothing that it could send. -/
theorem request (h : Requester vc u log) {parsed : SkyParsedFrame} {c : ArqContent w}
    (hreads : parsed.Reads c) :
    Requester (processRequest vc parsed) u log ∧ SameSizes vc (processRequest vc parsed) := by
  obtain ⟨hrep, hcontrol, hsizes⟩ := h.rep.processRequest parsed
  have hfit : vc.sendRing.ResendsFit := by
    obtain ⟨m, hm⟩ := h.rep
    exact hm.send.resendsFit
  refine ⟨h.congr hrep hcontrol hsizes ⟨hsizes.sendLength, hsizes.rcvLength, ?_⟩ ?_, hsizes⟩
  · rw [processRequest]
    cases parsed.arqRequest <;> exact ⟨rfl, rfl⟩
  · rw [(processRequest_resends hfit hreads).1, h.idle]
    cases c.request with
    | none => rfl
    | some request =>
        show scheduled _ [] (requestedSequences request.1 request.2) = []
        rw [requestedSequences, scheduled_cons, if_neg]
        rw [h.canRecall]
        simp

/-- The receiver compares its head with the one that the sender tells. -/
theorem ctrl (h : Requester vc u log) (hw : ArqSequenceWidth w) {parsed : SkyParsedFrame}
    {c : ArqContent w} (hreads : parsed.Reads c)
    (hctrl : ∀ s, c.ctrl = some s → s.1 = serial 0 log.length) (now : Int) :
    Requester (processCtrl vc parsed now) u log ∧ SameSizes vc (processCtrl vc parsed now) ∧
      (c.ctrl.isSome → Noticed (processCtrl vc parsed now) u log) := by
  obtain ⟨-, -, h250⟩ := hw.bounds
  obtain ⟨hle, hle', -, -⟩ := h.rep.sendOrder
  have hquiet := h.quiet
  have hgap := h.gap
  have hheadLe := h.head_le
  rw [arqMaximumHorizon] at hgap
  obtain ⟨hrep, hcontrol, hsizes⟩ := h.rep.processCtrl hreads now
  -- an acknowledgement does not move the tail of an empty window
  have hsame : u.acked c.ctrl = u := by
    cases hc : c.ctrl with
    | none => rfl
    | some s =>
        rw [VcView.acked]
        split
        · have hzero : (s.2 - serial 0 u.sendTail).toNat = 0 := by omega
          rw [hzero]
          rfl
        · rfl
  rw [hsame] at hrep
  have hlayout : SameLayout vc (processCtrl vc parsed now) := by
    rw [processCtrl]
    cases parsed.arqCtrl with
    | none => exact .refl vc
    | some ext =>
        dsimp only
        exact (vc.updateTxSync_layout _ now).trans (SkyVirtualChannel.updateRxSync_layout _ _ now)
  have hresends := (processCtrl_resends vc parsed now).trans h.idle
  refine ⟨h.congr hrep hcontrol hsizes hlayout hresends, hsizes, fun htold => ?_⟩
  have hread := hreads.ctrl
  rw [processCtrl]
  cases hext : parsed.arqCtrl with
  | none =>
      rw [hext, Option.map_none] at hread
      rw [← hread] at htold
      cases htold
  | some ext =>
      rw [hext, Option.map_some] at hread
      have htx := hctrl _ hread.symm
      by_cases hall : u.rcvHead = log.length
      · exact .inl hall
      · refine .inr ?_
        have hhead : (skyVcUpdateTxSync vc
            (ext.arqCtrlSequences : BitVec w × BitVec w).2 now).rcvRing.headSequence =
            serial 0 u.rcvHead := h.rep.rcvSequences.2
        have hdiff : (serial (0 : BitVec w) log.length - serial 0 u.rcvHead).toNat =
            log.length - u.rcvHead := serial_sub 0 hheadLe (by omega)
        have hne : serial (0 : BitVec w) log.length ≠ serial 0 u.rcvHead := by
          intro heq
          rw [heq, BitVec.sub_self, BitVec.toNat_zero] at hdiff
          omega
        show (skyVcUpdateRxSync (skyVcUpdateTxSync vc
          (ext.arqCtrlSequences : BitVec w × BitVec w).2 now)
          (ext.arqCtrlSequences : BitVec w × BitVec w).1 now).needRecall ≠ 0
        rw [htx, skyVcUpdateRxSync_needRecall_iff _ now (by rw [hhead]; exact hne), hhead, hdiff,
          arqMaximumHorizon]
        omega

/-- As long as the packet at the head is missing there is room for it. -/
theorem free (h : Requester vc u log) (hmissing : u.held u.rcvHead = none) :
    (vc.longestRequirement : Int) ≤ vc.elementBuffer.freeElements := by
  obtain ⟨m, hm⟩ := h.rep
  have hquiet := h.quiet
  have hcapacity := h.capacity
  rw [SkyVirtualChannel.RcvRingFits] at hcapacity
  have hsend : ownedIdx vc.sendRing.buff = [] := by
    rw [← List.length_eq_zero_iff, hm.send.owned_length, hquiet, Nat.sub_self]
  have hfewer : (ownedIdx vc.rcvRing.buff).length < vc.rcvRing.length :=
    hm.rcv.owned_length_lt_iff.mpr ⟨0, Nat.zero_le _, hmissing⟩
  have hsum := hm.pool.freeElements
  rw [hsend, List.nil_append] at hsum
  -- each chain takes no more elements than that of the longest packet
  have hbound : (((ownedIdx vc.rcvRing.buff).map vc.elementBuffer.lengthAt).map
      (skyElementBufferElementRequirementFor vc.elementBuffer)).sum ≤
      (ownedIdx vc.rcvRing.buff).length * vc.longestRequirement := by
    rw [← smul_eq_mul, ← List.length_map vc.elementBuffer.lengthAt,
      ← List.length_map (skyElementBufferElementRequirementFor vc.elementBuffer)]
    refine List.sum_le_card_nsmul _ _ fun n hn => ?_
    obtain ⟨length, hlength, rfl⟩ := List.mem_map.mp hn
    obtain ⟨idx, hidx, rfl⟩ := List.mem_map.mp hlength
    obtain ⟨i, p, hp, hstored⟩ := hm.rcv.slots.of_owned hidx
    have hshort := h.short p (List.mem_of_getElem? (h.content i p hp))
    rw [SkyElementBuffer.lengthAt, hm.pool.stores.getDataLength hstored]
    show skyElementBufferElementRequirementFor vc.elementBuffer p.length ≤
      skyElementBufferElementRequirementFor vc.elementBuffer skyPayloadMaxLen
    exact Nat.div_le_div_right (by omega)
  have hfew : ((ownedIdx vc.rcvRing.buff).length + 1) * vc.longestRequirement ≤
      vc.rcvRing.length * vc.longestRequirement := Nat.mul_le_mul_right _ hfewer
  rw [Nat.succ_mul] at hfew
  omega

/-- The packet at the head is not refused. -/
theorem accepts (h : Requester vc u log) {p : Bytes} (hp : log[u.rcvHead]? = some p)
    (ret : SkyRet) :
    rcvRingPushRxPacket vc.rcvRing vc.elementBuffer p (serial 0 u.rcvHead) ≠
      (vc.rcvRing, vc.elementBuffer, .error ret) := by
  intro hrefused
  obtain ⟨m, hm⟩ := id h.rep
  have hlt := (List.getElem?_eq_some_iff.mp hp).1
  have hroom := h.room
  have hshort := h.short p (List.mem_of_getElem? hp)
  have hlong : p.length < 65536 := hshort.trans_lt (by decide)
  have hmissing : u.held u.rcvHead = none := hm.rcv.stop.resolve_right (by omega)
  have hzero : (serial 0 u.rcvHead - vc.rcvRing.headSequence).toNat = 0 := by
    rw [hm.rcv.headSequence, BitVec.sub_self, BitVec.toNat_zero]
  have hopen : vc.rcvRing.SlotOpen (serial 0 u.rcvHead) := by
    have hslot := hm.rcv.slot_ahead 0
    have horder := hm.rcv.order
    rw [SkyRcvRing.SlotOpen, hzero]
    refine ⟨Nat.zero_le _, ?_⟩
    push_cast at hslot ⊢
    rw [hslot, Nat.add_zero]
    exact (hm.rcv.item_vacant_iff horder (by omega)).mpr hmissing
  have hspace : ¬vc.elementBuffer.freeElements <
      skyElementBufferElementRequirementFor vc.elementBuffer p.length := by
    have hrequired : skyElementBufferElementRequirementFor vc.elementBuffer p.length ≤
        vc.longestRequirement := Nat.div_le_div_right (by omega)
    have := h.free hmissing
    omega
  obtain hfull | ⟨r', eb', n, m', hstored, -⟩ :=
    hm.rcv.push_new hm.poolRcv hlong (hzero.trans_le (Nat.zero_le _)) (by rwa [hzero])
  · exact hspace ((rcvRingPush_noSpace_iff hm.pool.stores hlong hopen).mp (by rw [hfull]))
  · rw [hrefused] at hstored
    cases congrArg (·.2.2) hstored

/-- A packet of the log is taken or refused; the one that is missing at the head is taken, and
the head moves on. -/
theorem push (h : Requester vc u log) (hw : ArqSequenceWidth w) {i : Nat} {p : Bytes}
    (hp : log[i]? = some p) (hback : u.rcvHead + vc.rcvRing.horizonWidth < i + 2 ^ w) (now : Int) :
    ∃ vc' u', (skyVcPushRxPacket vc p (serial 0 i) now).1 = vc' ∧ Requester vc' u' log ∧
      SameSizes vc vc' ∧ u.rcvHead ≤ u'.rcvHead ∧ u'.rcvTail = u.rcvTail ∧
      vc'.needRecall = vc.needRecall ∧ (i = u.rcvHead → u.rcvHead < u'.rcvHead) := by
  obtain ⟨-, -, h250⟩ := hw.bounds
  have hlt := (List.getElem?_eq_some_iff.mp hp).1
  have hgap := h.gap
  rw [arqMaximumHorizon] at hgap
  have hlong : p.length < 65536 := (h.short p (List.mem_of_getElem? hp)).trans_lt (by decide)
  have hlayout := vc.pushRxPacket_layout p (serial 0 i) now
  rw [skyVcPushRxPacket] at hlayout ⊢
  obtain ⟨ret, heq⟩ | ⟨rcvRing, eb, n, heq, hd, hfree, hrep, hlen, hwidth⟩ :=
    h.rep.pushRx hlong (serial 0 i)
  · rw [heq] at hlayout ⊢
    refine ⟨_, u, rfl, ?_, ⟨rfl, rfl, rfl⟩, le_rfl, rfl, rfl, ?_⟩
    · exact h.congr (h.rep.congr rfl rfl rfl) ⟨rfl, rfl, rfl⟩ ⟨rfl, rfl, rfl⟩ hlayout h.idle
    · rintro rfl
      exact absurd heq (h.accepts hp ret)
  · have hplace : u.rcvHead + (serial (0 : BitVec w) i - serial 0 u.rcvHead).toNat = i := by
      rcases Nat.lt_or_ge i u.rcvHead with hbefore | hafter
      · rw [serial_sub_of_lt 0 hbefore (by omega)] at hd
        omega
      · rw [serial_sub 0 hafter (by omega)]
        omega
    rw [heq] at hlayout ⊢
    rw [hplace] at hrep
    have hrep' : VcRep { vc with
        rcvRing := rcvRing
        elementBuffer := eb
        lastRxTick := if 0 < n then now else vc.lastRxTick
        unconfirmedPayloads := vc.unconfirmedPayloads + 1 } _ := hrep.congr rfl rfl rfl
    have hcontent : ∀ j q, Function.update u.held i (some p) j = some q → log[j]? = some q := by
      intro j q hq
      by_cases hj : j = i
      · rw [hj, Function.update_self] at hq
        rw [hj, hp, hq]
      · rw [Function.update_of_ne hj] at hq
        exact h.content j q hq
    have hle : u.rcvHead + n ≤ log.length := by
      rcases Nat.eq_zero_or_pos n with rfl | hpos
      · exact h.head_le
      · obtain ⟨horder, -⟩ := h.rep.rcvOrder
        obtain ⟨q, hq⟩ := Option.isSome_iff_exists.mp
          (hrep'.readable (u := u.rcvHead + n - 1) (by dsimp only; omega) (by dsimp only; omega))
        have := (List.getElem?_eq_some_iff.mp (hcontent _ _ hq)).1
        omega
    refine ⟨_, _, rfl, ⟨hrep', h.on, h.settled, h.quiet, h.idle, h.short, hcontent, hle, ?_, ?_,
      hlayout.rcvRingFits h.capacity⟩, ⟨rfl, hlen, hwidth⟩, Nat.le_add_right _ _, rfl, rfl, ?_⟩
    · rw [arqMaximumHorizon]
      dsimp only
      omega
    · dsimp only
      rw [hlen, hwidth]
      exact h.room
    · rintro rfl
      obtain ⟨m, hm⟩ := hrep'
      have hstop := hm.rcv.stop
      have hroom := h.room
      dsimp only at hstop ⊢
      rcases Nat.eq_zero_or_pos n with rfl | hpos
      · rw [Nat.add_zero, Function.update_self, hwidth, hlen] at hstop
        rcases hstop with hnone | hstall
        · cases hnone
        · omega
      · omega

theorem noticed_of_le (h : Requester vc' u log) {u₀ : VcView} (hle : u₀.rcvHead ≤ u.rcvHead)
    (hneed : vc'.needRecall = vc.needRecall) (hnoticed : Noticed vc u₀ log) :
    Noticed vc' u log := by
  rcases hnoticed with hall | hneeds
  · exact .inl (le_antisymm h.head_le (hall.ge.trans hle))
  · exact .inr (by rwa [hneed])

/-- The receiver takes what the frame of the sender carries. If that is the packet missing at
its head, the head moves on. -/
theorem process (h : Requester vc u log) (hw : ArqSequenceWidth w) {sender : SkyVirtualChannel w}
    {v : VcView} (hsender : Resender sender v log) {entries : List (BitVec w)} {c : ArqContent w}
    (hanswers : Answers v entries c) {parsed : SkyParsedFrame} (hreads : parsed.Reads c)
    (horder : v.sendTail ≤ u.rcvHead)
    (hback : u.rcvHead + vc.rcvRing.horizonWidth < v.sendTail + 2 ^ w)
    (hfull : ∀ p, log[u.rcvHead]? = some p → p ≠ []) (tickTime now : Int) :
    ∃ vc' u', (skyVcProcessFrame tickTime vc parsed now).1 = vc' ∧ Requester vc' u' log ∧
      SameSizes vc vc' ∧ u.rcvHead ≤ u'.rcvHead ∧ u'.rcvTail = u.rcvTail ∧
      (entries.head? = some (serial 0 u.rcvHead) → u.rcvHead < log.length →
        u.rcvHead < u'.rcvHead) ∧
      (c.ctrl.isSome → Noticed vc' u' log) := by
  obtain ⟨hle, hle', hroom, hlen⟩ := hsender.rep.sendOrder
  have htx : v.sendTx = log.length := hsender.drained.trans hsender.logged.1.symm
  obtain ⟨h₁, hsizes₁, hnoticed₁⟩ :=
    h.ctrl hw hreads (fun s hs => (hanswers.ctrl s hs).trans (by rw [htx])) now
  have hneed (vc : SkyVirtualChannel w) :
      (processRequest vc parsed).needRecall = vc.needRecall := by
    rw [processRequest]
    cases parsed.arqRequest <;> rfl
  rw [skyVcProcessFrame_settled hreads hanswers.handshake h.on, processFrameOn]
  dsimp only
  have hwidth := hsizes₁.horizonWidth
  generalize processCtrl vc parsed now = vc₁ at *
  by_cases hpos : 0 < parsed.payloadLen
  · obtain ⟨s, hs⟩ : ∃ s, entries.head? = some s := by
      cases entries with
      | nil =>
          rw [hreads.payloadLen, hanswers.silent rfl] at hpos
          exact absurd hpos (Nat.lt_irrefl 0)
      | cons s entries => exact ⟨s, rfl⟩
    obtain ⟨i, hi, hi', hseq, hsequence, hpayload⟩ := hanswers.packet s hs
    have hlog := hsender.logged.2 i (hi'.trans_le hle')
    have hread := hreads.sequence
    rw [hsequence] at hread
    obtain ⟨ext, hext, hval⟩ := Option.map_eq_some_iff.mp hread
    have hbytes : parsed.payloadBytes = v.payload i := by
      rw [hreads.payloadBytes, hpayload]
      rfl
    rw [if_pos hpos, hext]
    dsimp only
    rw [hval, hbytes, ← hseq]
    obtain ⟨vc₂, u', heq, h₂, hsizes₂, hmono, htail, hsame, hmoves⟩ :=
      h₁.push hw hlog (by rw [hwidth]; omega) now
    rw [heq]
    obtain ⟨h₃, hsizes₃⟩ := h₂.request hreads
    refine ⟨_, u', rfl, h₃, hsizes₁.trans (hsizes₂.trans hsizes₃), hmono, htail,
      fun hhead hmissing => hmoves ?_,
      fun htold => h₃.noticed_of_le hmono ((hneed vc₂).trans hsame) (hnoticed₁ htold)⟩
    obtain rfl := Option.some.inj (hs.symm.trans hhead)
    exact serial_inj 0 hi (by omega) horder (by omega) hseq
  · rw [if_neg hpos]
    obtain ⟨h₂, hsizes₂⟩ := h₁.request hreads
    refine ⟨_, u, rfl, h₂, hsizes₁.trans hsizes₂, le_rfl, rfl, fun hhead hmissing => ?_,
      fun htold => h₂.noticed_of_le le_rfl (hneed vc₁) (hnoticed₁ htold)⟩
    -- the packet at the head has bytes, and a frame with bytes is not without payload
    obtain ⟨i, hi, hi', hseq, -, hpayload⟩ := hanswers.packet _ hhead
    obtain rfl : i = u.rcvHead := serial_inj 0 hi (by omega) horder (by omega) hseq
    have hne := hfull _ (hsender.logged.2 _ (hi'.trans_le hle'))
    rw [hreads.payloadLen, hpayload] at hpos
    exact absurd (List.length_pos_iff.mpr hne) hpos

end Requester

end Skylink
