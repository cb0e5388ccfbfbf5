import Skylink.Link.Loss
import Skylink.VirtualChannel.Runs

/-!
# Where a sender falls silent

A packet that is scheduled for retransmission may be acknowledged before it is sent again.
Then its entry stays first in the resend list and cannot be recalled any more. Unless there
is a new packet to send, the channel fills no frame from then on.
-/

namespace Skylink

open SerialNumber SessionWindow

variable {w : Nat}

theorem VcRep.canRecall_iff {vc : SkyVirtualChannel w} {v : VcView} (h : VcRep vc v)
    (sequence : BitVec w) : sendRingCanRecall vc.sendRing sequence = true ↔
      v.sendTail + (sequence - serial 0 v.sendTail).toNat < v.sendTx := by
  obtain ⟨m, hm⟩ := h
  rw [hm.send.canRecall_iff, hm.send.tailSequence]

theorem scheduled_prefix (canRecall : BitVec w → Bool) (entries candidates : List (BitVec w)) :
    entries <+: scheduled canRecall entries candidates := by
  induction candidates generalizing entries with
  | nil => exact List.prefix_rfl
  | cons s candidates ih =>
      rw [scheduled_cons]
      split
      · refine List.IsPrefix.trans ?_ (ih _)
        split
        · exact List.prefix_rfl
        · exact List.prefix_append entries [s]
      · exact List.prefix_rfl

/-! ## Stalled channels -/

/-- The first packet that is scheduled cannot be recalled, and no packet is new. -/
structure SkyVirtualChannel.Stalled (vc : SkyVirtualChannel w) : Prop where
  on : vc.arqStateFlag = .on
  stale : ∃ s ∈ vc.sendRing.resends.head?, sendRingCanRecall vc.sendRing s = false
  drained : sendRingCountPacketsToSend vc.sendRing false = 0

instance (vc : SkyVirtualChannel w) : Decidable vc.Stalled :=
  decidable_of_iff (vc.arqStateFlag = .on ∧
      (∃ s ∈ vc.sendRing.resends.head?, sendRingCanRecall vc.sendRing s = false) ∧
      sendRingCountPacketsToSend vc.sendRing false = 0)
    ⟨fun h => ⟨h.1, h.2.1, h.2.2⟩, fun h => ⟨h.on, h.stale, h.drained⟩⟩

namespace SkyVirtualChannel.Stalled

variable {vc : SkyVirtualChannel w}

/-- The resend list counts as something to send, and nothing can be peeked at. -/
theorem peek (h : vc.Stalled) (hfit : vc.sendRing.ResendsFit) :
    0 < sendRingCountPacketsToSend vc.sendRing true ∧
      sendRingPeekNextTxSizeAndSequence vc.sendRing vc.elementBuffer true =
        .error .ringEmpty := by
  obtain ⟨s, hs, hstale⟩ := h.stale
  have hpos : 0 < vc.sendRing.resendCount := by
    rw [← hfit.length_resends]
    exact List.length_pos_of_mem (List.mem_of_head? hs)
  have hfirst : vc.sendRing.resendList.getD 0 0 = s := by
    obtain ⟨r', -, hhead, -⟩ := sendRingPopResendSequence_eq hfit hpos
    exact Option.some.inj (hhead.symm.trans (Option.mem_def.mp hs))
  have hcount : 0 < sendRingCountPacketsToSend vc.sendRing true := by
    rw [sendRingCountPacketsToSend]
    exact Nat.lt_of_lt_of_le hpos (Nat.le_add_left _ _)
  refine ⟨hcount, ?_⟩
  rw [sendRingPeekNextTxSizeAndSequence, if_neg hcount.ne', if_pos ⟨rfl, hpos⟩, hfirst,
    sendRingGetRecallRingIndex, hstale]
  exact if_pos h.drained

/-- Filling a frame fails, and leaves the channel stalled. -/
theorem fill (h : vc.Stalled) (hfit : vc.sendRing.ResendsFit) (config : SkyConfig)
    (tx : SkyTransmitFrame) (now : Int) (frames : UInt16) :
    (skyVcFillFrame vc config tx now frames).2.2 = .ringEmpty ∧
      (skyVcFillFrame vc config tx now frames).1.Stalled := by
  obtain ⟨hcount, hpeek⟩ := h.peek hfit
  obtain ⟨handshake, request, tick, unconfirmed, tx', ret, heq⟩ :=
    vc.fillFrameOn_control config tx now frames
  rw [skyVcFillFrame, h.on]
  dsimp only
  rw [heq, fillPayload]
  dsimp only
  rw [if_pos hcount, hpeek]
  exact ⟨rfl, h.on, h.stale, h.drained⟩

/-- An acknowledgement moves the tail further away from the stale packet. -/
theorem updateTxSync (h : vc.Stalled) {v : VcView} (hrep : VcRep vc v) (sequence : BitVec w)
    (now : Int) : (skyVcUpdateTxSync vc sequence now).Stalled := by
  rw [skyVcUpdateTxSync]
  have hresends := sendRingCleanTailUpTo_resends vc.sendRing vc.elementBuffer sequence
  obtain ⟨-, heq⟩ | ⟨hle, sendRing, eb, heq, hrep', -⟩ := hrep.cleanTailUpTo sequence
  · rw [heq]
    exact ⟨h.on, h.stale, h.drained⟩
  · rw [heq] at hresends ⊢
    obtain ⟨s, hs, hstale⟩ := h.stale
    refine ⟨h.on, ⟨s, by rwa [hresends], ?_⟩, ?_⟩
    · rw [← Bool.not_eq_true] at hstale ⊢
      rw [hrep.canRecall_iff] at hstale
      rw [hrep'.canRecall_iff]
      obtain ⟨a, ha⟩ : ∃ a, a = (s - serial 0 v.sendTail).toNat := ⟨_, rfl⟩
      have hlt : a < 2 ^ w := ha ▸ BitVec.isLt _
      have hs : serial 0 (v.sendTail + a) = s := by rw [ha, exists_serial]
      rw [← ha] at hstale
      dsimp only
      rw [← hs, serial_sub 0 (by omega) (by omega)]
      omega
    · have hcount := hrep.countNew
      have hcount' := hrep'.countNew
      rw [h.drained] at hcount
      exact hcount'.trans hcount.symm

/-- A request appends to the resend list. -/
theorem processRequest (h : vc.Stalled) (hfit : vc.sendRing.ResendsFit)
    (parsed : SkyParsedFrame) : (Skylink.processRequest vc parsed).Stalled := by
  rw [Skylink.processRequest]
  cases parsed.arqRequest with
  | none => exact h
  | some ext =>
      let request : BitVec w × UInt16 := ext.arqReq
      obtain ⟨r', heq, hresends, -, hsame⟩ :=
        sendRingScheduleResendsByMask_eq hfit request.1 request.2
      have hring : (sendRingScheduleResendsByMask vc.sendRing request.1 request.2).1 = r' := heq
      obtain ⟨s, hs, hstale⟩ := h.stale
      have hfirst : s ∈ r'.resends.head? := by
        obtain ⟨rest, hrest⟩ := List.head?_eq_some_iff.mp (Option.mem_def.mp hs)
        obtain ⟨more, hmore⟩ := scheduled_prefix (sendRingCanRecall vc.sendRing) vc.sendRing.resends
          (requestedSequences request.1 request.2)
        rw [hresends, ← hmore, hrest]
        rfl
      show SkyVirtualChannel.Stalled { vc with
        sendRing := (sendRingScheduleResendsByMask vc.sendRing request.1 request.2).1 }
      rw [hring]
      refine ⟨h.on, ⟨s, hfirst, ?_⟩, ?_⟩
      · rw [hsame]
        exact hstale
      · rw [hsame]
        exact h.drained

theorem processCtrl (h : vc.Stalled) {v : VcView} (hrep : VcRep vc v) (parsed : SkyParsedFrame)
    (now : Int) : (Skylink.processCtrl vc parsed now).Stalled ∧
      (Skylink.processCtrl vc parsed now).sendRing.ResendsFit := by
  have hfit {vc' : SkyVirtualChannel w} {v' : VcView} (hrep' : VcRep vc' v') :
      vc'.sendRing.ResendsFit := by
    obtain ⟨m, hm⟩ := hrep'
    exact hm.send.resendsFit
  rw [Skylink.processCtrl]
  cases parsed.arqCtrl with
  | none => exact ⟨h, hfit hrep⟩
  | some ext =>
      let sequences : BitVec w × BitVec w := ext.arqCtrlSequences
      have hsync := h.updateTxSync hrep sequences.2 now
      dsimp only
      rw [VcRep.updateRxSync_eq]
      have hrep' : VcRep (skyVcUpdateTxSync vc sequences.2 now) _ :=
        (hrep.updateTxSync sequences now).1
      have hring := hfit hrep'
      exact ⟨⟨hsync.on, hsync.stale, hsync.drained⟩, hring⟩

/-- No frame of the own session ends the stall. -/
theorem process (h : vc.Stalled) {v : VcView} (hrep : VcRep vc v) {parsed : SkyParsedFrame}
    (hown : ∀ identifier ∈ parsed.handshakeIdentifier, identifier = vc.arqSessionIdentifier)
    (tickTime now : Int) : (skyVcProcessFrame tickTime vc parsed now).1.Stalled := by
  have hsame := processHandshake_own h.on hown tickTime
  have hrep' : VcRep (processHandshake tickTime vc parsed) v := by
    rw [hsame]
    exact hrep.congr rfl rfl rfl
  have h' : (processHandshake tickTime vc parsed).Stalled := by
    rw [hsame]
    exact ⟨h.on, h.stale, h.drained⟩
  obtain ⟨hctrl, hfit⟩ := h'.processCtrl hrep' parsed now
  rw [skyVcProcessFrame_fst, processContents, h'.on]
  dsimp only
  rw [processFrameOn]
  dsimp only
  split
  · split
    · exact hctrl
    · refine SkyVirtualChannel.Stalled.processRequest ?_ ?_ parsed
      · exact ⟨hctrl.on, hctrl.stale, hctrl.drained⟩
      · exact hfit
  · exact hctrl.processRequest hfit parsed

end SkyVirtualChannel.Stalled

/-! ## Runs -/

/-- In one session both endpoints may push. -/
theorem InSession.stepAt {start l : Link w} {names : Naming} {n : Net}
    (h : InSession start l names n) (h8 : 8 ∣ w) (hw : w ≤ 56)
    (hfits : start.Fits ∧ start.swap.Fits) {e : Side × LinkEvent w}
    (hstays : (e.1.view l).StaysConnected e.2) :
    ∃ n', InSession start (l.stepAt e) names n' := by
  obtain ⟨side, e⟩ := e
  cases side with
  | left => exact h.step h8 hw hstays fun _ _ => hfits.1
  | right =>
      obtain ⟨n', h'⟩ := h.swap.step h8 hw hstays fun _ _ => hfits.2
      have hback := h'.swap
      rw [start.swap_swap] at hback
      exact ⟨_, hback⟩

theorem InSession.runBoth {start l : Link w} {names : Naming} {n : Net}
    (h : InSession start l names n) (h8 : 8 ∣ w) (hw : w ≤ 56)
    (hfits : start.Fits ∧ start.swap.Fits) {events : List (Side × LinkEvent w)}
    (hmeets : l.RunMeets Link.StaysConnected events) :
    ∃ n', InSession start (l.run events) names n' := by
  induction events generalizing l n with
  | nil => exact ⟨n, h⟩
  | cons e events ih =>
      obtain ⟨hone, hrest⟩ := hmeets
      obtain ⟨n', h'⟩ := h.stepAt h8 hw hfits hone
      exact ih h' hrest

/-- An endpoint only takes frames out of the channel that leads to it. -/
theorem Link.step_inn_sublist (l : Link w) (e : LinkEvent w) : (l.step e).inn.Sublist l.inn := by
  cases e with
  | process tickTime now =>
      cases hinn : l.inn with
      | nil =>
          have hsame : l.step (.process tickTime now) = l := by rw [Link.step, hinn]
          rw [hsame, hinn]
      | cons frame rest =>
          rw [Link.step_process hinn]
          exact List.sublist_cons_self frame rest
  | _ => exact List.Sublist.refl _

/-- A stalled endpoint sends nothing. -/
theorem Link.stalled_step {l : Link w} (h : l.near.vc.Stalled) {v : VcView}
    (hrep : VcRep l.near.vc v) {e : LinkEvent w} (hstays : l.StaysConnected e)
    (hpush : ∀ payload, e ≠ .push payload) :
    (l.step e).near.vc.Stalled ∧ (l.step e).out.Sublist l.out := by
  have hfit : l.near.vc.sendRing.ResendsFit := by
    obtain ⟨m, hm⟩ := hrep
    exact hm.send.resendsFit
  cases e with
  | push payload => exact absurd rfl (hpush payload)
  | read maxLength =>
      refine ⟨?_, List.Sublist.refl _⟩
      have hvc : (l.step (.read maxLength)).near.vc =
          (skyVcReadNextReceived l.near.vc maxLength).1 := l.near.readNext_vc maxLength
      rw [hvc]
      exact ⟨h.on, h.stale, h.drained⟩
  | fill first config now frames =>
      obtain ⟨hret, hstalled⟩ := h.fill hfit config first.tx now frames
      refine ⟨hstalled, ?_⟩
      have hout : (l.step (.fill first config now frames)).out =
          if (skyVcFillFrame l.near.vc config first.tx now frames).2.2 < 0 then l.out
          else l.out ++ [(skyVcFillFrame l.near.vc config first.tx now frames).2.1.frame] := rfl
      rw [hout, hret, if_pos (by decide)]
  | process tickTime now =>
      cases hinn : l.inn with
      | nil =>
          rw [Link.step, hinn]
          exact ⟨h, List.Sublist.refl _⟩
      | cons frame rest =>
          rw [Link.step_process hinn]
          refine ⟨?_, List.Sublist.refl _⟩
          cases hparse : frame.parse w with
          | error ret =>
              have hsame : l.near.process l.sessions tickTime now frame = l.near := by
                rw [Endpoint.process, hparse]
              dsimp only
              rw [hsame]
              exact h
          | ok parsed =>
              dsimp only
              rw [Endpoint.process_vc _ _ _ _ hparse]
              exact h.process hrep (hstays parsed (Link.incoming_eq hinn hparse)) tickTime now
  | lose i => exact ⟨h, List.eraseIdx_sublist _ _⟩
  | connect tickTime => exact hstays.elim
  | disconnect => exact hstays.elim
  | checkTimeouts now timeout => exact hstays.elim

theorem InSession.stalled_run {start l : Link w} {names : Naming} {n : Net}
    (hsession : InSession start l names n) (h8 : 8 ∣ w) (hw : w ≤ 56)
    (hfits : start.Fits ∧ start.swap.Fits) {events : List (Side × LinkEvent w)}
    (hmeets : l.RunMeets Link.StaysConnected events) (h : l.near.vc.Stalled)
    (hpush : ∀ payload, (Side.left, .push payload) ∉ events) :
    (l.run events).near.vc.Stalled ∧ (l.run events).out.Sublist l.out := by
  induction events generalizing l n with
  | nil => exact ⟨h, List.Sublist.refl _⟩
  | cons e events ih =>
      obtain ⟨hone, hrest⟩ := hmeets
      obtain ⟨n', hsession'⟩ := hsession.stepAt h8 hw hfits hone
      have hstep : (l.stepAt e).near.vc.Stalled ∧ (l.stepAt e).out.Sublist l.out := by
        obtain ⟨side, e⟩ := e
        cases side with
        | left =>
            obtain ⟨v, hrep, -⟩ := hsession.sim.near.view
            refine Link.stalled_step h hrep hone fun payload he => hpush payload ?_
            have he' : e = .push payload := he
            rw [he']
            exact List.mem_cons_self
        | right =>
            have hnear : (l.stepAt (.right, e)).near = l.near := l.swap.step_far e
            rw [hnear]
            refine ⟨h, ?_⟩
            exact l.swap.step_inn_sublist e
      obtain ⟨hlast, hout⟩ := ih hsession' hrest hstep.1
        fun payload hmem => hpush payload (List.mem_cons_of_mem _ hmem)
      exact ⟨hlast, hout.trans hstep.2⟩

/-- Once an endpoint is stalled, it stays so and sends no frame, whatever it receives, for as
long as the session lasts and no packet is pushed to it. -/
theorem stalled_silent (hw : ArqSequenceWidth w) {a b : SkyVirtualChannel w} (ha : a.NewlyOn)
    (hb : b.NewlyOn) (hfits : (Link.connected a b).Fits ∧ (Link.connected a b).swap.Fits)
    {before after : List (Side × LinkEvent w)}
    (hmeets : (Link.connected a b).RunMeets Link.StaysConnected (before ++ after))
    (hstalled : ((Link.connected a b).run before).near.vc.Stalled)
    (hpush : ∀ payload, (Side.left, .push payload) ∉ after) :
    ((Link.connected a b).run (before ++ after)).near.vc.Stalled ∧
      ((Link.connected a b).run (before ++ after)).out.Sublist
        ((Link.connected a b).run before).out := by
  obtain ⟨h8, hw56, h250⟩ := hw.bounds
  obtain ⟨names, hstart⟩ := connected_inSession h250 ha hb
  obtain ⟨hbefore, hafter⟩ := hmeets.append
  obtain ⟨n, hsession⟩ := hstart.runBoth h8 hw56 hfits hbefore
  have hrun : (Link.connected a b).run (before ++ after) =
      ((Link.connected a b).run before).run after := List.foldl_append
  rw [hrun]
  exact hsession.stalled_run h8 hw56 hfits hafter hstalled hpush

/-- The first two of three packets are lost. The request for them is answered with one, and
the acknowledgement of it arrives before the list is empty. -/
def exampleStall : List (Side × LinkEvent 8) :=
  [(.left, .push [1]), (.left, .push [2]), (.left, .push [3]), (.left, .send 14),
    (.left, .lose 0), (.left, .send 14), (.left, .lose 0), (.left, .send 15),
    (.right, .process 16 16), (.right, .send 17), (.left, .process 18 18), (.left, .send 19),
    (.right, .process 20 20), (.right, .send 21), (.left, .process 22 22)]

/-- The link asks for the missing packet again, and the sender keeps silent. -/
def exampleSilence : List (Side × LinkEvent 8) :=
  [(.left, .send 23), (.right, .send 3000), (.left, .process 3001 3001), (.left, .send 6000)]

theorem stalled_silent_example :
    ((Link.connected newlyOnChannel newlyOnChannel).run
        (exampleStall ++ exampleSilence)).near.vc.Stalled ∧
      ((Link.connected newlyOnChannel newlyOnChannel).run
        (exampleStall ++ exampleSilence)).out.Sublist
          ((Link.connected newlyOnChannel newlyOnChannel).run exampleStall).out := by
  refine stalled_silent (.inl rfl) newlyOnChannel_newlyOn newlyOnChannel_newlyOn ?_ ?_ ?_ ?_
  · decide +kernel
  · decide +kernel
  · decide +kernel
  · simp [exampleSilence, LinkEvent.send]

end Skylink
