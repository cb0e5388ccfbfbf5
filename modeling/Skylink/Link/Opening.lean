import Skylink.Link.Recovery

/-!
# A session is opened

One end connects and offers its session with every frame until it is answered. Offers and
replies may be lost. Once an offer and the reply to it have arrived both ends are in that
session with empty rings, whatever they did before.
-/

namespace Skylink

variable {w : Nat}

/-! ## Channels with empty rings -/

theorem storable_nil (b : SkyElementBuffer) : Storable b [] := by
  refine ⟨Nat.zero_lt_succ _, ?_⟩
  show (0 + ebLenBytes + b.elementUsableSpace - 1) / b.elementUsableSpace ≤ 42
  rcases Nat.eq_zero_or_pos b.elementUsableSpace with hzero | hpos
  · rw [hzero, Nat.div_zero]
    exact Nat.zero_le _
  · rw [ebLenBytes]
    apply Nat.div_le_of_le_mul
    omega

theorem SkyVirtualChannel.Reached.step {vc : SkyVirtualChannel w} (h : vc.Reached) (op : VcOp w)
    (hop : ∀ b, op.Valid b) : (vc.step op).Reached := by
  obtain ⟨config, conf, created, ops, hcreate, hops, rfl⟩ := h
  refine ⟨config, conf, created, ops ++ [op], hcreate, fun o ho => ?_, ?_⟩
  · rcases List.mem_append.mp ho with hmem | hmem
    · exact hops o hmem
    · rw [List.mem_singleton.mp hmem]
      exact hop _
  · rw [SkyVirtualChannel.run, SkyVirtualChannel.run, List.foldl_append]
    rfl

namespace SkyVirtualChannel

/-- The channel is of the session and its rings are as a wipe leaves them. -/
structure Fresh (vc : SkyVirtualChannel w) (identifier : UInt32) : Prop where
  reached : vc.Reached
  sendRing : vc.sendRing.reset 0 = vc.sendRing
  rcvRing : vc.rcvRing.reset 0 = vc.rcvRing
  complete : vc.needRecall = 0
  session : vc.arqSessionIdentifier = identifier

/-- The channel is in the session, and owes `handshakes` handshakes. -/
structure Joined (vc : SkyVirtualChannel w) (identifier : UInt32) (handshakes : UInt8) : Prop
    extends vc.Fresh identifier where
  on : vc.arqStateFlag = .on
  owes : vc.handshakeSend = handshakes

/-- The channel would give up what it does for the session, or is in it already. -/
def Admits (vc : SkyVirtualChannel w) (identifier : UInt32) : Prop :=
  vc.enters identifier = true ∨ ∃ handshakes, vc.Joined identifier handshakes

end SkyVirtualChannel

namespace SkyVirtualChannel

variable {vc : SkyVirtualChannel w} {identifier : UInt32} {parsed : SkyParsedFrame}
  {c : ArqContent w}

theorem Joined.newlyOn {handshakes : UInt8} (h : vc.Joined identifier handshakes) : vc.NewlyOn :=
  ⟨h.reached, h.on, h.sendRing, h.rcvRing⟩

/-- The sequence numbers of empty rings. -/
theorem Fresh.sequences (h : vc.Fresh identifier) :
    vc.sendRing.tailSequence = 0 ∧ vc.sendRing.txSequence = 0 ∧ vc.rcvRing.headSequence = 0 := by
  rw [← h.sendRing, ← h.rcvRing]
  exact ⟨rfl, rfl, rfl⟩

/-- There is nothing to send and nothing to ask for. -/
theorem Fresh.idle (h : vc.Fresh identifier) (hw : 250 ≤ 2 ^ w) (config : SkyConfig)
    (frames : UInt16) :
    sendRingCountPacketsToSend vc.sendRing true = 0 ∧ vc.requestDue config frames = false := by
  obtain ⟨m, hm⟩ := rep_of_wiped (h.reached.rep hw) ⟨h.sendRing, h.rcvRing⟩
  constructor
  · have hcount : vc.sendRing.resendCount = 0 := by
      rw [← h.sendRing]
      rfl
    rw [hm.send.countAll, hcount]
    rfl
  · have hbitmap : rcvRingGetHorizonBitmap vc.rcvRing = 0 := by
      by_contra hne
      obtain ⟨i, -, hholds⟩ := (rcvRingGetHorizonBitmap_ne_zero_iff _).mp hne
      exact Bool.false_ne_true ((hm.rcv.holdsAhead_iff _).mp hholds)
    rw [requestDue, hbitmap, h.complete]
    exact Bool.and_false _

/-- A frame without payload leaves the channel reachable. -/
theorem Reached.process (h : vc.Reached) (hreads : parsed.Reads c) (hsilent : c.payload = none)
    (tickTime now : Int) : (skyVcProcessFrame tickTime vc parsed now).1.Reached := by
  refine h.step (.processFrame tickTime parsed now) fun b => ?_
  show Storable b parsed.payloadBytes
  rw [hreads.payloadBytes, hsilent]
  exact storable_nil b

/-- An acknowledgement of nothing leaves empty rings as they are. -/
theorem Fresh.processCtrl (h : vc.Fresh identifier) (hreads : parsed.Reads c)
    (hctrl : ∀ s, c.ctrl = some s → s = (0, 0)) (now : Int) :
    ∃ lastTxTick lastRxTick, Skylink.processCtrl vc parsed now =
      { vc with lastTxTick := lastTxTick, lastRxTick := lastRxTick } := by
  obtain ⟨htail, htx, hhead⟩ := h.sequences
  have hread := hreads.ctrl
  rw [Skylink.processCtrl]
  cases hext : parsed.arqCtrl with
  | none => exact ⟨_, _, rfl⟩
  | some ext =>
      rw [hext, Option.map_some] at hread
      have htold : (ext.arqCtrlSequences : BitVec w × BitVec w) = (0, 0) := hctrl _ hread.symm
      have hclean : sendRingCleanTailUpTo vc.sendRing vc.elementBuffer 0 =
          (vc.sendRing, vc.elementBuffer, .ok 0) := by
        have hloop (turns : Nat) : cleanTailLoop 0 turns vc.sendRing vc.elementBuffer 0 =
            (vc.sendRing, vc.elementBuffer, 0) := by
          cases turns with
          | zero => rfl
          | succ turns => rw [cleanTailLoop, if_pos htail]
        rw [sendRingCleanTailUpTo, htail, htx, hloop]
        exact if_neg (Nat.lt_irrefl _)
      dsimp only
      rw [htold, skyVcUpdateTxSync, hclean, skyVcUpdateRxSync, rcvRingGetSequenceSyncStatus]
      dsimp only
      rw [hhead, htx, if_pos rfl, if_pos rfl, if_pos rfl]
      exact ⟨now, now, by rw [h.complete]⟩

/-- A connected channel with empty rings keeps them when a frame says nothing else than that
its sender has empty rings too. -/
theorem Joined.contents {handshakes : UInt8} (h : vc.Joined identifier handshakes)
    (hreads : parsed.Reads c) (hctrl : ∀ s, c.ctrl = some s → s = (0, 0))
    (hnone : c.request = none ∧ c.payload = none) (now : Int) :
    ∃ lastTxTick lastRxTick, processContents vc parsed now =
      { vc with lastTxTick := lastTxTick, lastRxTick := lastRxTick } := by
  obtain ⟨lastTxTick, lastRxTick, heq⟩ := h.toFresh.processCtrl hreads hctrl now
  have hrequest : parsed.arqRequest = none := by
    have hread := hreads.request
    rw [hnone.1] at hread
    exact Option.map_eq_none_iff.mp hread
  have hempty : ¬0 < parsed.payloadLen := by
    rw [hreads.payloadLen, hnone.2]
    exact Nat.lt_irrefl 0
  have hcontents : processContents vc parsed now = (processFrameOn vc parsed now).1 := by
    rw [processContents, h.on]
  refine ⟨lastTxTick, lastRxTick, ?_⟩
  rw [hcontents, processFrameOn]
  dsimp only
  rw [if_neg hempty, heq, processRequest, hrequest]

/-- The peer enters the session that a handshake offers. -/
theorem skyVcHandleHandshake_enters (h : vc.enters identifier = true) (tickTime : Int)
    (peerState : UInt8) : (skyVcHandleHandshake tickTime vc peerState identifier).1 =
      skyVcWipeToArqOnState tickTime vc identifier := by
  rw [skyVcHandleHandshake]
  rw [enters] at h
  cases hstate : vc.arqStateFlag with
  | off => rfl
  | inInit =>
      rw [hstate] at h
      have hlt := of_decide_eq_true h
      dsimp only
      rw [if_neg (UInt32.ne_of_lt hlt).symm, if_pos hlt]
      rfl
  | on =>
      rw [hstate] at h
      dsimp only
      rw [if_neg (bne_iff_ne.mp h)]
      rfl

/-- Whatever the channel did, it has joined the session once it has met the offer. -/
theorem Admits.offer (h : vc.Admits (skyHton32 identifier)) (hreached : vc.Reached)
    (hreads : parsed.Reads c)
    (hc : c = { ArqContent.nothing with handshake := some (ArqState.inInit.toByte, identifier) })
    (tickTime now : Int) :
    (skyVcProcessFrame tickTime vc parsed now).1.Joined (skyHton32 identifier) 1 := by
  have hsilent : c.request = none ∧ c.payload = none := by
    rw [hc]
    exact ⟨rfl, rfl⟩
  have hctrl : ∀ s, c.ctrl = some s → s = (0, 0) := by
    rw [hc]
    exact nofun
  have hprocessed := hreached.process hreads hsilent.2 tickTime now
  have hmet : processHandshake tickTime vc parsed =
      (skyVcHandleHandshake tickTime vc ArqState.inInit.toByte (skyHton32 identifier)).1 := by
    rw [processHandshake_reads hreads, hc]
  rw [skyVcProcessFrame_fst, hmet] at hprocessed ⊢
  rcases h with henters | ⟨handshakes, hjoined⟩
  · rw [skyVcHandleHandshake_enters henters] at hprocessed ⊢
    have hwiped : (skyVcWipeToArqOnState tickTime vc (skyHton32 identifier)).Joined
        (skyHton32 identifier) 1 := by
      refine ⟨⟨?_, rfl, rfl, rfl, rfl⟩, rfl, rfl⟩
      rw [← skyVcHandleHandshake_enters henters tickTime ArqState.inInit.toByte]
      exact hreached.step (.handshake tickTime ArqState.inInit.toByte (skyHton32 identifier))
        fun _ => trivial
    obtain ⟨lastTxTick, lastRxTick, heq⟩ := hwiped.contents hreads hctrl hsilent now
    rw [heq] at hprocessed ⊢
    exact ⟨⟨hprocessed, rfl, rfl, rfl, rfl⟩, rfl, rfl⟩
  · have hagain :
        (skyVcHandleHandshake tickTime vc ArqState.inInit.toByte (skyHton32 identifier)).1 =
          { vc with handshakeSend := 1 } := by
      rw [skyVcHandleHandshake, hjoined.on]
      dsimp only
      rw [if_pos hjoined.session.symm, if_pos rfl]
    have hreached' : ({ vc with handshakeSend := 1 } : SkyVirtualChannel w).Reached := by
      rw [← hagain]
      exact hreached.step (.handshake tickTime ArqState.inInit.toByte (skyHton32 identifier))
        fun _ => trivial
    have hjoined' : ({ vc with handshakeSend := 1 } : SkyVirtualChannel w).Joined
        (skyHton32 identifier) 1 :=
      ⟨⟨hreached', hjoined.sendRing, hjoined.rcvRing, hjoined.complete, hjoined.session⟩,
        hjoined.on, rfl⟩
    rw [hagain] at hprocessed ⊢
    obtain ⟨lastTxTick, lastRxTick, heq⟩ := hjoined'.contents hreads hctrl hsilent now
    rw [heq] at hprocessed ⊢
    exact ⟨⟨hprocessed, hjoined.sendRing, hjoined.rcvRing, hjoined.complete, hjoined.session⟩,
      hjoined.on, rfl⟩

/-- The offering channel has joined the session once the reply has arrived. -/
theorem Fresh.reply (h : vc.Fresh identifier) (hinit : vc.arqStateFlag = .inInit)
    (hreads : parsed.Reads c) (hctrl : ∀ s, c.ctrl = some s → s = (0, 0))
    (hnone : c.request = none ∧ c.payload = none) {peerState : UInt8}
    (hhandshake : c.handshake = some (peerState, skyHton32 identifier)) (tickTime now : Int) :
    (skyVcProcessFrame tickTime vc parsed now).1.Joined identifier 0 := by
  have hprocessed := h.reached.process hreads hnone.2 tickTime now
  have hmet : processHandshake tickTime vc parsed =
      { vc with arqStateFlag := .on, handshakeSend := 0 } := by
    rw [processHandshake_reads hreads, hhandshake]
    dsimp only
    rw [skyHton32_hton32, skyVcHandleHandshake, hinit]
    dsimp only
    rw [if_pos h.session.symm]
  have hreached' :
      ({ vc with arqStateFlag := .on, handshakeSend := 0 } : SkyVirtualChannel w).Reached := by
    have hstep := h.reached.step (.handshake tickTime peerState identifier) fun _ => trivial
    rw [SkyVirtualChannel.step, skyVcHandleHandshake, hinit] at hstep
    dsimp only at hstep
    rwa [if_pos h.session.symm] at hstep
  have hjoined : ({ vc with arqStateFlag := .on, handshakeSend := 0 } :
      SkyVirtualChannel w).Joined identifier 0 :=
    ⟨⟨hreached', h.sendRing, h.rcvRing, h.complete, h.session⟩, rfl, rfl⟩
  rw [skyVcProcessFrame_fst, hmet] at hprocessed ⊢
  obtain ⟨lastTxTick, lastRxTick, heq⟩ := hjoined.contents hreads hctrl hnone now
  rw [heq] at hprocessed ⊢
  exact ⟨⟨hprocessed, h.sendRing, h.rcvRing, h.complete, h.session⟩, rfl, rfl⟩

/-- Until it is answered the offering channel offers its session with every frame. -/
theorem fill_inInit (hw : w ≤ 56) (hinit : vc.arqStateFlag = .inInit) (first : FrameStart w)
    {config : SkyConfig} (now : Int) {frames : UInt16}
    (hidle : idleFramesLeft config frames = true) :
    ∃ tx, skyVcFillFrame vc config first.tx now frames = (vc, tx, 1) ∧
      tx.Carries first.identity first.others first.channel
        { ArqContent.nothing with
          handshake := some (ArqState.inInit.toByte, vc.arqSessionIdentifier) } := by
  refine ⟨_, ?_, first.carries.addHandshake hw ⟨rfl, rfl, rfl, rfl, rfl⟩ ArqState.inInit.toByte
    vc.arqSessionIdentifier⟩
  rw [skyVcFillFrame, hinit]
  exact if_pos hidle

/-- The frame that a channel replies with. -/
theorem Joined.fill (h : vc.Joined identifier 1) (hw : ArqSequenceWidth w) (first : FrameStart w)
    (config : SkyConfig) (now : Int) (frames : UInt16) :
    ∃ vc' tx ret c, skyVcFillFrame vc config first.tx now frames = (vc', tx, ret) ∧ 0 ≤ ret ∧
      tx.Carries first.identity first.others first.channel c ∧
      c.handshake = some (ArqState.on.toByte, identifier) ∧
      (∀ s, c.ctrl = some s → s = (0, 0)) ∧ (c.request = none ∧ c.payload = none) ∧
      vc'.Joined identifier 0 := by
  obtain ⟨h8, hw56, h250⟩ := hw.bounds
  obtain ⟨vc', tx, ret, c, heq, hcarries, hfilled, hrequest, -, hneed, hsend⟩ :=
    skyVcFillFrame_filled vc first config now frames hw56 h8 h.on
  obtain ⟨hcount, hdue⟩ := h.toFresh.idle h250 config frames
  obtain ⟨htail, htx, hhead⟩ := h.toFresh.sequences
  have hret : 0 ≤ ret := by
    have hidle := skyVcFillFrame_idle_ret config first.tx now frames h.on hcount
    rwa [heq] at hidle
  have hring : vc'.sendRing = vc.sendRing ∧ c.payload = none := by
    cases hfilled.payload with
    | idle hdue hring hseq hpayload => exact ⟨hring, hpayload⟩
    | failed hdue => omega
    | written hdue => omega
    | discarded hdue => omega
  have hreached : vc'.Reached := by
    have hstep := h.reached.step (.fillFrame config first.tx now frames) fun _ => trivial
    rwa [SkyVirtualChannel.step, heq] at hstep
  rw [hdue] at hrequest hneed
  refine ⟨vc', tx, ret, c, heq, hret, hcarries, ?_, fun s hs => ?_, ⟨hrequest, hring.2⟩,
    ⟨hreached, ?_, ?_, hneed.trans h.complete, hfilled.arqSessionIdentifier.trans h.session⟩,
    hfilled.arqStateFlag.trans h.on, ?_⟩
  · rw [hfilled.handshake, h.owes, h.session]
    rfl
  · rw [hfilled.ctrl s hs, htx, hhead]
  · rw [hring.1]
    exact h.sendRing
  · rw [hfilled.rcvRing]
    exact h.rcvRing
  · rw [hsend, h.owes]
    rfl

end SkyVirtualChannel

/-! ## Offers and replies -/

/-- The frames that offer a session, and the frame that the peer replies with. -/
structure Attempt (w : Nat) where
  offers : List (Passage w)
  reply : Passage w

def Attempt.events (a : Attempt w) : List (Side × LinkEvent w) :=
  (a.offers.flatMap fun p => p.events .left) ++ a.reply.events .right

/-- The offers are made as long as idle frames are left in the window, and one of them
arrives. -/
structure Attempt.Arrives (a : Attempt w) : Prop where
  idle : ∀ p ∈ a.offers, idleFramesLeft p.config p.frames = true
  met : ∃ p ∈ a.offers, p.lost = false

instance (a : Attempt w) : Decidable a.Arrives :=
  decidable_of_iff ((∀ p ∈ a.offers, idleFramesLeft p.config p.frames = true) ∧
      ∃ p ∈ a.offers, p.lost = false)
    ⟨fun h => ⟨h.1, h.2⟩, fun h => ⟨h.idle, h.met⟩⟩

/-- Nothing is in flight. The near endpoint offers a session, and the far one will enter it or
has entered it already. -/
structure Link.Offering (l : Link w) (identifier : UInt32) : Prop where
  free : l.out = [] ∧ l.inn = []
  near : l.near.vc.Fresh identifier
  init : l.near.vc.arqStateFlag = .inInit
  far : l.far.vc.Reached
  admits : l.far.vc.Admits (skyHton32 identifier)

/-- Both endpoints are in the session with empty rings, nothing is in flight and no handshake
is owed. The far endpoint reads the identifier as it lies in memory. -/
structure Link.Opened (l : Link w) (identifier : UInt32) : Prop where
  free : l.out = [] ∧ l.inn = []
  near : l.near.vc.NewlyOn
  far : l.far.vc.NewlyOn
  identifiers : l.near.vc.arqSessionIdentifier = identifier ∧
    l.far.vc.arqSessionIdentifier = skyHton32 identifier
  settled : l.near.vc.handshakeSend = 0 ∧ l.far.vc.handshakeSend = 0

namespace Link.Offering

variable {l : Link w} {identifier : UInt32}

/-- An offer that arrives takes the far endpoint into the session. -/
theorem offer (h : l.Offering identifier) (hw : ArqSequenceWidth w) {p : Passage w}
    (hidle : idleFramesLeft p.config p.frames = true) :
    (l.run (p.events .left)).Offering identifier ∧
      (p.lost = false ∨ l.far.vc.Joined (skyHton32 identifier) 1 →
        (l.run (p.events .left)).far.vc.Joined (skyHton32 identifier) 1) := by
  obtain ⟨h8, hw56, -⟩ := hw.bounds
  obtain ⟨tx, hfill, hcarries⟩ :=
    SkyVirtualChannel.fill_inInit hw56 h.init p.first p.filled hidle
  obtain ⟨parsed, hparse, hreads⟩ := hcarries.parse hw56 h8
  rw [Passage.run_left_eq h.free.1 hfill (by decide)]
  cases hlost : p.lost with
  | true => exact ⟨h, fun hor => hor.resolve_left nofun⟩
  | false =>
      have hvc : (l.far.process (l.sessions.map skyHton32) p.tickTime p.met tx.frame).vc =
          (skyVcProcessFrame p.tickTime l.far.vc parsed p.met).1 :=
        Endpoint.process_vc _ _ _ _ hparse
      have hjoined := h.admits.offer h.far hreads (by rw [h.near.session]) p.tickTime p.met
      rw [← hvc] at hjoined
      exact ⟨⟨h.free, h.near, h.init, hjoined.reached, .inr ⟨1, hjoined⟩⟩, fun _ => hjoined⟩

theorem offers (h : l.Offering identifier) (hw : ArqSequenceWidth w) {ps : List (Passage w)}
    (hidle : ∀ p ∈ ps, idleFramesLeft p.config p.frames = true) :
    (l.run (ps.flatMap fun p => p.events .left)).Offering identifier ∧
      ((∃ p ∈ ps, p.lost = false) ∨ l.far.vc.Joined (skyHton32 identifier) 1 →
        (l.run (ps.flatMap fun p => p.events .left)).far.vc.Joined (skyHton32 identifier) 1) := by
  induction ps generalizing l with
  | nil =>
      refine ⟨h, fun hor => hor.resolve_left ?_⟩
      rintro ⟨p, hp, -⟩
      exact List.not_mem_nil hp
  | cons p ps ih =>
      obtain ⟨h', hjoins⟩ := h.offer hw (hidle p List.mem_cons_self)
      obtain ⟨hafter, hjoins'⟩ := ih h' fun p hp => hidle p (List.mem_cons_of_mem _ hp)
      have hrun : l.run ((p :: ps).flatMap fun p => p.events .left) =
          (l.run (p.events .left)).run (ps.flatMap fun p => p.events .left) := by
        rw [List.flatMap_cons]
        exact List.foldl_append
      rw [hrun]
      refine ⟨hafter, fun hor => hjoins' ?_⟩
      rcases hor with ⟨q, hq, hmet⟩ | hjoined
      · rcases List.mem_cons.mp hq with rfl | hrest
        · exact .inr (hjoins (.inl hmet))
        · exact .inl ⟨q, hrest, hmet⟩
      · exact .inr (hjoins (.inr hjoined))

/-- The reply opens the session, or the offer stands. -/
theorem reply (h : l.Offering identifier) (hw : ArqSequenceWidth w)
    (hjoined : l.far.vc.Joined (skyHton32 identifier) 1) (p : Passage w) :
    (p.lost = true → (l.run (p.events .right)).Offering identifier) ∧
      (p.lost = false → (l.run (p.events .right)).Opened identifier) := by
  obtain ⟨h8, hw56, -⟩ := hw.bounds
  obtain ⟨vc, tx, ret, c, hfill, hret, hcarries, hhandshake, hctrl, hnone, hreplied⟩ :=
    hjoined.fill hw p.first p.config p.filled p.frames
  obtain ⟨parsed, hparse, hreads⟩ := hcarries.parse hw56 h8
  have hrun : l.run (p.events .right) = _ := (Passage.run_right_eq l p).trans
    (congrArg Link.swap (Passage.run_left_eq h.free.2 hfill hret))
  rw [hrun]
  cases hlost : p.lost with
  | true =>
      refine ⟨fun _ => ?_, nofun⟩
      exact ⟨h.free, h.near, h.init, hreplied.reached, .inr ⟨0, hreplied⟩⟩
  | false =>
      refine ⟨nofun, fun _ => ?_⟩
      have hvc (sessions : List UInt32) :
          (l.near.process sessions p.tickTime p.met tx.frame).vc =
            (skyVcProcessFrame p.tickTime l.near.vc parsed p.met).1 :=
        Endpoint.process_vc _ _ _ _ hparse
      have hopened := h.near.reply h.init hreads hctrl hnone hhandshake p.tickTime p.met
      rw [← hvc (l.swap.sessions.map skyHton32)] at hopened
      exact ⟨h.free, hopened.newlyOn, hreplied.newlyOn, ⟨hopened.session, hreplied.session⟩,
        hopened.owes, hreplied.owes⟩

theorem attempt (h : l.Offering identifier) (hw : ArqSequenceWidth w) {a : Attempt w}
    (harrives : a.Arrives) :
    (a.reply.lost = true → (l.run a.events).Offering identifier) ∧
      (a.reply.lost = false → (l.run a.events).Opened identifier) := by
  obtain ⟨h', hjoins⟩ := h.offers hw harrives.idle
  have hrun : l.run a.events =
      (l.run (a.offers.flatMap fun p => p.events .left)).run (a.reply.events .right) :=
    List.foldl_append
  rw [hrun]
  exact h'.reply hw (hjoins (.inl harrives.met)) a.reply

/-- Attempts whose replies are lost change nothing for the next one. -/
theorem attempts (h : l.Offering identifier) (hw : ArqSequenceWidth w) {as : List (Attempt w)}
    (hlost : ∀ a ∈ as, a.Arrives ∧ a.reply.lost = true) :
    (l.run (as.flatMap Attempt.events)).Offering identifier := by
  induction as generalizing l with
  | nil => exact h
  | cons a as ih =>
      obtain ⟨harrives, hreply⟩ := hlost a List.mem_cons_self
      have h' := (h.attempt hw harrives).1 hreply
      have hrun : l.run ((a :: as).flatMap Attempt.events) =
          (l.run a.events).run (as.flatMap Attempt.events) := by
        rw [List.flatMap_cons]
        exact List.foldl_append
      rw [hrun]
      exact ih h' fun a ha => hlost a (List.mem_cons_of_mem _ ha)

end Link.Offering

/-- Whatever the endpoints did before, once one of them has connected and an offer and the reply
to it have arrived, both are in the session that it named, with empty rings. -/
theorem connect_opens (hw : ArqSequenceWidth w) {l : Link w}
    (hreached : l.near.vc.Reached ∧ l.far.vc.Reached) (hfree : l.out = [] ∧ l.inn = [])
    {tickTime : Int} (henters : l.far.vc.enters (skyHton32 (UInt32.ofInt tickTime)) = true)
    {lost : List (Attempt w)} (hlost : ∀ a ∈ lost, a.Arrives ∧ a.reply.lost = true)
    {last : Attempt w} (hlast : last.Arrives ∧ last.reply.lost = false) :
    (l.run ((.left, .connect tickTime) :: (lost.flatMap Attempt.events ++ last.events))).Opened
      (UInt32.ofInt tickTime) := by
  have hnear : (skyVcArqConnect tickTime l.near.vc).Fresh (UInt32.ofInt tickTime) :=
    ⟨hreached.1.step (.connect tickTime) fun _ => trivial, rfl, rfl, rfl, rfl⟩
  have hoffering : (l.step (.connect tickTime)).Offering (UInt32.ofInt tickTime) :=
    ⟨hfree, hnear, rfl, hreached.2, .inl henters⟩
  have hafter := hoffering.attempts hw hlost
  have hrun : l.run ((.left, .connect tickTime) :: (lost.flatMap Attempt.events ++ last.events)) =
      ((l.step (.connect tickTime)).run (lost.flatMap Attempt.events)).run last.events :=
    List.foldl_append
  rw [hrun]
  exact (hafter.attempt hw hlast.1).2 hlast.2

def examplePassage (now : Int) (lost : Bool) : Passage 8 :=
  { first := .plain exampleIdentity exampleIdentity_length 0
    config := exampleConfig 0 1
    filled := now
    frames := 0
    lost := lost
    tickTime := now
    met := now }

/-- The first offer of two is lost, and the reply may be. -/
def exampleAttempt (now : Int) (lost : Bool) : Attempt 8 :=
  { offers := [examplePassage now true, examplePassage now false]
    reply := examplePassage now lost }

theorem connect_opens_example :
    ((Link.connected exampleChannel newlyOnChannel).run
      ((.left, .connect 7) :: ([exampleAttempt 20 true].flatMap Attempt.events ++
        (exampleAttempt 30 false).events))).Opened 7 := by
  obtain ⟨conf, hconf⟩ := exampleChannel_eq
  have hreached : exampleChannel.Reached :=
    ⟨_, conf, exampleChannel, [], hconf, fun _ hop => absurd hop List.not_mem_nil, rfl⟩
  refine connect_opens (.inl rfl) ⟨hreached, newlyOnChannel_newlyOn.reached⟩ ⟨rfl, rfl⟩ ?_ ?_ ?_
  · decide +kernel
  · decide
  · decide

end Skylink
