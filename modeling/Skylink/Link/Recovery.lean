import Skylink.Link.Reading
import Skylink.Link.Repair

/-!
# Lost packets are sent again

An exchange is a frame of the sender that tells its heads, a request of the receiver, and the
frames that answer it. Any of them may be lost. Where none of the first three is, the exchange
brings the packet that is missing at the head of the receiver; so all packets have arrived
after as many such exchanges as there are packets missing, whatever is lost in between.
-/

namespace Skylink

open SerialNumber SessionWindow

variable {w : Nat}

/-! ## Exchanges -/

/-- A frame that is filled at one end, and lost or met at the other. -/
structure Passage (w : Nat) where
  first : FrameStart w
  config : SkyConfig
  filled : Int
  frames : UInt16
  lost : Bool
  tickTime : Int
  met : Int

/-- The events of the passage of a frame from one of the endpoints. -/
def Passage.events (p : Passage w) : Side → List (Side × LinkEvent w)
  | .left => [(.left, .fill p.first p.config p.filled p.frames),
      if p.lost then (.left, .lose 0) else (.right, .process p.tickTime p.met)]
  | .right => [(.right, .fill p.first p.config p.filled p.frames),
      if p.lost then (.right, .lose 0) else (.left, .process p.tickTime p.met)]

/-- A frame of the sender, one of the receiver, and the frames that the sender answers with. -/
structure Exchange (w : Nat) where
  sync : Passage w
  request : Passage w
  answers : List (Passage w)

def Exchange.events (e : Exchange w) : List (Side × LinkEvent w) :=
  e.sync.events .left ++ (e.request.events .right ++ e.answers.flatMap fun p => p.events .left)

/-- There are answers enough to empty the resend list, and the frames of the sender start with
no more than `sky_tx` puts there. -/
structure Exchange.Drains (e : Exchange w) : Prop where
  answers : arqResendScheduleDepth ≤ e.answers.length
  starts : ∀ p ∈ e.sync :: e.answers, p.first.tx.length ≤ 20

instance (e : Exchange w) : Decidable e.Drains :=
  decidable_of_iff (arqResendScheduleDepth ≤ e.answers.length ∧
      ∀ p ∈ e.sync :: e.answers, p.first.tx.length ≤ 20)
    ⟨fun h => ⟨h.1, h.2⟩, fun h => ⟨h.answers, h.starts⟩⟩

/-- The sender is due to tell its heads, the receiver may still put a request in its window,
and neither of these frames nor the first answer is lost. -/
structure Exchange.Completes (e : Exchange w) (l : Link w) : Prop where
  sync : e.sync.lost = false ∧
    l.near.vc.ctrlDue e.sync.config e.sync.filled e.sync.frames = true
  request : e.request.lost = false ∧ idleFramesLeft e.request.config e.request.frames = true
  answer : ∀ p ∈ e.answers.head?, p.lost = false

instance (e : Exchange w) (l : Link w) : Decidable (e.Completes l) :=
  decidable_of_iff ((e.sync.lost = false ∧
        l.near.vc.ctrlDue e.sync.config e.sync.filled e.sync.frames = true) ∧
      (e.request.lost = false ∧ idleFramesLeft e.request.config e.request.frames = true) ∧
      ∀ p ∈ e.answers.head?, p.lost = false)
    ⟨fun h => ⟨h.1, h.2.1, h.2.2⟩, fun h => ⟨h.sync, h.request, h.answer⟩⟩

/-- How many exchanges of a run are complete. -/
def Link.completed : Link w → List (Exchange w) → Nat
  | _, [] => 0
  | l, e :: es => (if e.Completes l then 1 else 0) + completed (l.run e.events) es

/-- The link with other channels at its ends. -/
def Link.withChannels (l : Link w) (near far : SkyVirtualChannel w) : Link w :=
  { l with near := { l.near with vc := near }, far := { l.far with vc := far } }

theorem Link.withChannels_swap (l : Link w) (near far : SkyVirtualChannel w) :
    (l.swap.withChannels near far).swap = l.withChannels far near :=
  congrArg (fun m : Link w => m.withChannels far near) l.swap_swap

section Passages

variable {l : Link w} {p : Passage w} {vc : SkyVirtualChannel w} {tx : SkyTransmitFrame}
  {ret : SkyRet} {identity : Bytes} {others : List (ExtValue w)}
  {channel : Fin skyNumVirtualChannels} {c : ArqContent w}

/-- A frame that is the only one in flight. -/
theorem Passage.run_left_eq (hout : l.out = [])
    (hfill : skyVcFillFrame l.near.vc p.config p.first.tx p.filled p.frames = (vc, tx, ret))
    (hret : 0 ≤ ret) :
    l.run (p.events .left) =
      { l with
        near := { l.near with vc := vc }
        far := if p.lost then l.far
          else l.far.process (l.sessions.map skyHton32) p.tickTime p.met tx.frame } := by
  have hfilled : l.step (.fill p.first p.config p.filled p.frames) =
      { l with near := { l.near with vc := vc }, out := [tx.frame] } := by
    rw [fill_eq hfill, if_neg (not_lt.mpr hret), hout, List.nil_append]
  rw [Passage.events]
  cases p.lost with
  | true =>
      show (l.step (.fill p.first p.config p.filled p.frames)).step (.lose 0) =
        { l with near := { l.near with vc := vc } }
      rw [hfilled, ← hout]
      rfl
  | false =>
      let met : Endpoint w :=
        l.far.process (l.sessions.map skyHton32) p.tickTime p.met tx.frame
      show ((l.step (.fill p.first p.config p.filled p.frames)).swap.step
        (.process p.tickTime p.met)).swap = { l with near := { l.near with vc := vc }, far := met }
      have hback := congrArg (fun m : Link w =>
        { m with near := { l.near with vc := vc }, far := met, out := l.out }) l.swap_swap
      rw [hfilled, ← hback, hout]
      rfl

/-- What the right endpoint does is what the left one does in the mirror. -/
theorem Passage.run_right_eq (l : Link w) (p : Passage w) :
    l.run (p.events .right) = (l.swap.run (p.events .left)).swap := by
  rw [Passage.events, Passage.events]
  cases p.lost with
  | true =>
      exact congrArg (fun l' : Link w => (l'.step (.lose 0)).swap) (Link.swap_swap
        (l.swap.step (.fill p.first p.config p.filled p.frames)))
  | false =>
      exact (Link.swap_swap ((l.swap.step
        (.fill p.first p.config p.filled p.frames)).swap.step (.process p.tickTime p.met))).symm

/-- A frame without handshake changes the channels only. -/
theorem Passage.run_left (hw : w ≤ 56) (h8 : 8 ∣ w) (hout : l.out = [])
    (hfill : skyVcFillFrame l.near.vc p.config p.first.tx p.filled p.frames = (vc, tx, ret))
    (hret : 0 ≤ ret) (hcarries : tx.Carries identity others channel c)
    (hnone : c.handshake = none) :
    ∃ parsed, parsed.Reads c ∧ l.run (p.events .left) = l.withChannels vc
      (if p.lost then l.far.vc
        else (skyVcProcessFrame p.tickTime l.far.vc parsed p.met).1) := by
  obtain ⟨parsed, hparse, hreads⟩ := hcarries.parse hw h8
  have hidentifier : parsed.handshakeIdentifier = none := by
    have hread := hreads.handshake
    rw [hnone] at hread
    rw [SkyParsedFrame.handshakeIdentifier, Option.map_eq_none_iff]
    exact Option.map_eq_none_iff.mp hread
  refine ⟨parsed, hreads, ?_⟩
  rw [Passage.run_left_eq hout hfill hret, Endpoint.process, hparse]
  dsimp only
  rw [hidentifier]
  cases p.lost <;> rfl

theorem Passage.run_right (hw : w ≤ 56) (h8 : 8 ∣ w) (hinn : l.inn = [])
    (hfill : skyVcFillFrame l.far.vc p.config p.first.tx p.filled p.frames = (vc, tx, ret))
    (hret : 0 ≤ ret) (hcarries : tx.Carries identity others channel c)
    (hnone : c.handshake = none) :
    ∃ parsed, parsed.Reads c ∧ l.run (p.events .right) = l.withChannels
      (if p.lost then l.near.vc
        else (skyVcProcessFrame p.tickTime l.near.vc parsed p.met).1) vc := by
  obtain ⟨parsed, hreads, hrun⟩ :=
    Passage.run_left (l := l.swap) hw h8 hinn hfill hret hcarries hnone
  refine ⟨parsed, hreads, ?_⟩
  rw [Passage.run_right_eq, hrun, Link.withChannels_swap]
  rfl

end Passages

/-! ## One exchange -/

/-- The near channel can send again what the far one lacks. -/
structure Repairs (near far : SkyVirtualChannel w) (log : List Bytes) (v u : VcView) : Prop where
  sender : Resender near v log
  receiver : Requester far u log
  order : v.sendTail ≤ u.rcvHead
  fits : near.sendRing.length + far.rcvRing.horizonWidth ≤ 2 ^ w
  full : ∀ p ∈ log.drop u.rcvHead, p ≠ []

theorem poppedEntries_length (entries : List (BitVec w)) :
    (poppedEntries entries).length = entries.length - 1 := by
  cases hentries : entries.dropLast with
  | nil =>
      have hlength := congrArg List.length hentries
      rw [List.length_dropLast, List.length_nil] at hlength
      rw [poppedEntries, hentries, hlength]
      rfl
  | cons s rest =>
      have hlength := congrArg List.length hentries
      rw [List.length_dropLast, List.length_cons] at hlength
      rw [poppedEntries, hentries, List.getLast?_eq_some_getLast (List.cons_ne_nil s rest),
        List.length_append, hlength]
      rfl

namespace Repairs

variable {l : Link w} {near far : SkyVirtualChannel w} {log : List Bytes} {v u : VcView}

/-- A frame of the sender brings the packet that is first in its resend list, and tells where
the sender is. -/
theorem answer (h : Repairs l.near.vc l.far.vc log v u) (hw : ArqSequenceWidth w)
    (hout : l.out = []) {p : Passage w} (hstart : p.first.tx.length ≤ 20) :
    ∃ near far u', l.run (p.events .left) = l.withChannels near far ∧
      Repairs near far log v u' ∧ u.rcvHead ≤ u'.rcvHead ∧ u'.rcvTail = u.rcvTail ∧
      near.sendRing.resends = poppedEntries l.near.vc.sendRing.resends ∧
      (p.lost = false → l.near.vc.sendRing.resends.head? = some (serial 0 u.rcvHead) →
        u.rcvHead < log.length → u.rcvHead < u'.rcvHead) ∧
      (p.lost = false → l.near.vc.ctrlDue p.config p.filled p.frames = true →
        Noticed far u' log) := by
  obtain ⟨h8, hw56, -⟩ := hw.bounds
  obtain ⟨near, tx, ret, c, hfill, hret, hcarries, hanswers, hsender, hsizes, hpopped, htells⟩ :=
    h.sender.fill hw p.first hstart p.config p.filled p.frames
  obtain ⟨parsed, hreads, hrun⟩ :=
    Passage.run_left hw56 h8 hout hfill hret hcarries hanswers.handshake
  have hfits := h.fits
  rw [← hsizes.sendLength] at hfits
  cases hlost : p.lost with
  | true =>
      rw [hlost] at hrun
      exact ⟨near, l.far.vc, u, hrun, ⟨hsender, h.receiver, h.order, hfits, h.full⟩, le_rfl, rfl,
        hpopped, nofun, nofun⟩
  | false =>
      obtain ⟨hle, hle', hroom, hlen⟩ := h.sender.rep.sendOrder
      have hwidth := h.fits
      have hlength := h.sender.logged.1
      have hheadLe := h.receiver.head_le
      have hfull : ∀ q, log[u.rcvHead]? = some q → q ≠ [] := by
        intro q hq
        refine h.full q (List.mem_iff_getElem?.mpr ⟨0, ?_⟩)
        rw [List.getElem?_drop, Nat.add_zero]
        exact hq
      obtain ⟨far, u', hfar, hreceiver, hsizes', hmono, htail, hmoves, hnoticed⟩ :=
        h.receiver.process hw h.sender hanswers hreads h.order (by omega) hfull p.tickTime p.met
      rw [hlost, hfar] at hrun
      refine ⟨near, far, u', hrun, ⟨hsender, hreceiver, h.order.trans hmono, ?_, ?_⟩, hmono, htail,
        hpopped, fun _ => hmoves, fun _ hdue => hnoticed (htells hdue)⟩
      · rw [hsizes'.horizonWidth]
        exact hfits
      · intro q hq
        refine h.full q ?_
        rw [← Nat.add_sub_cancel' hmono, ← List.drop_drop] at hq
        exact List.mem_of_mem_drop hq

/-- A frame of the receiver asks for the packet that is missing at its head. -/
theorem ask (h : Repairs l.near.vc l.far.vc log v u) (hw : ArqSequenceWidth w)
    (hinn : l.inn = []) (hempty : l.near.vc.sendRing.resends = []) (p : Passage w) :
    ∃ near far v', l.run (p.events .right) = l.withChannels near far ∧
      Repairs near far log v' u ∧
      (p.lost = false → idleFramesLeft p.config p.frames = true → Noticed l.far.vc u log →
        u.rcvHead < log.length → near.sendRing.resends.head? = some (serial 0 u.rcvHead)) := by
  obtain ⟨h8, hw56, -⟩ := hw.bounds
  obtain ⟨far, tx, ret, c, hfill, hret, hcarries, hnone, hsilent, hctrl, hrequest, hreceiver,
    hsizes⟩ := h.receiver.fill hw p.first p.config p.filled p.frames
  obtain ⟨parsed, hreads, hrun⟩ := Passage.run_right hw56 h8 hinn hfill hret hcarries hnone
  have hfits := h.fits
  rw [← hsizes.horizonWidth] at hfits
  cases hlost : p.lost with
  | true =>
      rw [hlost] at hrun
      exact ⟨l.near.vc, far, v, hrun, ⟨h.sender, hreceiver, h.order, hfits, h.full⟩, nofun⟩
  | false =>
      have hsent : v.sendTx = log.length := h.sender.drained.trans h.sender.logged.1.symm
      obtain ⟨near, v', hnear, hsender, htail, htx, hsizes', hscheduled⟩ :=
        h.sender.process hreads ⟨hnone, hsilent⟩ h.order (h.receiver.head_le.trans hsent.ge) hctrl
          hempty p.tickTime p.met
      rw [hlost, hnear] at hrun
      refine ⟨near, far, v', hrun, ⟨hsender, hreceiver, htail, ?_, h.full⟩,
        fun _ hidle hnoticed hmissing => ?_⟩
      · rw [hsizes'.sendLength]
        exact hfits
      · have hdue : l.far.vc.requestDue p.config p.frames = true := by
          rw [SkyVirtualChannel.requestDue, hidle, Bool.true_and, Bool.or_eq_true]
          exact .inr (bne_iff_ne.mpr (hnoticed.resolve_left (Nat.ne_of_lt hmissing)))
        obtain ⟨mask, hmask⟩ := hrequest hdue
        exact hscheduled mask hmask (by omega)

/-- Answers never take the receiver back, and each shortens the resend list. -/
theorem answers (h : Repairs l.near.vc l.far.vc log v u) (hw : ArqSequenceWidth w)
    (hout : l.out = []) {ps : List (Passage w)} (hstarts : ∀ p ∈ ps, p.first.tx.length ≤ 20) :
    ∃ near far u', l.run (ps.flatMap fun p => p.events .left) = l.withChannels near far ∧
      Repairs near far log v u' ∧ u.rcvHead ≤ u'.rcvHead ∧ u'.rcvTail = u.rcvTail ∧
      near.sendRing.resends.length = l.near.vc.sendRing.resends.length - ps.length ∧
      ((∀ p ∈ ps.head?, p.lost = false) → ps ≠ [] →
        l.near.vc.sendRing.resends.head? = some (serial 0 u.rcvHead) →
        u.rcvHead < log.length → u.rcvHead < u'.rcvHead) := by
  induction ps generalizing l u with
  | nil => exact ⟨l.near.vc, l.far.vc, u, rfl, h, le_rfl, rfl, rfl, fun _ hnil => absurd rfl hnil⟩
  | cons p ps ih =>
      obtain ⟨near, far, u₁, hrun, h₁, hmono, htail, hpopped, hmoves, -⟩ :=
        h.answer hw hout (hstarts p List.mem_cons_self)
      obtain ⟨near', far', u', hrun', h', hmono', htail', hlength, -⟩ :=
        ih (l := l.withChannels near far) h₁ hout fun p hp =>
          hstarts p (List.mem_cons_of_mem _ hp)
      refine ⟨near', far', u', ?_, h', hmono.trans hmono', htail'.trans htail, ?_,
        fun hlost _ hhead hmissing => (hmoves (hlost p rfl) hhead hmissing).trans_le hmono'⟩
      · rw [List.flatMap_cons, Link.run, List.foldl_append]
        exact (congrArg (fun l' : Link w => l'.run _) hrun).trans hrun'
      · have hshorter : near.sendRing.resends.length =
            l.near.vc.sendRing.resends.length - 1 := by
          rw [hpopped, poppedEntries_length]
        rw [List.length_cons, hlength]
        show near.sendRing.resends.length - ps.length = _
        omega

/-- An exchange leaves the sender with nothing to send. A complete one brings the packet that
is missing at the head of the receiver. -/
theorem exchange (h : Repairs l.near.vc l.far.vc log v u) (hw : ArqSequenceWidth w)
    (hfree : l.out = [] ∧ l.inn = []) (hempty : l.near.vc.sendRing.resends = [])
    {e : Exchange w} (hdrains : e.Drains) :
    ∃ near far v' u', l.run e.events = l.withChannels near far ∧ Repairs near far log v' u' ∧
      u'.rcvTail = u.rcvTail ∧ near.sendRing.resends = [] ∧ u.rcvHead ≤ u'.rcvHead ∧
      (e.Completes l → u.rcvHead < log.length → u.rcvHead < u'.rcvHead) := by
  obtain ⟨near₁, far₁, u₁, hrun₁, h₁, hmono₁, htail₁, hpopped, -, hnoticed⟩ :=
    h.answer hw hfree.1 (hdrains.starts _ List.mem_cons_self)
  have hnil : near₁.sendRing.resends = [] := by
    rw [hpopped, hempty]
    rfl
  obtain ⟨near₂, far₂, v', hrun₂, h₂, hscheduled⟩ :=
    h₁.ask (l := l.withChannels near₁ far₁) hw hfree.2 hnil e.request
  obtain ⟨near₃, far₃, u₃, hrun₃, h₃, hmono₃, htail₃, hlength, hmoves⟩ :=
    h₂.answers (l := l.withChannels near₂ far₂) hw hfree.1 fun p hp =>
      hdrains.starts p (List.mem_cons_of_mem _ hp)
  have hanswers := hdrains.answers
  have hdepth : near₂.sendRing.resends.length ≤ arqResendScheduleDepth := by
    rw [h₂.sender.fit.length_resends]
    exact h₂.sender.fit.count_le
  refine ⟨near₃, far₃, v', u₃, ?_, h₃, htail₃.trans htail₁, ?_, hmono₁.trans hmono₃,
    fun hcompletes hmissing => ?_⟩
  · rw [Exchange.events, Link.run, List.foldl_append, List.foldl_append]
    calc (((l.run (e.sync.events .left)).run (e.request.events .right)).run
            (e.answers.flatMap fun p => p.events .left))
        = ((l.withChannels near₁ far₁).run (e.request.events .right)).run
            (e.answers.flatMap fun p => p.events .left) := by rw [hrun₁]
      _ = (l.withChannels near₂ far₂).run (e.answers.flatMap fun p => p.events .left) :=
          congrArg (fun l' : Link w => l'.run _) hrun₂
      _ = l.withChannels near₃ far₃ := hrun₃
  · rw [← List.length_eq_zero_iff, hlength]
    exact Nat.sub_eq_zero_of_le (hdepth.trans hanswers)
  · rcases Nat.lt_or_ge u.rcvHead u₁.rcvHead with hearlier | hlater
    · exact hearlier.trans_le hmono₃
    · obtain heq : u₁.rcvHead = u.rcvHead := le_antisymm hlater hmono₁
      rw [← heq] at hmissing ⊢
      have hhead := hscheduled hcompletes.request.1 hcompletes.request.2
        (hnoticed hcompletes.sync.1 hcompletes.sync.2) hmissing
      refine hmoves hcompletes.answer (fun hnone => ?_) hhead hmissing
      rw [hnone, List.length_nil] at hanswers
      exact absurd hanswers (by decide)

/-- After as many complete exchanges as packets are missing all of them have arrived. -/
theorem exchanges (h : Repairs l.near.vc l.far.vc log v u) (hw : ArqSequenceWidth w)
    (hfree : l.out = [] ∧ l.inn = []) (hempty : l.near.vc.sendRing.resends = [])
    {es : List (Exchange w)} (hdrain : ∀ e ∈ es, e.Drains)
    (hmany : log.length ≤ u.rcvHead + l.completed es) :
    ∃ near far v' u', l.run (es.flatMap Exchange.events) = l.withChannels near far ∧
      Repairs near far log v' u' ∧ u'.rcvTail = u.rcvTail ∧ u'.rcvHead = log.length := by
  induction es generalizing l v u with
  | nil =>
      exact ⟨l.near.vc, l.far.vc, v, u, rfl, h, rfl, le_antisymm h.receiver.head_le hmany⟩
  | cons e es ih =>
      obtain ⟨near, far, v₁, u₁, hrun, h₁, htail, hempty₁, hmono, hmoves⟩ :=
        h.exchange hw hfree hempty (hdrain e List.mem_cons_self)
      have hfewer : log.length ≤ u₁.rcvHead + (l.withChannels near far).completed es := by
        rw [Link.completed, hrun] at hmany
        by_cases hcompletes : e.Completes l
        · rw [if_pos hcompletes] at hmany
          rcases Nat.lt_or_ge u.rcvHead log.length with hmissing | hall
          · have := hmoves hcompletes hmissing
            omega
          · omega
        · rw [if_neg hcompletes] at hmany
          omega
      obtain ⟨near', far', v', u', hrun', h', htail', hall⟩ :=
        ih (l := l.withChannels near far) h₁ hfree hempty₁
          (fun e he => hdrain e (List.mem_cons_of_mem _ he)) hfewer
      refine ⟨near', far', v', u', ?_, h', htail'.trans htail, hall⟩
      rw [List.flatMap_cons, Link.run, List.foldl_append]
      exact (congrArg (fun l' : Link w => l'.run _) hrun).trans hrun'

end Repairs

/-! ## In a session -/

/-- What has been handed over at the far endpoint, and what can be read there. -/
def Link.arrived (l : Link w) : List Bytes := l.far.read ++ l.far.vc.unread

/-- Nothing is in flight and no handshake is owed. The near endpoint has sent what it accepted
and the far one has nothing to send. The packets that are missing are not too many for the
window of the far one, there are slots for them, and none of them is empty. -/
structure Link.Repairable (l : Link w) : Prop where
  free : l.out = [] ∧ l.inn = []
  settled : l.near.vc.handshakeSend = 0 ∧ l.far.vc.handshakeSend = 0
  sent : sendRingCountPacketsToSend l.near.vc.sendRing true = 0
  quiet : sendRingCountPacketsToSend l.far.vc.sendRing true = 0 ∧
    l.far.vc.sendRing.tailSequence = l.far.vc.sendRing.headSequence
  gap : l.near.pushed.length ≤ l.far.rcvHead + arqMaximumHorizon
  room : l.near.pushed.length + l.far.vc.rcvRing.horizonWidth <
    l.far.read.length + l.far.vc.rcvRing.length
  full : ∀ p ∈ l.near.pushed.drop l.far.rcvHead, p ≠ []

instance (l : Link w) : Decidable l.Repairable :=
  decidable_of_iff ((l.out.length = 0 ∧ l.inn.length = 0) ∧
      (l.near.vc.handshakeSend = 0 ∧ l.far.vc.handshakeSend = 0) ∧
      sendRingCountPacketsToSend l.near.vc.sendRing true = 0 ∧
      (sendRingCountPacketsToSend l.far.vc.sendRing true = 0 ∧
        l.far.vc.sendRing.tailSequence = l.far.vc.sendRing.headSequence) ∧
      l.near.pushed.length ≤ l.far.rcvHead + arqMaximumHorizon ∧
      l.near.pushed.length + l.far.vc.rcvRing.horizonWidth <
        l.far.read.length + l.far.vc.rcvRing.length ∧
      ∀ p ∈ l.near.pushed.drop l.far.rcvHead, p ≠ [])
    ⟨fun ⟨⟨hout, hinn⟩, hsettled, hsent, hquiet, hgap, hroom, hfull⟩ =>
      ⟨⟨List.length_eq_zero_iff.mp hout, List.length_eq_zero_iff.mp hinn⟩, hsettled, hsent,
        hquiet, hgap, hroom, hfull⟩,
    fun h => ⟨⟨List.length_eq_zero_iff.mpr h.free.1, List.length_eq_zero_iff.mpr h.free.2⟩,
      h.settled, h.sent, h.quiet, h.gap, h.room, h.full⟩⟩

/-- The buffer of a channel is made for all slots of the rings. -/
theorem SkyVirtualChannel.Reached.rcvRingFits {vc : SkyVirtualChannel w} (hw : 250 ≤ 2 ^ w)
    (h : vc.Reached) : vc.RcvRingFits := by
  obtain ⟨config, conf, created, ops, hcreate, -, rfl⟩ := h
  obtain ⟨hsend, -, -, hcount⟩ := skyVcCreate_elementCount hw hcreate
  refine (created.run_layout ops).rcvRingFits ?_
  rw [SkyVirtualChannel.RcvRingFits, hcount]
  exact Nat.mul_le_mul_right _ (by omega)

/-- The sizes that a channel was created with stay. -/
theorem Link.run_layout {start : Link w} {events : List (Side × LinkEvent w)}
    (hmeets : start.RunMeets Link.StaysConnected events) :
    SameLayout start.near.vc (start.run events).near.vc ∧
      SameLayout start.far.vc (start.run events).far.vc := by
  refine Link.run_induction
    (P := fun start l => SameLayout start.near.vc l.near.vc ∧ SameLayout start.far.vc l.far.vc)
    (fun _ _ h => h.symm) ?_ ⟨.refl _, .refl _⟩ hmeets
  rintro start l e ⟨hnear, hfar⟩ hstays
  refine ⟨hnear.trans ?_, by rw [l.step_far]; exact hfar⟩
  cases e with
  | push payload =>
      show SameLayout l.near.vc (l.near.push payload).vc
      rw [Endpoint.push_vc]
      exact l.near.vc.pushPacketToSend_layout payload
  | read maxLength =>
      show SameLayout l.near.vc (l.near.readNext maxLength).vc
      rw [Endpoint.readNext_vc]
      exact l.near.vc.readNextReceived_layout maxLength
  | fill first config now frames => exact l.near.vc.fillFrame_layout config first.tx now frames
  | process tickTime now =>
      cases hinn : l.inn with
      | nil =>
          rw [Link.step, hinn]
          exact .refl _
      | cons frame rest =>
          rw [Link.step_process hinn]
          show SameLayout l.near.vc (l.near.process l.sessions tickTime now frame).vc
          cases hparse : frame.parse w with
          | error ret =>
              rw [Endpoint.process, hparse]
              exact .refl _
          | ok parsed =>
              rw [Endpoint.process_vc _ _ _ _ hparse]
              exact l.near.vc.processFrame_layout tickTime parsed now
  | lose i => exact .refl _
  | connect tickTime => exact hstays.elim
  | disconnect => exact hstays.elim
  | checkTimeouts now timeout => exact hstays.elim

/-- Longer payloads are refused. -/
theorem Link.run_short {start : Link w} {events : List (Side × LinkEvent w)}
    (hmeets : start.RunMeets Link.StaysConnected events)
    (hshort : ∀ p ∈ start.near.pushed ++ start.far.pushed, p.length ≤ skyPayloadMaxLen) :
    ∀ p ∈ (start.run events).near.pushed ++ (start.run events).far.pushed,
      p.length ≤ skyPayloadMaxLen := by
  refine @Link.run_induction w _
    (fun _ l => ∀ p ∈ l.near.pushed ++ l.far.pushed, p.length ≤ skyPayloadMaxLen)
    (fun _ l h p hp => h p (List.mem_append.mpr (List.mem_append.mp hp).symm)) ?_ start start
    hshort events hmeets
  intro _ l e h hstays p hp
  rw [l.step_far] at hp
  cases e with
  | push payload =>
      replace hp : p ∈ (l.near.push payload).pushed ++ l.far.pushed := hp
      rw [Endpoint.push, skyVcPushPacketToSend] at hp
      by_cases hlong : skyPayloadMaxLen < payload.length
      · rw [if_pos hlong] at hp
        exact h p hp
      · rw [if_neg hlong] at hp
        dsimp only at hp
        split at hp
        · rename_i heq
          rw [List.append_assoc, List.mem_append, List.mem_append, List.mem_singleton] at hp
          rcases hp with hp | rfl | hp
          · exact h p (List.mem_append_left _ hp)
          · exact not_lt.mp hlong
          · exact h p (List.mem_append_right _ hp)
        · exact h p hp
  | read maxLength =>
      replace hp : p ∈ (l.near.readNext maxLength).pushed ++ l.far.pushed := hp
      rw [Endpoint.readNext] at hp
      split at hp <;> exact h p hp
  | process tickTime now =>
      have hsame : (l.step (.process tickTime now)).near.pushed = l.near.pushed := by
        cases hinn : l.inn with
        | nil => rw [Link.step, hinn]
        | cons frame rest =>
            rw [Link.step_process hinn]
            show (l.near.process l.sessions tickTime now frame).pushed = _
            rw [Endpoint.process]
            split
            · rfl
            · rw [Endpoint.record]
              split <;> rfl
      rw [hsame] at hp
      exact h p hp
  | _ => exact h p hp

/-- The two channels of a session that is ready for it. -/
theorem InSession.repairs {start l : Link w} {names : Naming} {n : Net}
    (h : InSession start l names n) (hready : l.Repairable) (hfits : start.Fits)
    (hshort : ∀ p ∈ l.near.pushed, p.length ≤ skyPayloadMaxLen)
    (hcapacity : l.far.vc.RcvRingFits) :
    ∃ v u, Repairs l.near.vc l.far.vc l.near.pushed v u ∧ u.rcvTail = l.far.read.length ∧
      u.rcvHead = l.far.rcvHead ∧ l.near.vc.sendRing.resends = [] := by
  obtain ⟨v, hrep, hview⟩ := h.sim.near.view
  obtain ⟨u, hrep', hview'⟩ := h.sim.far.view
  obtain ⟨htail, hhead⟩ := h.swap.rcvHead_eq hrep' hview'
  replace htail : l.far.read.length = u.rcvTail := htail
  replace hhead : l.far.rcvHead = u.rcvHead := hhead
  have hwhole := h.swap.whole
  have horigin : n.far.origin = 0 := hwhole.origin
  obtain ⟨-, -, hlo, hhi⟩ := h.inv.window h.whole.mode hwhole.mode
  have hbase := h.base
  have hnodeTail := hview.tail
  have hnodeTx := hview.tx
  have hnodeHead := hview.head
  have hnodePushed := hview.pushed
  have hnodeRcv := hview'.rHead
  obtain ⟨hle, hle', hwindow, hlen⟩ := hrep.sendOrder
  obtain ⟨hfarLe, hfarLe', hfarWindow, hfarLen⟩ := hrep'.sendOrder
  -- nothing is new and nothing is scheduled at either end
  have hcounted {vc : SkyVirtualChannel w} {v : VcView} (hrep : VcRep vc v)
      (hnone : sendRingCountPacketsToSend vc.sendRing true = 0) :
      v.sendHead - v.sendTx = 0 ∧ vc.sendRing.resends = [] := by
    obtain ⟨m, hm⟩ := hrep
    have hcount := hm.send.countAll
    rw [hnone] at hcount
    exact ⟨by omega, hm.send.resendsFit.resends_eq_nil.mpr (by omega)⟩
  obtain ⟨hdrained, hnil⟩ := hcounted hrep hready.sent
  obtain ⟨hfarDrained, hfarNil⟩ := hcounted hrep' hready.quiet.1
  have hquiet : u.sendTail = u.sendHead := by
    obtain ⟨hsequence, -, hsequence'⟩ := hrep'.sendSequences
    have hsame := hready.quiet.2
    rw [hsequence, hsequence'] at hsame
    exact (serial_inj 0 (hfarLe.trans hfarLe') (by omega) le_rfl (by omega) hsame.symm).symm
  have hcontent : ∀ i p, u.held i = some p → l.near.pushed[i]? = some p := by
    intro i p hp
    obtain ⟨x, hx⟩ := Option.isSome_iff_exists.mp ((hview'.held_isSome i).mpr (by rw [hp]; rfl))
    obtain ⟨q, hlog, hq⟩ := hview'.held i x hx
    have hplace := h.inv.out.received.on 1 hwhole.mode i x hx
    rw [horigin, Nat.zero_add] at hplace
    rw [← hplace, hlog, ← hq, hp]
  have hgap := hready.gap
  have hroom := hready.room
  rw [hhead] at hgap
  rw [htail] at hroom
  refine ⟨v, u, ⟨⟨hrep, h.on.1, hready.settled.1, by omega, fun s hs => ?_, ?_, fun i hi => ?_⟩,
    ⟨hrep', h.swap.on.1, hready.settled.2, hquiet, hfarNil, hshort, hcontent, ?_, hgap, hroom,
      hcapacity⟩, by omega, ?_, ?_⟩, htail.symm, hhead.symm, hnil⟩
  · rw [hnil] at hs
    cases hs
  · omega
  · have hlog := hview.payload i hi
    rwa [hbase, Nat.zero_add] at hlog
  · omega
  · rw [h.sim.sizesNear.sendLength, h.sim.sizesFar.horizonWidth]
    exact hfits
  · rw [← hhead]
    exact hready.full

/-- The first numbers from `t` on stand for a part of the list. -/
theorem filterMap_getElem?_range' {α : Type} (log : List α) {t k : Nat}
    (h : t + k ≤ log.length) :
    (List.range' t k).filterMap (fun i => log[i]?) = (log.drop t).take k := by
  induction k generalizing t with
  | zero => rfl
  | succ k ih =>
      have hlt : t < log.length := by omega
      rw [List.range'_succ, List.filterMap_cons_some (List.getElem?_eq_getElem hlt),
        ih (by omega), List.drop_eq_getElem_cons hlt, List.take_succ_cons]

theorem Requester.unread {vc : SkyVirtualChannel w} {u : VcView} {log : List Bytes}
    (h : Requester vc u log) (hall : u.rcvHead = log.length) :
    vc.unread = log.drop u.rcvTail := by
  obtain ⟨horder, -⟩ := h.rep.rcvOrder
  have hheld : (List.range' u.rcvTail (u.rcvHead - u.rcvTail)).filterMap u.held =
      (List.range' u.rcvTail (u.rcvHead - u.rcvTail)).filterMap fun i => log[i]? := by
    refine List.filterMap_congr fun i hi => ?_
    obtain ⟨hlo, hhi⟩ := List.mem_range'_1.mp hi
    obtain ⟨p, hp⟩ := Option.isSome_iff_exists.mp (h.rep.readable hlo (by omega))
    rw [hp, h.content i p hp]
  rw [h.rep.unread, VcView.unread, hheld, filterMap_getElem?_range' log (by omega), hall,
    ← List.length_drop, List.take_length]

/-- Whatever was lost in a session before, and whatever is lost in the exchanges: after as many
complete ones as packets are missing everything has arrived. -/
theorem exchanges_deliver (hw : ArqSequenceWidth w) {a b : SkyVirtualChannel w} (ha : a.NewlyOn)
    (hb : b.NewlyOn) (hfits : (Link.connected a b).Fits ∧ (Link.connected a b).swap.Fits)
    {before : List (Side × LinkEvent w)}
    (hmeets : (Link.connected a b).RunMeets Link.StaysConnected before)
    (hready : ((Link.connected a b).run before).Repairable) {es : List (Exchange w)}
    (hdrain : ∀ e ∈ es, e.Drains)
    (hmany : ((Link.connected a b).run before).near.pushed.length ≤
      ((Link.connected a b).run before).far.rcvHead +
        ((Link.connected a b).run before).completed es) :
    (((Link.connected a b).run before).run (es.flatMap Exchange.events)).arrived =
      ((Link.connected a b).run before).near.pushed := by
  obtain ⟨h8, hw56, h250⟩ := hw.bounds
  obtain ⟨names, hstart⟩ := connected_inSession h250 ha hb
  obtain ⟨n, hsession⟩ := hstart.runBoth h8 hw56 hfits hmeets
  have hcapacity := (Link.run_layout hmeets).2.rcvRingFits (hb.reached.rcvRingFits h250)
  have hshort := Link.run_short hmeets fun p hp => absurd hp List.not_mem_nil
  generalize (Link.connected a b).run before = l at *
  obtain ⟨v, u, hrepairs, htail, hhead, hnil⟩ := hsession.repairs hready hfits.1
    (fun p hp => hshort p (List.mem_append_left _ hp)) hcapacity
  rw [← hhead] at hmany
  obtain ⟨near, far, v', u', hrun, hafter, htail', hall⟩ :=
    hrepairs.exchanges hw hready.free hnil hdrain hmany
  have hread : l.far.read = l.near.pushed.take l.far.read.length := hsession.swap.read_eq.1
  rw [hrun]
  show l.far.read ++ far.unread = l.near.pushed
  rw [hafter.receiver.unread hall, htail', htail]
  calc l.far.read ++ l.near.pushed.drop l.far.read.length
      = l.near.pushed.take l.far.read.length ++ l.near.pushed.drop l.far.read.length := by
        rw [← hread]
    _ = l.near.pushed := List.take_append_drop _ _

end Skylink
