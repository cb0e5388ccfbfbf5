import Skylink.Link.Runs
import Skylink.VirtualChannel.Runs

/-!
# Delivery over the ends of sessions

What an endpoint hands over was accepted for sending by the other one, in the same
order, and in a common session the acknowledgements that travel back are sound. Both
rest on sessions being new to those who enter them; the runs at the end show what goes
wrong without.
-/

namespace Skylink

open SerialNumber SessionWindow

variable {w : Nat}

/-! ## A session for examples -/

def exampleIdentity : Bytes := [1, 2, 3]

theorem exampleIdentity_length :
    0 < exampleIdentity.length ∧ exampleIdentity.length ≤ skyMaxIdentityLen := by
  decide

/-- Fill a frame at a tick, with idle frames left in the window. -/
def LinkEvent.send (now : Int) : LinkEvent 8 :=
  .fill (.plain exampleIdentity exampleIdentity_length 0) (exampleConfig 0 1) now 0

/-- The left endpoint opens a session whose identifier reads the same on both sides. -/
def exampleSession : List (Side × LinkEvent 8) :=
  [(.left, .connect 0x01010101), (.left, .send 10), (.right, .process 11 11), (.right, .send 12),
    (.left, .process 13 13)]

/-! ## Payloads are handed over once -/

theorem sublist_drop_of_increasing {α : Type} {log xs : List α} {is : List Nat}
    (his : is.Pairwise (· < ·)) (h : xs.map some = is.map (log[·]?)) {k : Nat}
    (hk : ∀ i ∈ is, k ≤ i) : xs.Sublist (log.drop k) := by
  induction is generalizing xs k with
  | nil =>
      rw [List.map_nil, List.map_eq_nil_iff] at h
      rw [h]
      exact List.nil_sublist _
  | cons i is ih =>
      obtain ⟨x, xs, rfl⟩ : ∃ x xs', xs = x :: xs' := by
        cases xs with
        | nil => cases h
        | cons x xs' => exact ⟨x, xs', rfl⟩
      rw [List.map_cons, List.map_cons, List.cons_eq_cons] at h
      obtain ⟨hlt, rfl⟩ := List.getElem?_eq_some_iff.mp h.1.symm
      obtain ⟨hfirst, hrest⟩ := List.pairwise_cons.mp his
      have htail : xs.Sublist (log.drop (i + 1)) := ih hrest h.2 hfirst
      have hdrop : (log.drop i).Sublist (log.drop k) :=
        List.drop_sublist_drop_left _ (hk i List.mem_cons_self)
      refine List.Sublist.trans ?_ hdrop
      rw [List.drop_eq_getElem_cons hlt]
      exact htail.cons_cons _

theorem sublist_of_increasing {α : Type} {log xs : List α} {is : List Nat}
    (his : is.Pairwise (· < ·)) (h : xs.map some = is.map (log[·]?)) : xs.Sublist log := by
  have hsub := sublist_drop_of_increasing his h (k := 0) fun _ _ => Nat.zero_le _
  rwa [List.drop_zero] at hsub

/-- Every payload that was accepted for sending is handed over at most once, and in
order. -/
theorem read_sublist_pushed (hw : ArqSequenceWidth w) {config config' conf conf' : SkyVCConfig}
    {a b : SkyVirtualChannel w} (ha : skyVcCreate config = some (conf, a))
    (hb : skyVcCreate config' = some (conf', b))
    (hfits : (Link.idle a b).Fits ∧ (Link.idle a b).swap.Fits)
    {events : List (Side × LinkEvent w)}
    (hmeets : (Link.idle a b).RunMeets (fun l e => l.NewSessions e ∧ l.NoStalePayload e) events) :
    ((Link.idle a b).run events).far.read.Sublist ((Link.idle a b).run events).near.pushed ∧
      ((Link.idle a b).run events).near.read.Sublist
        ((Link.idle a b).run events).far.pushed := by
  obtain ⟨-, ha', hoff, -⟩ := skyVcCreate_rep hw.bounds.2.2 ha
  obtain ⟨-, hb', hoff', -⟩ := skyVcCreate_rep hw.bounds.2.2 hb
  obtain ⟨ids, n, h⟩ := Link.run_follows False hw ha' hb' ⟨hoff, hoff'⟩ hfits
    (hmeets.imp fun l e he => ⟨he.1, fun _ => he.2⟩)
  obtain ⟨hnear, hfar⟩ := (inv_idle ha'.sendLength_pos hb'.sendLength_pos).ordered
    (Node.fresh_ordered _ _ _) (Node.fresh_ordered _ _ _) h.reach
  exact ⟨sublist_of_increasing hfar.reads h.sim.far.read,
    sublist_of_increasing hnear.reads h.sim.near.read⟩

/-- Two payloads in a session, the first of them lost and sent again. -/
def exampleTransfer : List (Side × LinkEvent 8) :=
  exampleSession ++
    [(.left, .push [1]), (.left, .push [2]), (.left, .send 14), (.left, .lose 0),
      (.left, .send 15), (.right, .process 16 16), (.right, .send 17), (.right, .send 18),
      (.left, .process 19 19), (.left, .send 20), (.right, .process 21 21),
      (.right, .read 200), (.right, .read 200)]

theorem read_sublist_pushed_example :
    ((Link.idle exampleChannel exampleChannel).run exampleTransfer).far.read.Sublist
        ((Link.idle exampleChannel exampleChannel).run exampleTransfer).near.pushed ∧
      ((Link.idle exampleChannel exampleChannel).run exampleTransfer).near.read.Sublist
        ((Link.idle exampleChannel exampleChannel).run exampleTransfer).far.pushed := by
  obtain ⟨conf, hconf⟩ := exampleChannel_eq
  exact read_sublist_pushed (.inl rfl) hconf hconf (by decide +kernel) (by decide +kernel)

/-- The first payload is sent again twice. The receiver hands it over, leaves the session
and takes the second copy for a new payload: it does not look at `flag_arq_on`. -/
def staleTransfer : List (Side × LinkEvent 8) :=
  exampleTransfer ++
    [(.left, .process 22 22), (.left, .send 23), (.right, .disconnect),
      (.right, .process 24 24), (.right, .read 200)]

theorem staleTransfer_read_twice :
    ((Link.idle exampleChannel exampleChannel).run staleTransfer).near.pushed = [[1], [2]] ∧
      ((Link.idle exampleChannel exampleChannel).run staleTransfer).far.read =
        [[1], [2], [1]] := by
  decide +kernel

/-! ## Acknowledgements are sound -/

/-- The head of the receiver lies between the tail and the transmit head of the sender. -/
def HeadInWindow (sender receiver : SkyVirtualChannel w) : Prop :=
  (receiver.rcvRing.headSequence - sender.sendRing.tailSequence).toNat ≤
    (sender.sendRing.txSequence - sender.sendRing.tailSequence).toNat

instance (sender receiver : SkyVirtualChannel w) : Decidable (HeadInWindow sender receiver) :=
  Nat.decLe _ _

theorem LinkSim.headInWindow {start l : Link w} {n : Net} {names : Naming}
    (h : LinkSim start l n names) (hinv : Inv n) (hnear : l.near.vc.arqStateFlag = .on)
    (hfar : l.far.vc.arqStateFlag = .on) : HeadInWindow l.near.vc l.far.vc := by
  obtain ⟨y, hmode, -⟩ := h.near.mode.eq_on hnear
  obtain ⟨z, hmode', -⟩ := h.far.mode.eq_on hfar
  obtain ⟨-, horigin, hlo, hhi⟩ := hinv.window hmode hmode'
  obtain ⟨v, hrep, hview⟩ := h.near.view
  obtain ⟨v', hrep', hview'⟩ := h.far.view
  rw [hview.tail, horigin, hview'.rHead] at hlo
  rw [horigin, hview'.rHead, hview.tx] at hhi
  obtain ⟨htail, hhead, hroom, hlen⟩ := hrep.sendOrder
  obtain ⟨htailSeq, htxSeq, -⟩ := hrep.sendSequences
  rw [HeadInWindow, htailSeq, htxSeq, hrep'.rcvSequences.2,
    serial_sub 0 (by omega) (by omega), serial_sub 0 htail (by omega)]
  omega

/-- In a common session the next payload that a receiver waits for has not been dropped
by the sender, and no other has been sent. -/
theorem headInWindow_of_newSessions (hw : ArqSequenceWidth w)
    {config config' conf conf' : SkyVCConfig} {a b : SkyVirtualChannel w}
    (ha : skyVcCreate config = some (conf, a)) (hb : skyVcCreate config' = some (conf', b))
    (hfits : (Link.idle a b).Fits ∧ (Link.idle a b).swap.Fits)
    {events : List (Side × LinkEvent w)}
    (hmeets : (Link.idle a b).RunMeets Link.NewSessions events)
    (hnear : ((Link.idle a b).run events).near.vc.arqStateFlag = .on)
    (hfar : ((Link.idle a b).run events).far.vc.arqStateFlag = .on) :
    HeadInWindow ((Link.idle a b).run events).near.vc ((Link.idle a b).run events).far.vc ∧
      HeadInWindow ((Link.idle a b).run events).far.vc
        ((Link.idle a b).run events).near.vc := by
  obtain ⟨-, ha', hoff, -⟩ := skyVcCreate_rep hw.bounds.2.2 ha
  obtain ⟨-, hb', hoff', -⟩ := skyVcCreate_rep hw.bounds.2.2 hb
  obtain ⟨ids, n, h⟩ := Link.run_follows True hw ha' hb' ⟨hoff, hoff'⟩ hfits
    (hmeets.imp fun l e he => ⟨he, fun hno => absurd trivial hno⟩)
  exact ⟨h.sim.headInWindow h.inv hnear hfar, h.sim.swap.headInWindow h.inv.swap hfar hnear⟩

theorem headInWindow_example :
    HeadInWindow ((Link.idle exampleChannel exampleChannel).run exampleTransfer).near.vc
        ((Link.idle exampleChannel exampleChannel).run exampleTransfer).far.vc ∧
      HeadInWindow ((Link.idle exampleChannel exampleChannel).run exampleTransfer).far.vc
        ((Link.idle exampleChannel exampleChannel).run exampleTransfer).near.vc := by
  obtain ⟨conf, hconf⟩ := exampleChannel_eq
  exact headInWindow_of_newSessions (.inl rfl) hconf hconf (by decide +kernel)
    (by decide +kernel) (by decide +kernel) (by decide +kernel)

/-- The right endpoint offers a session twice and so is answered twice. It leaves after a
payload and enters the session again with the second answer, its rings empty. -/
def reenteredSession : List (Side × LinkEvent 8) :=
  [(.right, .connect 0x01010101), (.right, .send 10), (.right, .send 11),
    (.left, .process 12 12), (.left, .send 13), (.left, .push [1]), (.left, .send 14),
    (.left, .process 15 15), (.left, .send 16), (.right, .process 17 17),
    (.right, .process 18 18), (.right, .send 19), (.left, .process 20 20),
    (.right, .disconnect), (.right, .process 21 21), (.right, .send 22),
    (.left, .process 23 23)]

theorem reenteredSession_window :
    ((Link.idle exampleChannel exampleChannel).run reenteredSession).near.vc.arqStateFlag = .on ∧
      ((Link.idle exampleChannel exampleChannel).run reenteredSession).far.vc.arqStateFlag =
        .on ∧
      ((Link.idle exampleChannel exampleChannel).run reenteredSession).HandshakesSettled ∧
      ¬HeadInWindow
        ((Link.idle exampleChannel exampleChannel).run reenteredSession).near.vc
        ((Link.idle exampleChannel exampleChannel).run reenteredSession).far.vc := by
  decide +kernel

end Skylink
