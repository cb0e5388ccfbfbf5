import Skylink.Link.Opening
import Skylink.Network.Simulation

/-!
# The life of a session

A session that is opened between two channels goes on as if it were their first one, so that
what is proved of newly connected channels holds after every handshake. In particular what is
accepted in the session arrives behind what was handed over before it.
-/

namespace Skylink

variable {w : Nat}

/-- Two links with the same channels and frames. The second one has not seen what was accepted
and handed over at first. -/
structure Link.Continues (start l l' : Link w) : Prop where
  near : Endpoint.Continues start.near.pushed start.near.read l.near l'.near
  far : Endpoint.Continues start.far.pushed start.far.read l.far l'.far
  out : l'.out = l.out
  inn : l'.inn = l.inn

namespace Link.Continues

variable {start l l' : Link w}

theorem swap (h : Continues start l l') : Continues start.swap l.swap l'.swap :=
  ⟨h.far, h.near, h.inn, h.out⟩

/-- A frame is met in the same way, whatever the history is. -/
theorem process {pushed read : List Bytes} {e e' : Endpoint w}
    (h : Endpoint.Continues pushed read e e') (sessions sessions' : List UInt32)
    (tickTime now : Int) (frame : SkyRadioFrame) :
    Endpoint.Continues pushed read (e.process sessions tickTime now frame)
      (e'.process sessions' tickTime now frame) := by
  refine h.setVc ?_ (e.process_histories _ _ _ _) (e'.process_histories _ _ _ _)
  cases hparse : frame.parse w with
  | error ret =>
      rw [Endpoint.process, Endpoint.process, hparse]
      exact h.vc
  | ok parsed => rw [e.process_vc _ _ _ hparse, e'.process_vc _ _ _ hparse, h.vc]

theorem step (h : Continues start l l') (e : LinkEvent w) :
    Continues start (l.step e) (l'.step e) := by
  cases e with
  | push payload => exact ⟨h.near.push payload, h.far, h.out, h.inn⟩
  | read maxLength => exact ⟨h.near.readNext maxLength, h.far, h.out, h.inn⟩
  | fill first config now frames =>
      have hfill (m : Link w) : m.step (.fill first config now frames) =
          { m with
            near := { m.near with vc := (skyVcFillFrame m.near.vc config first.tx now frames).1 }
            out := if (skyVcFillFrame m.near.vc config first.tx now frames).2.2 < 0 then m.out
              else m.out ++
                [(skyVcFillFrame m.near.vc config first.tx now frames).2.1.frame] } := rfl
      rw [hfill, hfill, h.near.vc]
      exact ⟨h.near.setVc rfl ⟨rfl, rfl⟩ ⟨rfl, rfl⟩, h.far, by rw [h.out], h.inn⟩
  | process tickTime now =>
      cases hinn : l.inn with
      | nil =>
          rw [Link.step, Link.step, hinn, h.inn, hinn]
          exact h
      | cons frame rest =>
          rw [Link.step_process hinn, Link.step_process (h.inn.trans hinn)]
          exact ⟨process h.near _ _ tickTime now frame, h.far, h.out, rfl⟩
  | connect tickTime =>
      exact ⟨h.near.setVc (congrArg (skyVcArqConnect tickTime) h.near.vc) ⟨rfl, rfl⟩ ⟨rfl, rfl⟩,
        h.far, h.out, h.inn⟩
  | disconnect =>
      exact ⟨h.near.setVc (congrArg skyVcArqDisconnect h.near.vc) ⟨rfl, rfl⟩ ⟨rfl, rfl⟩,
        h.far, h.out, h.inn⟩
  | checkTimeouts now timeout =>
      exact ⟨h.near.setVc (congrArg (skyVcCheckTimeouts · now timeout) h.near.vc) ⟨rfl, rfl⟩
        ⟨rfl, rfl⟩, h.far, h.out, h.inn⟩
  | lose i => exact ⟨h.near, h.far, congrArg (·.eraseIdx i) h.out, h.inn⟩

theorem stepAt (h : Continues start l l') (e : Side × LinkEvent w) :
    Continues start (l.stepAt e) (l'.stepAt e) := by
  obtain ⟨side, e⟩ := e
  cases side with
  | left => exact h.step e
  | right =>
      have hback := (h.swap.step e).swap
      rwa [start.swap_swap] at hback

theorem run (h : Continues start l l') (events : List (Side × LinkEvent w)) :
    Continues start (l.run events) (l'.run events) := by
  induction events generalizing l l' with
  | nil => exact h
  | cons e events ih => exact ih (h.stepAt e)

/-- Whether a session goes on does not depend on the history. -/
theorem staysConnected (h : Continues start l l') {e : LinkEvent w} (hstays : l.StaysConnected e) :
    l'.StaysConnected e := by
  cases e with
  | process tickTime now =>
      intro parsed hparsed identifier hidentifier
      rw [h.near.vc]
      refine hstays parsed ?_ identifier hidentifier
      rwa [Link.incoming, h.inn] at hparsed
  | _ => exact hstays

theorem runMeets (h : Continues start l l') {events : List (Side × LinkEvent w)}
    (hmeets : l.RunMeets Link.StaysConnected events) :
    l'.RunMeets Link.StaysConnected events := by
  induction events generalizing l l' with
  | nil => trivial
  | cons e events ih =>
      obtain ⟨hone, hrest⟩ := hmeets
      refine ⟨?_, ih (h.stepAt e) hrest⟩
      obtain ⟨side, e⟩ := e
      cases side with
      | left => exact h.staysConnected hone
      | right => exact h.swap.staysConnected hone

end Link.Continues

/-- The link as the session sees it that has just been opened. -/
def Link.fresh (l : Link w) : Link w := .connected l.near.vc l.far.vc

theorem Link.Opened.continues {l : Link w} {identifier : UInt32} (h : l.Opened identifier) :
    Link.Continues l l l.fresh :=
  ⟨⟨rfl, (List.append_nil _).symm, (List.append_nil _).symm⟩,
    ⟨rfl, (List.append_nil _).symm, (List.append_nil _).symm⟩, h.free.1.symm, h.free.2.symm⟩

/-- The first two of three packets are lost. -/
def exampleLosses : List (Side × LinkEvent 8) :=
  [(.right, .send 10), (.left, .process 11 11), (.left, .push [1]), (.left, .push [2]),
    (.left, .push [3]), (.left, .send 14), (.left, .lose 0), (.left, .send 15), (.left, .lose 0),
    (.left, .send 16), (.right, .process 17 17)]

/-- An exchange of which the request, or all answers but the last, may be lost. -/
def exampleExchange (now : Int) (request answers : Bool) : Exchange 8 :=
  { sync := examplePassage now false
    request := examplePassage now request
    answers := List.replicate 15 (examplePassage now answers) ++ [examplePassage now false] }

/-- Two exchanges fail before three are complete. -/
def exampleExchanges : List (Exchange 8) :=
  [exampleExchange 2000 true false, exampleExchange 4000 false true,
    exampleExchange 6000 false false, exampleExchange 8000 false false,
    exampleExchange 10000 false false]

/-- A channel that has entered a session and sent its handshake. -/
def settledChannel : SkyVirtualChannel 8 :=
  exampleChannel.run
    [.handshake 0 1 0x01010101, .fillFrame (exampleConfig 0 1) exampleStart.tx 0 0]

theorem settledChannel_newlyOn : settledChannel.NewlyOn := by
  obtain ⟨conf, hconf⟩ := exampleChannel_eq
  exact ⟨⟨_, conf, exampleChannel, _, hconf, by decide, rfl⟩, rfl, by decide +kernel⟩

/-- A link whose endpoints have just joined the session, after others. -/
def exampleOpened : Link 8 :=
  { near := { vc := settledChannel, pushed := [[7]], read := [[8]], wipes := 3, newest := 2 }
    far := { vc := settledChannel, pushed := [[8], [9]], read := [[7]], wipes := 2, newest := 2 }
    out := []
    inn := []
    sessions := [5, 0x01010101] }

end Skylink
