import Skylink.VirtualChannel.Content

/-!
# Two endpoints of a virtual channel

The endpoints call the functions of the virtual channel in any order. The frames they
fill travel through one channel in each direction, which may lose frames but neither
reorders nor alters them. Besides the channels the link records its history.
-/

namespace Skylink

variable {w : Nat}

/-- A frame as `sky_tx` hands it to `sky_vc_fill_frame`: nothing is said yet about the
virtual channel. -/
structure FrameStart (w : Nat) where
  tx : SkyTransmitFrame
  identity : Bytes
  others : List (ExtValue w)
  channel : Fin skyNumVirtualChannels
  carries : tx.Carries identity others channel (.nothing : ArqContent w)

/-- The frame with its start byte, identity and static header. -/
def FrameStart.plain (identity : Bytes)
    (hlength : 0 < identity.length ∧ identity.length ≤ skyMaxIdentityLen)
    (channel : Fin skyNumVirtualChannels) : FrameStart w :=
  { tx :=
      { start := (skylinkFrameVersionByte ||| UInt8.ofNat identity.length) :: identity
        hdr := SkyStaticHeader.setVc ⟨0, 0, 0⟩ channel
        body := []
        assertsHold := true }
    identity := identity
    others := []
    channel := channel
    carries :=
      { built := ⟨rfl, hlength.1, hlength.2, rfl, rfl, .nil⟩
        others_le := nofun
        channel := (SkyStaticHeader.setVc_zero channel).1
        arqOn := (SkyStaticHeader.setVc_zero channel).2.1
        hasPayload := (SkyStaticHeader.setVc_zero channel).2.2 } }

/-- `pushed` and `read` are the payloads accepted for sending and handed over, `wipes`
counts how often the rings were wiped, `newest` is the number of the newest session of
the link that the endpoint has offered or entered. -/
structure Endpoint (w : Nat) where
  vc : SkyVirtualChannel w
  pushed : List Bytes
  read : List Bytes
  wipes : Nat
  newest : Nat

/-- Both channels hold the oldest frame first. `sessions` are the identifiers of all
sessions that were offered, in order, as the near endpoint reads them. -/
structure Link (w : Nat) where
  near : Endpoint w
  far : Endpoint w
  out : List SkyRadioFrame
  inn : List SkyRadioFrame
  sessions : List UInt32

/-- The link as the other endpoint sees it. -/
def Link.swap (l : Link w) : Link w :=
  { near := l.far, far := l.near, out := l.inn, inn := l.out
    sessions := l.sessions.map skyHton32 }

theorem Link.swap_swap (l : Link w) : l.swap.swap = l := by
  have hmap : (l.sessions.map skyHton32).map skyHton32 = l.sessions := by
    rw [List.map_map]
    exact List.map_id'' skyHton32_hton32 _
  simp [swap, hmap]

/-- What the near endpoint does, or what happens to its frames. -/
inductive LinkEvent (w : Nat)
  | push (payload : Bytes)
  | read (maxLength : Nat)
  | fill (start : FrameStart w) (config : SkyConfig) (now : Int)
      (framesSentInThisVcWindow : UInt16)
  | process (tickTime now : Int)
  | connect (tickTime : Int)
  | disconnect
  | checkTimeouts (now timeout : Int)
  | lose (i : Nat)

/-- A filled frame is parsed, and its extensions are read. -/
theorem SkyTransmitFrame.Carries.parse {tx : SkyTransmitFrame} {identity : Bytes}
    {others : List (ExtValue w)} {v : Fin skyNumVirtualChannels} {c : ArqContent w}
    (h : tx.Carries identity others v c) (hw : w ≤ 56) (h8 : 8 ∣ w) :
    ∃ parsed, tx.frame.parse w = .ok parsed ∧ parsed.Reads c := by
  obtain ⟨parsed, hheader, -, hreads⟩ := h.reads hw h8
  refine ⟨parsed, ?_, hreads⟩
  rw [SkyRadioFrame.parse, h.built.rxIdentity]
  exact hheader

/-- The identifier of the handshake of a frame, as the receiver reads it. -/
def SkyParsedFrame.handshakeIdentifier (parsed : SkyParsedFrame) : Option UInt32 :=
  parsed.arqHandshake.map fun ext => ext.arqHandshake.2

namespace Endpoint

def push (e : Endpoint w) (payload : Bytes) : Endpoint w :=
  match skyVcPushPacketToSend e.vc payload with
  | (vc, .ok _) => { e with vc := vc, pushed := e.pushed ++ [payload] }
  | (vc, .error _) => { e with vc := vc }

def readNext (e : Endpoint w) (maxLength : Nat) : Endpoint w :=
  match skyVcReadNextReceived e.vc maxLength with
  | (vc, .ok (_, payload)) => { e with vc := vc, read := e.read ++ [payload] }
  | (vc, .error _) => { e with vc := vc }

/-- The endpoint once its channel has met a handshake. The number of a session is its
place in the history of the link. -/
def record (e : Endpoint w) (sessions : List UInt32) (identifier : Option UInt32)
    (vc : SkyVirtualChannel w) : Endpoint w :=
  match identifier.filter e.vc.enters with
  | some identifier =>
      { e with vc := vc, wipes := e.wipes + 1, newest := sessions.idxOf identifier + 1 }
  | none => { e with vc := vc }

def process (e : Endpoint w) (sessions : List UInt32) (tickTime now : Int)
    (frame : SkyRadioFrame) : Endpoint w :=
  match frame.parse w with
  | .error _ => e
  | .ok parsed =>
      e.record sessions parsed.handshakeIdentifier
        (skyVcProcessFrame tickTime e.vc parsed now).1

def connect (e : Endpoint w) (number : Nat) (tickTime : Int) : Endpoint w :=
  { e with vc := skyVcArqConnect tickTime e.vc, wipes := e.wipes + 1, newest := number }

def disconnect (e : Endpoint w) : Endpoint w :=
  { e with vc := skyVcArqDisconnect e.vc, wipes := e.wipes + 1 }

def checkTimeouts (e : Endpoint w) (now timeout : Int) : Endpoint w :=
  let vc := skyVcCheckTimeouts e.vc now timeout
  { e with
    vc := vc
    wipes := if vc.arqStateFlag = e.vc.arqStateFlag then e.wipes else e.wipes + 1 }

theorem push_vc (e : Endpoint w) (payload : Bytes) :
    (e.push payload).vc = (skyVcPushPacketToSend e.vc payload).1 := by
  rw [push]
  split <;> rename_i heq <;> rw [heq]

theorem readNext_vc (e : Endpoint w) (maxLength : Nat) :
    (e.readNext maxLength).vc = (skyVcReadNextReceived e.vc maxLength).1 := by
  rw [readNext]
  split <;> rename_i heq <;> rw [heq]

theorem record_vc (e : Endpoint w) (sessions : List UInt32) (identifier : Option UInt32)
    (vc : SkyVirtualChannel w) : (e.record sessions identifier vc).vc = vc := by
  rw [record]
  split <;> rfl

theorem record_setVc (e : Endpoint w) (sessions : List UInt32) (identifier : Option UInt32)
    (vc vc' : SkyVirtualChannel w) :
    { e.record sessions identifier vc with vc := vc' } = e.record sessions identifier vc' := by
  rw [record, record]
  split <;> rfl

theorem process_vc (e : Endpoint w) (sessions : List UInt32) (tickTime now : Int)
    {frame : SkyRadioFrame} {parsed : SkyParsedFrame} (hparse : frame.parse w = .ok parsed) :
    (e.process sessions tickTime now frame).vc =
      (skyVcProcessFrame tickTime e.vc parsed now).1 := by
  rw [process, hparse]
  exact e.record_vc _ _ _

end Endpoint

namespace Link

/-- The window of the near endpoint and the horizon of the far one fit in the sequence
numbers. -/
def Fits (l : Link w) : Prop :=
  l.near.vc.sendRing.length + l.far.vc.rcvRing.horizonWidth ≤ 2 ^ w

instance (l : Link w) : Decidable l.Fits := Nat.decLe _ _

/-- The oldest frame on its way to the near endpoint, as it parses it. -/
def incoming (l : Link w) : Option SkyParsedFrame :=
  l.inn.head?.bind fun frame => (frame.parse w).toOption

/-- No endpoint owes a handshake, and no frame on its way carries one. -/
def HandshakesSettled (l : Link w) : Prop :=
  (l.near.vc.handshakeSend = 0 ∧ l.far.vc.handshakeSend = 0) ∧
    ∀ frame ∈ l.out ++ l.inn, ∀ parsed ∈ (frame.parse w).toOption,
      parsed.handshakeIdentifier = none

instance (l : Link w) : Decidable l.HandshakesSettled :=
  inferInstanceAs (Decidable ((l.near.vc.handshakeSend = 0 ∧ l.far.vc.handshakeSend = 0) ∧
    ∀ frame ∈ l.out ++ l.inn, ∀ parsed ∈ (frame.parse w).toOption,
      parsed.handshakeIdentifier = none))

/-- A frame is sent unless `sky_vc_fill_frame` returns an error. -/
def fill (l : Link w) (start : FrameStart w) (config : SkyConfig) (now : Int)
    (framesSentInThisVcWindow : UInt16) : Link w :=
  let (vc, tx, ret) :=
    skyVcFillFrame l.near.vc config start.tx now framesSentInThisVcWindow
  { l with
    near := { l.near with vc := vc }
    out := if ret < 0 then l.out else l.out ++ [tx.frame] }

def step (l : Link w) : LinkEvent w → Link w
  | .push payload => { l with near := l.near.push payload }
  | .read maxLength => { l with near := l.near.readNext maxLength }
  | .fill start config now frames => l.fill start config now frames
  | .process tickTime now =>
      match l.inn with
      | [] => l
      | frame :: rest =>
          { l with near := l.near.process l.sessions tickTime now frame, inn := rest }
  | .connect tickTime =>
      { l with
        near := l.near.connect (l.sessions.length + 1) tickTime
        sessions := l.sessions ++ [UInt32.ofInt tickTime] }
  | .disconnect => { l with near := l.near.disconnect }
  | .checkTimeouts now timeout => { l with near := l.near.checkTimeouts now timeout }
  | .lose i => { l with out := l.out.eraseIdx i }

theorem incoming_eq {l : Link w} {frame : SkyRadioFrame} {rest : List SkyRadioFrame}
    {parsed : SkyParsedFrame} (hinn : l.inn = frame :: rest) (hparse : frame.parse w = .ok parsed) :
    l.incoming = some parsed := by
  rw [incoming, hinn, List.head?_cons, Option.bind_some, hparse]
  rfl

theorem step_process {l : Link w} {frame : SkyRadioFrame} {rest : List SkyRadioFrame}
    (hinn : l.inn = frame :: rest) (tickTime now : Int) :
    l.step (.process tickTime now) =
      { l with near := l.near.process l.sessions tickTime now frame, inn := rest } := by
  rw [step, hinn]

theorem step_far (l : Link w) (e : LinkEvent w) : (l.step e).far = l.far := by
  cases e with
  | process tickTime now =>
      rw [step]
      cases l.inn <;> rfl
  | _ => rfl

end Link

inductive Side
  | left
  | right
deriving DecidableEq, Repr

/-- The link as an endpoint sees it, and back. -/
def Side.view : Side → Link w → Link w
  | left, l => l
  | right, l => l.swap

/-- One event at one of the endpoints. -/
def Link.stepAt (l : Link w) (e : Side × LinkEvent w) : Link w :=
  e.1.view ((e.1.view l).step e.2)

def Link.run (l : Link w) (events : List (Side × LinkEvent w)) : Link w :=
  events.foldl Link.stepAt l

/-- Every event of a run meets a condition on the link as its endpoint sees it. -/
def Link.RunMeets (condition : Link w → LinkEvent w → Prop) :
    Link w → List (Side × LinkEvent w) → Prop
  | _, [] => True
  | l, e :: events => condition (e.1.view l) e.2 ∧ RunMeets condition (l.stepAt e) events

instance Link.decidableRunMeets {condition : Link w → LinkEvent w → Prop}
    [∀ l e, Decidable (condition l e)] :
    (l : Link w) → (events : List (Side × LinkEvent w)) → Decidable (l.RunMeets condition events)
  | _, [] => .isTrue trivial
  | l, e :: events =>
      haveI : Decidable (RunMeets condition (l.stepAt e) events) :=
        decidableRunMeets (l.stepAt e) events
      inferInstanceAs
        (Decidable (condition (e.1.view l) e.2 ∧ RunMeets condition (l.stepAt e) events))

theorem Link.RunMeets.append {condition : Link w → LinkEvent w → Prop} {l : Link w}
    {events events' : List (Side × LinkEvent w)}
    (h : l.RunMeets condition (events ++ events')) :
    l.RunMeets condition events ∧ (l.run events).RunMeets condition events' := by
  induction events generalizing l with
  | nil => exact ⟨trivial, h⟩
  | cons e events ih =>
      obtain ⟨hone, hrest⟩ := h
      obtain ⟨hfirst, hlast⟩ := ih hrest
      exact ⟨⟨hone, hfirst⟩, hlast⟩

theorem Link.RunMeets.imp {condition condition' : Link w → LinkEvent w → Prop} {l : Link w}
    {events : List (Side × LinkEvent w)} (h : l.RunMeets condition events)
    (himp : ∀ l e, condition l e → condition' l e) : l.RunMeets condition' events := by
  induction events generalizing l with
  | nil => trivial
  | cons e events ih => exact ⟨himp _ _ h.1, ih h.2⟩

/-- What every event keeps, whichever endpoint it is of, holds after every run; `P` is
about the link at the start and now. -/
theorem Link.run_induction {condition : Link w → LinkEvent w → Prop}
    {P : Link w → Link w → Prop} (hswap : ∀ start l, P start l → P start.swap l.swap)
    (hstep : ∀ start l e, P start l → condition l e → P start (l.step e))
    {start l : Link w} (hl : P start l) {events : List (Side × LinkEvent w)}
    (hmeets : l.RunMeets condition events) : P start (l.run events) := by
  induction events generalizing l with
  | nil => exact hl
  | cons e events ih =>
      obtain ⟨hone, hrest⟩ := hmeets
      refine ih ?_ hrest
      obtain ⟨side, e⟩ := e
      cases side with
      | left => exact hstep _ _ _ hl hone
      | right =>
          have hback := hswap _ _ (hstep _ _ _ (hswap _ _ hl) hone)
          rwa [start.swap_swap] at hback

end Skylink
