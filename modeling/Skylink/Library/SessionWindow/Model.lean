import Mathlib.Data.List.Pairwise
import Mathlib.Data.Nat.Basic
import Mathlib.Logic.Function.Basic
import Mathlib.Order.MinMax

/-!
# Sliding windows over sessions

Two endpoints exchange frames over channels that lose frames but keep their order.
An endpoint numbers its payloads from the first one it ever accepted for sending.
Inside a session it sends payloads of its window, any number of times, and drops those
that are acknowledged; outside a session it sends every payload once. Sessions are
numbered in the order in which they are created.
-/

namespace SessionWindow

/-- An endpoint has no session, offers one, or is in one. -/
inductive Mode
  | off
  | opening (session : Nat)
  | on (session : Nat)
deriving DecidableEq

/-- The session that an endpoint offers or is in. -/
def Mode.session : Mode → Option Nat
  | off => none
  | opening z => some z
  | on z => some z

@[simp] theorem Mode.session_off : Mode.off.session = none := rfl

@[simp] theorem Mode.session_opening (z : Nat) : (Mode.opening z).session = some z := rfl

@[simp] theorem Mode.session_on (z : Nat) : (Mode.on z).session = some z := rfl

/-- The state of a sender as far as it goes into a frame. `epoch` counts the times it
has started afresh, `newest` is the newest session it has known, `base` the number of
the first payload of the epoch. Payloads before `tail` are acknowledged, those before
`tx` have been sent. -/
structure Stamp where
  mode : Mode
  epoch : Nat
  newest : Nat
  base : Nat
  tail : Nat
  tx : Nat

/-- A frame in flight with the stamp of its sender. `ack` counts the payloads that the
sender of the frame has received in its session, `data` is the number of a payload. -/
structure Frame where
  stamp : Stamp
  handshake : Option Nat
  ack : Option Nat
  data : Option Nat

/-- An endpoint. The receiver holds payloads at positions of its window: position `l`
of a session is for the payload `origin + l`. `reads` are the payloads handed over so
far, `bound` is a bound on the numbers of all payloads ever taken. -/
structure Node where
  stamp : Stamp
  width : Nat
  pushed : Nat
  origin : Nat
  rTail : Nat
  rHead : Nat
  held : Nat → Option Nat
  reads : List Nat
  bound : Nat

/-- The channel `out` leads from `near` to `far`; both hold the oldest frame first. -/
structure Net where
  near : Node
  far : Node
  out : List Frame
  inn : List Frame
  created : Nat

def Net.swap (n : Net) : Net :=
  { near := n.far, far := n.near, out := n.inn, inn := n.out, created := n.created }

@[simp] theorem Net.swap_swap (n : Net) : n.swap.swap = n := rfl

namespace Node

/-- The endpoint starts afresh and forgets what it has not sent or handed over. -/
def restart (n : Node) (mode : Mode) (newest : Nat) : Node :=
  { n with
    stamp :=
      { mode := mode, epoch := n.stamp.epoch + 1, newest := newest
        base := n.pushed, tail := n.pushed, tx := n.pushed }
    rTail := 0
    rHead := 0
    held := fun _ => none }

/-- Become connected in a session whose first payload from the peer is `origin`. -/
def connected (n : Node) (z origin : Nat) : Node :=
  { n with stamp := { n.stamp with mode := .on z }, origin := origin }

/-- Take a payload at a position of the window and move the head. -/
def take (n : Node) (l u advance : Nat) : Node :=
  { n with
    held := Function.update n.held l (some u)
    rHead := n.rHead + advance
    bound := max n.bound (u + 1) }

end Node

/-- The frame an endpoint sends: its handshake names its session, the acknowledgement
is its head, the payload belongs to its window. -/
structure Sendable (n : Node) (f : Frame) : Prop where
  stamp : f.stamp = n.stamp
  handshake : ∀ z, f.handshake = some z → n.stamp.mode.session = some z
  ack : ∀ k, f.ack = some k → k = n.rHead ∧ ∃ z, n.stamp.mode = .on z
  data : ∀ u, f.data = some u →
    n.stamp.tail ≤ u ∧ u < n.stamp.tx ∧ ∃ z, n.stamp.mode = .on z

/-- The steps of the near endpoint, and the loss of frames. Reception of a frame is one
or more steps that look at the oldest frame, and its removal. `stale` tells whether an
endpoint without a session takes payloads that were sent in one. -/
inductive Step (stale : Prop) : Net → Net → Prop
  | push (n : Net) : Step stale n { n with near := { n.near with pushed := n.near.pushed + 1 } }
  | read (n : Net) (u advance : Nat) (hlt : n.near.rTail < n.near.rHead)
      (hheld : n.near.held n.near.rTail = some u)
      (hready : ∀ l, n.near.rTail < l → l < n.near.rHead + advance → (n.near.held l).isSome) :
      Step stale n { n with near := { n.near with
        rTail := n.near.rTail + 1
        rHead := n.near.rHead + advance
        held := Function.update n.near.held n.near.rTail none
        reads := n.near.reads ++ [u] } }
  | advance (n : Net) (z : Nat) (hmode : n.near.stamp.mode = .on z)
      (hpushed : n.near.stamp.tx < n.near.pushed)
      (hwidth : n.near.stamp.tx + 1 < n.near.stamp.tail + n.near.width) :
      Step stale n { n with near := { n.near with
        stamp := { n.near.stamp with tx := n.near.stamp.tx + 1 } } }
  | send (n : Net) (f : Frame) (hf : Sendable n.near f) :
      Step stale n { n with out := n.out ++ [f] }
  | sendOff (n : Net) (f : Frame) (hmode : n.near.stamp.mode = .off)
      (hpushed : n.near.stamp.tx < n.near.pushed) (hwidth : 1 < n.near.width)
      (hstamp : f.stamp = { n.near.stamp with tx := n.near.stamp.tx + 1 })
      (hhandshake : f.handshake = none) (hack : f.ack = none)
      (hdata : f.data = some n.near.stamp.tx) :
      Step stale n { n with
        near := { n.near with stamp := { n.near.stamp with
          tail := n.near.stamp.tx + 1, tx := n.near.stamp.tx + 1 } }
        out := n.out ++ [f] }
  | lose (n : Net) (out inn : List Frame) (hout : out.Sublist n.out) (hinn : inn.Sublist n.inn) :
      Step stale n { n with out := out, inn := inn }
  | connect (n : Net) :
      Step stale n { n with
        near := n.near.restart (.opening (n.created + 1)) (n.created + 1)
        created := n.created + 1 }
  | disconnect (n : Net) :
      Step stale n { n with near := n.near.restart .off n.near.stamp.newest }
  | enter (n : Net) (f : Frame) (z : Nat) (hf : f ∈ n.inn.head?) (hz : f.handshake = some z)
      (hnew : n.near.stamp.newest < z) :
      Step stale n { n with
        near := (n.near.restart (.on z) z).connected z f.stamp.base }
  | join (n : Net) (f : Frame) (z : Nat) (hf : f ∈ n.inn.head?) (hz : f.handshake = some z)
      (hmode : n.near.stamp.mode = .opening z) :
      Step stale n { n with near := n.near.connected z f.stamp.base }
  | ack (n : Net) (f : Frame) (z k : Nat) (hf : f ∈ n.inn.head?) (hk : f.ack = some k)
      (hmode : n.near.stamp.mode = .on z) :
      Step stale n { n with near := { n.near with
        stamp := { n.near.stamp with tail := n.near.stamp.base + k } } }
  | takeOff (n : Net) (f : Frame) (rest : List Frame) (u advance : Nat)
      (hf : n.inn = f :: rest) (hu : f.data = some u) (hmode : n.near.stamp.mode = .off)
      (hfrom : f.stamp.mode = .off ∨ stale ∧ ∃ z, f.stamp.mode = .on z)
      (hfree : n.near.held n.near.rHead = none)
      (hready : ∀ l, n.near.rTail ≤ l → l < n.near.rHead + advance →
        (Function.update n.near.held n.near.rHead (some u) l).isSome) :
      Step stale n { n with near := n.near.take n.near.rHead u advance, inn := rest }
  | takeOn (n : Net) (f : Frame) (rest : List Frame) (z l u advance : Nat)
      (hf : n.inn = f :: rest) (hu : f.data = some u) (hmode : n.near.stamp.mode = .on z)
      (hl : n.near.rHead ≤ l) (hfree : n.near.held l = none) (heq : u = n.near.origin + l)
      (hon : ∃ y, f.stamp.mode = .on y)
      (hready : ∀ l', n.near.rTail ≤ l' → l' < n.near.rHead + advance →
        (Function.update n.near.held l (some u) l').isSome) :
      Step stale n { n with near := n.near.take l u advance, inn := rest }

/-- Steps of either endpoint. -/
inductive Reaches (stale : Prop) : Net → Net → Prop
  | refl (n : Net) : Reaches stale n n
  | near {n n' n'' : Net} (h : Reaches stale n n') (hstep : Step stale n' n'') :
      Reaches stale n n''
  | far {n n' n'' : Net} (h : Reaches stale n n') (hstep : Step stale n'.swap n'') :
      Reaches stale n n''.swap

variable {stale : Prop}

theorem Reaches.trans {n n' n'' : Net} (h : Reaches stale n n') (h' : Reaches stale n' n'') :
    Reaches stale n n'' := by
  induction h' with
  | refl => exact h
  | near _ hstep ih => exact .near ih hstep
  | far _ hstep ih => exact .far ih hstep

theorem Reaches.swap {n n' : Net} (h : Reaches stale n n') :
    Reaches stale n.swap n'.swap := by
  induction h with
  | refl => exact .refl _
  | near _ hstep ih => exact .far ih hstep
  | far _ hstep ih => exact .near ih hstep

end SessionWindow
