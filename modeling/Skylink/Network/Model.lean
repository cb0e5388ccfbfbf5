import Skylink.Link.Model
import Skylink.Node.Locality
import Skylink.Node.Runs

/-!
# Two stations

The nodes of two stations, whose users put payloads into any channel and take others out.
Whatever a station sends can be received by the other one, at any time and any number of
times, or never; besides, the stations receive frames that neither of them has sent.
-/

namespace Skylink

variable {w : Nat}

/-- `pushed` and `read` are the payloads of every channel that were accepted for sending and
handed over, `sent` are the frames that were sent, the oldest first, and `heard` of the frames
of the other station are over. -/
structure Station (w : Nat) where
  node : SkyNode w
  pushed : Fin skyNumVirtualChannels → List Bytes
  read : Fin skyNumVirtualChannels → List Bytes
  sent : List SkyTransmitFrame
  heard : Nat

namespace Station

/-- A station that has done nothing yet. -/
def new (node : SkyNode w) : Station w :=
  { node := node, pushed := fun _ => [], read := fun _ => [], sent := [], heard := 0 }

/-- The endpoint that a channel of the station is; it does not count sessions. -/
def channel (s : Station w) (v : Fin skyNumVirtualChannels) : Endpoint w :=
  { vc := s.node.virtualChannels v
    pushed := s.pushed v
    read := s.read v
    wipes := 0
    newest := 0 }

def setChannel (s : Station w) (v : Fin skyNumVirtualChannels) (e : Endpoint w) : Station w :=
  { s with
    node := { s.node with virtualChannels := Function.update s.node.virtualChannels v e.vc }
    pushed := Function.update s.pushed v e.pushed
    read := Function.update s.read v e.read }

@[simp] theorem setChannel_vc (s : Station w) (v : Fin skyNumVirtualChannels) (e : Endpoint w) :
    (s.setChannel v e).node.virtualChannels v = e.vc := Function.update_self _ _ _

@[simp] theorem setChannel_pushed (s : Station w) (v : Fin skyNumVirtualChannels)
    (e : Endpoint w) : (s.setChannel v e).pushed v = e.pushed := Function.update_self _ _ _

@[simp] theorem setChannel_read (s : Station w) (v : Fin skyNumVirtualChannels)
    (e : Endpoint w) : (s.setChannel v e).read v = e.read := Function.update_self _ _ _

/-- The other channels stay as they are. -/
theorem setChannel_of_ne (s : Station w) {u v : Fin skyNumVirtualChannels} (h : u ≠ v)
    (e : Endpoint w) : (s.setChannel v e).channel u = s.channel u := by
  simp only [channel, setChannel, Function.update_of_ne h]

end Station

/-- Two stations; there is nothing else between them than what they have sent. -/
structure Network (w : Nat) where
  near : Station w
  far : Station w

/-- What the near station does, or what happens to it. -/
inductive NetworkEvent (w : Nat)
  | push (v : Fin skyNumVirtualChannels) (payload : Bytes)
  | read (v : Fin skyNumVirtualChannels) (maxLength : Nat)
  | connect (v : Fin skyNumVirtualChannels) (tickTime : Int)
  | disconnect (v : Fin skyNumVirtualChannels)
  | transmit (tick : Int)
  | receive (tick rxTimeTicks : Int) (i : Nat)
  | receiveOther (tick : Int) (frame : SkyRadioFrame)

namespace Network

def new (a b : SkyNode w) : Network w := ⟨.new a, .new b⟩

/-- The network as the other station sees it. -/
def swap (net : Network w) : Network w := ⟨net.far, net.near⟩

theorem swap_swap (net : Network w) : net.swap.swap = net := rfl

/-- The near station calls `sky_tx`. -/
def transmit (H : KeyedHash) (s : Station w) (tick : Int) : Station w :=
  { s with
    node := (skyTx H tick s.node).1
    sent := s.sent ++ (skyTx H tick s.node).2.1.toList }

/-- The near station calls `sky_rx`. -/
def receive (H : KeyedHash) (s : Station w) (tick : Int) (frame : SkyRadioFrame) : Station w :=
  { s with node := (skyRx H tick s.node frame).1 }

def step (H : KeyedHash) (net : Network w) : NetworkEvent w → Network w
  | .push v payload =>
      { net with near := net.near.setChannel v ((net.near.channel v).push payload) }
  | .read v maxLength =>
      { net with near := net.near.setChannel v ((net.near.channel v).readNext maxLength) }
  | .connect v tickTime =>
      { net with near := net.near.setChannel v ((net.near.channel v).connect 0 tickTime) }
  | .disconnect v =>
      { net with near := net.near.setChannel v (net.near.channel v).disconnect }
  | .transmit tick => { net with near := transmit H net.near tick }
  | .receive tick rxTimeTicks i =>
      match net.far.sent[i]? with
      | none => net
      | some tx =>
          { net with
            near := { receive H net.near tick (tx.receivedAt rxTimeTicks) with
              heard := max net.near.heard (i + 1) } }
  | .receiveOther tick frame => { net with near := receive H net.near tick frame }

/-- What the event is for the near node; frames that were not sent cannot be received. -/
def nodeOp (net : Network w) : NetworkEvent w → Option (NodeOp w)
  | .push v payload => some (.channel v (.push payload))
  | .read v maxLength => some (.channel v (.read maxLength))
  | .connect v tickTime => some (.channel v (.connect tickTime))
  | .disconnect v => some (.channel v .disconnect)
  | .transmit tick => some (.tx tick)
  | .receive tick rxTimeTicks i =>
      net.far.sent[i]?.map fun tx => .rx tick (tx.receivedAt rxTimeTicks)
  | .receiveOther tick frame => some (.rx tick frame)

theorem step_node (H : KeyedHash) (net : Network w) (e : NetworkEvent w) :
    (net.step H e).near.node =
      match net.nodeOp e with
      | none => net.near.node
      | some op => net.near.node.step H op := by
  have hchannel (v : Fin skyNumVirtualChannels) (a : Endpoint w) (op : VcOp w)
      (hvc : a.vc = (net.near.node.virtualChannels v).step op) :
      (net.near.setChannel v a).node = net.near.node.step H (.channel v op) := by
    rw [SkyNode.step, ← hvc]
    rfl
  cases e with
  | push v payload => exact hchannel v _ (.push payload) (Endpoint.push_vc _ payload)
  | read v maxLength => exact hchannel v _ (.read maxLength) (Endpoint.readNext_vc _ maxLength)
  | connect v tickTime => exact hchannel v _ (.connect tickTime) rfl
  | disconnect v => exact hchannel v _ .disconnect rfl
  | transmit tick => rfl
  | receive tick rxTimeTicks i =>
      rw [step, nodeOp]
      cases net.far.sent[i]? <;> rfl
  | receiveOther tick frame => rfl

theorem step_far (H : KeyedHash) (net : Network w) (e : NetworkEvent w) :
    (net.step H e).far = net.far := by
  cases e with
  | receive tick rxTimeTicks i =>
      rw [step]
      cases net.far.sent[i]? <;> rfl
  | _ => rfl

end Network

/-- The network as a station sees it, and back. -/
def Side.stations : Side → Network w → Network w
  | left, net => net
  | right, net => net.swap

namespace Network

/-- One event at one of the stations. -/
def stepAt (H : KeyedHash) (net : Network w) (e : Side × NetworkEvent w) : Network w :=
  e.1.stations ((e.1.stations net).step H e.2)

def run (H : KeyedHash) (net : Network w) (events : List (Side × NetworkEvent w)) : Network w :=
  events.foldl (stepAt H) net

/-- Every event of a run meets a condition on the network as its station sees it. -/
def RunMeets (H : KeyedHash) (condition : Network w → NetworkEvent w → Prop) :
    Network w → List (Side × NetworkEvent w) → Prop
  | _, [] => True
  | net, e :: events =>
      condition (e.1.stations net) e.2 ∧ RunMeets H condition (net.stepAt H e) events

instance decidableRunMeets {H : KeyedHash} {condition : Network w → NetworkEvent w → Prop}
    [∀ net e, Decidable (condition net e)] :
    (net : Network w) → (events : List (Side × NetworkEvent w)) →
      Decidable (net.RunMeets H condition events)
  | _, [] => .isTrue trivial
  | net, e :: events =>
      haveI : Decidable (RunMeets H condition (net.stepAt H e) events) :=
        decidableRunMeets (net.stepAt H e) events
      inferInstanceAs (Decidable
        (condition (e.1.stations net) e.2 ∧ RunMeets H condition (net.stepAt H e) events))

theorem RunMeets.imp {H : KeyedHash} {condition condition' : Network w → NetworkEvent w → Prop}
    {net : Network w} {events : List (Side × NetworkEvent w)}
    (h : net.RunMeets H condition events)
    (himp : ∀ net e, condition net e → condition' net e) : net.RunMeets H condition' events := by
  induction events generalizing net with
  | nil => trivial
  | cons e events ih => exact ⟨himp _ _ h.1, ih h.2⟩

end Network

end Skylink
