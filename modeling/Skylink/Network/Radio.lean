import Skylink.Network.Delivery
import Skylink.Phy.Recovery

/-!
# Two stations on the air

The stations send and receive coded frames, and the medium spoils some of their bits. As long
as it spoils no more than the decoders correct, nothing of it is seen above the coding.
-/

namespace Skylink

variable {w : Nat}

/-! ## Stations behind the coding -/

/-- `coded` are the frames as `sky_tx_with_golay` leaves them, the oldest first; `sent` of the
station are the frames inside of them. -/
structure RadioStation (w : Nat) where
  station : Station w
  coded : List SkyRadioFrame
  diag : FecDiagnostics

structure RadioNetwork (w : Nat) where
  near : RadioStation w
  far : RadioStation w

/-- What the near station does, or what happens to it; `received` is what has become of the
coded frame `i` of the far station. -/
inductive RadioEvent
  | call (v : Fin skyNumVirtualChannels) (asked : VcCall)
  | transmit (tick : Int)
  | receive (tick : Int) (received : SkyRadioFrame) (i : Nat)

def VcCall.event (v : Fin skyNumVirtualChannels) : VcCall → NetworkEvent w
  | .push payload => .push v payload
  | .read maxLength => .read v maxLength
  | .connect tickTime => .connect v tickTime
  | .disconnect => .disconnect v

/-- The event above the coding. -/
def RadioEvent.plain : RadioEvent → NetworkEvent w
  | .call v asked => asked.event v
  | .transmit tick => .transmit tick
  | .receive tick received i => .receive tick received.rxTimeTicks i

/-- What is asked for above the coding is asked for on the air. -/
theorem RadioEvent.plain_callOn {v : Fin skyNumVirtualChannels} {e : RadioEvent} {asked : VcCall}
    (h : (e.plain (w := w)).callOn v = some asked) : e = .call v asked := by
  cases e with
  | call u asked' =>
      cases asked'
      all_goals
        rw [plain, VcCall.event, NetworkEvent.callOn] at h
        split_ifs at h with hu
        rw [hu, Option.some.inj h]
  | transmit tick => cases h
  | receive tick received i => cases h

namespace RadioStation

def new (node : SkyNode w) (diag : FecDiagnostics) : RadioStation w := ⟨.new node, [], diag⟩

/-- The station calls `sky_tx_with_golay`; without a value its frame would not fit. -/
def transmit (H : KeyedHash) (s : RadioStation w) (tick : Int) : RadioStation w :=
  match skyTxWithGolay H tick s.station.node with
  | none => s
  | some (node, encoded, _) =>
      { s with
        station := { s.station with
          node := node
          sent := s.station.sent ++ (skyTx H tick s.station.node).2.1.toList }
        coded := s.coded ++ (encoded.map EncodedFrame.frame).toList }

/-- The station calls `sky_rx_with_golay`. -/
def receive (H : KeyedHash) (s : RadioStation w) (tick : Int) (received : SkyRadioFrame)
    (i : Nat) : RadioStation w :=
  match skyRxWithGolay H decodeRs8 tick s.station.node s.diag received with
  | none => s
  | some (node, diag, _) =>
      { s with
        station := { s.station with node := node, heard := max s.station.heard (i + 1) }
        diag := diag }

end RadioStation

namespace RadioNetwork

def new (a b : SkyNode w) (diag diag' : FecDiagnostics) : RadioNetwork w :=
  ⟨.new a diag, .new b diag'⟩

def swap (net : RadioNetwork w) : RadioNetwork w := ⟨net.far, net.near⟩

/-- The network above the coding. -/
def stations (net : RadioNetwork w) : Network w := ⟨net.near.station, net.far.station⟩

def step (H : KeyedHash) (net : RadioNetwork w) : RadioEvent → RadioNetwork w
  | .call v asked =>
      { net with
        near := { net.near with station := (net.stations.step H (asked.event v)).near } }
  | .transmit tick => { net with near := net.near.transmit H tick }
  | .receive tick received i => { net with near := net.near.receive H tick received i }

end RadioNetwork

def Side.radio : Side → RadioNetwork w → RadioNetwork w
  | left, net => net
  | right, net => net.swap

namespace RadioNetwork

/-- One event at one of the stations. -/
def stepAt (H : KeyedHash) (net : RadioNetwork w) (e : Side × RadioEvent) : RadioNetwork w :=
  e.1.radio ((e.1.radio net).step H e.2)

def run (H : KeyedHash) (net : RadioNetwork w) (events : List (Side × RadioEvent)) :
    RadioNetwork w :=
  events.foldl (stepAt H) net

/-- Frames have room for their code, and what arrives is close to what was sent. -/
def Clear (H : KeyedHash) (net : RadioNetwork w) : RadioEvent → Prop
  | .call _ _ => True
  | .transmit tick => ∀ tx ∈ (skyTx H tick net.near.station.node).2.1,
      tx.length + rsParitys + 3 < rawLen
  | .receive _ received i => ∃ frame ∈ net.far.coded[i]?, received.CloseTo frame

instance (H : KeyedHash) (net : RadioNetwork w) : (e : RadioEvent) → Decidable (net.Clear H e)
  | .call _ _ => .isTrue trivial
  | .transmit tick => inferInstanceAs (Decidable (∀ tx ∈ (skyTx H tick net.near.station.node).2.1,
      SkyTransmitFrame.length tx + rsParitys + 3 < rawLen))
  | .receive _ received i =>
      haveI (frame : SkyRadioFrame) : Decidable (received.CloseTo frame) :=
        decidable_of_iff (_ ∧ _ ∧ _) ⟨fun h => ⟨h.1, h.2.1, h.2.2⟩, fun h => ⟨h.1, h.2, h.3⟩⟩
      inferInstanceAs (Decidable (∃ frame ∈ net.far.coded[i]?, received.CloseTo frame))

/-- Every event of a run is clear. -/
def RunClear (H : KeyedHash) : RadioNetwork w → List (Side × RadioEvent) → Prop
  | _, [] => True
  | net, e :: events =>
      (e.1.radio net).Clear H e.2 ∧ RunClear H (net.stepAt H e) events

instance decidableRunClear (H : KeyedHash) : (net : RadioNetwork w) →
    (events : List (Side × RadioEvent)) → Decidable (net.RunClear H events)
  | _, [] => .isTrue trivial
  | net, e :: events =>
      haveI : Decidable (RunClear H (net.stepAt H e) events) :=
        decidableRunClear H (net.stepAt H e) events
      inferInstanceAs
        (Decidable ((e.1.radio net).Clear H e.2 ∧ RunClear H (net.stepAt H e) events))

end RadioNetwork

/-! ## What the coding keeps -/

/-- Whatever is close to the coded frame does to a receiver what the plain frame does. -/
def Decodes (w : Nat) (tx : SkyTransmitFrame) (frame : SkyRadioFrame) : Prop :=
  ∀ (H : KeyedHash) (tick : Int) (receiver : SkyNode w) (diag : FecDiagnostics)
    (received : SkyRadioFrame), received.CloseTo frame →
      ∃ diag' ret, skyRxWithGolay H decodeRs8 tick receiver diag received =
        some ((skyRx H tick receiver (tx.receivedAt received.rxTimeTicks)).1, diag', ret)

/-- The coded frames of the station are those that it has sent. -/
structure RadioStation.Coded (s : RadioStation w) : Prop where
  identity : 3 ≤ s.station.node.conf.identityLen
  decodes : List.Forall₂ (Decodes w) s.station.sent s.coded

/-- A frame that was not sent is not coded either. -/
theorem skyTxWithGolay_none {H : KeyedHash} {tick : Int} {node : SkyNode w}
    (h : (skyTx H tick node).2.1 = none) :
    skyTxWithGolay H tick node = some ((skyTx H tick node).1, none, (skyTx H tick node).2.2) := by
  have hfec : skyTxWithFec H tick node =
      some ((skyTx H tick node).1, none, (skyTx H tick node).2.2) := by
    rw [skyTxWithFec]
    cases hsky : skyTx H tick node with
    | mk node' out =>
        rw [hsky] at h
        obtain ⟨sent, ret⟩ := out
        obtain rfl : sent = none := h
        rfl
  rw [skyTxWithGolay, hfec]
  rfl

namespace RadioStation.Coded

variable {s : RadioStation w}

theorem transmit (h : s.Coded) (H : KeyedHash) {tick : Int}
    (hfits : ∀ tx ∈ (skyTx H tick s.station.node).2.1, tx.length + rsParitys + 3 < rawLen) :
    (s.transmit H tick).station = Network.transmit H s.station tick ∧
      (s.transmit H tick).Coded := by
  have hconf : (skyTx H tick s.station.node).1.conf = s.station.node.conf :=
    step_conf H s.station.node (.tx tick)
  have hidentity : 3 ≤ (skyTx H tick s.station.node).1.conf.identityLen := by
    rw [hconf]
    exact h.identity
  cases hsent : (skyTx H tick s.station.node).2.1 with
  | none =>
      rw [RadioStation.transmit, skyTxWithGolay_none hsent, Network.transmit, hsent]
      refine ⟨rfl, hidentity, ?_⟩
      simpa using h.decodes
  | some tx =>
      have hroom := hfits tx hsent
      obtain ⟨encoded, hcoded, -, -⟩ :=
        skyTxWithGolay_received H H tick tick s.station.node s.station.node s.diag h.identity
          hsent hroom
      have hdecodes : Decodes w tx encoded.frame := by
        intro H' tick' receiver diag received hclose
        obtain ⟨encoded', hcoded', -, hreceived⟩ :=
          skyTxWithGolay_received H H' tick tick' s.station.node receiver diag h.identity hsent
            hroom
        obtain ⟨-, heq⟩ := Prod.mk.inj (Option.some.inj (hcoded.symm.trans hcoded'))
        obtain rfl : encoded = encoded' := Option.some.inj (Prod.mk.inj heq).1
        obtain ⟨errors, -, hrx⟩ := hreceived received hclose
        exact ⟨_, _, hrx⟩
      rw [RadioStation.transmit, hcoded, Network.transmit, hsent]
      exact ⟨rfl, hidentity, List.rel_append h.decodes (.cons hdecodes .nil)⟩

theorem receive (h : s.Coded) (H : KeyedHash) (tick : Int) {other : RadioStation w}
    (hother : other.Coded) {received frame : SkyRadioFrame} {i : Nat}
    (hframe : other.coded[i]? = some frame) (hclose : received.CloseTo frame) :
    ∃ tx, other.station.sent[i]? = some tx ∧
      (s.receive H tick received i).station =
        { Network.receive H s.station tick (tx.receivedAt received.rxTimeTicks) with
          heard := max s.station.heard (i + 1) } ∧
      (s.receive H tick received i).Coded := by
  obtain ⟨hlt, rfl⟩ := List.getElem?_eq_some_iff.mp hframe
  have hlength := hother.decodes.length_eq
  have hlt' : i < other.station.sent.length := by omega
  refine ⟨other.station.sent[i], List.getElem?_eq_getElem hlt', ?_⟩
  have hdecodes : Decodes w other.station.sent[i] other.coded[i] :=
    List.forall₂_iff_get.mp hother.decodes |>.2 i hlt' hlt
  obtain ⟨diag, ret, hrx⟩ := hdecodes H tick s.station.node s.diag received hclose
  rw [RadioStation.receive, hrx]
  refine ⟨rfl, ?_, h.decodes⟩
  have hconf := step_conf H s.station.node
    (.rx tick (other.station.sent[i].receivedAt received.rxTimeTicks))
  show 3 ≤ (skyRx H tick s.station.node _).1.conf.identityLen
  rw [show (skyRx H tick s.station.node _).1.conf = _ from hconf]
  exact h.identity

end RadioStation.Coded

/-! ## Runs -/

namespace RadioNetwork

def Coded (net : RadioNetwork w) : Prop := net.near.Coded ∧ net.far.Coded

variable {H : KeyedHash} {net : RadioNetwork w}

/-- Every event is one above the coding. -/
theorem Coded.step (h : net.Coded) {e : RadioEvent} (he : net.Clear H e) :
    (net.step H e).stations = net.stations.step H e.plain ∧ (net.step H e).Coded := by
  cases e with
  | call v asked =>
      have hfar : (net.stations.step H (asked.event v)).far = net.far.station :=
        net.stations.step_far H _
      refine ⟨?_, ⟨?_, ?_⟩, h.2⟩
      · rw [RadioNetwork.step, stations, RadioEvent.plain, ← hfar]
      · cases asked <;> exact h.1.identity
      · cases asked <;> exact h.1.decodes
  | transmit tick =>
      obtain ⟨hstation, hcoded⟩ := h.1.transmit H he
      refine ⟨?_, hcoded, h.2⟩
      rw [RadioNetwork.step, stations, hstation]
      rfl
  | receive tick received i =>
      obtain ⟨frame, hframe, hclose⟩ := he
      obtain ⟨tx, htx, hstation, hcoded⟩ := h.1.receive H tick h.2 hframe hclose
      refine ⟨?_, hcoded, h.2⟩
      have hsent : net.stations.far.sent[i]? = some tx := htx
      rw [RadioNetwork.step, stations, hstation, RadioEvent.plain, Network.step, hsent]
      rfl

theorem stepAt_stations (h : net.Coded) {e : Side × RadioEvent}
    (he : (e.1.radio net).Clear H e.2) :
    (net.stepAt H e).stations = net.stations.stepAt H (e.1, e.2.plain) ∧
      (net.stepAt H e).Coded := by
  obtain ⟨side, e⟩ := e
  cases side with
  | left => exact h.step he
  | right =>
      have hswap : net.swap.Coded := h.symm
      obtain ⟨hstations, hcoded⟩ := hswap.step he
      refine ⟨?_, hcoded.symm⟩
      exact congrArg Network.swap hstations

/-- A run on the air is a run above the coding. -/
theorem Coded.run (h : net.Coded) {events : List (Side × RadioEvent)}
    (hclear : net.RunClear H events) :
    (net.run H events).stations =
      net.stations.run H (events.map fun e => (e.1, e.2.plain)) := by
  induction events generalizing net with
  | nil => rfl
  | cons e events ih =>
      obtain ⟨hone, hrest⟩ := hclear
      obtain ⟨hstations, hcoded⟩ := stepAt_stations h hone
      calc (net.run H (e :: events)).stations
        _ = ((net.stepAt H e).run H events).stations := rfl
        _ = (net.stepAt H e).stations.run H (events.map fun e => (e.1, e.2.plain)) :=
          ih hcoded hrest
        _ = net.stations.run H ((e :: events).map fun e => (e.1, e.2.plain)) := by
          rw [hstations]
          rfl

/-- Two new stations without any authentication. -/
def exampleRadio : RadioNetwork 8 :=
  .new (exampleNode 0 7) (exampleNode 0 8) ⟨0, 0, 0, 0⟩ ⟨0, 0, 0, 0⟩

/-- A payload is sent on channel 1. -/
def exampleSending : List (Side × RadioEvent) :=
  [(.left, .call 1 (.push [1, 2, 3])), (.left, .transmit 5)]

/-- The coded frame with three wrong bits in its header and two wrong bytes behind it. -/
def exampleSpoiled : SkyRadioFrame :=
  match (exampleRadio.run exampleHash exampleSending).near.coded with
  | [] => SkyRadioFrame.ofBytes []
  | frame :: _ =>
      { frame with
        raw := ((frame.raw.set 1 (frame.byte 1 ^^^ 0x15)).set 7 0).set 20 (frame.byte 20 ^^^ 1) }

/-- The frame arrives spoiled, and its payload is read. -/
def exampleNoise : List (Side × RadioEvent) :=
  exampleSending ++ [(.right, .receive 7 exampleSpoiled 0), (.right, .call 1 (.read 200))]

theorem exampleNoise_clear : exampleRadio.RunClear exampleHash exampleNoise := by
  decide +kernel

section New

variable {config config' : SkyConfig} {a b : SkyNode w} {diag diag' : FecDiagnostics}
  {events : List (Side × RadioEvent)}

theorem coded_new (ha : skyCreate config = some a) (hb : skyCreate config' = some b) :
    (RadioNetwork.new a b diag diag').Coded :=
  ⟨⟨(skyCreate_conf ha).1, .nil⟩, ⟨(skyCreate_conf hb).1, .nil⟩⟩

/-- The nodes, and what their users put in and take out, do not tell whether the frames were
coded and spoiled on their way. -/
theorem run_stations (ha : skyCreate config = some a) (hb : skyCreate config' = some b)
    (hclear : (RadioNetwork.new a b diag diag').RunClear H events) :
    ((RadioNetwork.new a b diag diag').run H events).stations =
      (Network.new a b).run H (events.map fun e => (e.1, e.2.plain)) :=
  (coded_new ha hb).run hclear

theorem run_stations_example :
    (exampleRadio.run exampleHash exampleNoise).stations =
      (Network.new (exampleNode 0 7) (exampleNode 0 8)).run exampleHash
        (exampleNoise.map fun e => (e.1, e.2.plain)) :=
  run_stations (exampleNode_eq 0 7) (exampleNode_eq 0 8) exampleNoise_clear

/-- Over a noisy medium that keeps the order of the frames every payload is handed over at
most once, and in order. -/
theorem radio_delivers_once (hw : ArqSequenceWidth w) (ha : skyCreate config = some a)
    (hb : skyCreate config' = some b) {v : Fin skyNumVirtualChannels}
    (hfits : (Link.idle (a.virtualChannels v) (b.virtualChannels v)).Fits ∧
      (Link.idle (a.virtualChannels v) (b.virtualChannels v)).swap.Fits)
    (hclear : (RadioNetwork.new a b diag diag').RunClear H events)
    (horder : (Network.new a b).RunMeets H (Network.Fifo H v)
      (events.map fun e => (e.1, e.2.plain)))
    (hconnect : ∀ side tickTime, (side, .call v (.connect tickTime)) ∉ events) :
    Network.DeliversOnce v ((RadioNetwork.new a b diag diag').run H events).stations := by
  rw [(coded_new ha hb).run hclear]
  apply (Network.fifo_keepsOrder H v).read_sublist hw (skyCreate_network_sound hw ha hb)
    (skyCreate_channel hw.bounds.2.2 ha v) (skyCreate_channel hw.bounds.2.2 hb v) hfits
    ⟨Nat.zero_le _, Nat.zero_le _⟩ horder
  intro side tickTime hcall
  obtain ⟨_, hplain, hcall⟩ := List.mem_filterMap.mp hcall
  obtain ⟨e, hmem, rfl⟩ := List.mem_map.mp hplain
  obtain ⟨call, hcall, heq⟩ := Option.map_eq_some_iff.mp hcall
  obtain ⟨rfl, rfl⟩ := Prod.mk.inj heq
  apply hconnect e.1 tickTime
  rw [← RadioEvent.plain_callOn hcall]
  exact hmem

theorem radio_delivers_once_example :
    Network.DeliversOnce 1 (exampleRadio.run exampleHash exampleNoise).stations :=
  radio_delivers_once (.inl rfl) (exampleNode_eq 0 7) (exampleNode_eq 0 8) (by decide +kernel)
    exampleNoise_clear (by decide +kernel) fun side tickTime => by
      simp [exampleNoise, exampleSending]

end New

end RadioNetwork

end Skylink
