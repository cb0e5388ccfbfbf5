import Skylink.Link.Delivery

/-!
# Within one session

Two channels that have just become connected. As long as no session begins or ends, the
receiver hands over what the sender accepts, payload by payload, and the sender drops
nothing that the receiver has not stored.
-/

namespace Skylink

open SerialNumber SessionWindow

variable {w : Nat}

/-! ## Where a session starts -/

/-- A channel in any state that it can reach. -/
def SkyVirtualChannel.Reached (vc : SkyVirtualChannel w) : Prop :=
  ∃ (config conf : SkyVCConfig) (created : SkyVirtualChannel w) (ops : List (VcOp w)),
    skyVcCreate config = some (conf, created) ∧
      (∀ op ∈ ops, op.Valid created.elementBuffer) ∧ vc = created.run ops

theorem SkyVirtualChannel.Reached.rep {vc : SkyVirtualChannel w} (h : vc.Reached)
    (hw : 250 ≤ 2 ^ w) : ∃ v, VcRep vc v := by
  obtain ⟨config, conf, created, ops, hcreate, hops, rfl⟩ := h
  obtain ⟨-, hrep, -⟩ := skyVcCreate_rep hw hcreate
  exact hrep.run hops

/-- A channel that is connected, whatever it did before, and whose rings a wipe would
leave as they are. -/
structure SkyVirtualChannel.NewlyOn (vc : SkyVirtualChannel w) : Prop where
  reached : vc.Reached
  on : vc.arqStateFlag = .on
  wiped : (wipeRings vc).sendRing = vc.sendRing ∧ (wipeRings vc).rcvRing = vc.rcvRing

/-- A channel whose rings are as a wipe leaves them holds nothing. -/
theorem SkyVirtualChannel.rep_of_wiped {vc : SkyVirtualChannel w} (h : ∃ v, VcRep vc v)
    (hwiped : (wipeRings vc).sendRing = vc.sendRing ∧ (wipeRings vc).rcvRing = vc.rcvRing) :
    VcRep vc .empty := by
  obtain ⟨v, hrep⟩ := h
  obtain ⟨⟨m', hempty⟩, -⟩ := hrep.wipeRings
  obtain ⟨m, hm⟩ := hrep
  obtain ⟨hsend, hrcv⟩ := hwiped
  -- a wiped ring refers to no chain, so the chains in the buffer do not matter to it
  have hsendNone : ownedIdx vc.sendRing.buff = [] := by
    rw [← hsend]
    exact ownedIdx_replicate_vacant _
  have hrcvNone : ownedIdx vc.rcvRing.buff = [] := by
    rw [← hrcv]
    exact ownedIdx_replicate_vacant _
  have hsend' := hempty.send
  have hrcv' := hempty.rcv
  rw [hsend] at hsend'
  rw [hrcv] at hrcv'
  refine ⟨m, hsend'.mono ?_, hrcv'.mono ?_, hm.pool⟩
  · rw [hsendNone]
    exact ⟨nofun⟩
  · rw [hrcvNone]
    exact ⟨nofun⟩

theorem SkyVirtualChannel.NewlyOn.rep {vc : SkyVirtualChannel w} (h : vc.NewlyOn)
    (hw : 250 ≤ 2 ^ w) : VcRep vc .empty :=
  rep_of_wiped (h.reached.rep hw) h.wiped

/-- The endpoint of such a channel. -/
def Endpoint.joined (vc : SkyVirtualChannel w) : Endpoint w :=
  { vc := vc, pushed := [], read := [], wipes := 0, newest := 1 }

def Link.connected (a b : SkyVirtualChannel w) : Link w :=
  { near := .joined a, far := .joined b, out := [], inn := []
    sessions := [a.arqSessionIdentifier] }

/-- No session begins or ends, and every handshake that is met is of the own session. -/
def Link.StaysConnected (l : Link w) : LinkEvent w → Prop
  | .process _ _ =>
      ∀ parsed ∈ l.incoming, ∀ identifier ∈ parsed.handshakeIdentifier,
        identifier = l.near.vc.arqSessionIdentifier
  | .connect _ | .disconnect | .checkTimeouts _ _ => False
  | _ => True

instance (l : Link w) : (e : LinkEvent w) → Decidable (l.StaysConnected e)
  | .process _ _ =>
      haveI (parsed : SkyParsedFrame) : Decidable (∀ identifier ∈ parsed.handshakeIdentifier,
          identifier = l.near.vc.arqSessionIdentifier) :=
        Option.decidableForallMem _
      inferInstanceAs (Decidable (∀ parsed ∈ l.incoming,
        ∀ identifier ∈ parsed.handshakeIdentifier, identifier = l.near.vc.arqSessionIdentifier))
  | .connect _ | .disconnect | .checkTimeouts _ _ => .isFalse id
  | .push _ | .read _ | .fill _ _ _ _ | .lose _ => .isTrue trivial

/-! ## Sequence numbers without wrap-around -/

namespace Endpoint

/-- The head of the send ring counts the payloads that were accepted. -/
def sendTail (e : Endpoint w) : Nat :=
  e.pushed.length - (e.vc.sendRing.headSequence - e.vc.sendRing.tailSequence).toNat

def sendTx (e : Endpoint w) : Nat :=
  e.pushed.length - (e.vc.sendRing.headSequence - e.vc.sendRing.txSequence).toNat

/-- The tail of the receive ring counts the payloads that were handed over. -/
def rcvHead (e : Endpoint w) : Nat :=
  e.read.length + rcvRingCountReadablePackets e.vc.rcvRing

end Endpoint

/-- The payload `k` places behind the tail of the receive ring. -/
def SkyVirtualChannel.peekReceived (vc : SkyVirtualChannel w) (k maxLength : Nat) :
    Except SkyRet Bytes :=
  skyElementBufferRead vc.elementBuffer
    (vc.rcvRing.item (ringWrap ((vc.rcvRing.tail + k : Nat) : Int) vc.rcvRing.length)).idx
    maxLength

/-- What is sent by the near endpoint arrives at the far one without loss, duplication
or reordering, and nothing is dropped that has not arrived. -/
structure Link.InOrder (l : Link w) : Prop where
  read : l.far.read <+: l.near.pushed
  tail_le : l.near.sendTail ≤ l.far.rcvHead
  head_le : l.far.rcvHead ≤ l.near.sendTx
  sequences : l.near.vc.sendRing.tailSequence = serial 0 l.near.sendTail ∧
    l.near.vc.sendRing.txSequence = serial 0 l.near.sendTx ∧
    l.far.vc.rcvRing.headSequence = serial 0 l.far.rcvHead
  stored : ∀ u, l.far.read.length ≤ u → u < l.far.rcvHead → ∃ p, l.near.pushed[u]? = some p ∧
    l.far.vc.peekReceived (u - l.far.read.length) p.length = .ok p

/-! ## What the session keeps -/

/-- The link stands for a net that was reached from two connected endpoints, and no
endpoint has started afresh. -/
structure InSession (start l : Link w) (names : Naming) (n : Net) : Prop where
  reach : Reaches True
    (.connected start.near.vc.sendRing.length start.far.vc.sendRing.length) n
  sim : LinkSim start l n names
  sessions : l.sessions.length = n.created ∧ n.created = 1
  wipes : l.near.wipes = 0 ∧ l.far.wipes = 0
  room : 0 < start.near.vc.sendRing.length ∧ 0 < start.far.vc.sendRing.length

namespace InSession

variable {start l : Link w} {names : Naming} {n : Net}

theorem inv (h : InSession start l names n) : Inv n :=
  (inv_connected h.room.1 h.room.2).reaches h.reach

theorem swap (h : InSession start l names n) :
    InSession start.swap l.swap names.swap n.swap :=
  ⟨h.reach.swap, h.sim.swap, ⟨(List.length_map _).trans h.sessions.1, h.sessions.2⟩,
    h.wipes.symm, h.room.symm⟩

theorem whole (h : InSession start l names n) : n.near.Whole 1 :=
  (h.reach.whole (inv_connected h.room.1 h.room.2) ⟨rfl, rfl, rfl⟩).2
    (h.sim.near.epoch.trans h.wipes.1)

theorem base (h : InSession start l names n) : n.near.stamp.base = 0 :=
  (h.reach.ahead (inv_connected h.room.1 h.room.2) (h.sim.near.epoch.trans h.wipes.1)).base

theorem on (h : InSession start l names n) :
    l.near.vc.arqStateFlag = .on ∧ l.near.vc.arqSessionIdentifier = names.near 1 := by
  have hmode := h.sim.near.mode
  rw [h.whole.mode] at hmode
  exact hmode

/-- Every handshake in flight is of the one session there is. -/
theorem handshake_eq (h : InSession start l names n) {f : Frame} (hf : f ∈ n.inn) {z : Nat}
    (hz : f.handshake = some z) : z = 1 := by
  have hok := h.inv.inn.frames f hf
  have hpos := hok.wellFormed.positive z (hok.handshake z hz)
  have hle := (h.inv.handshake_le hf hz).2
  have := h.sessions.2
  omega

/-- A handshake of the own session is understood. -/
theorem understood (h : InSession start l names n) (h8 : 8 ∣ w) (hw : w ≤ 56)
    {tickTime now : Int} (hstays : l.StaysConnected (.process tickTime now)) :
    ∀ f ∈ n.inn.head?, Understood l n names f := by
  intro f hf
  obtain ⟨rest, hn⟩ := inn_head hf
  have hmem : f ∈ n.inn := hn ▸ List.mem_cons_self
  have hread : ∀ z, f.handshake = some z → skyHton32 (names.far z) = names.near z := by
    intro z hz
    obtain ⟨parsed, hincoming, hid⟩ := h.sim.incoming_handshake h8 hw f hf z hz
    rw [hstays parsed hincoming _ hid, h.on.2, h.handshake_eq hmem hz]
  refine ⟨hread, fun z y hz hy _ => ?_, fun z hz henters => ?_⟩
  · rw [h.whole.mode, Mode.session_on, Option.some.injEq] at hy
    rw [h.handshake_eq hmem hz, hy]
  · rw [SkyVirtualChannel.enters, h.on.1, h.on.2, h.handshake_eq hmem hz] at henters
    simp at henters

/-- No endpoint starts afresh. -/
theorem step_wipes (h : InSession start l names n) {e : LinkEvent w}
    (hstays : l.StaysConnected e) :
    (l.step e).near.wipes = l.near.wipes ∧ (l.step e).far.wipes = l.far.wipes := by
  cases e with
  | push payload =>
      rw [Link.step, Endpoint.push]
      split <;> exact ⟨rfl, rfl⟩
  | read maxLength =>
      rw [Link.step, Endpoint.readNext]
      split <;> exact ⟨rfl, rfl⟩
  | fill first config now frames => exact ⟨rfl, rfl⟩
  | process tickTime now =>
      rw [Link.step]
      cases hl : l.inn with
      | nil => exact ⟨rfl, rfl⟩
      | cons frame rest =>
          refine ⟨?_, rfl⟩
          show (l.near.process l.sessions tickTime now frame).wipes = l.near.wipes
          rw [Endpoint.process]
          cases hparse : frame.parse w with
          | error ret => rfl
          | ok parsed =>
              have hincoming : parsed ∈ l.incoming := Link.incoming_eq hl hparse
              have hnone : parsed.handshakeIdentifier.filter l.near.vc.enters = none := by
                rw [Option.filter_eq_none_iff]
                intro identifier hid
                rw [SkyVirtualChannel.enters, h.on.1, hstays parsed hincoming identifier hid]
                simp
              show (l.near.record l.sessions parsed.handshakeIdentifier _).wipes = l.near.wipes
              rw [Endpoint.record, hnone]
  | lose i => exact ⟨rfl, rfl⟩
  | connect tickTime => exact hstays.elim
  | disconnect => exact hstays.elim
  | checkTimeouts now timeout => exact hstays.elim

theorem step (h : InSession start l names n) (h8 : 8 ∣ w) (hw : w ≤ 56) {e : LinkEvent w}
    (hstays : l.StaysConnected e) (hpush : ∀ payload, e = .push payload → start.Fits) :
    ∃ n', InSession start (l.step e) names n' := by
  have henabled : LinkSim.Enabled True start l n names e := by
    cases e with
    | push payload => exact hpush payload rfl
    | process tickTime now =>
        exact ⟨h.understood h8 hw hstays, fun hno => absurd trivial hno⟩
    | connect tickTime => exact hstays.elim
    | _ => trivial
  obtain ⟨n', hreach, hsim, hnumber⟩ := h.sim.step h.inv h8 hw h.sessions.1 henabled
  have hlength : (l.step e).sessions.length = l.sessions.length := by
    rw [Link.sessions_step]
    cases e with
    | connect tickTime => exact hstays.elim
    | _ => rfl
  obtain ⟨hnear, hfar⟩ := h.step_wipes hstays
  refine ⟨n', h.reach.trans hreach, hsim, ⟨hnumber, ?_⟩, ⟨hnear.trans h.wipes.1,
    hfar.trans h.wipes.2⟩, h.room⟩
  rw [← hnumber, hlength, h.sessions.1, h.sessions.2]

/-- Payloads are accepted at the near endpoint only. -/
theorem run (h : InSession start l names n) (h8 : 8 ∣ w) (hw : w ≤ 56) (hfits : start.Fits)
    {events : List (Side × LinkEvent w)} (hmeets : l.RunMeets Link.StaysConnected events)
    (honly : ∀ payload, (Side.right, .push payload) ∉ events) :
    ∃ n', InSession start (l.run events) names n' := by
  induction events generalizing l n with
  | nil => exact ⟨n, h⟩
  | cons e events ih =>
      obtain ⟨hone, hrest⟩ := hmeets
      have honly' : ∀ payload, (Side.right, LinkEvent.push payload) ∉ events :=
        fun payload hmem => honly payload (List.mem_cons_of_mem _ hmem)
      obtain ⟨side, e⟩ := e
      cases side with
      | left =>
          obtain ⟨n', h'⟩ := h.step h8 hw hone fun _ _ => hfits
          exact ih h' hrest honly'
      | right =>
          obtain ⟨n', h'⟩ := h.swap.step h8 hw hone fun payload heq =>
            absurd (heq ▸ List.mem_cons_self) (honly payload)
          have hback := h'.swap
          rw [start.swap_swap] at hback
          exact ih hback hrest honly'

/-! ## The counters -/

theorem send_eq (h : InSession start l names n) {v : VcView} (hrep : VcRep l.near.vc v)
    (hview : ViewSim v n.near l.near.pushed l.far.pushed) :
    l.near.sendTail = v.sendTail ∧ l.near.sendTx = v.sendTx := by
  obtain ⟨htail, htx, hhead⟩ := hrep.sendSequences
  obtain ⟨hle, hle', hroom, hlen⟩ := hrep.sendOrder
  have hpushed : l.near.pushed.length = v.sendHead := by
    rw [← hview.pushed, hview.head, h.base, Nat.zero_add]
  rw [Endpoint.sendTail, Endpoint.sendTx, hpushed, htail, htx, hhead,
    serial_sub 0 (by omega) (by omega), serial_sub 0 hle' (by omega)]
  omega

theorem read_eq (h : InSession start l names n) :
    l.near.read = l.far.pushed.take l.near.read.length ∧ l.near.read.length = n.near.rTail := by
  have hread := h.sim.near.read
  rw [h.whole.reads] at hread
  have hlength : l.near.read.length = n.near.rTail := by
    have hcount := congrArg List.length hread
    simpa using hcount
  refine ⟨List.ext_getElem? fun i => ?_, hlength⟩
  rw [List.getElem?_take, hlength]
  have hget := congrArg (·[i]?) hread
  simp only [List.getElem?_map] at hget
  split
  · rename_i hlt
    rw [List.getElem?_range hlt, Option.map_some] at hget
    rw [Option.map_eq_some_iff] at hget
    obtain ⟨p, hp, hval⟩ := hget
    rw [hp, hval]
  · rename_i hge
    exact List.getElem?_eq_none (by omega)

theorem rcvHead_eq (h : InSession start l names n) {v : VcView} (hrep : VcRep l.near.vc v)
    (hview : ViewSim v n.near l.near.pushed l.far.pushed) :
    l.near.read.length = v.rcvTail ∧ l.near.rcvHead = v.rcvHead := by
  have hlength := h.read_eq.2.trans hview.rTail
  obtain ⟨hle, -⟩ := hrep.rcvOrder
  obtain ⟨m, hm⟩ := hrep
  refine ⟨hlength, ?_⟩
  rw [Endpoint.rcvHead, hlength, hm.rcv.countReadable]
  omega

end InSession

/-- What is held can be read into a target that is long enough. -/
theorem VcRep.peekReceived {vc : SkyVirtualChannel w} {v : VcView} (h : VcRep vc v) {u : Nat}
    {p : Bytes} (hu : v.rcvTail ≤ u) (hp : v.held u = some p) {maxLength : Nat}
    (hlen : p.length ≤ maxLength) :
    vc.peekReceived (u - v.rcvTail) maxLength = .ok p := by
  obtain ⟨m, hm⟩ := h
  obtain ⟨-, -, -, hstored⟩ := hm.rcv.slots.held hu hp
  rw [SkyVirtualChannel.peekReceived, hm.rcv.tailIdx, ringWrap_slot_add hm.rcv.slots.pos,
    Nat.add_sub_cancel' hu, SkyRcvRing.item, hm.pool.stores.read hstored,
    if_neg (not_lt.mpr hlen)]

theorem InSession.inOrder {start l : Link w} {names : Naming} {n : Net}
    (h : InSession start l names n) : l.InOrder := by
  obtain ⟨v, hrep, hview⟩ := h.sim.near.view
  obtain ⟨v', hrep', hview'⟩ := h.sim.far.view
  obtain ⟨htail, htx⟩ := h.send_eq hrep hview
  obtain ⟨hread, hhead⟩ := h.swap.rcvHead_eq hrep' hview'
  replace hread : l.far.read.length = v'.rcvTail := hread
  replace hhead : l.far.rcvHead = v'.rcvHead := hhead
  have hbase := h.base
  have hwhole := h.swap.whole
  obtain ⟨-, -, hlo, hhi⟩ := h.inv.window h.whole.mode hwhole.mode
  have horigin : n.far.origin = 0 := hwhole.origin
  have hnodeTail := hview.tail
  have hnodeTx := hview.tx
  have hnodeHead := hview'.rHead
  refine ⟨?_, ?_, ?_, ⟨?_, ?_, ?_⟩, fun u hu hu' => ?_⟩
  · have htake : l.far.read = l.near.pushed.take l.far.read.length := h.swap.read_eq.1
    rw [htake]
    exact List.take_prefix _ _
  · omega
  · omega
  · rw [htail]
    exact hrep.sendSequences.1
  · rw [htx]
    exact hrep.sendSequences.2.1
  · rw [hhead]
    exact hrep'.rcvSequences.2
  · rw [hread] at hu ⊢
    rw [hhead] at hu'
    have hsome := hrep'.readable hu hu'
    obtain ⟨x, hx⟩ := Option.isSome_iff_exists.mp ((hview'.held_isSome u).mpr hsome)
    obtain ⟨p, hlog, hp⟩ := hview'.held u x hx
    have hplace := h.inv.out.received.on 1 hwhole.mode u x hx
    rw [horigin, Nat.zero_add] at hplace
    exact ⟨p, hplace ▸ hlog, hrep'.peekReceived hu hp le_rfl⟩

/-! ## Runs of a session -/

/-- Two connected channels that hold nothing are in a session. -/
theorem VcRep.inSession {a b : SkyVirtualChannel w} (ha : VcRep a .empty)
    (hb : VcRep b .empty) (hon : a.arqStateFlag = .on ∧ b.arqStateFlag = .on) :
    ∃ names, InSession (Link.connected a b) (.connected a b) names
      (.connected a.sendRing.length b.sendRing.length) := by
  let names : Naming := ⟨fun _ => a.arqSessionIdentifier, fun _ => b.arqSessionIdentifier⟩
  have hnear : EndpointSim (.joined a) (.fresh a.sendRing.length (.on 1) 1) names.near [] :=
    ⟨⟨_, ha, viewSim_fresh _ _ _ _⟩, ⟨hon.1, rfl⟩, rfl, rfl, rfl, rfl⟩
  have hfar : EndpointSim (.joined b) (.fresh b.sendRing.length (.on 1) 1) names.far [] :=
    ⟨⟨_, hb, viewSim_fresh _ _ _ _⟩, ⟨hon.2, rfl⟩, rfl, rfl, rfl, rfl⟩
  exact ⟨names, .refl _, ⟨hnear, hfar, .nil, .nil, .refl _, .refl _, .inl rfl, .inl rfl⟩,
    ⟨rfl, rfl⟩, ⟨rfl, rfl⟩, ha.sendLength_pos, hb.sendLength_pos⟩

/-- Two newly connected channels are in a session. -/
theorem connected_inSession (hw : 250 ≤ 2 ^ w) {a b : SkyVirtualChannel w} (ha : a.NewlyOn)
    (hb : b.NewlyOn) :
    ∃ names, InSession (Link.connected a b) (.connected a b) names
      (.connected a.sendRing.length b.sendRing.length) :=
  (ha.rep hw).inSession (hb.rep hw) ⟨ha.on, hb.on⟩

/-- In one session the payloads that are handed over are the first ones that were
accepted, in order, and the sender drops none that the receiver has not stored. -/
theorem arqInOrder_run (hw : ArqSequenceWidth w) {a b : SkyVirtualChannel w} (ha : a.NewlyOn)
    (hb : b.NewlyOn) (hfits : a.sendRing.length + b.rcvRing.horizonWidth ≤ 2 ^ w)
    {events : List (Side × LinkEvent w)}
    (honly : ∀ payload, (Side.right, .push payload) ∉ events)
    (hmeets : (Link.connected a b).RunMeets Link.StaysConnected events) :
    ((Link.connected a b).run events).InOrder := by
  obtain ⟨h8, hw56, h250⟩ := hw.bounds
  obtain ⟨names, hstart⟩ := connected_inSession h250 ha hb
  obtain ⟨n, hrun⟩ := hstart.run h8 hw56 hfits hmeets honly
  exact hrun.inOrder

/-- A channel that has entered a session whose identifier reads the same on both sides. -/
def newlyOnChannel : SkyVirtualChannel 8 := exampleChannel.run [.handshake 0 1 0x01010101]

theorem newlyOnChannel_newlyOn : newlyOnChannel.NewlyOn := by
  obtain ⟨conf, hconf⟩ := exampleChannel_eq
  exact ⟨⟨_, conf, exampleChannel, _, hconf, by decide, rfl⟩, rfl, rfl, rfl⟩

/-- Two payloads, the first of them lost and sent again; both are acknowledged. -/
def exampleDelivery : List (Side × LinkEvent 8) :=
  [(.left, .push [1]), (.left, .push [2]), (.left, .send 14), (.left, .lose 0),
    (.left, .send 15), (.right, .process 16 16), (.right, .send 17), (.right, .send 18),
    (.left, .process 19 19), (.left, .send 20), (.right, .process 21 21), (.right, .read 200),
    (.left, .process 22 22), (.right, .send 17000), (.left, .process 17001 17001)]

theorem arqInOrder_example :
    ((Link.connected newlyOnChannel newlyOnChannel).run exampleDelivery).InOrder :=
  arqInOrder_run (.inl rfl) newlyOnChannel_newlyOn newlyOnChannel_newlyOn (by decide +kernel)
    (by simp [exampleDelivery, LinkEvent.send]) (by decide +kernel)

end Skylink
