import Skylink.Network.Refinement
import Skylink.Node.Forgery

/-!
# Delivery between two nodes

What the links say about payloads, said about whole nodes: all four channels run at once,
and every frame passes through `sky_tx` and `sky_rx`.
-/

namespace Skylink

open SessionWindow

variable {w : Nat}

/-! ## Channels that offer no session -/

/-- No session is offered. -/
def Link.NoConnect (_ : Link w) : LinkEvent w → Prop
  | .connect _ => False
  | _ => True

theorem Link.runMeets_noConnect {events : List (Side × LinkEvent w)}
    (h : ∀ side tickTime, (side, VcCall.connect tickTime) ∉ Link.calls events) (l : Link w) :
    l.RunMeets Link.NoConnect events := by
  induction events generalizing l with
  | nil => trivial
  | cons e events ih =>
      have hcons : Link.calls (e :: events) = Link.calls [e] ++ Link.calls events :=
        Link.calls_append [e] events
      rw [hcons] at h
      refine ⟨?_, ih (fun side tickTime hmem => h side tickTime (List.mem_append_right _ hmem)) _⟩
      obtain ⟨side, e⟩ := e
      cases e with
      | connect tickTime =>
          have hmem : (side, VcCall.connect tickTime) ∈
              Link.calls [(side, LinkEvent.connect (w := w) tickTime)] := by
            rw [Link.calls_singleton]
            exact List.mem_cons_self
          exact absurd (List.mem_append_left _ hmem) (h side tickTime)
      | _ => trivial

/-- Without a session there are no handshakes, and no payload was sent in one. -/
theorem Follows.unconnected {stale : Prop} {start l : Link w} {n : Net}
    (h : Follows stale start l [] n) (h8 : 8 ∣ w) (hw : w ≤ 56) {e : LinkEvent w}
    (he : l.NoConnect e) : l.NewSessions e ∧ l.NoStalePayload e := by
  have hcreated : n.created = 0 := by
    rw [← h.number, List.prefix_nil.mp h.begins, List.length_nil]
  have hnone {parsed : SkyParsedFrame} (hincoming : parsed ∈ l.incoming) :
      parsed.handshakeIdentifier = none ∧ parsed.hdr.hasFlag skyFlagArqOn = false := by
    obtain ⟨frame, frames, hl⟩ : ∃ frame frames, l.inn = frame :: frames := by
      cases hl : l.inn with
      | nil =>
          rw [Link.incoming, hl] at hincoming
          cases hincoming
      | cons frame frames => exact ⟨frame, frames, rfl⟩
    obtain ⟨f, rest, parsed', c, hn, hparse, hreads, hc⟩ := h.sim.incoming h8 hw hl
    rw [Link.incoming_eq hl hparse, Option.mem_some_iff] at hincoming
    subst hincoming
    have hmem : f ∈ n.inn := hn ▸ List.mem_cons_self
    have hok := h.inv.inn.frames f hmem
    constructor
    · rw [hreads.handshakeIdentifier]
      cases hf : f.handshake with
      | none =>
          have hhandshake := hc.handshake
          rw [hf, Option.map_none, Option.map_eq_none_iff] at hhandshake
          rw [hhandshake, Option.map_none]
      | some z =>
          have hpos := hok.wellFormed.positive z (hok.handshake z hf)
          have hle := (h.inv.handshake_le hmem hf).2
          omega
    · rw [hreads.arqOn, Bool.eq_false_iff]
      intro hon
      obtain ⟨z, hz⟩ := hc.arqOn.mp hon
      have hpos := hok.wellFormed.positive z (by rw [hz, Mode.session_on])
      have hle := h.inv.frame_le f hmem z hz
      have hnewest := h.inv.out.sender.newest_le
      omega
  cases e with
  | connect tickTime => exact he.elim
  | process tickTime now =>
      constructor
      · intro parsed hincoming identifier hid
        rw [(hnone hincoming).1] at hid
        cases hid
      · rintro parsed hincoming ⟨-, -, -, hflag⟩
        rw [(hnone hincoming).2] at hflag
        cases hflag
  | _ => exact ⟨trivial, trivial⟩

/-- A run without sessions is a run of the net. -/
theorem Link.unconnected_follows (hw : ArqSequenceWidth w) {a b : SkyVirtualChannel w}
    (ha : VcRep a .empty) (hb : VcRep b .empty)
    (hoff : a.arqStateFlag = .off ∧ b.arqStateFlag = .off)
    (hfits : (Link.idle a b).Fits ∧ (Link.idle a b).swap.Fits)
    {events : List (Side × LinkEvent w)}
    (hmeets : (Link.idle a b).RunMeets Link.NoConnect events) :
    ∃ n, Follows False (Link.idle a b) ((Link.idle a b).run events) [] n := by
  obtain ⟨h8, hw56, -⟩ := hw.bounds
  apply Link.run_induction (P := fun start l => ∃ n, Follows False start l [] n) _ _ _ hmeets
  · rintro start l ⟨n, h⟩
    exact ⟨n.swap, h.swap⟩
  · rintro start l e ⟨n, h⟩ he
    obtain ⟨hnew, hstale⟩ := h.unconnected h8 hw56 he
    refine h.step h8 hw56 hnew (fun _ => hstale) ?_
    rw [Link.sessions_step]
    cases e with
    | connect tickTime => exact he.elim
    | _ => exact h.begins
  · exact ⟨.idle a.sendRing.length b.sendRing.length,
      ⟨rfl, List.prefix_refl _, List.nodup_nil⟩, .refl _,
      ⟨ha.endpointSim_idle hoff.1 _, hb.endpointSim_idle hoff.2 _, .nil, .nil, .refl _, .refl _,
        .inl rfl, .inl rfl⟩, ⟨ha.sendLength_pos, hb.sendLength_pos⟩, hfits⟩

/-! ## The start -/

/-- A new node has new channels. -/
theorem skyCreate_channel (hw : 250 ≤ 2 ^ w) {config : SkyConfig} {node : SkyNode w}
    (h : skyCreate config = some node) (v : Fin skyNumVirtualChannels) :
    VcRep (node.virtualChannels v) .empty ∧ (node.virtualChannels v).arqStateFlag = .off := by
  obtain ⟨-, hrep, hoff, -⟩ := skyVcCreate_rep hw (skyCreate_channels h v)
  exact ⟨hrep, hoff⟩

theorem skyCreate_sound (hw : 250 ≤ 2 ^ w) {config : SkyConfig} {node : SkyNode w}
    (h : skyCreate config = some node) : (Station.new node).Sound := by
  refine ⟨skyCreate_ringsHold hw h, ?_, nofun⟩
  obtain ⟨hpos, hid⟩ := skyCreate_conf h
  exact ⟨Nat.lt_of_lt_of_le (by decide) hpos, hid⟩

namespace Network

/-- The link that a channel is once it is connected and nothing is on its way. -/
def link (net : Network w) (v : Fin skyNumVirtualChannels) : Link w :=
  .connected (net.near.node.virtualChannels v) (net.far.node.virtualChannels v)

/-- The channel is connected at both ends, and its rings are as a wipe leaves them. -/
structure JustConnected (net : Network w) (v : Fin skyNumVirtualChannels) : Prop where
  on : (net.near.node.virtualChannels v).arqStateFlag = .on ∧
    (net.far.node.virtualChannels v).arqStateFlag = .on
  near : (wipeRings (net.near.node.virtualChannels v)).sendRing =
      (net.near.node.virtualChannels v).sendRing ∧
    (wipeRings (net.near.node.virtualChannels v)).rcvRing =
      (net.near.node.virtualChannels v).rcvRing
  far : (wipeRings (net.far.node.virtualChannels v)).sendRing =
      (net.far.node.virtualChannels v).sendRing ∧
    (wipeRings (net.far.node.virtualChannels v)).rcvRing =
      (net.far.node.virtualChannels v).rcvRing

theorem JustConnected.rep {net : Network w} {v : Fin skyNumVirtualChannels}
    (h : net.JustConnected v) (hsound : net.Sound) :
    VcRep (net.near.node.virtualChannels v) .empty ∧
      VcRep (net.far.node.virtualChannels v) .empty :=
  ⟨SkyVirtualChannel.rep_of_wiped (hsound.1.rings v) h.near,
    SkyVirtualChannel.rep_of_wiped (hsound.2.rings v) h.far⟩

/-- Everything that was sent was heard. -/
def Quiet (net : Network w) : Prop :=
  net.near.sent.length ≤ net.far.heard ∧ net.far.sent.length ≤ net.near.heard

instance (net : Network w) : Decidable net.Quiet :=
  inferInstanceAs (Decidable (_ ∧ _))

theorem Sound.run (hw : ArqSequenceWidth w) {H : KeyedHash} {net : Network w} (h : net.Sound)
    {events : List (Side × NetworkEvent w)} (hwhole : ∀ e ∈ events, e.2.Whole) :
    (net.run H events).Sound := by
  induction events generalizing net with
  | nil => exact h
  | cons e events ih =>
      obtain ⟨hone, hrest⟩ := List.forall_mem_cons.mp hwhole
      refine ih ?_ hrest
      obtain ⟨side, e⟩ := e
      cases side with
      | left => exact h.step hw H hone
      | right =>
          have hswap : net.swap.Sound := h.symm
          exact (hswap.step hw H hone).symm

end Network

/-- At first nothing is on its way on either side. -/
theorem channelSim_new (v : Fin skyNumVirtualChannels) (a b : SkyNode w) :
    ChannelSim v (.new a b) (.new a b)
      (.idle (a.virtualChannels v) (b.virtualChannels v)) 0 0 :=
  ⟨⟨rfl, rfl, rfl⟩, ⟨rfl, rfl, rfl⟩, .nil, .nil, le_rfl, le_rfl⟩

/-- The two ends of a channel once everything that was sent is over. -/
theorem channelSim_quiet (v : Fin skyNumVirtualChannels) (net : Network w) :
    ChannelSim v net net (net.link v)
      net.near.sent.length net.far.sent.length := by
  have hnone (s : Station w) : FramesOn w v (s.sent.drop s.sent.length) [] := by
    rw [List.drop_length]
    exact .nil
  exact ⟨⟨rfl, (List.append_nil _).symm, (List.append_nil _).symm⟩,
    ⟨rfl, (List.append_nil _).symm, (List.append_nil _).symm⟩, hnone _, hnone _, le_rfl, le_rfl⟩

/-- The channel of the station and its histories are those of the endpoint. -/
structure Station.Matches (s : Station w) (v : Fin skyNumVirtualChannels) (e : Endpoint w) :
    Prop where
  vc : s.node.virtualChannels v = e.vc
  pushed : s.pushed v = e.pushed
  read : s.read v = e.read

/-- An endpoint that has seen everything has the same histories. -/
theorem Endpoint.Continues.matches {s : Station w} {v : Fin skyNumVirtualChannels}
    {e : Endpoint w} (h : Continues [] [] (s.channel v) e) : s.Matches v e :=
  ⟨h.vc.symm, h.pushed, h.read⟩

/-! ## Delivery where the frames of a channel keep their order -/

namespace Network

/-- Each station hands over what the other one has accepted at most once, and in order. -/
def DeliversOnce (v : Fin skyNumVirtualChannels) (net : Network w) : Prop :=
  (net.far.read v).Sublist (net.near.pushed v) ∧ (net.near.read v).Sublist (net.far.pushed v)

/-- What the far station has handed over since the start are the first payloads that the near
station has accepted since then, in order, and the others are held at one of the ends. -/
def Delivers (v : Fin skyNumVirtualChannels) (start net : Network w) : Prop :=
  ∃ accepted handed,
    net.near.pushed v = start.near.pushed v ++ accepted ∧
      net.far.read v = start.far.read v ++ handed ∧ handed <+: accepted ∧
      accepted.length ≤ handed.length +
        rcvRingCountReadablePackets (net.far.node.virtualChannels v).rcvRing +
        ((net.near.node.virtualChannels v).sendRing.headSequence -
          (net.near.node.virtualChannels v).sendRing.tailSequence).toNat

end Network

theorem ChannelSim.delivers {v : Fin skyNumVirtualChannels} {start net : Network w} {l : Link w}
    {p q : Nat} (h : ChannelSim v start net l p q) (hl : l.InOrder) :
    Network.Delivers v start net := by
  have hvc : l.near.vc = net.near.node.virtualChannels v := h.near.vc
  have hvc' : l.far.vc = net.far.node.virtualChannels v := h.far.vc
  refine ⟨l.near.pushed, l.far.read, h.near.pushed, h.far.read, hl.read, ?_⟩
  have hkept := hl.tail_le
  rw [Endpoint.sendTail, Endpoint.rcvHead, hvc, hvc'] at hkept
  exact Nat.sub_le_iff_le_add.mp hkept

namespace Network

section Run

variable {H : KeyedHash} {v : Fin skyNumVirtualChannels}
  {condition : Network w → NetworkEvent w → Prop} {J : Network w → Nat → Nat → Prop}

theorem KeepsOrder.read_sublist (hw : ArqSequenceWidth w) (horder : KeepsOrder H v condition J)
    {a b : SkyNode w} (hsound : (Network.new a b).Sound)
    (ha : VcRep (a.virtualChannels v) .empty ∧ (a.virtualChannels v).arqStateFlag = .off)
    (hb : VcRep (b.virtualChannels v) .empty ∧ (b.virtualChannels v).arqStateFlag = .off)
    (hfits : (Link.idle (a.virtualChannels v) (b.virtualChannels v)).Fits ∧
      (Link.idle (a.virtualChannels v) (b.virtualChannels v)).swap.Fits)
    (hJ : J (.new a b) 0 0) {events : List (Side × NetworkEvent w)}
    (hmeets : (Network.new a b).RunMeets H condition events)
    (hconnect : ∀ side tickTime, (side, VcCall.connect tickTime) ∉ calls v events) :
    DeliversOnce v ((Network.new a b).run H events) := by
  obtain ⟨p, q, linkEvents, hsim, hcalls, -⟩ :=
    horder.run hw (channelSim_new v a b) hsound hJ hmeets
  rw [← hcalls] at hconnect
  obtain ⟨n, h⟩ := Link.unconnected_follows hw ha.1 hb.1 ⟨ha.2, hb.2⟩ hfits
    (Link.runMeets_noConnect hconnect _)
  obtain ⟨hnear, hfar⟩ := (inv_idle ha.1.sendLength_pos hb.1.sendLength_pos).ordered
    (Node.fresh_ordered _ _ _) (Node.fresh_ordered _ _ _) h.reach
  have hnearSame := hsim.near.matches
  have hfarSame := hsim.far.matches
  rw [DeliversOnce, hnearSame.pushed, hnearSame.read, hfarSame.pushed, hfarSame.read]
  exact ⟨sublist_of_increasing hfar.reads h.sim.far.read,
    sublist_of_increasing hnear.reads h.sim.near.read⟩

/-- Both directions of a channel that stays in one session. -/
theorem KeepsOrder.delivers (hw : ArqSequenceWidth w) (horder : KeepsOrder H v condition J)
    {start : Network w} (hsound : start.Sound)
    (hconnected : start.JustConnected v)
    (hfits : (start.link v).Fits ∧ (start.link v).swap.Fits)
    (hJ : J start start.near.sent.length start.far.sent.length)
    {events : List (Side × NetworkEvent w)} (hmeets : start.RunMeets H condition events)
    (hstays : start.RunMeets H (StaysOn H v) events) :
    Delivers v start (start.run H events) ∧ Delivers v start.swap (start.run H events).swap := by
  obtain ⟨h8, hw56, -⟩ := hw.bounds
  obtain ⟨p, q, linkEvents, hsim, -, hon⟩ :=
    horder.run hw (channelSim_quiet v start) hsound hJ hmeets
  obtain ⟨hnear, hfar⟩ := hconnected.rep hsound
  obtain ⟨names, hstart⟩ := hnear.inSession hfar hconnected.on
  have hrun : (∃ names n, InSession (start.link v) ((start.link v).run linkEvents) names n) ∧
      (start.link v).Fits ∧ (start.link v).swap.Fits := by
    apply Link.run_induction
      (P := fun start l => (∃ names n, InSession start l names n) ∧ start.Fits ∧ start.swap.Fits)
      _ _ ⟨⟨names, _, hstart⟩, hfits⟩ (hon hstays)
    · rintro start l ⟨⟨names, n, h⟩, hfits⟩
      exact ⟨⟨_, _, h.swap⟩, hfits.symm⟩
    · rintro start l e ⟨⟨names, n, h⟩, hfits⟩ he
      obtain ⟨n', h'⟩ := h.step h8 hw56 he fun _ _ => hfits.1
      exact ⟨⟨names, n', h'⟩, hfits⟩
  obtain ⟨⟨names, n, h⟩, -⟩ := hrun
  exact ⟨hsim.delivers h.inOrder, hsim.swap.delivers h.swap.inOrder⟩

end Run

end Network

/-! ## Frames that arrive in order -/

/-- Two new stations with the same authentication flags on every channel. -/
def exampleNetwork (flags : UInt8) : Network 8 :=
  .new (exampleNode flags 7) (exampleNode flags 8)

/-- The left station asks for a session on channel 1 and is answered. -/
def exampleConnection : List (Side × NetworkEvent 8) :=
  [(.left, .connect 1 0x01010101), (.left, .transmit 16843309),
    (.right, .receive 16843310 16843310 0), (.right, .transmit 16843311),
    (.left, .receive 16843312 16843312 0)]

def exampleMessages : List (Side × NetworkEvent 8) :=
  [(.left, .push 1 [1]), (.left, .push 1 [2]), (.left, .transmit 16843313),
    (.left, .transmit 16843314), (.right, .receive 16843315 16843315 1),
    (.right, .receive 16843316 16843316 2), (.right, .read 1 200)]

section Fifo

variable {H : KeyedHash} {config config' : SkyConfig} {a b : SkyNode w}
  {v : Fin skyNumVirtualChannels} {events : List (Side × NetworkEvent w)}

theorem skyCreate_network_sound (hw : ArqSequenceWidth w) (ha : skyCreate config = some a)
    (hb : skyCreate config' = some b) : (Network.new a b).Sound :=
  ⟨skyCreate_sound hw.bounds.2.2 ha, skyCreate_sound hw.bounds.2.2 hb⟩

namespace Network

/-- Whatever happens on the other channels, a channel of two nodes does what two endpoints
do that know of nothing else. -/
theorem run_refines_link (hw : ArqSequenceWidth w) (ha : skyCreate config = some a)
    (hb : skyCreate config' = some b)
    (hmeets : (Network.new a b).RunMeets H (Fifo H v) events) :
    ∃ linkEvents, Link.calls linkEvents = calls v events ∧
      ((Network.new a b).run H events).near.Matches v
        ((Link.idle (a.virtualChannels v) (b.virtualChannels v)).run linkEvents).near ∧
      ((Network.new a b).run H events).far.Matches v
        ((Link.idle (a.virtualChannels v) (b.virtualChannels v)).run linkEvents).far := by
  obtain ⟨p, q, linkEvents, hsim, hcalls, -⟩ :=
    (fifo_keepsOrder H v).run hw (channelSim_new v a b) (skyCreate_network_sound hw ha hb)
      ⟨Nat.zero_le _, Nat.zero_le _⟩ hmeets
  exact ⟨linkEvents, hcalls, hsim.near.matches, hsim.far.matches⟩

theorem run_refines_link_example :
    ∃ linkEvents, Link.calls linkEvents = calls 1 (exampleConnection ++ exampleMessages) ∧
      ((exampleNetwork 0).run exampleHash (exampleConnection ++ exampleMessages)).near.Matches 1
        ((Link.idle ((exampleNode 0 7).virtualChannels 1)
          ((exampleNode 0 8).virtualChannels 1)).run linkEvents).near ∧
      ((exampleNetwork 0).run exampleHash (exampleConnection ++ exampleMessages)).far.Matches 1
        ((Link.idle ((exampleNode 0 7).virtualChannels 1)
          ((exampleNode 0 8).virtualChannels 1)).run linkEvents).far :=
  run_refines_link (.inl rfl) (exampleNode_eq 0 7) (exampleNode_eq 0 8) (by decide +kernel)

/-- Where no session is asked for, every payload is handed over at most once, and in order. -/
theorem unconnected_read_sublist (hw : ArqSequenceWidth w) (ha : skyCreate config = some a)
    (hb : skyCreate config' = some b)
    (hfits : (Link.idle (a.virtualChannels v) (b.virtualChannels v)).Fits ∧
      (Link.idle (a.virtualChannels v) (b.virtualChannels v)).swap.Fits)
    (hmeets : (Network.new a b).RunMeets H (Fifo H v) events)
    (hconnect : ∀ side tickTime, (side, VcCall.connect tickTime) ∉ calls v events) :
    DeliversOnce v ((Network.new a b).run H events) :=
  (fifo_keepsOrder H v).read_sublist hw (skyCreate_network_sound hw ha hb)
    (skyCreate_channel hw.bounds.2.2 ha v) (skyCreate_channel hw.bounds.2.2 hb v) hfits
    ⟨Nat.zero_le _, Nat.zero_le _⟩ hmeets hconnect

/-- Two payloads, the first of which is lost. -/
def exampleDatagrams : List (Side × NetworkEvent 8) :=
  [(.left, .push 1 [1]), (.left, .push 1 [2]), (.left, .transmit 5), (.left, .transmit 6),
    (.right, .receive 7 7 1), (.right, .read 1 200)]

theorem unconnected_read_sublist_example :
    DeliversOnce 1 ((exampleNetwork 0).run exampleHash exampleDatagrams) := by
  have hcalls : calls 1 exampleDatagrams =
      [(.left, .push [1]), (.left, .push [2]), (.right, .read 200)] := rfl
  have hconnect : ∀ side tickTime, (side, VcCall.connect tickTime) ∉ calls 1 exampleDatagrams := by
    intro side tickTime
    rw [hcalls]
    simp
  exact unconnected_read_sublist (.inl rfl) (exampleNode_eq 0 7) (exampleNode_eq 0 8)
    (by decide +kernel) (by decide +kernel) hconnect

/-- In one session each station hands over what the other one accepts, in order and without
a gap, and nothing is dropped that has not arrived. -/
theorem session_delivers (hw : ArqSequenceWidth w) (ha : skyCreate config = some a)
    (hb : skyCreate config' = some b) {before : List (Side × NetworkEvent w)}
    (hwhole : ∀ e ∈ before, e.2.Whole)
    (hconnected : ((Network.new a b).run H before).JustConnected v)
    (hquiet : ((Network.new a b).run H before).Quiet)
    (hfits : (((Network.new a b).run H before).link v).Fits ∧
      (((Network.new a b).run H before).link v).swap.Fits)
    (hmeets : ((Network.new a b).run H before).RunMeets H
      (fun net e => net.Fifo H v e ∧ net.StaysOn H v e) events) :
    Delivers v ((Network.new a b).run H before)
        (((Network.new a b).run H before).run H events) ∧
      Delivers v ((Network.new a b).run H before).swap
        (((Network.new a b).run H before).run H events).swap :=
  (fifo_keepsOrder H v).delivers hw ((skyCreate_network_sound hw ha hb).run hw hwhole)
    hconnected hfits hquiet (hmeets.imp fun _ _ h => h.1) (hmeets.imp fun _ _ h => h.2)

theorem session_delivers_example :
    Delivers 1 ((exampleNetwork 0).run exampleHash exampleConnection)
        (((exampleNetwork 0).run exampleHash exampleConnection).run exampleHash
          exampleMessages) ∧
      Delivers 1 ((exampleNetwork 0).run exampleHash exampleConnection).swap
        (((exampleNetwork 0).run exampleHash exampleConnection).run exampleHash
          exampleMessages).swap :=
  session_delivers (.inl rfl) (exampleNode_eq 0 7) (exampleNode_eq 0 8) (by decide +kernel)
    ⟨by decide +kernel, by decide +kernel, by decide +kernel⟩ (by decide +kernel)
    (by decide +kernel) (by decide +kernel)

end Network

end Fifo

end Skylink
