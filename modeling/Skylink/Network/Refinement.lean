import Skylink.Network.Simulation
import Skylink.Node.Resynchronisation

/-!
# Runs of the network

Every run of the network in which the frames of a channel are taken in the order in which
they were sent is, for this channel, a run of a link with the same calls.
-/

namespace Skylink

variable {w : Nat}

/-! ## What holds of the stations -/

/-- The channels of the node are in form, and what it has sent are whole buffers. -/
structure Station.Sound (s : Station w) : Prop where
  rings : s.node.RingsHold
  identity : 0 < s.node.conf.identityLen ∧ s.node.conf.identityLen ≤ skyMaxIdentityLen
  whole : ∀ tx ∈ s.sent, tx.frame.raw.length = rawLen

def Network.Sound (net : Network w) : Prop := net.near.Sound ∧ net.far.Sound

/-- A frame that was not sent comes in a whole buffer as well. -/
def NetworkEvent.Whole : NetworkEvent w → Prop
  | .receiveOther _ frame => frame.raw.length = rawLen
  | _ => True

instance : (e : NetworkEvent w) → Decidable e.Whole
  | .receiveOther _ _ => instDecidableEqNat _ _
  | .push .. | .read .. | .connect .. | .disconnect _ | .transmit _ | .receive .. => .isTrue trivial

namespace Network

theorem nodeOp_valid {net : Network w} (h : net.Sound) {e : NetworkEvent w} (he : e.Whole) :
    ∀ op ∈ net.nodeOp e, op.Valid net.near.node := by
  intro op hop
  cases e with
  | receive tick rxTimeTicks i =>
      obtain ⟨tx, htx, rfl⟩ := Option.map_eq_some_iff.mp hop
      exact h.2.whole tx (List.mem_of_getElem? htx)
  | receiveOther tick frame =>
      cases hop
      exact he
  | _ =>
      cases hop
      trivial

theorem step_sent (H : KeyedHash) (net : Network w) (e : NetworkEvent w) :
    (net.step H e).near.sent =
      match e with
      | .transmit tick => net.near.sent ++ (skyTx H tick net.near.node).2.1.toList
      | _ => net.near.sent := by
  cases e with
  | receive tick rxTimeTicks i =>
      rw [step]
      cases net.far.sent[i]? <;> rfl
  | _ => rfl

theorem Sound.step (hw : ArqSequenceWidth w) (H : KeyedHash) {net : Network w} (h : net.Sound)
    {e : NetworkEvent w} (he : e.Whole) : (net.step H e).Sound := by
  have hfar := net.step_far H e
  have hnode := net.step_node H e
  have hvalid := nodeOp_valid h he
  have hsent := net.step_sent H e
  rw [Network.Sound, hfar]
  refine ⟨⟨?_, ?_, ?_⟩, h.2⟩
  · rw [hnode]
    cases hop : net.nodeOp e with
    | none => exact h.1.rings
    | some op => exact h.1.rings.step H (hvalid op hop)
  · rw [hnode]
    cases hop : net.nodeOp e with
    | none => exact h.1.identity
    | some op =>
        dsimp only
        rw [step_conf]
        exact h.1.identity
  · rw [hsent]
    cases e with
    | transmit tick =>
        intro tx hmem
        rcases List.mem_append.mp hmem with hold | hnew
        · exact h.1.whole tx hold
        · exact skyTx_raw_length hw h.1.identity.2 h.1.rings (Option.mem_toList.mp hnew)
    | _ => exact h.1.whole

/-! ## One event -/

/-- The near station takes no frame of the channel, or one that was sent after all that it
has taken; `q` and `q'` say how many frames of the far station are over. -/
inductive InTurn (H : KeyedHash) (v : Fin skyNumVirtualChannels) (net : Network w)
    (e : NetworkEvent w) (q q' : Nat) : Prop
  | skips (hskips : ∀ tick frame, net.nodeOp e = some (.rx tick frame) →
        ¬(frame.header.channel = v ∧ net.near.node.accepts H frame = true))
      (heq : q' = q)
  | takes (tick : Int) (frame : SkyRadioFrame) (i : Nat) (tx : SkyTransmitFrame)
      (hop : net.nodeOp e = some (.rx tick frame)) (htx : net.far.sent[i]? = some tx)
      (hsame : tx.frame.SameFrame frame) (hle : q ≤ i) (hchannel : tx.frame.header.channel = v)
      (haccepts : net.near.node.accepts H (tx.receivedAt frame.rxTimeTicks) = true)
      (heq : q' = i + 1)

end Network

/-- A link follows every event. -/
theorem ChannelSim.step (hw : ArqSequenceWidth w) {H : KeyedHash}
    {v : Fin skyNumVirtualChannels} {start net : Network w} {l : Link w} {p q q' : Nat}
    (h : ChannelSim v start net l p q) (hsound : net.Sound) {e : NetworkEvent w}
    (hturn : net.InTurn H v e q q') :
    LinkFollows v start (net.step H e) e l p q' := by
  have hreceive {tick : Int} {frame : SkyRadioFrame} (hop : net.nodeOp e = some (.rx tick frame))
      (hcall : e.callOn v = none) {s : Station w}
      (hnode : s.node = (skyRx H tick net.near.node frame).1)
      (hkeeps : s.pushed v = net.near.pushed v ∧ s.read v = net.near.read v)
      (hsent : s.sent = net.near.sent) : LinkFollows v start { net with near := s } e l p q' := by
    cases hturn with
    | skips hskips heq =>
        subst heq
        refine h.unchanged hcall ?_ hkeeps.1 hkeeps.2 hsent
        rw [hnode]
        exact skyRx_other tick (hskips tick frame hop)
    | takes tick' frame' i tx hop' htx hsame hle hchannel haccepts heq =>
        subst heq
        cases hop.symm.trans hop'
        exact h.hear hw htx hsame hle hchannel haccepts hcall hnode hkeeps hsent
  have hother (hop : ∀ tick frame, net.nodeOp e ≠ some (.rx tick frame)) : q' = q := by
    cases hturn with
    | skips _ heq => exact heq
    | takes tick frame _ _ hop' => exact absurd hop' (hop tick frame)
  cases e with
  | push u payload =>
      rw [hother fun _ _ hop => by cases hop]
      exact h.push u payload
  | read u maxLength =>
      rw [hother fun _ _ hop => by cases hop]
      exact h.readNext u maxLength
  | connect u tickTime =>
      rw [hother fun _ _ hop => by cases hop]
      exact h.connect u tickTime
  | disconnect u =>
      rw [hother fun _ _ hop => by cases hop]
      exact h.disconnect u
  | transmit tick =>
      rw [hother fun _ _ hop => by cases hop]
      exact h.transmit hw H tick hsound.1.identity.1 hsound.1.identity.2 hsound.1.rings
  | receive tick rxTimeTicks i =>
      rw [Network.step]
      cases htx : net.far.sent[i]? with
      | none =>
          have hnone : net.nodeOp (.receive tick rxTimeTicks i) = none := by
            rw [Network.nodeOp, htx]
            rfl
          rw [hother fun _ _ hop => by cases hnone.symm.trans hop]
          exact h.unchanged rfl rfl rfl rfl rfl
      | some tx =>
          refine hreceive ?_ rfl rfl ⟨rfl, rfl⟩ rfl
          rw [Network.nodeOp, htx]
          rfl
  | receiveOther tick frame => exact hreceive rfl rfl rfl ⟨rfl, rfl⟩ rfl

/-! ## Runs -/

theorem Link.calls_other (events : List (Side × LinkEvent w)) :
    Link.calls (Link.otherEvents events) =
      (Link.calls events).map fun call => (call.1.other, call.2) := by
  induction events with
  | nil => rfl
  | cons e events ih =>
      have hcons (event : Side × LinkEvent w) (rest : List (Side × LinkEvent w)) :
          Link.calls (event :: rest) = Link.calls [event] ++ Link.calls rest :=
        Link.calls_append [event] rest
      have hone : Link.calls [(e.1.other, e.2)] =
          (Link.calls [e]).map fun call => (call.1.other, call.2) := by
        rw [Link.calls_singleton, Link.calls_singleton e.1 e.2]
        cases e.2.call <;> rfl
      have hother : Link.otherEvents (e :: events) =
          (e.1.other, e.2) :: Link.otherEvents events := rfl
      rw [hother, hcons, hcons e events, List.map_append, ih, hone]

namespace Network

/-- A condition on the events of a run under which the frames of a channel are taken in
turn; `J` is what it needs to know of the network and of the frames that are over. -/
structure KeepsOrder (H : KeyedHash) (v : Fin skyNumVirtualChannels)
    (condition : Network w → NetworkEvent w → Prop) (J : Network w → Nat → Nat → Prop) :
    Prop where
  swap : ∀ net p q, J net p q → J net.swap q p
  step : ∀ net p q e, net.Sound → J net p q → condition net e →
    e.Whole ∧ ∃ q', net.InTurn H v e q q' ∧ J (net.step H e) p q'

/-- The channel of the near station stays in its session. -/
def StaysOn (H : KeyedHash) (v : Fin skyNumVirtualChannels) (net : Network w)
    (e : NetworkEvent w) : Prop :=
  (net.near.node.virtualChannels v).StaysOn ((net.step H e).near.node.virtualChannels v)

instance (H : KeyedHash) (v : Fin skyNumVirtualChannels) (net : Network w)
    (e : NetworkEvent w) : Decidable (net.StaysOn H v e) :=
  decidable_of_iff (_ ∧ _ ∧ _) ⟨fun h => ⟨h.1, h.2.1, h.2.2⟩, fun h => ⟨h.1, h.2, h.3⟩⟩

section Run

variable {H : KeyedHash} {v : Fin skyNumVirtualChannels}
  {condition : Network w → NetworkEvent w → Prop} {J : Network w → Nat → Nat → Prop}
  {start net : Network w} {l : Link w} {p q : Nat}

theorem KeepsOrder.stepNear (hw : ArqSequenceWidth w) (horder : KeepsOrder H v condition J)
    (h : ChannelSim v start net l p q) (hsound : net.Sound) (hJ : J net p q)
    {e : NetworkEvent w} (he : condition net e) :
    (net.step H e).Sound ∧ ∃ q', J (net.step H e) p q' ∧
      ∃ events, ChannelSim v start (net.step H e) (l.run events) p q' ∧
        Link.calls events = ((e.callOn v).map (Prod.mk Side.left)).toList ∧
        (net.StaysOn H v e → l.RunMeets Link.StaysConnected events) := by
  obtain ⟨hwhole, q', hturn, hJ'⟩ := horder.step net p q e hsound hJ he
  obtain ⟨events, hsim, hcalls, hstays⟩ := h.step hw hsound hturn
  refine ⟨hsound.step hw H hwhole, q', hJ', events, hsim, hcalls, fun hon => hstays ?_⟩
  have hbefore : l.near.vc = net.near.node.virtualChannels v := h.near.vc
  have hafter : (l.run events).near.vc = (net.step H e).near.node.virtualChannels v :=
    hsim.near.vc
  rwa [hbefore, hafter]

theorem KeepsOrder.stepAt (hw : ArqSequenceWidth w) (horder : KeepsOrder H v condition J)
    (h : ChannelSim v start net l p q) (hsound : net.Sound) (hJ : J net p q) {side : Side}
    {e : NetworkEvent w} (he : condition (side.stations net) e) :
    (net.stepAt H (side, e)).Sound ∧ ∃ p' q', J (net.stepAt H (side, e)) p' q' ∧
      ∃ events, ChannelSim v start (net.stepAt H (side, e)) (l.run events) p' q' ∧
        Link.calls events = ((e.callOn v).map (Prod.mk side)).toList ∧
        ((side.stations net).StaysOn H v e → l.RunMeets Link.StaysConnected events) := by
  cases side with
  | left =>
      obtain ⟨hsound', q', hJ', hfollows⟩ := horder.stepNear hw h hsound hJ he
      exact ⟨hsound', p, q', hJ', hfollows⟩
  | right =>
      obtain ⟨hsound', p', hJ', events, hsim, hcalls, hstays⟩ :=
        horder.stepNear hw h.swap hsound.symm (horder.swap _ _ _ hJ) he
      have hrun : l.run (Link.otherEvents events) = (l.swap.run events).swap := by
        rw [l.run_swap, Link.swap_swap]
      refine ⟨hsound'.symm, p', q, horder.swap _ _ _ hJ', Link.otherEvents events, ?_, ?_,
        fun hon => Link.runMeets_swap (hstays hon)⟩
      · rw [hrun]
        exact hsim.swap
      · rw [Link.calls_other, hcalls]
        cases e.callOn v <;> rfl

/-- A run of the network is a run of the link. -/
theorem KeepsOrder.run (hw : ArqSequenceWidth w) (horder : KeepsOrder H v condition J)
    (h : ChannelSim v start net l p q) (hsound : net.Sound) (hJ : J net p q)
    {events : List (Side × NetworkEvent w)} (hmeets : net.RunMeets H condition events) :
    ∃ p' q', ∃ linkEvents, ChannelSim v start (net.run H events) (l.run linkEvents) p' q' ∧
      Link.calls linkEvents = calls v events ∧
      (net.RunMeets H (StaysOn H v) events → l.RunMeets Link.StaysConnected linkEvents) := by
  induction events generalizing net l p q with
  | nil => exact ⟨p, q, [], h, rfl, fun _ => trivial⟩
  | cons e events ih =>
      obtain ⟨side, e⟩ := e
      obtain ⟨hone, hrest⟩ := hmeets
      obtain ⟨hsound', p', q', hJ', first, hsim, hcalls, hstays⟩ :=
        horder.stepAt hw h hsound hJ hone
      obtain ⟨p'', q'', rest, hsim', hcalls', hstays'⟩ := ih hsim hsound' hJ' hrest
      refine ⟨p'', q'', first ++ rest, ?_, ?_, fun hon => ?_⟩
      · rw [Link.run_append]
        exact hsim'
      · rw [Link.calls_append, hcalls, hcalls', calls, calls, List.filterMap_cons]
        cases e.callOn v <;> rfl
      · exact Link.runMeets_append (hstays hon.1) (hstays' hon.2)

end Run

/-! ## Frames that arrive in order -/

/-- What was sent arrives in the order in which it was sent, if it arrives, and nothing else
is accepted for the channel. -/
def Fifo (H : KeyedHash) (v : Fin skyNumVirtualChannels) (net : Network w) :
    NetworkEvent w → Prop
  | .receive _ _ i => net.near.heard ≤ i
  | .receiveOther _ frame => frame.raw.length = rawLen ∧
      ¬(frame.header.channel = v ∧ net.near.node.accepts H frame = true)
  | _ => True

instance (H : KeyedHash) (v : Fin skyNumVirtualChannels) (net : Network w) :
    (e : NetworkEvent w) → Decidable (net.Fifo H v e)
  | .receive _ _ _ => Nat.decLe _ _
  | .receiveOther _ frame => inferInstanceAs (Decidable (frame.raw.length = rawLen ∧ ¬(_ ∧ _)))
  | .push .. | .read .. | .connect .. | .disconnect _ | .transmit _ => .isTrue trivial

/-- The frames that are over were heard. -/
def Heard (net : Network w) (p q : Nat) : Prop := p ≤ net.far.heard ∧ q ≤ net.near.heard

theorem step_heard (H : KeyedHash) (net : Network w) (e : NetworkEvent w) :
    net.near.heard ≤ (net.step H e).near.heard := by
  cases e with
  | receive tick rxTimeTicks i =>
      rw [step]
      cases net.far.sent[i]? with
      | none => exact le_rfl
      | some tx => exact le_max_left _ _
  | _ => exact le_rfl

theorem fifo_keepsOrder (H : KeyedHash) (v : Fin skyNumVirtualChannels) :
    KeepsOrder H v (Fifo H v) (Heard (w := w)) := by
  refine ⟨fun net p q h => ⟨h.2, h.1⟩, fun net p q e hsound h he => ?_⟩
  have hskip {q' : Nat} (hturn : net.InTurn H v e q q') (hq : q' ≤ (net.step H e).near.heard) :
      ∃ q', net.InTurn H v e q q' ∧ Heard (net.step H e) p q' := by
    refine ⟨q', hturn, ?_, hq⟩
    rw [step_far]
    exact h.1
  have hle := h.2.trans (net.step_heard H e)
  cases e with
  | receive tick rxTimeTicks i =>
      refine ⟨trivial, ?_⟩
      by_cases htakes : ∃ tx, net.far.sent[i]? = some tx ∧ tx.frame.header.channel = v ∧
          net.near.node.accepts H (tx.receivedAt rxTimeTicks) = true
      case pos =>
        obtain ⟨tx, htx, hchannel, haccepts⟩ := htakes
        have hop : net.nodeOp (.receive tick rxTimeTicks i) =
            some (.rx tick (tx.receivedAt rxTimeTicks)) := by
          rw [nodeOp, htx]
          rfl
        apply hskip (.takes tick _ i tx hop htx ⟨rfl, rfl⟩ (h.2.trans he) hchannel haccepts rfl)
        rw [step, htx]
        exact le_max_right _ _
      case neg =>
        refine hskip (.skips (fun tick' frame hop htaken => htakes ?_) rfl) hle
        obtain ⟨tx, htx, heq⟩ := Option.map_eq_some_iff.mp hop
        cases heq
        exact ⟨tx, htx, htaken⟩
  | receiveOther tick frame =>
      refine ⟨he.1, hskip (.skips (fun tick' frame' hop => ?_) rfl) hle⟩
      cases hop
      exact he.2
  | _ => exact ⟨trivial, hskip (.skips (fun _ _ hop => by cases hop) rfl) hle⟩

end Network

end Skylink
