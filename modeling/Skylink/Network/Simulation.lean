import Skylink.Link.Processing
import Skylink.Link.Session
import Skylink.Network.Model
import Skylink.Network.Reception

/-!
# A channel of the network is a link

What two nodes do, on all their channels, is for every one of them a run of two endpoints
that know of no other channel, of no trailer and of no time division, as long as the frames
that a node takes for this channel are taken in the order in which they were sent.
-/

namespace Skylink

variable {w : Nat}

/-! ## The other view of a link -/

def Side.other : Side → Side
  | left => right
  | right => left

namespace Link

theorem stepAt_swap (l : Link w) (side : Side) (e : LinkEvent w) :
    l.swap.stepAt (side, e) = (l.stepAt (side.other, e)).swap := by
  cases side with
  | left => exact (l.swap.step e).swap_swap.symm
  | right =>
      show (l.swap.swap.step e).swap = (l.step e).swap
      rw [l.swap_swap]

/-- The same events, told from the other side. -/
def otherEvents (events : List (Side × LinkEvent w)) : List (Side × LinkEvent w) :=
  events.map fun e => (e.1.other, e.2)

theorem run_swap (l : Link w) (events : List (Side × LinkEvent w)) :
    l.swap.run events = (l.run (otherEvents events)).swap := by
  induction events generalizing l with
  | nil => rfl
  | cons e events ih =>
      have hstep : l.swap.run (e :: events) = (l.swap.stepAt e).run events := rfl
      rw [hstep, l.stepAt_swap e.1 e.2, ih]
      rfl

theorem runMeets_swap {condition : Link w → LinkEvent w → Prop} {l : Link w}
    {events : List (Side × LinkEvent w)} (h : l.swap.RunMeets condition events) :
    l.RunMeets condition (otherEvents events) := by
  induction events generalizing l with
  | nil => trivial
  | cons e events ih =>
      obtain ⟨hone, hrest⟩ := h
      rw [l.stepAt_swap e.1 e.2] at hrest
      refine ⟨?_, ih hrest⟩
      obtain ⟨side, e⟩ := e
      cases side with
      | left => exact hone
      | right =>
          replace hone : condition l.swap.swap e := hone
          rwa [l.swap_swap] at hone

theorem run_append (l : Link w) (events events' : List (Side × LinkEvent w)) :
    l.run (events ++ events') = (l.run events).run events' := List.foldl_append

theorem runMeets_append {condition : Link w → LinkEvent w → Prop} {l : Link w}
    {events events' : List (Side × LinkEvent w)} (h : l.RunMeets condition events)
    (h' : (l.run events).RunMeets condition events') :
    l.RunMeets condition (events ++ events') := by
  induction events generalizing l with
  | nil => exact h'
  | cons e events ih => exact ⟨h.1, ih h.2 h'⟩

end Link

/-! ## The frames of a channel -/

/-- The frames of the channel among those that were sent, as the channel has filled them. -/
inductive FramesOn (w : Nat) (v : Fin skyNumVirtualChannels) :
    List SkyTransmitFrame → List SkyRadioFrame → Prop
  | nil : FramesOn w v [] []
  | other {sent : SkyTransmitFrame} {txs : List SkyTransmitFrame} {frames : List SkyRadioFrame}
      (hchannel : sent.frame.header.channel ≠ v) (rest : FramesOn w v txs frames) :
      FramesOn w v (sent :: txs) frames
  | own {sent tx : SkyTransmitFrame} {txs : List SkyTransmitFrame} {frames : List SkyRadioFrame}
      {identity : Bytes} {others : List (ExtValue w)} {c : ArqContent w}
      (hcarries : tx.Carries identity others v c) (hconveys : sent.Conveys v c)
      (rest : FramesOn w v txs frames) : FramesOn w v (sent :: txs) (tx.frame :: frames)

namespace FramesOn

variable {v : Fin skyNumVirtualChannels}

theorem append {txs txs' : List SkyTransmitFrame} {frames frames' : List SkyRadioFrame}
    (h : FramesOn w v txs frames) (h' : FramesOn w v txs' frames') :
    FramesOn w v (txs ++ txs') (frames ++ frames') := by
  induction h with
  | nil => exact h'
  | other hchannel _ ih => exact .other hchannel ih
  | own hcarries hconveys _ ih => exact .own hcarries hconveys ih

theorem split {txs txs' : List SkyTransmitFrame} {frames : List SkyRadioFrame}
    (h : FramesOn w v (txs ++ txs') frames) :
    ∃ front rest, frames = front ++ rest ∧ FramesOn w v txs front ∧ FramesOn w v txs' rest := by
  induction txs generalizing frames with
  | nil => exact ⟨[], frames, rfl, .nil, h⟩
  | cons tx txs ih =>
      cases h with
      | other hchannel hrest =>
          obtain ⟨front, rest, rfl, hfront, hrest⟩ := ih hrest
          exact ⟨front, rest, rfl, .other hchannel hfront, hrest⟩
      | own hcarries hconveys hrest =>
          obtain ⟨front, rest, rfl, hfront, hrest⟩ := ih hrest
          exact ⟨_ :: front, rest, rfl, .own hcarries hconveys hfront, hrest⟩

/-- A frame of the channel comes behind those that were sent before. -/
theorem locate {sent : List SkyTransmitFrame} {tx : SkyTransmitFrame} {i q : Nat}
    {frames : List SkyRadioFrame} (h : FramesOn w v (sent.drop q) frames)
    (htx : sent[i]? = some tx) (hle : q ≤ i) (hchannel : tx.frame.header.channel = v) :
    ∃ lost rest filled, frames = lost ++ SkyTransmitFrame.frame filled :: rest ∧
      FramesOn w v (sent.drop (i + 1)) rest ∧
      ∃ (identity : Bytes) (others : List (ExtValue w)) (c : ArqContent w),
        filled.Carries identity others v c ∧ tx.Conveys v c := by
  obtain ⟨hlt, rfl⟩ := List.getElem?_eq_some_iff.mp htx
  have hsplit : sent.drop q = (sent.drop q).take (i - q) ++ sent[i] :: sent.drop (i + 1) := by
    have hdrop : (sent.drop q).drop (i - q) = sent.drop i := by
      rw [List.drop_drop, Nat.add_sub_cancel' hle]
    rw [← List.drop_eq_getElem_cons hlt, ← hdrop, List.take_append_drop]
  rw [hsplit] at h
  obtain ⟨lost, rest, rfl, -, hrest⟩ := h.split
  cases hrest with
  | other hother _ => exact absurd hchannel hother
  | own hcarries hconveys hrest =>
      exact ⟨lost, _, _, rfl, hrest, _, _, _, hcarries, hconveys⟩

end FramesOn

/-! ## The relation -/

/-- Two endpoints of one channel. The second one has not seen what was accepted and handed
over at first. -/
structure Endpoint.Continues (pushed read : List Bytes) (e e' : Endpoint w) : Prop where
  vc : e'.vc = e.vc
  pushed : e.pushed = pushed ++ e'.pushed
  read : e.read = read ++ e'.read

namespace Endpoint.Continues

variable {pushed read : List Bytes} {e e' : Endpoint w}

/-- The histories stay as they are. -/
theorem setVc (h : Continues pushed read e e') {a b : Endpoint w} (hvc : b.vc = a.vc)
    (ha : a.pushed = e.pushed ∧ a.read = e.read) (hb : b.pushed = e'.pushed ∧ b.read = e'.read) :
    Continues pushed read a b :=
  ⟨hvc, by rw [ha.1, hb.1, h.pushed], by rw [ha.2, hb.2, h.read]⟩

theorem push (h : Continues pushed read e e') (payload : Bytes) :
    Continues pushed read (e.push payload) (e'.push payload) := by
  rw [Endpoint.push, Endpoint.push, h.vc]
  cases skyVcPushPacketToSend e.vc payload with
  | mk vc ret =>
      cases ret with
      | error ret => exact ⟨rfl, h.pushed, h.read⟩
      | ok n =>
          refine ⟨rfl, ?_, h.read⟩
          show e.pushed ++ [payload] = pushed ++ (e'.pushed ++ [payload])
          rw [h.pushed, List.append_assoc]

theorem readNext (h : Continues pushed read e e') (maxLength : Nat) :
    Continues pushed read (e.readNext maxLength) (e'.readNext maxLength) := by
  rw [Endpoint.readNext, Endpoint.readNext, h.vc]
  cases skyVcReadNextReceived e.vc maxLength with
  | mk vc ret =>
      cases ret with
      | error ret => exact ⟨rfl, h.pushed, h.read⟩
      | ok got =>
          refine ⟨rfl, h.pushed, ?_⟩
          show e.read ++ [got.2] = read ++ (e'.read ++ [got.2])
          rw [h.read, List.append_assoc]

end Endpoint.Continues

/-- The link is the channel of the network, with the frames that are still to come: at the
far station from frame `p` of the near one on, at the near station from frame `q` on. -/
structure ChannelSim (v : Fin skyNumVirtualChannels) (start net : Network w) (l : Link w)
    (p q : Nat) : Prop where
  near : Endpoint.Continues (start.near.pushed v) (start.near.read v) (net.near.channel v) l.near
  far : Endpoint.Continues (start.far.pushed v) (start.far.read v) (net.far.channel v) l.far
  out : FramesOn w v (net.near.sent.drop p) l.out
  inn : FramesOn w v (net.far.sent.drop q) l.inn
  bounds : p ≤ net.near.sent.length ∧ q ≤ net.far.sent.length

/-- What the user of a channel asks for. -/
inductive VcCall
  | push (payload : Bytes)
  | read (maxLength : Nat)
  | connect (tickTime : Int)
  | disconnect
deriving DecidableEq, Repr

def LinkEvent.call : LinkEvent w → Option VcCall
  | .push payload => some (.push payload)
  | .read maxLength => some (.read maxLength)
  | .connect tickTime => some (.connect tickTime)
  | .disconnect => some .disconnect
  | _ => none

def NetworkEvent.callOn (v : Fin skyNumVirtualChannels) : NetworkEvent w → Option VcCall
  | .push u payload => if u = v then some (.push payload) else none
  | .read u maxLength => if u = v then some (.read maxLength) else none
  | .connect u tickTime => if u = v then some (.connect tickTime) else none
  | .disconnect u => if u = v then some .disconnect else none
  | _ => none

/-- The calls of a run in order, and the endpoints they are made at. -/
def Link.calls (events : List (Side × LinkEvent w)) : List (Side × VcCall) :=
  events.filterMap fun e => e.2.call.map (Prod.mk e.1)

def Network.calls (v : Fin skyNumVirtualChannels) (events : List (Side × NetworkEvent w)) :
    List (Side × VcCall) :=
  events.filterMap fun e => (e.2.callOn v).map (Prod.mk e.1)

theorem Link.calls_append (events events' : List (Side × LinkEvent w)) :
    Link.calls (events ++ events') = Link.calls events ++ Link.calls events' :=
  List.filterMap_append

theorem Link.calls_singleton (side : Side) (e : LinkEvent w) :
    Link.calls [(side, e)] = (e.call.map (Prod.mk side)).toList := by
  cases e <;> rfl

/-- The channel is in the same session before and after. -/
structure SkyVirtualChannel.StaysOn (vc vc' : SkyVirtualChannel w) : Prop where
  before : vc.arqStateFlag = .on
  after : vc'.arqStateFlag = .on
  identifier : vc'.arqSessionIdentifier = vc.arqSessionIdentifier

/-- The link follows an event of the near station. -/
def LinkFollows (v : Fin skyNumVirtualChannels) (start net : Network w) (e : NetworkEvent w)
    (l : Link w) (p q : Nat) : Prop :=
  ∃ events, ChannelSim v start net (l.run events) p q ∧
    Link.calls events = ((e.callOn v).map (Prod.mk Side.left)).toList ∧
    (l.near.vc.StaysOn (l.run events).near.vc → l.RunMeets Link.StaysConnected events)

namespace ChannelSim

variable {v : Fin skyNumVirtualChannels} {start net : Network w} {l : Link w} {p q : Nat}

theorem swap (h : ChannelSim v start net l p q) :
    ChannelSim v start.swap net.swap l.swap q p :=
  ⟨h.far, h.near, h.inn, h.out, h.bounds.symm⟩

/-- The near station moves on without sending; the frames up to `q'` are over. -/
theorem setNear (h : ChannelSim v start net l p q) {s : Station w} {l' : Link w} {q' : Nat}
    (hnear : Endpoint.Continues (start.near.pushed v) (start.near.read v) (s.channel v) l'.near)
    (hsent : s.sent = net.near.sent) (hfar : l'.far = l.far) (hout : l'.out = l.out)
    (hinn : FramesOn w v (net.far.sent.drop q') l'.inn) (hq : q' ≤ net.far.sent.length) :
    ChannelSim v start { net with near := s } l' p q' := by
  refine ⟨hnear, ?_, ?_, hinn, ?_, hq⟩
  · rw [hfar]
    exact h.far
  · rw [hout, hsent]
    exact h.out
  · rw [hsent]
    exact h.bounds.1

/-- Nothing happens to the channel. -/
theorem unchanged (h : ChannelSim v start net l p q) {e : NetworkEvent w}
    (hcall : e.callOn v = none) {s : Station w}
    (hvc : s.node.virtualChannels v = net.near.node.virtualChannels v)
    (hpushed : s.pushed v = net.near.pushed v) (hread : s.read v = net.near.read v)
    (hsent : s.sent = net.near.sent) :
    LinkFollows v start { net with near := s } e l p q := by
  refine ⟨[], h.setNear ?_ hsent rfl rfl h.inn h.bounds.2, by rw [hcall]; rfl, fun _ => trivial⟩
  exact h.near.setVc (h.near.vc.trans hvc.symm) ⟨hpushed, hread⟩ ⟨rfl, rfl⟩

/-- The user of the near station calls a function of a channel. -/
theorem called (h : ChannelSim v start net l p q) {u : Fin skyNumVirtualChannels}
    {a : Endpoint w} {e : NetworkEvent w} {event : LinkEvent w}
    (hcall : e.callOn v = if u = v then event.call else none)
    (hnear : u = v →
      Endpoint.Continues (start.near.pushed v) (start.near.read v) a (l.step event).near)
    (hsame : (l.step event).far = l.far ∧ (l.step event).out = l.out ∧
      (l.step event).inn = l.inn)
    (hstays : l.near.vc.StaysOn (l.step event).near.vc → l.StaysConnected event) :
    LinkFollows v start { net with near := net.near.setChannel u a } e l p q := by
  by_cases hu : u = v
  case neg =>
    have hother := net.near.setChannel_of_ne (Ne.symm hu) a
    exact h.unchanged (hcall.trans (if_neg hu)) (congrArg Endpoint.vc hother)
      (congrArg Endpoint.pushed hother) (congrArg Endpoint.read hother) rfl
  subst hu
  rw [if_pos rfl] at hcall
  refine ⟨[(.left, event)], ?_, ?_, fun hon => ⟨hstays hon, trivial⟩⟩
  case refine_2 => rw [Link.calls_singleton, hcall]
  show ChannelSim u start _ (l.step event) p q
  have hinn : FramesOn w u (net.far.sent.drop q) (l.step event).inn := by
    rw [hsame.2.2]
    exact h.inn
  have hset : Endpoint.Continues (start.near.pushed u) (start.near.read u)
      ((net.near.setChannel u a).channel u) (l.step event).near := by
    apply (hnear rfl).setVc
    · exact (hnear rfl).vc.trans (Station.setChannel_vc _ _ _).symm
    · exact ⟨Station.setChannel_pushed _ _ _, Station.setChannel_read _ _ _⟩
    · exact ⟨rfl, rfl⟩
  exact h.setNear hset rfl hsame.1 hsame.2.1 hinn h.bounds.2

/-! ## The user -/

theorem push (h : ChannelSim v start net l p q) (u : Fin skyNumVirtualChannels)
    (payload : Bytes) :
    LinkFollows v start
      { net with near := net.near.setChannel u ((net.near.channel u).push payload) }
      (.push u payload) l p q := by
  apply @called _ _ _ _ _ _ _ h u _ (.push u payload) (.push payload) rfl
  · rintro rfl
    exact h.near.push payload
  · exact ⟨rfl, rfl, rfl⟩
  · exact fun _ => trivial

theorem readNext (h : ChannelSim v start net l p q) (u : Fin skyNumVirtualChannels)
    (maxLength : Nat) :
    LinkFollows v start
      { net with near := net.near.setChannel u ((net.near.channel u).readNext maxLength) }
      (.read u maxLength) l p q := by
  apply @called _ _ _ _ _ _ _ h u _ (.read u maxLength) (.read maxLength) rfl
  · rintro rfl
    exact h.near.readNext maxLength
  · exact ⟨rfl, rfl, rfl⟩
  · exact fun _ => trivial

theorem connect (h : ChannelSim v start net l p q) (u : Fin skyNumVirtualChannels)
    (tickTime : Int) :
    LinkFollows v start
      { net with near := net.near.setChannel u ((net.near.channel u).connect 0 tickTime) }
      (.connect u tickTime) l p q := by
  apply @called _ _ _ _ _ _ _ h u _ (.connect u tickTime) (.connect tickTime) rfl
  · rintro rfl
    exact h.near.setVc (congrArg (skyVcArqConnect tickTime) h.near.vc) ⟨rfl, rfl⟩ ⟨rfl, rfl⟩
  · exact ⟨rfl, rfl, rfl⟩
  · exact fun hon => nomatch hon.after

theorem disconnect (h : ChannelSim v start net l p q) (u : Fin skyNumVirtualChannels) :
    LinkFollows v start
      { net with near := net.near.setChannel u (net.near.channel u).disconnect }
      (.disconnect u) l p q := by
  apply @called _ _ _ _ _ _ _ h u _ (.disconnect u) .disconnect rfl
  · rintro rfl
    exact h.near.setVc (congrArg skyVcArqDisconnect h.near.vc) ⟨rfl, rfl⟩ ⟨rfl, rfl⟩
  · exact ⟨rfl, rfl, rfl⟩
  · exact fun hon => nomatch hon.after

/-! ## Transmission -/

end ChannelSim

/-- The timeouts of one channel; where they have no effect they are no event. -/
theorem Link.run_timeouts (l : Link w) (now timeout : Int) :
    ∃ (events : List (Side × LinkEvent w)) (e : Endpoint w),
      l.run events = { l with near := e } ∧ e.vc = skyVcCheckTimeouts l.near.vc now timeout ∧
      (e.pushed = l.near.pushed ∧ e.read = l.near.read) ∧ Link.calls events = [] ∧
      (e.vc.arqStateFlag = .on → l.RunMeets Link.StaysConnected events) := by
  rcases skyVcCheckTimeouts_eq l.near.vc now timeout with hsame | hwipe
  · exact ⟨[], l.near, rfl, hsame.symm, ⟨rfl, rfl⟩, rfl, fun _ => trivial⟩
  · refine ⟨[(.left, .checkTimeouts now timeout)], l.near.checkTimeouts now timeout, rfl, rfl,
      ⟨rfl, rfl⟩, rfl, fun hon => ?_⟩
    replace hon : (skyVcCheckTimeouts l.near.vc now timeout).arqStateFlag = .on := hon
    rw [hwipe] at hon
    cases hon

namespace ChannelSim

variable {v : Fin skyNumVirtualChannels} {start net : Network w} {l : Link w} {p q : Nat}

/-- The near station sends frames; `e` is its endpoint from now on. -/
theorem sendNear (h : ChannelSim v start net l p q) {s : Station w} {e : Endpoint w}
    {sent : List SkyTransmitFrame} {frames : List SkyRadioFrame}
    (hvc : e.vc = s.node.virtualChannels v)
    (hkeeps : s.pushed v = net.near.pushed v ∧ s.read v = net.near.read v)
    (hkeeps' : e.pushed = l.near.pushed ∧ e.read = l.near.read)
    (hsent : s.sent = net.near.sent ++ sent) (hframes : FramesOn w v sent frames) :
    ChannelSim v start { net with near := s } { l with near := e, out := l.out ++ frames } p q := by
  refine ⟨h.near.setVc hvc hkeeps hkeeps', h.far, ?_, h.inn, ?_, h.bounds.2⟩
  · show FramesOn w v (s.sent.drop p) (l.out ++ frames)
    rw [hsent, List.drop_append_of_le_length h.bounds.1]
    exact h.out.append hframes
  · show p ≤ s.sent.length
    rw [hsent, List.length_append]
    exact h.bounds.1.trans (Nat.le_add_right _ _)

theorem transmit (hw : ArqSequenceWidth w) (h : ChannelSim v start net l p q) (H : KeyedHash)
    (tick : Int) (hpos : 0 < net.near.node.conf.identityLen)
    (hid : net.near.node.conf.identityLen ≤ skyMaxIdentityLen)
    (hnode : net.near.node.RingsHold) :
    LinkFollows v start { net with near := Network.transmit H net.near tick } (.transmit tick)
      l p q := by
  have hvc : l.near.vc = net.near.node.virtualChannels v := h.near.vc
  obtain ⟨events, e, hrun, he, hkeeps, hno, hstays⟩ :=
    l.run_timeouts tick net.near.node.conf.arq.timeoutTicks
  rw [hvc] at he
  replace he : e.vc = net.near.node.checkedChannel tick v := he
  -- nothing is filled in for the channel
  have hskip {sent : List SkyTransmitFrame}
      (hsame : (skyTx H tick net.near.node).1.virtualChannels v =
        net.near.node.checkedChannel tick v)
      (hsent : (skyTx H tick net.near.node).2.1.toList = sent) (hframes : FramesOn w v sent []) :
      LinkFollows v start { net with near := Network.transmit H net.near tick } (.transmit tick)
        l p q := by
    refine ⟨events, ?_, hno, fun hon => hstays ?_⟩
    · have hsim := h.sendNear (s := Network.transmit H net.near tick) (he.trans hsame.symm)
        ⟨rfl, rfl⟩ hkeeps (congrArg _ hsent) hframes
      rwa [List.append_nil, ← hrun] at hsim
    · have hafter := hon.after
      rwa [hrun] at hafter
  -- a frame is filled in, and sent unless that fails
  have hserve {first : FrameStart w} {frames : UInt16} {vc : SkyVirtualChannel w}
      {tx : SkyTransmitFrame} {ret : SkyRet} (hv : first.channel = v)
      (hfill : skyVcFillFrame (net.near.node.checkedChannel tick first.channel)
        net.near.node.conf first.tx tick frames = (vc, tx, ret))
      (hstate : vc.arqStateFlag =
        (net.near.node.checkedChannel tick first.channel).arqStateFlag)
      (hupdate : (skyTx H tick net.near.node).1.virtualChannels =
        Function.update (net.near.node.checkedChannel tick) first.channel vc)
      (hframes : FramesOn w v (skyTx H tick net.near.node).2.1.toList
        (if ret < 0 then [] else [tx.frame])) :
      LinkFollows v start { net with near := Network.transmit H net.near tick } (.transmit tick)
        l p q := by
    rw [hv, ← he] at hfill hstate
    let last : List (Side × LinkEvent w) :=
      [(.left, .fill first net.near.node.conf tick frames)]
    have hconnected : (l.run events).RunMeets Link.StaysConnected last := ⟨trivial, trivial⟩
    have hstep : l.run (events ++ last) =
        { l with
          near := { e with vc := vc }
          out := l.out ++ if ret < 0 then [] else [tx.frame] } := by
      have hone : ({ l with near := e } : Link w).step
          (.fill first net.near.node.conf tick frames) = _ := fill_eq hfill
      rw [Link.run_append, hrun]
      refine hone.trans ?_
      split_ifs
      · rw [List.append_nil]
      · rfl
    refine ⟨events ++ last, ?_, ?_, fun hon => Link.runMeets_append (hstays ?_) hconnected⟩
    case refine_2 =>
      rw [Link.calls_append, hno]
      rfl
    · rw [hstep]
      refine h.sendNear (s := Network.transmit H net.near tick) ?_ ⟨rfl, rfl⟩ hkeeps rfl hframes
      show vc = (skyTx H tick net.near.node).1.virtualChannels v
      rw [hupdate, hv, Function.update_self]
    · have hafter := hon.after
      rw [hstep] at hafter
      exact hstate.symm.trans hafter
  cases skyTx_outcome hw H tick hpos hid hnode with
  | silent hupdate hsent =>
      exact hskip (congrFun hupdate v) (congrArg Option.toList hsent) .nil
  | failed first frames vc tx ret hfill hret hstate hupdate hsent =>
      by_cases hv : first.channel = v
      · apply hserve hv hfill hstate hupdate
        rw [hsent, if_pos hret]
        exact .nil
      · refine hskip ?_ (congrArg Option.toList hsent) .nil
        rw [hupdate, Function.update_of_ne (Ne.symm hv)]
  | filled first frames vc tx ret c sent hfill hret hstate hcarries hupdate _ hsent hconveys =>
      by_cases hv : first.channel = v
      · apply hserve hv hfill hstate hupdate
        rw [hsent, if_neg hret]
        rw [hv] at hcarries hconveys
        exact .own hcarries hconveys .nil
      · refine hskip ?_ (congrArg Option.toList hsent) (.other ?_ .nil)
        · rw [hupdate, Function.update_of_ne (Ne.symm hv)]
        · rw [hconveys.channel]
          exact hv

end ChannelSim

/-! ## Reception -/

/-- The frames that the near endpoint does not receive. -/
def Link.losses (n : Nat) : List (Side × LinkEvent w) := List.replicate n (.right, .lose 0)

theorem Link.run_losses (l : Link w) (n : Nat) :
    l.run (Link.losses n) = { l with inn := l.inn.drop n } := by
  induction n generalizing l with
  | zero => rfl
  | succ n ih =>
      have hstep : l.stepAt (.right, .lose 0) = { l with inn := l.inn.tail } := by
        show Link.mk l.near l.far l.out (l.inn.eraseIdx 0) l.swap.swap.sessions = _
        rw [l.swap_swap, List.eraseIdx_zero]
      have hrun : l.run (Link.losses (n + 1)) =
          (l.stepAt (.right, .lose 0)).run (Link.losses n) := rfl
      rw [hrun, hstep, ih]
      simp only [List.drop_tail]

theorem Link.runMeets_losses {condition : Link w → LinkEvent w → Prop}
    (hlose : ∀ l i, condition l (.lose i)) (l : Link w) (n : Nat) :
    l.RunMeets condition (Link.losses n) := by
  induction n generalizing l with
  | zero => trivial
  | succ n ih => exact ⟨hlose _ _, ih _⟩

theorem Link.calls_losses (n : Nat) : Link.calls (Link.losses (w := w) n) = [] :=
  List.filterMap_replicate_of_none rfl

/-- Nothing is accepted for sending or handed over while a frame is processed. -/
theorem Endpoint.process_histories (e : Endpoint w) (sessions : List UInt32)
    (tickTime now : Int) (frame : SkyRadioFrame) :
    (e.process sessions tickTime now frame).pushed = e.pushed ∧
      (e.process sessions tickTime now frame).read = e.read := by
  rw [process]
  split
  · exact ⟨rfl, rfl⟩
  · rw [record]
    split <;> exact ⟨rfl, rfl⟩

/-- A channel that is still in its session has met no handshake of another one. -/
theorem SkyVirtualChannel.StaysOn.handshakeIdentifier {vc : SkyVirtualChannel w}
    {parsed : SkyParsedFrame} {tickTime now : Int}
    (h : vc.StaysOn (skyVcProcessFrame tickTime vc parsed now).1) :
    ∀ identifier ∈ parsed.handshakeIdentifier, identifier = vc.arqSessionIdentifier := by
  intro identifier hmem
  by_contra hne
  obtain ⟨ext, hext, hval⟩ := Option.map_eq_some_iff.mp hmem
  have hid := h.identifier
  rw [skyVcProcessFrame_fst, (processContents_control _ parsed now).arqSessionIdentifier,
    processHandshake, hext] at hid
  dsimp only at hid
  rw [hval, skyVcHandleHandshake, h.before] at hid
  dsimp only at hid
  rw [if_neg hne] at hid
  exact hne hid

namespace ChannelSim

variable {v : Fin skyNumVirtualChannels} {start net : Network w} {l : Link w} {p q : Nat}

/-- The near station accepts a frame of the channel that is still to come. -/
theorem hear (hw : ArqSequenceWidth w) (h : ChannelSim v start net l p q) {H : KeyedHash}
    {tick : Int} {frame : SkyRadioFrame} {i : Nat} {tx : SkyTransmitFrame}
    (htx : net.far.sent[i]? = some tx) (hsame : tx.frame.SameFrame frame) (hle : q ≤ i)
    (hchannel : tx.frame.header.channel = v)
    (haccepts : net.near.node.accepts H (tx.receivedAt frame.rxTimeTicks) = true)
    {e : NetworkEvent w} (hcall : e.callOn v = none) {s : Station w}
    (hnode : s.node = (skyRx H tick net.near.node frame).1)
    (hkeeps : s.pushed v = net.near.pushed v ∧ s.read v = net.near.read v)
    (hsent : s.sent = net.near.sent) :
    LinkFollows v start { net with near := s } e l p (i + 1) := by
  obtain ⟨h8, hw56, -⟩ := hw.bounds
  obtain ⟨lost, rest, filled, hinn, hrest, identity, others, c, hcarries, hconveys⟩ :=
    h.inn.locate htx hle hchannel
  obtain ⟨parsed, hparse, hreads⟩ := hcarries.parse hw56 h8
  let reached : Link w := { l with inn := filled.frame :: rest }
  have hlosses : l.run (Link.losses lost.length) = reached := by
    rw [Link.run_losses, hinn, List.drop_left' rfl]
  let last : List (Side × LinkEvent w) := [(.left, .process tick tick)]
  have hrun : l.run (Link.losses lost.length ++ last) =
      { l with near := l.near.process l.sessions tick tick filled.frame, inn := rest } := by
    have hhead : reached.inn = filled.frame :: rest := rfl
    rw [Link.run_append, hlosses]
    exact Link.step_process hhead tick tick
  have hprocess := l.near.process_vc l.sessions tick tick hparse
  have hvc : (l.near.process l.sessions tick tick filled.frame).vc =
      s.node.virtualChannels v := by
    rw [hprocess, hnode, hconveys.skyRx tick hsame haccepts hreads, Function.update_self,
      h.near.vc]
    rfl
  have hlt := (List.getElem?_eq_some_iff.mp htx).1
  refine ⟨Link.losses lost.length ++ last, ?_, ?_, fun hon => ?_⟩
  · rw [hrun]
    exact h.setNear (h.near.setVc hvc hkeeps (l.near.process_histories _ _ _ _)) hsent rfl rfl
      hrest hlt
  · rw [Link.calls_append, Link.calls_losses, hcall]
    rfl
  · refine Link.runMeets_append (Link.runMeets_losses (fun _ _ => trivial) _ _) ?_
    rw [hrun, hprocess] at hon
    rw [hlosses]
    refine ⟨?_, trivial⟩
    have hhead : reached.inn = filled.frame :: rest := rfl
    intro parsed' hincoming
    replace hincoming : parsed' ∈ reached.incoming := hincoming
    rw [Link.incoming_eq hhead hparse, Option.mem_some_iff] at hincoming
    subst hincoming
    exact hon.handshakeIdentifier

end ChannelSim

end Skylink
