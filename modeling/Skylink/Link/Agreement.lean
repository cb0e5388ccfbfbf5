import Skylink.Link.Handshake

/-!
# Agreement on the session

The link stands for a net as far as sessions go, whatever becomes of the payloads. Two
connected endpoints are in the same session when sessions are new to those who enter
them, and have the same identifier for it where the swap of its bytes does not show.
-/

namespace Skylink

open SessionWindow

variable {w : Nat}

/-! ## The protocol without the payloads -/

structure PeerSim (e : Endpoint w) (m : Node) (name : Nat → UInt32) : Prop where
  rep : ∃ v, VcRep e.vc v
  mode : ModeSim e.vc name m.stamp.mode
  newest : m.stamp.newest = e.newest

/-- The link stands for a net as far as sessions go. -/
structure HandshakeSim (l : Link w) (n : Net) (names : Naming) : Prop where
  near : PeerSim l.near n.near names.near
  far : PeerSim l.far n.far names.far
  out : List.Forall₂ (fun frame f => FrameSays w frame (f.handshake.map names.near)) l.out n.out
  inn : List.Forall₂ (fun frame f => FrameSays w frame (f.handshake.map names.far)) l.inn n.inn

namespace HandshakeSim

variable {l : Link w} {n : Net} {names : Naming} {stale : Prop}

theorem swap (h : HandshakeSim l n names) : HandshakeSim l.swap n.swap names.swap :=
  ⟨h.far, h.near, h.inn, h.out⟩

theorem setNear (h : HandshakeSim l n names) {e : Endpoint w} {m : Node}
    (hnear : PeerSim e m names.near) :
    HandshakeSim { l with near := e } { n with near := m } names :=
  ⟨hnear, h.far, h.out, h.inn⟩

theorem incoming_handshake (h : HandshakeSim l n names) (h8 : 8 ∣ w) (hw : w ≤ 56) :
    ∀ f ∈ n.inn.head?, ∀ z, f.handshake = some z →
      ∃ parsed ∈ l.incoming, parsed.handshakeIdentifier = some (skyHton32 (names.far z)) := by
  intro f hf z hz
  obtain ⟨rest, hn⟩ := inn_head hf
  have hinn := h.inn
  rw [hn] at hinn
  obtain ⟨frame, frames, hframe, -, hl⟩ := List.forall₂_cons_right_iff.mp hinn
  obtain ⟨parsed, c, hparse, -, -, hid, -⟩ := hframe.parse h8 hw
  refine ⟨parsed, Link.incoming_eq hl hparse, ?_⟩
  rw [hid, hz, Option.map_some, Option.map_some]

theorem fill (h : HandshakeSim l n names) (hw : w ≤ 56) (first : FrameStart w)
    (config : SkyConfig) (now : Int) (frames : UInt16) :
    ∃ n', Reaches stale n n' ∧ HandshakeSim (l.step (.fill first config now frames)) n' names ∧
      n'.created = n.created := by
  obtain ⟨v, hrep⟩ := h.near.rep
  obtain ⟨vc', tx', ret, i, v', heq, hsays, hrep', hstate, hid, hi⟩ :=
    hrep.fill_says hw first config now frames
  have hnear : PeerSim { l.near with vc := vc' } n.near names.near :=
    ⟨⟨v', hrep'⟩, h.near.mode.congr hstate hid, h.near.newest⟩
  rw [fill_eq heq]
  by_cases hret : ret < 0
  · rw [if_pos hret]
    exact ⟨n, .refl n, h.setNear hnear, rfl⟩
  · rw [if_neg hret]
    obtain ⟨hs, hsession, hname⟩ : ∃ hs : Option Nat,
        (∀ z, hs = some z → n.near.stamp.mode.session = some z) ∧
          i = hs.map names.near := by
      cases i with
      | none => exact ⟨none, nofun, rfl⟩
      | some x =>
          obtain ⟨hoff, rfl⟩ := hi x rfl
          have hmode := h.near.mode
          cases hm : n.near.stamp.mode with
          | off =>
              rw [hm] at hmode
              exact absurd hmode hoff
          | opening z =>
              rw [hm] at hmode
              exact ⟨some z, fun y hy => hy, by rw [Option.map_some, hmode.2]⟩
          | on z =>
              rw [hm] at hmode
              exact ⟨some z, fun y hy => hy, by rw [Option.map_some, hmode.2]⟩
    have hsend : Sendable n.near ⟨n.near.stamp, hs, none, none⟩ := ⟨rfl, hsession, nofun, nofun⟩
    refine ⟨_, .near (.refl n) (.send n _ hsend), ⟨hnear, h.far, ?_, h.inn⟩, rfl⟩
    exact List.rel_append h.out (.cons (by rw [← hname]; exact hsays) .nil)

theorem process (h : HandshakeSim l n names) (h8 : 8 ∣ w) (hw : w ≤ 56) (tickTime now : Int)
    (hunder : ∀ f ∈ n.inn.head?, Understood l n names f) :
    ∃ n', Reaches stale n n' ∧ HandshakeSim (l.step (.process tickTime now)) n' names ∧
      n'.created = n.created := by
  obtain ⟨v, hrep⟩ := h.near.rep
  have hinn := h.inn
  rw [Link.step]
  cases hl : l.inn with
  | nil => exact ⟨n, .refl n, h, rfl⟩
  | cons frame frames =>
      rw [hl] at hinn
      obtain ⟨f, rest, hframe, hrest, hn⟩ := List.forall₂_cons_left_iff.mp hinn
      have hhead : f ∈ n.inn.head? := by rw [hn, List.head?_cons, Option.mem_def]
      obtain ⟨vc', v', heq, hrep', hnone, hsome⟩ :=
        Endpoint.process_says hrep hframe h8 hw l.sessions tickTime now
      dsimp only
      rw [heq]
      -- the handshake is a step of the net, and then the frame is done with
      suffices hmet : ∃ m, Reaches stale n { n with near := m } ∧
          PeerSim (l.near.record l.sessions ((f.handshake.map names.far).map skyHton32) vc') m
            names.near by
        obtain ⟨m, hreach, hpeer⟩ := hmet
        exact ⟨_, hreach.trans (reaches_dropFrame (n := { n with near := m }) hn),
          ⟨hpeer, h.far, h.out, hrest⟩, rfl⟩
      cases hz : f.handshake with
      | none =>
          obtain ⟨hstate, hid⟩ := hnone (by rw [hz]; rfl)
          exact ⟨n.near, .refl n, ⟨v', hrep'⟩, h.near.mode.congr hstate hid, h.near.newest⟩
      | some z =>
          have hread := (hunder f hhead).read z hz
          have hshakes := hsome (names.far z) (by rw [hz]; rfl)
          rw [Option.map_some, Option.map_some, hread]
          rw [hread] at hshakes
          cases hshakes with
          | kept hoff hstays hother hstate hid =>
              rw [Endpoint.record, Option.filter_some_neg (by simpa using hstays)]
              exact ⟨n.near, .refl n, ⟨v', hrep'⟩, h.near.mode.congr hstate hid, h.near.newest⟩
          | joined hinit hown hstays hstate hid =>
              obtain ⟨y, hmode, hy⟩ := h.near.mode.eq_opening hinit
              obtain rfl : z = y := (hunder f hhead).injective z y hz
                (by rw [hmode, Mode.session_opening]) (hown.trans hy)
              rw [Endpoint.record, Option.filter_some_neg (by simpa using hstays)]
              exact ⟨_, .near (.refl n) (.join n f z hhead hz hmode), ⟨v', hrep'⟩,
                ⟨hstate, hid.trans hy⟩, h.near.newest⟩
          | entered henters hstate hid =>
              obtain ⟨hnew, hnumber⟩ := (hunder f hhead).fresh z hz henters
              rw [Endpoint.record, Option.filter_some_pos henters]
              exact ⟨_, .near (.refl n) (.enter n f z hhead hz hnew), ⟨v', hrep'⟩, ⟨hstate, hid⟩,
                hnumber.symm⟩

theorem step (h : HandshakeSim l n names) (h8 : 8 ∣ w) (hw : w ≤ 56)
    (hnumber : l.sessions.length = n.created) {e : LinkEvent w}
    (hprocess : ∀ tickTime now, e = .process tickTime now →
      ∀ f ∈ n.inn.head?, Understood l n names f)
    (hconnect : ∀ tickTime, e = .connect tickTime →
      names.near (n.created + 1) = UInt32.ofInt tickTime) :
    ∃ n', Reaches stale n n' ∧ HandshakeSim (l.step e) n' names ∧
      (l.step e).sessions.length = n'.created := by
  obtain ⟨v, hrep⟩ := h.near.rep
  rw [Link.sessions_step]
  cases e with
  | push payload =>
      refine ⟨n, .refl n, ?_, hnumber⟩
      rw [Link.step, Endpoint.push]
      obtain ⟨ret, heq⟩ | ⟨vc', heq, hrep', hcontrol, -⟩ := hrep.push payload
      · rw [heq]
        exact h
      · rw [heq]
        exact h.setNear ⟨⟨_, hrep'⟩, h.near.mode.congr hcontrol.1 hcontrol.3, h.near.newest⟩
  | read maxLength =>
      refine ⟨n, .refl n, ?_, hnumber⟩
      rw [Link.step, Endpoint.readNext]
      obtain ⟨ret, heq⟩ | ⟨vc', p, k, heq, -, -, hrep', hcontrol, -⟩ := hrep.read maxLength
      · rw [heq]
        exact h
      · rw [heq]
        exact h.setNear ⟨⟨_, hrep'⟩, h.near.mode.congr hcontrol.1 hcontrol.3, h.near.newest⟩
  | fill first config now frames =>
      obtain ⟨n', hreach, hsim, hcreated⟩ := h.fill hw first config now frames
      exact ⟨n', hreach, hsim, hnumber.trans hcreated.symm⟩
  | process tickTime now =>
      obtain ⟨n', hreach, hsim, hcreated⟩ :=
        h.process h8 hw tickTime now (hprocess tickTime now rfl)
      exact ⟨n', hreach, hsim, hnumber.trans hcreated.symm⟩
  | connect tickTime =>
      have hpeer : PeerSim (l.near.connect (l.sessions.length + 1) tickTime)
          (n.near.restart (.opening (n.created + 1)) (n.created + 1)) names.near :=
        ⟨⟨_, (hrep.wipeToInit tickTime).1⟩, ⟨rfl, (hconnect tickTime rfl).symm⟩,
          congrArg (· + 1) hnumber.symm⟩
      refine ⟨_, .near (.refl n) (.connect n), ⟨hpeer, h.far, h.out, h.inn⟩, ?_⟩
      rw [List.length_append, List.length_singleton, hnumber]
  | disconnect =>
      exact ⟨_, .near (.refl n) (.disconnect n),
        h.setNear ⟨⟨_, hrep.wipeToOff.1⟩, rfl, h.near.newest⟩, hnumber⟩
  | checkTimeouts now timeout =>
      have hvc : (l.near.checkTimeouts now timeout).vc =
          skyVcCheckTimeouts l.near.vc now timeout := rfl
      rcases skyVcCheckTimeouts_eq l.near.vc now timeout with hsame | hwipe
      · rw [hsame] at hvc
        refine ⟨n, .refl n, h.setNear (m := n.near) ⟨⟨v, ?_⟩, ?_, h.near.newest⟩, hnumber⟩
        · rw [hvc]
          exact hrep
        · rw [hvc]
          exact h.near.mode
      · rw [hwipe] at hvc
        refine ⟨_, .near (.refl n) (.disconnect n), h.setNear ⟨⟨.empty, ?_⟩, ?_, h.near.newest⟩,
          hnumber⟩
        · rw [hvc]
          exact hrep.wipeToOff.1
        · rw [hvc]
          rfl
  | lose i =>
      exact ⟨_, .near (.refl n) (.lose n (n.out.eraseIdx i) n.inn (List.eraseIdx_sublist _ _)
        (List.Sublist.refl _)), ⟨h.near, h.far, forall₂_eraseIdx h.out i, h.inn⟩, hnumber⟩

end HandshakeSim

/-! ## Identifiers that read the same on both sides -/

/-- Connects use identifiers that read the same in both byte orders. -/
def LinkEvent.SelfSwapped : LinkEvent w → Prop
  | .connect tickTime => skyHton32 (UInt32.ofInt tickTime) = UInt32.ofInt tickTime
  | _ => True

instance : (e : LinkEvent w) → Decidable e.SelfSwapped
  | .connect tickTime =>
      inferInstanceAs (Decidable (skyHton32 (UInt32.ofInt tickTime) = UInt32.ofInt tickTime))
  | .push _ | .read _ | .fill _ _ _ _ | .process _ _ | .disconnect | .checkTimeouts _ _
  | .lose _ => .isTrue trivial

theorem Link.run_selfSwapped {l : Link w} (h : ∀ id ∈ l.sessions, skyHton32 id = id)
    {events : List (Side × LinkEvent w)} (hmeets : l.RunMeets (fun _ e => e.SelfSwapped) events) :
    ∀ id ∈ (l.run events).sessions, skyHton32 id = id := by
  refine @Link.run_induction w (fun _ e => e.SelfSwapped)
    (fun _ l => ∀ id ∈ l.sessions, skyHton32 id = id)
    (fun _ l hl id hid => ?_) (fun _ l e hl he id hid => ?_) l l h events hmeets
  · obtain ⟨own, hown, rfl⟩ := List.mem_map.mp hid
    rw [hl own hown, hl own hown]
  · rw [Link.sessions_step] at hid
    cases e with
    | connect tickTime =>
        rcases List.mem_append.mp hid with hold | hnew
        · exact hl id hold
        · rw [List.mem_singleton.mp hnew]
          exact he
    | _ => exact hl id hid

/-- The link stands for a net that was reached from idle endpoints, as far as sessions
go. -/
structure SessionsFollow (l : Link w) (ids : List UInt32) (n : Net) : Prop
    extends Numbered l ids n where
  reach : Reaches True (.idle 1 1) n
  sim : HandshakeSim l n (.ofSessions ids)

namespace SessionsFollow

variable {l : Link w} {ids : List UInt32} {n : Net}

theorem inv (h : SessionsFollow l ids n) : Inv n :=
  (inv_idle Nat.one_pos Nat.one_pos).reaches h.reach

theorem swap (h : SessionsFollow l (ids.map skyHton32) n) : SessionsFollow l.swap ids n.swap := by
  refine ⟨h.toNumbered.swap, h.reach.swap, ?_⟩
  rw [← Naming.ofSessions_swap]
  exact h.sim.swap

theorem step (h : SessionsFollow l ids n) (h8 : 8 ∣ w) (hw : w ≤ 56) {e : LinkEvent w}
    (hnew : l.NewSessions e) (hids : (l.step e).sessions <+: ids) :
    ∃ n', SessionsFollow (l.step e) ids n' := by
  have hmet : ∀ tickTime now, e = .process tickTime now →
      ∀ f ∈ n.inn.head?, Understood l n (.ofSessions ids) f := by
    rintro tickTime now rfl
    exact hnew.understood h.inv h.toNumbered h.sim.near.newest (h.sim.incoming_handshake h8 hw)
  have hconnect : ∀ tickTime, e = .connect tickTime →
      (Naming.ofSessions ids).near (n.created + 1) = UInt32.ofInt tickTime := by
    rintro tickTime rfl
    exact h.connect_name hids
  obtain ⟨n', hreach, hsim, hnumber⟩ : ∃ n', Reaches True n n' ∧
      HandshakeSim (l.step e) n' (.ofSessions ids) ∧
      (l.step e).sessions.length = n'.created := h.sim.step h8 hw h.number hmet hconnect
  exact ⟨n', h.toNumbered.step hnew hids hnumber, h.reach.trans hreach, hsim⟩

/-- In a common session the far endpoint knows the session by the swapped identifier. -/
theorem identifiers (h : SessionsFollow l ids n) (hnear : l.near.vc.arqStateFlag = .on)
    (hfar : l.far.vc.arqStateFlag = .on) :
    l.near.vc.arqSessionIdentifier ∈ l.sessions ∧
      l.far.vc.arqSessionIdentifier = skyHton32 l.near.vc.arqSessionIdentifier := by
  obtain ⟨y, hmode, hid⟩ := h.sim.near.mode.eq_on hnear
  obtain ⟨z, hmode', hid'⟩ := h.sim.far.mode.eq_on hfar
  obtain ⟨rfl, -⟩ := h.inv.window hmode hmode'
  have hsession : n.near.stamp.mode.session = some y := by rw [hmode, Mode.session_on]
  have hwell := h.inv.out.sender.wellFormed
  have hle : y ≤ l.sessions.length := by
    rw [h.number, ← hwell.session y hsession]
    exact h.inv.out.sender.newest_le
  have hname := Naming.near_ofSessions h.begins (hwell.positive y hsession) hle
  rw [hid, hid']
  exact ⟨List.mem_of_getElem? hname, rfl⟩

end SessionsFollow

theorem Link.run_sessionsFollow (hw : ArqSequenceWidth w) {a b : SkyVirtualChannel w}
    (ha : ∃ v, VcRep a v) (hb : ∃ v, VcRep b v)
    (hoff : a.arqStateFlag = .off ∧ b.arqStateFlag = .off) {events : List (Side × LinkEvent w)}
    (hmeets : (idle a b).RunMeets Link.NewSessions events) :
    ∃ ids n, SessionsFollow ((idle a b).run events) ids n := by
  obtain ⟨h8, hw56, -⟩ := hw.bounds
  refine ⟨_, @Link.run_sessions_induction w Link.NewSessions
    (fun _ l ids => ∃ n, SessionsFollow l ids n)
    (fun _ l ids h => ?_) (fun _ l e ids h hnew hids => ?_) (idle a b) (idle a b)
    (fun ids hids => ?_) events hmeets⟩
  · obtain ⟨n, hn⟩ := h
    exact ⟨n.swap, hn.swap⟩
  · obtain ⟨n, hn⟩ := h
    exact hn.step h8 hw56 hnew hids
  · exact ⟨.idle 1 1, ⟨rfl, hids, List.nodup_nil⟩, .refl _,
      ⟨⟨ha, hoff.1, rfl⟩, ⟨hb, hoff.2, rfl⟩, .nil, .nil⟩⟩

/-- Two connected endpoints have the same identifier, as long as the byte order of
identifiers does not matter and sessions are new to those who enter them. -/
theorem sessionIdentifier_agrees (hw : ArqSequenceWidth w)
    {config config' conf conf' : SkyVCConfig} {a b : SkyVirtualChannel w}
    (ha : skyVcCreate config = some (conf, a)) (hb : skyVcCreate config' = some (conf', b))
    {events : List (Side × LinkEvent w)}
    (hmeets : (Link.idle a b).RunMeets (fun l e => l.NewSessions e ∧ e.SelfSwapped) events)
    (hnear : ((Link.idle a b).run events).near.vc.arqStateFlag = .on)
    (hfar : ((Link.idle a b).run events).far.vc.arqStateFlag = .on) :
    ((Link.idle a b).run events).near.vc.arqSessionIdentifier =
      ((Link.idle a b).run events).far.vc.arqSessionIdentifier := by
  obtain ⟨-, ha', hoff, -⟩ := skyVcCreate_rep hw.bounds.2.2 ha
  obtain ⟨-, hb', hoff', -⟩ := skyVcCreate_rep hw.bounds.2.2 hb
  obtain ⟨ids, n, h⟩ := Link.run_sessionsFollow hw ⟨_, ha'⟩ ⟨_, hb'⟩ ⟨hoff, hoff'⟩
    (hmeets.imp fun l e he => he.1)
  obtain ⟨hmem, hswapped⟩ := h.identifiers hnear hfar
  have hself := Link.run_selfSwapped (l := Link.idle a b) nofun (hmeets.imp fun l e he => he.2)
  rw [hswapped, hself _ hmem]

theorem sessionIdentifier_agrees_example :
    ((Link.idle exampleChannel exampleChannel).run exampleSession).near.vc.arqSessionIdentifier =
      ((Link.idle exampleChannel exampleChannel).run
        exampleSession).far.vc.arqSessionIdentifier := by
  obtain ⟨conf, hconf⟩ := exampleChannel_eq
  exact sessionIdentifier_agrees (.inl rfl) hconf hconf (by decide +kernel) (by decide +kernel)
    (by decide +kernel)

/-- Both endpoints are connected and no handshake is due or on its way, but they have
different identifiers. -/
def Link.Disagrees (l : Link w) : Prop :=
  (l.near.vc.arqStateFlag = .on ∧ l.far.vc.arqStateFlag = .on) ∧ l.HandshakesSettled ∧
    l.near.vc.arqSessionIdentifier ≠ l.far.vc.arqSessionIdentifier

instance (l : Link w) : Decidable l.Disagrees :=
  inferInstanceAs (Decidable ((l.near.vc.arqStateFlag = .on ∧ l.far.vc.arqStateFlag = .on) ∧
    l.HandshakesSettled ∧ l.near.vc.arqSessionIdentifier ≠ l.far.vc.arqSessionIdentifier))

/-- One connect, answered once: the identifier 1 is read as 0x01000000. -/
def swappedSession : List (Side × LinkEvent 8) :=
  [(.left, .connect 1), (.left, .send 10), (.right, .process 11 11), (.right, .send 12),
    (.left, .process 13 13)]

/-- The right endpoint connects while a second handshake of the left one is on its way,
and goes back to that session when the left endpoint follows it. Both answers are lost. -/
def crossedSessions : List (Side × LinkEvent 8) :=
  [(.left, .connect 0x02020202), (.left, .send 10), (.left, .send 11), (.right, .process 12 12),
    (.right, .send 13), (.left, .process 14 14), (.right, .connect 0x01010101),
    (.right, .send 15), (.right, .process 16 16), (.left, .process 17 17), (.right, .send 18),
    (.right, .lose 0), (.left, .send 19), (.left, .lose 0)]

theorem not_sessionIdentifier_agrees :
    ((Link.idle exampleChannel exampleChannel).run swappedSession).Disagrees ∧
      ((Link.idle exampleChannel exampleChannel).run crossedSessions).Disagrees := by
  decide +kernel

end Skylink
