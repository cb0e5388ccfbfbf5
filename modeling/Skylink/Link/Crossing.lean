import Skylink.Link.Handshake

/-!
# Crossed connects

Both endpoints offer a session before they meet the offer of the other. Which of them
gives way is decided on both sides, each time with the identifier of the peer swapped;
the exchange settles only where the two comparisons come out opposite.
-/

namespace Skylink

variable {w : Nat}

/-! ## Exchanges -/

/-- Nobody connects, disconnects or times out, and no frame is lost. -/
def LinkEvent.Exchange : LinkEvent w → Prop
  | .connect _ | .disconnect | .checkTimeouts _ _ | .lose _ => False
  | _ => True

/-- The near endpoint processes a handshake. -/
def Link.AtHandshake (l : Link w) : LinkEvent w → Prop
  | .process _ _ => ∃ parsed ∈ l.incoming, parsed.handshakeIdentifier.isSome
  | _ => False

/-- An endpoint processes a handshake in the course of a run. -/
def Link.MeetsHandshake (side : Side) : Link w → List (Side × LinkEvent w) → Prop
  | _, [] => False
  | l, e :: events =>
      (e.1 = side ∧ (e.1.view l).AtHandshake e.2) ∨ MeetsHandshake side (l.stepAt e) events

/-- At most one endpoint abandons its session, and only once; once both endpoints have
processed a handshake of the other, one has. -/
def Link.CrossingSettles (l : Link w) : Prop :=
  ∀ events : List (Side × LinkEvent w), (∀ e ∈ events, e.2.Exchange) →
    (l.run events).near.wipes + (l.run events).far.wipes ≤ 1 ∧
      (l.MeetsHandshake .left events → l.MeetsHandshake .right events →
        (l.run events).near.wipes + (l.run events).far.wipes = 1)

/-- A frame that names one session, or none. -/
def FrameNames (w : Nat) (frame : SkyRadioFrame) (identifier : UInt32) : Prop :=
  ∃ i, FrameSays w frame i ∧ ∀ x, i = some x → x = identifier

/-- The near endpoint offers `a` and gives way to the far one, which offers `b`. The far
endpoint meets the frames for `a` first and joins with a frame for its own session. -/
structure GivesWay (a b : UInt32) (l : Link w) : Prop where
  nearRep : ∃ v, VcRep l.near.vc v
  farRep : ∃ v, VcRep l.far.vc v
  near : (l.near.vc.arqStateFlag = .inInit ∧ l.near.vc.arqSessionIdentifier = a ∧
      l.near.wipes = 0) ∨
    (l.near.vc.arqStateFlag = .on ∧ l.near.vc.arqSessionIdentifier = skyHton32 b ∧
      l.near.wipes = 1)
  far : (l.far.vc.arqStateFlag = .inInit ∨
      l.far.vc.arqStateFlag = .on ∧ l.near.vc.arqStateFlag = .on) ∧
    l.far.vc.arqSessionIdentifier = b ∧ l.far.wipes = 0
  inn : ∀ frame ∈ l.inn, FrameNames w frame b
  out : ∃ old new, l.out = old ++ new ∧ (∀ frame ∈ old, FrameNames w frame a) ∧
    (∀ frame ∈ new, FrameNames w frame (skyHton32 b)) ∧
    (l.near.vc.arqStateFlag = .inInit → new = []) ∧ (l.far.vc.arqStateFlag = .on → old = [])

/-- What pushing, reading and filling leave as it is. -/
structure SameSession (e e' : Endpoint w) : Prop where
  rep : ∃ v, VcRep e'.vc v
  state : e'.vc.arqStateFlag = e.vc.arqStateFlag
  identifier : e'.vc.arqSessionIdentifier = e.vc.arqSessionIdentifier
  wipes : e'.wipes = e.wipes

theorem SameSession.push {e : Endpoint w} (h : ∃ v, VcRep e.vc v) (payload : Bytes) :
    SameSession e (e.push payload) := by
  obtain ⟨v, hrep⟩ := h
  rw [Endpoint.push]
  obtain ⟨ret, heq⟩ | ⟨vc', heq, hrep', hcontrol, -⟩ := hrep.push payload
  · rw [heq]
    exact ⟨⟨v, hrep⟩, rfl, rfl, rfl⟩
  · rw [heq]
    exact ⟨⟨_, hrep'⟩, hcontrol.1, hcontrol.3, rfl⟩

theorem SameSession.read {e : Endpoint w} (h : ∃ v, VcRep e.vc v) (maxLength : Nat) :
    SameSession e (e.readNext maxLength) := by
  obtain ⟨v, hrep⟩ := h
  rw [Endpoint.readNext]
  obtain ⟨ret, heq⟩ | ⟨vc', p, k, heq, -, -, hrep', hcontrol, -⟩ := hrep.read maxLength
  · rw [heq]
    exact ⟨⟨v, hrep⟩, rfl, rfl, rfl⟩
  · rw [heq]
    exact ⟨⟨_, hrep'⟩, hcontrol.1, hcontrol.3, rfl⟩

/-- A frame that names a session which the endpoint does not enter leaves it in its own. The
endpoint joins if the session is the one that it offers. -/
theorem Endpoint.process_stays {e : Endpoint w} (hrep : ∃ v, VcRep e.vc v)
    {frame : SkyRadioFrame} {x : UInt32} (hnames : FrameNames w frame x) (h8 : 8 ∣ w)
    (hw : w ≤ 56) (hstays : e.vc.enters (skyHton32 x) = false) (sessions : List UInt32)
    (tickTime now : Int) :
    ∃ e', e.process sessions tickTime now frame = e' ∧ (∃ v, VcRep e'.vc v) ∧
      (e'.vc.arqStateFlag = e.vc.arqStateFlag ∨
        e.vc.arqStateFlag = .inInit ∧ skyHton32 x = e.vc.arqSessionIdentifier ∧
          e'.vc.arqStateFlag = .on) ∧
      e'.vc.arqSessionIdentifier = e.vc.arqSessionIdentifier ∧ e'.wipes = e.wipes := by
  obtain ⟨v, hrep⟩ := hrep
  obtain ⟨i, hsays, hi⟩ := hnames
  obtain ⟨vc', v', heq, hrep', hnone, hsome⟩ :=
    Endpoint.process_says hrep hsays h8 hw sessions tickTime now
  have hfilter : (i.map skyHton32).filter e.vc.enters = none := by
    cases i with
    | none => rfl
    | some y =>
        obtain rfl := hi y rfl
        exact Option.filter_some_neg (by simpa using hstays)
  have hrecord : e.record sessions (i.map skyHton32) vc' = { e with vc := vc' } := by
    rw [Endpoint.record, hfilter]
  have hkept : (vc'.arqStateFlag = e.vc.arqStateFlag ∨
        e.vc.arqStateFlag = .inInit ∧ skyHton32 x = e.vc.arqSessionIdentifier ∧
          vc'.arqStateFlag = .on) ∧ vc'.arqSessionIdentifier = e.vc.arqSessionIdentifier := by
    cases i with
    | none =>
        obtain ⟨hstate, hid⟩ := hnone rfl
        exact ⟨.inl hstate, hid⟩
    | some y =>
        obtain rfl := hi y rfl
        cases hsome y rfl with
        | kept _ _ _ hstate hid => exact ⟨.inl hstate, hid⟩
        | joined hinit hown _ hstate hid => exact ⟨.inr ⟨hinit, hown, hstate⟩, hid⟩
        | entered henters => rw [hstays] at henters; cases henters
  exact ⟨_, heq.trans hrecord, ⟨v', hrep'⟩, hkept.1, hkept.2, rfl⟩

/-- An event as one endpoint sees it, when it is its own. -/
theorem Link.stepAt_own (l : Link w) {side : Side} {e : Side × LinkEvent w} (h : e.1 = side) :
    side.view (l.stepAt e) = (side.view l).step e.2 := by
  subst h
  rw [Link.stepAt]
  cases e.1 with
  | left => rfl
  | right => exact Link.swap_swap _

/-- An event of the other endpoint. -/
theorem Link.stepAt_other (l : Link w) {side : Side} {e : Side × LinkEvent w} (h : e.1 ≠ side) :
    side.view (l.stepAt e) = ((side.view l).swap.step e.2).swap := by
  obtain ⟨own, e⟩ := e
  cases side with
  | left =>
      cases own with
      | left => exact absurd rfl h
      | right => rfl
  | right =>
      cases own with
      | left =>
          show (l.step e).swap = (l.swap.swap.step e).swap
          rw [l.swap_swap]
      | right => exact absurd rfl h

namespace GivesWay

variable {a b : UInt32} {l : Link w}

theorem setNear (h : GivesWay a b l) {e : Endpoint w} (hsame : SameSession l.near e) :
    GivesWay a b { l with near := e } := by
  refine ⟨hsame.rep, h.farRep, ?_, ?_, h.inn, ?_⟩
  · rw [hsame.state, hsame.identifier, hsame.wipes]
    exact h.near
  · rw [hsame.state]
    exact h.far
  · rw [hsame.state]
    exact h.out

theorem setFar (h : GivesWay a b l) {e : Endpoint w} (hsame : SameSession l.far e) :
    GivesWay a b { l with far := e } := by
  refine ⟨h.nearRep, hsame.rep, h.near, ?_, h.inn, ?_⟩
  · rw [hsame.state, hsame.identifier, hsame.wipes]
    exact h.far
  · rw [hsame.state]
    exact h.out

theorem fill_names {e : Endpoint w} (h : ∃ v, VcRep e.vc v) (hw : w ≤ 56)
    (first : FrameStart w) (config : SkyConfig) (now : Int) (frames : UInt16) :
    ∃ vc' tx' ret, skyVcFillFrame e.vc config first.tx now frames = (vc', tx', ret) ∧
      FrameNames w tx'.frame e.vc.arqSessionIdentifier ∧ SameSession e { e with vc := vc' } := by
  obtain ⟨v, hrep⟩ := h
  obtain ⟨vc', tx', ret, i, v', heq, hsays, hrep', hstate, hid, hi⟩ :=
    hrep.fill_says hw first config now frames
  exact ⟨vc', tx', ret, heq, ⟨i, hsays, fun x hx => (hi x hx).2⟩, ⟨v', hrep'⟩, hstate, hid, rfl⟩

theorem fill_near (h : GivesWay a b l) (hw : w ≤ 56) (first : FrameStart w) (config : SkyConfig)
    (now : Int) (frames : UInt16) :
    GivesWay a b (l.step (.fill first config now frames)) ∧
      (l.step (.fill first config now frames)).near.vc.arqStateFlag =
        l.near.vc.arqStateFlag := by
  obtain ⟨vc', tx', ret, heq, hnames, hsame⟩ := fill_names h.nearRep hw first config now frames
  have hkept := h.setNear hsame
  rw [fill_eq heq]
  refine ⟨?_, hsame.state⟩
  by_cases hret : ret < 0
  · rw [if_pos hret]
    exact hkept
  · rw [if_neg hret]
    refine ⟨hkept.nearRep, hkept.farRep, hkept.near, hkept.far, hkept.inn, ?_⟩
    obtain ⟨old, new, hout, hold, hnew, hinit, hon⟩ := hkept.out
    replace hout : l.out = old ++ new := hout
    obtain ⟨hstate, hid, -⟩ | ⟨hstate, hid, -⟩ := h.near
    · -- as long as it offers its session its frames name it
      obtain rfl := hinit (hsame.state.trans hstate)
      rw [List.append_nil] at hout
      refine ⟨old ++ [tx'.frame], [], ?_, fun frame hframe => ?_, List.forall_mem_nil _,
        fun _ => rfl, fun hfar => ?_⟩
      · rw [List.append_nil]
        exact congrArg (· ++ [tx'.frame]) hout
      · rcases List.mem_append.mp hframe with hmem | hmem
        · exact hold frame hmem
        · rw [List.mem_singleton.mp hmem, ← hid]
          exact hnames
      · obtain ⟨hboth | ⟨-, hboth⟩, -⟩ := h.far
        · exact absurd (hboth.symm.trans hfar) (by decide)
        · exact absurd (hstate.symm.trans hboth) (by decide)
    · refine ⟨old, new ++ [tx'.frame], ?_, hold, fun frame hframe => ?_, fun hoffer => ?_, hon⟩
      · rw [← List.append_assoc]
        exact congrArg (· ++ [tx'.frame]) hout
      · rcases List.mem_append.mp hframe with hmem | hmem
        · exact hnew frame hmem
        · rw [List.mem_singleton.mp hmem, ← hid]
          exact hnames
      · exact absurd (hstate.symm.trans (hsame.state.symm.trans hoffer)) (by decide)

/-- The first handshake that it meets makes the near endpoint give way; the others are of
the session that it is then in. -/
theorem process_near (h : GivesWay a b l) (h8 : 8 ∣ w) (hw : w ≤ 56) (hab : a < skyHton32 b)
    (tickTime now : Int) :
    GivesWay a b (l.step (.process tickTime now)) ∧
      (l.near.vc.arqStateFlag = .on →
        (l.step (.process tickTime now)).near.vc.arqStateFlag = .on) ∧
      (l.AtHandshake (.process tickTime now) →
        (l.step (.process tickTime now)).near.vc.arqStateFlag = .on) := by
  rw [Link.step]
  cases hl : l.inn with
  | nil =>
      refine ⟨h, id, ?_⟩
      rintro ⟨parsed, hincoming, -⟩
      rw [Link.incoming, hl] at hincoming
      cases hincoming
  | cons frame rest =>
      dsimp only
      have hnames := h.inn frame (hl ▸ List.mem_cons_self)
      have hrest : ∀ frame ∈ rest, FrameNames w frame b :=
        fun frame hframe => h.inn frame (hl ▸ List.mem_cons_of_mem _ hframe)
      obtain ⟨hstate, hown, hwipes⟩ | ⟨hstate, hown, -⟩ := h.near
      · obtain ⟨i, hsays, hi⟩ := hnames
        obtain ⟨v, hrep⟩ := h.nearRep
        obtain ⟨vc', v', heq, hrep', hnone, hsome⟩ :=
          Endpoint.process_says hrep hsays h8 hw l.sessions tickTime now
        obtain ⟨parsed, c, hparse, -, -, hid, -⟩ := hsays.parse h8 hw
        have hincoming : l.incoming = some parsed := Link.incoming_eq hl hparse
        rw [heq]
        cases i with
        | none =>
            obtain ⟨hstate', hident⟩ := hnone rfl
            have hkept := h.setNear (e := l.near.record l.sessions none vc')
              ⟨⟨v', hrep'⟩, hstate', hident, rfl⟩
            refine ⟨⟨hkept.nearRep, hkept.farRep, hkept.near, hkept.far, hrest, hkept.out⟩,
              fun hon => hstate'.trans hon, ?_⟩
            rintro ⟨parsed', hmem, hsome'⟩
            obtain rfl := Option.some.inj (hincoming.symm.trans hmem)
            rw [hid] at hsome'
            cases hsome'
        | some x =>
            obtain rfl := hi x rfl
            have henters : l.near.vc.enters (skyHton32 x) = true := by
              simp [SkyVirtualChannel.enters, hstate, hown, hab]
            obtain ⟨hon, hident⟩ : vc'.arqStateFlag = .on ∧
                vc'.arqSessionIdentifier = skyHton32 x := by
              cases hsome x rfl with
              | kept _ hstays => rw [henters] at hstays; cases hstays
              | joined _ _ hstays => rw [henters] at hstays; cases hstays
              | entered _ hon hident => exact ⟨hon, hident⟩
            rw [Option.map_some, Endpoint.record, Option.filter_some_pos henters]
            obtain ⟨hfar, hfarId⟩ := h.far
            obtain ⟨old, new, hout, hold, hnew, -, hfarOn⟩ := h.out
            exact ⟨⟨⟨v', hrep'⟩, h.farRep, .inr ⟨hon, hident, congrArg (· + 1) hwipes⟩,
              ⟨hfar.imp_right fun hboth => ⟨hboth.1, hon⟩, hfarId⟩, hrest, old, new, hout, hold,
              hnew, fun hoffer => absurd (hon.symm.trans hoffer) (by decide), hfarOn⟩,
              fun _ => hon, fun _ => hon⟩
      · -- it has given way before, and the frame is of the session that it is in
        have hstays : l.near.vc.enters (skyHton32 b) = false := by
          simp [SkyVirtualChannel.enters, hstate, hown]
        obtain ⟨e, heq, hrep, hsame, hident, hwipes⟩ :=
          Endpoint.process_stays h.nearRep hnames h8 hw hstays l.sessions tickTime now
        have hon : e.vc.arqStateFlag = .on := by
          obtain hsame | ⟨hinit, -⟩ := hsame
          · exact hsame.trans hstate
          · exact absurd (hstate.symm.trans hinit) (by decide)
        have hkept := h.setNear ⟨hrep, hon.trans hstate.symm, hident, hwipes⟩
        rw [heq]
        exact ⟨⟨hkept.nearRep, hkept.farRep, hkept.near, hkept.far, hrest, hkept.out⟩,
          fun _ => hon, fun _ => hon⟩

theorem fill_far (h : GivesWay a b l) (hw : w ≤ 56) (first : FrameStart w) (config : SkyConfig)
    (now : Int) (frames : UInt16) :
    GivesWay a b (l.swap.step (.fill first config now frames)).swap := by
  obtain ⟨vc', tx', ret, heq, hnames, hsame⟩ := fill_names h.farRep hw first config now frames
  have hkept := h.setFar hsame
  have hinn : ∀ frame ∈ if ret < 0 then l.inn else l.inn ++ [tx'.frame],
      FrameNames w frame b := by
    intro frame hframe
    split at hframe
    · exact h.inn frame hframe
    · rcases List.mem_append.mp hframe with hmem | hmem
      · exact h.inn frame hmem
      · rw [List.mem_singleton.mp hmem, ← h.far.2.1]
        exact hnames
  have hstep := fill_eq (l := l.swap) heq
  rw [hstep]
  exact ⟨hkept.nearRep, hkept.farRep, hkept.near, hkept.far, hinn, hkept.out⟩

/-- The far endpoint ignores the frames for `a` and joins with the first one for its own
session. -/
theorem process_far (h : GivesWay a b l) (h8 : 8 ∣ w) (hw : w ≤ 56) (hab : a < skyHton32 b)
    (hba : ¬b < skyHton32 a) (tickTime now : Int) :
    GivesWay a b (l.swap.step (.process tickTime now)).swap := by
  have hne : b ≠ skyHton32 a := by
    rintro rfl
    rw [skyHton32_hton32] at hab
    exact UInt32.lt_irrefl a hab
  rw [Link.step]
  cases hl : l.out with
  | nil =>
      rw [show l.swap.inn = [] from hl]
      exact ⟨h.nearRep, h.farRep, h.near, h.far, h.inn, h.out⟩
  | cons frame rest =>
      rw [show l.swap.inn = frame :: rest from hl]
      obtain ⟨hstate, hid, hwipes⟩ := h.far
      obtain ⟨old, new, hout, hold, hnew, hinit, hon⟩ := h.out
      -- it is enough to say what becomes of the endpoint and of the frames on their way
      suffices hmet : ∀ e : Endpoint w,
          l.far.process l.swap.sessions tickTime now frame = e →
            (∃ v, VcRep e.vc v) ∧
            ((e.vc.arqStateFlag = .inInit ∨
              e.vc.arqStateFlag = .on ∧ l.near.vc.arqStateFlag = .on) ∧
              e.vc.arqSessionIdentifier = b ∧ e.wipes = 0) ∧
            ∃ old' new', rest = old' ++ new' ∧ (∀ frame ∈ old', FrameNames w frame a) ∧
              (∀ frame ∈ new', FrameNames w frame (skyHton32 b)) ∧
              (l.near.vc.arqStateFlag = .inInit → new' = []) ∧
              (e.vc.arqStateFlag = .on → old' = []) by
        obtain ⟨hrep', hfar, hrest⟩ := hmet _ rfl
        exact ⟨h.nearRep, hrep', h.near, hfar, h.inn, hrest⟩
      rintro e rfl
      rw [hl] at hout
      cases old with
      | cons first old' =>
          obtain ⟨rfl, rfl⟩ := List.cons_eq_cons.mp hout
          have hoff : l.far.vc.arqStateFlag = .inInit := by
            rcases hstate with hoff | ⟨hfar, -⟩
            · exact hoff
            · exact absurd (hon hfar) (List.cons_ne_nil _ _)
          have hstays : l.far.vc.enters (skyHton32 a) = false := by
            simp [SkyVirtualChannel.enters, hoff, hid, UInt32.not_lt.mp hba]
          obtain ⟨e, heq, hrep, hsame, hid', hwipes'⟩ := Endpoint.process_stays h.farRep
            (hold frame List.mem_cons_self) h8 hw hstays l.swap.sessions tickTime now
          have hoff' : e.vc.arqStateFlag = .inInit := by
            obtain hsame | ⟨-, hown, -⟩ := hsame
            · exact hsame.trans hoff
            · exact absurd (hown.trans hid).symm hne
          rw [heq]
          exact ⟨hrep, ⟨.inl hoff', hid'.trans hid, hwipes'.trans hwipes⟩, old', new, rfl,
            fun frame hframe => hold frame (List.mem_cons_of_mem _ hframe), hnew, hinit,
            fun hfar => absurd (hoff'.symm.trans hfar) (by decide)⟩
      | nil =>
          obtain rfl : new = frame :: rest := hout.symm
          have hnear : l.near.vc.arqStateFlag = .on := by
            obtain ⟨hoffer, -⟩ | ⟨hboth, -⟩ := h.near
            · exact absurd (hinit hoffer) (List.cons_ne_nil _ _)
            · exact hboth
          have hstays : l.far.vc.enters (skyHton32 (skyHton32 b)) = false := by
            rw [skyHton32_hton32]
            rcases hstate with hoff | ⟨hfar, -⟩
            · simp [SkyVirtualChannel.enters, hoff, hid]
            · simp [SkyVirtualChannel.enters, hfar, hid]
          obtain ⟨e, heq, hrep, hsame, hid', hwipes'⟩ := Endpoint.process_stays h.farRep
            (hnew frame List.mem_cons_self) h8 hw hstays l.swap.sessions tickTime now
          have hstate' : e.vc.arqStateFlag = .inInit ∨
              e.vc.arqStateFlag = .on ∧ l.near.vc.arqStateFlag = .on := by
            obtain hsame | ⟨-, -, hjoined⟩ := hsame
            · rw [hsame]
              exact hstate
            · exact .inr ⟨hjoined, hnear⟩
          rw [heq]
          exact ⟨hrep, ⟨hstate', hid'.trans hid, hwipes'.trans hwipes⟩, [], rest, rfl,
            List.forall_mem_nil _, fun frame hframe => hnew frame (List.mem_cons_of_mem _ hframe),
            fun hoffer => absurd (hinit hoffer) (List.cons_ne_nil _ _), fun _ => rfl⟩

theorem step_near (h : GivesWay a b l) (h8 : 8 ∣ w) (hw : w ≤ 56) (hab : a < skyHton32 b)
    {e : LinkEvent w} (he : e.Exchange) :
    GivesWay a b (l.step e) ∧
      (l.near.vc.arqStateFlag = .on ∨ l.AtHandshake e →
        (l.step e).near.vc.arqStateFlag = .on) := by
  cases e with
  | push payload =>
      have hsame := SameSession.push h.nearRep payload
      exact ⟨h.setNear hsame, fun hon => hsame.state.trans (hon.resolve_right id)⟩
  | read maxLength =>
      have hsame := SameSession.read h.nearRep maxLength
      exact ⟨h.setNear hsame, fun hon => hsame.state.trans (hon.resolve_right id)⟩
  | fill first config now frames =>
      obtain ⟨hstep, hstate⟩ := h.fill_near hw first config now frames
      exact ⟨hstep, fun hon => hstate.trans (hon.resolve_right id)⟩
  | process tickTime now =>
      obtain ⟨hstep, hon, hmet⟩ := h.process_near h8 hw hab tickTime now
      exact ⟨hstep, fun hcause => hcause.elim hon hmet⟩
  | _ => exact he.elim

theorem step_far (h : GivesWay a b l) (h8 : 8 ∣ w) (hw : w ≤ 56) (hab : a < skyHton32 b)
    (hba : ¬b < skyHton32 a) {e : LinkEvent w} (he : e.Exchange) :
    GivesWay a b (l.swap.step e).swap ∧ (l.swap.step e).swap.near = l.near := by
  cases e with
  | push payload =>
      have hkept := h.setFar (SameSession.push h.farRep payload)
      exact ⟨⟨hkept.nearRep, hkept.farRep, hkept.near, hkept.far, hkept.inn, hkept.out⟩, rfl⟩
  | read maxLength =>
      have hkept := h.setFar (SameSession.read h.farRep maxLength)
      exact ⟨⟨hkept.nearRep, hkept.farRep, hkept.near, hkept.far, hkept.inn, hkept.out⟩, rfl⟩
  | fill first config now frames => exact ⟨h.fill_far hw first config now frames, rfl⟩
  | process tickTime now =>
      exact ⟨h.process_far h8 hw hab hba tickTime now, l.swap.step_far _⟩
  | _ => exact he.elim

theorem settled (h : GivesWay a b l) :
    l.near.wipes + l.far.wipes ≤ 1 ∧
      (l.near.vc.arqStateFlag = .on → l.near.wipes + l.far.wipes = 1) := by
  rw [h.far.2.2]
  obtain ⟨hstate, -, hwipes⟩ | ⟨-, -, hwipes⟩ := h.near
  · rw [hwipes]
    exact ⟨Nat.zero_le _, fun hon => absurd (hstate.symm.trans hon) (by decide)⟩
  · rw [hwipes]
    exact ⟨le_rfl, fun _ => rfl⟩

theorem run {side : Side} (h : GivesWay a b (side.view l)) (h8 : 8 ∣ w) (hw : w ≤ 56)
    (hab : a < skyHton32 b) (hba : ¬b < skyHton32 a) {events : List (Side × LinkEvent w)}
    (hevents : ∀ e ∈ events, e.2.Exchange) :
    GivesWay a b (side.view (l.run events)) ∧
      ((side.view l).near.vc.arqStateFlag = .on ∨ l.MeetsHandshake side events →
        (side.view (l.run events)).near.vc.arqStateFlag = .on) := by
  induction events generalizing l with
  | nil => exact ⟨h, fun hon => hon.resolve_right id⟩
  | cons e events ih =>
      have he := hevents e List.mem_cons_self
      have hrest : ∀ e ∈ events, e.2.Exchange := fun e hmem => hevents e (.tail _ hmem)
      obtain ⟨hstep, hon⟩ : GivesWay a b (side.view (l.stepAt e)) ∧
          ((side.view l).near.vc.arqStateFlag = .on ∨
              e.1 = side ∧ (e.1.view l).AtHandshake e.2 →
            (side.view (l.stepAt e)).near.vc.arqStateFlag = .on) := by
        by_cases hside : e.1 = side
        · rw [Link.stepAt_own l hside]
          obtain ⟨hstep, hmet⟩ := h.step_near h8 hw hab he
          exact ⟨hstep, fun hcause => hmet (hcause.imp_right fun hat => hside ▸ hat.2)⟩
        · rw [Link.stepAt_other l hside]
          obtain ⟨hstep, hnear⟩ := h.step_far h8 hw hab hba he
          exact ⟨hstep, fun hcause => by rw [hnear]; exact hcause.resolve_right fun h => hside h.1⟩
      obtain ⟨hrun, hmet⟩ := ih hstep hrest
      refine ⟨hrun, fun hcause => hmet ?_⟩
      obtain hstart | hnow | hlater := hcause
      · exact .inl (hon (.inl hstart))
      · exact .inl (hon (.inr hnow))
      · exact .inr hlater

end GivesWay

/-! ## Both offers on their way -/

/-- Fill a frame with idle frames left in the window. -/
def LinkEvent.offer : LinkEvent w :=
  .fill (.plain exampleIdentity exampleIdentity_length 0) (exampleConfig 0 1) 0 0

/-- Each endpoint offers its session before it meets the offer of the other. -/
def crossedOffers : List (Side × LinkEvent w) :=
  [(.left, .offer), (.right, .offer), (.left, .process 0 0), (.right, .process 0 0)]

/-- A channel that offers a session does so with every frame it fills. -/
theorem fill_offer (hw : w ≤ 56) {vc : SkyVirtualChannel w} (hinit : vc.arqStateFlag = .inInit)
    (first : FrameStart w) (now : Int) :
    ∃ tx', skyVcFillFrame vc (exampleConfig 0 1) first.tx now 0 = (vc, tx', 1) ∧
      FrameSays w tx'.frame (some vc.arqSessionIdentifier) := by
  refine ⟨_, ?_, _, _, _, _, _, rfl,
    first.carries.addHandshake hw ⟨rfl, rfl, rfl, rfl, rfl⟩ ArqState.inInit.toByte
      vc.arqSessionIdentifier, rfl, fun _ h => absurd h (Option.not_mem_none _)⟩
  rw [skyVcFillFrame, hinit]
  rfl

/-- An endpoint that meets the offer of a session. -/
theorem Endpoint.process_offer {e : Endpoint w} (hrep : ∃ v, VcRep e.vc v)
    (hinit : e.vc.arqStateFlag = .inInit) {frame : SkyRadioFrame} {x : UInt32}
    (hframe : FrameSays w frame (some x)) (h8 : 8 ∣ w) (hw : w ≤ 56) (sessions : List UInt32)
    (tickTime now : Int) :
    (e.process sessions tickTime now frame).wipes =
      if e.vc.arqSessionIdentifier < skyHton32 x then e.wipes + 1 else e.wipes := by
  obtain ⟨v, hrep⟩ := hrep
  obtain ⟨vc', v', heq, -⟩ := Endpoint.process_says hrep hframe h8 hw sessions tickTime now
  have henters : e.vc.enters (skyHton32 x) =
      decide (e.vc.arqSessionIdentifier < skyHton32 x) := by
    rw [SkyVirtualChannel.enters, hinit]
  rw [heq, Option.map_some, Endpoint.record]
  by_cases hlt : e.vc.arqSessionIdentifier < skyHton32 x
  · rw [Option.filter_some_pos (by rw [henters]; simpa using hlt), if_pos hlt]
  · rw [Option.filter_some_neg (by rw [henters]; simpa using hlt), if_neg hlt]

theorem crossedOffers_run (hw : ArqSequenceWidth w) {a b : SkyVirtualChannel w}
    (ha : ∃ v, VcRep a v) (hb : ∃ v, VcRep b v)
    (hinit : a.arqStateFlag = .inInit ∧ b.arqStateFlag = .inInit) :
    (Link.idle a b).MeetsHandshake .left crossedOffers ∧
      (Link.idle a b).MeetsHandshake .right crossedOffers ∧
      ((Link.idle a b).run crossedOffers).near.wipes =
        (if a.arqSessionIdentifier < skyHton32 b.arqSessionIdentifier then 1 else 0) ∧
      ((Link.idle a b).run crossedOffers).far.wipes =
        (if b.arqSessionIdentifier < skyHton32 a.arqSessionIdentifier then 1 else 0) := by
  obtain ⟨h8, hw56, -⟩ := hw.bounds
  let first : FrameStart w := .plain exampleIdentity exampleIdentity_length 0
  obtain ⟨tx, heq, hsays⟩ := fill_offer hw56 hinit.1 first 0
  obtain ⟨tx', heq', hsays'⟩ := fill_offer hw56 hinit.2 first 0
  have hone : (Link.idle a b).stepAt (.left, .offer) =
      { Link.idle a b with out := [tx.frame] } := by
    show (Link.idle a b).step (.fill first (exampleConfig 0 1) 0 0) = _
    rw [fill_eq heq]
    rfl
  have htwo : Link.stepAt { Link.idle a b with out := [tx.frame] } (.right, .offer) =
      { Link.idle a b with out := [tx.frame], inn := [tx'.frame] } := by
    show (Link.step (Link.swap { Link.idle a b with out := [tx.frame] })
      (.fill first (exampleConfig 0 1) 0 0)).swap = _
    rw [fill_eq heq']
    rfl
  let crossed : Link w := { Link.idle a b with out := [tx.frame], inn := [tx'.frame] }
  have hleft : crossed.AtHandshake (.process 0 0) := by
    obtain ⟨parsed, c, hparse, -, -, hid, -⟩ := hsays'.parse h8 hw56
    refine ⟨parsed, ?_, by rw [hid]; rfl⟩
    show (some tx'.frame).bind (fun frame => (frame.parse w).toOption) = some parsed
    rw [Option.bind_some, hparse]
    rfl
  have hright : (crossed.stepAt (.left, .process 0 0)).swap.AtHandshake (.process 0 0) := by
    obtain ⟨parsed, c, hparse, -, -, hid, -⟩ := hsays.parse h8 hw56
    refine ⟨parsed, ?_, by rw [hid]; rfl⟩
    show (some tx.frame).bind (fun frame => (frame.parse w).toOption) = some parsed
    rw [Option.bind_some, hparse]
    rfl
  have hrun : (Link.idle a b).run crossedOffers =
      (crossed.stepAt (.left, .process 0 0)).stepAt (.right, .process 0 0) := by
    rw [Link.run, crossedOffers, List.foldl_cons, List.foldl_cons, hone, htwo]
    rfl
  refine ⟨?_, ?_, ?_, ?_⟩
  · rw [crossedOffers, Link.MeetsHandshake, hone, Link.MeetsHandshake, htwo]
    exact .inr (.inr (.inl ⟨rfl, hleft⟩))
  · rw [crossedOffers, Link.MeetsHandshake, hone, Link.MeetsHandshake, htwo]
    exact .inr (.inr (.inr (.inl ⟨rfl, hright⟩)))
  · rw [hrun]
    exact Endpoint.process_offer (e := .idle a) ha hinit.1 hsays' h8 hw56 _ _ _
  · rw [hrun]
    exact Endpoint.process_offer (e := .idle b) hb hinit.2 hsays h8 hw56 _ _ _

/-! ## When crossed connects settle -/

/-- A new channel that has connected at a tick. -/
def offeringChannel (tickTime : Int) : SkyVirtualChannel 8 := exampleChannel.run [.connect tickTime]

theorem offeringChannel_reached (tickTime : Int) : (offeringChannel tickTime).Reached := by
  obtain ⟨conf, hconf⟩ := exampleChannel_eq
  exact ⟨_, conf, exampleChannel, _, hconf, by simp [VcOp.Valid], rfl⟩

end Skylink
