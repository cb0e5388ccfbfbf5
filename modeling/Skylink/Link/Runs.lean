import Skylink.Link.Processing

/-!
# Runs of a link

Every event of a link is a sequence of steps of the net it stands for, as long as the
identifiers of sessions are not used twice and no endpoint enters a session that is not
newer than all it has known.
-/

namespace Skylink

open SessionWindow

variable {w : Nat}

/-! ## One event -/

/-- What the simulation asks of an event. -/
def LinkSim.Enabled (stale : Prop) (start l : Link w) (n : Net) (names : Naming) :
    LinkEvent w → Prop
  | .push _ => start.Fits
  | .process _ _ =>
      (∀ f ∈ n.inn.head?, Understood l n names f) ∧
        (¬stale → ∀ parsed ∈ l.incoming, ¬parsed.Stale l.near.vc)
  | .connect tickTime => names.near (n.created + 1) = UInt32.ofInt tickTime
  | _ => True

theorem Link.sessions_step (l : Link w) (e : LinkEvent w) :
    (l.step e).sessions =
      match e with
      | .connect tickTime => l.sessions ++ [UInt32.ofInt tickTime]
      | _ => l.sessions := by
  cases e with
  | process tickTime now =>
      rw [Link.step]
      split <;> rfl
  | _ => rfl

theorem LinkSim.step {stale : Prop} {start l : Link w} {n : Net} {names : Naming}
    (h : LinkSim start l n names) (hinv : Inv n) (h8 : 8 ∣ w) (hw : w ≤ 56)
    (hnumber : l.sessions.length = n.created) {e : LinkEvent w}
    (he : LinkSim.Enabled stale start l n names e) :
    ∃ n', Reaches stale n n' ∧ LinkSim start (l.step e) n' names ∧
      (l.step e).sessions.length = n'.created := by
  rw [Link.sessions_step]
  cases e with
  | push payload =>
      obtain ⟨n', hreach, hsim, hcreated⟩ := h.push he payload
      exact ⟨n', hreach, hsim, hnumber.trans hcreated.symm⟩
  | read maxLength =>
      obtain ⟨n', hreach, hsim, hcreated⟩ := h.read maxLength
      exact ⟨n', hreach, hsim, hnumber.trans hcreated.symm⟩
  | fill first config now frames =>
      obtain ⟨n', hreach, hsim, hcreated⟩ := h.fill hinv hw first config now frames
      exact ⟨n', hreach, hsim, hnumber.trans hcreated.symm⟩
  | process tickTime now =>
      obtain ⟨n', hreach, hsim, hcreated⟩ := h.process hinv h8 hw tickTime now he.1 he.2
      exact ⟨n', hreach, hsim, hnumber.trans hcreated.symm⟩
  | connect tickTime =>
      obtain ⟨n', hreach, hsim, hcreated⟩ := h.connect tickTime he hnumber
      refine ⟨n', hreach, hsim, ?_⟩
      rw [List.length_append, List.length_singleton, hnumber, hcreated]
  | disconnect =>
      obtain ⟨n', hreach, hsim, hcreated⟩ := h.disconnect
      exact ⟨n', hreach, hsim, hnumber.trans hcreated.symm⟩
  | checkTimeouts now timeout =>
      obtain ⟨n', hreach, hsim, hcreated⟩ := h.checkTimeouts now timeout
      exact ⟨n', hreach, hsim, hnumber.trans hcreated.symm⟩
  | lose i =>
      obtain ⟨n', hreach, hsim, hcreated⟩ := h.lose i
      exact ⟨n', hreach, hsim, hnumber.trans hcreated.symm⟩

/-! ## Conditions on runs -/

/-- No identifier is offered twice, and whoever enters a session has not known it or a
newer one. -/
def Link.NewSessions (l : Link w) : LinkEvent w → Prop
  | .connect tickTime => UInt32.ofInt tickTime ∉ l.sessions
  | .process _ _ =>
      ∀ parsed ∈ l.incoming, ∀ identifier ∈ parsed.handshakeIdentifier,
        l.near.vc.enters identifier → l.near.newest ≤ l.sessions.idxOf identifier
  | _ => True

/-- No payload that was sent in a session reaches an endpoint that has none. -/
def Link.NoStalePayload (l : Link w) : LinkEvent w → Prop
  | .process _ _ => ∀ parsed ∈ l.incoming, ¬parsed.Stale l.near.vc
  | _ => True

instance (parsed : SkyParsedFrame) (vc : SkyVirtualChannel w) : Decidable (parsed.Stale vc) :=
  inferInstanceAs (Decidable (vc.arqStateFlag = .off ∧ parsed.arqHandshake = none ∧
    0 < parsed.payloadLen ∧ parsed.hdr.hasFlag skyFlagArqOn))

instance (l : Link w) : (e : LinkEvent w) → Decidable (l.NewSessions e)
  | .connect tickTime => inferInstanceAs (Decidable (UInt32.ofInt tickTime ∉ l.sessions))
  | .process _ _ =>
      -- not by trying every identifier there is
      haveI (parsed : SkyParsedFrame) : Decidable (∀ identifier ∈ parsed.handshakeIdentifier,
          l.near.vc.enters identifier → l.near.newest ≤ l.sessions.idxOf identifier) :=
        Option.decidableForallMem _
      inferInstanceAs (Decidable (∀ parsed ∈ l.incoming,
        ∀ identifier ∈ parsed.handshakeIdentifier,
          l.near.vc.enters identifier → l.near.newest ≤ l.sessions.idxOf identifier))
  | .push _ | .read _ | .fill _ _ _ _ | .disconnect | .checkTimeouts _ _ | .lose _ =>
      .isTrue trivial

instance (l : Link w) : (e : LinkEvent w) → Decidable (l.NoStalePayload e)
  | .process _ _ =>
      inferInstanceAs (Decidable (∀ parsed ∈ l.incoming, ¬parsed.Stale l.near.vc))
  | .push _ | .read _ | .fill _ _ _ _ | .connect _ | .disconnect | .checkTimeouts _ _
  | .lose _ => .isTrue trivial

/-! ## Sessions by their identifiers -/

/-- The sessions of a run in order, as the two endpoints read their identifiers. -/
def Naming.ofSessions (ids : List UInt32) : Naming :=
  { near := fun z => ids.getD (z - 1) 0
    far := fun z => skyHton32 (ids.getD (z - 1) 0) }

theorem Naming.ofSessions_swap (ids : List UInt32) :
    (ofSessions (ids.map skyHton32)).swap = ofSessions ids := by
  have hread : ∀ i, (ids.map skyHton32).getD i 0 = skyHton32 (ids.getD i 0) := by
    intro i
    rw [List.getD_eq_getElem?_getD, List.getD_eq_getElem?_getD, List.getElem?_map]
    cases ids[i]? <;> rfl
  rw [swap, ofSessions, ofSessions]
  simp only [hread, skyHton32_hton32]

/-- A session that was offered is known by its identifier. -/
theorem Naming.near_ofSessions {ids known : List UInt32} (h : known <+: ids) {z : Nat}
    (hz : 0 < z) (hz' : z ≤ known.length) :
    known[z - 1]? = some ((ofSessions ids).near z) := by
  obtain ⟨rest, rfl⟩ := h
  have hlt : z - 1 < known.length := by omega
  rw [ofSessions]
  simp only [List.getD_eq_getElem?_getD]
  rw [List.getElem?_append_left hlt, List.getElem?_eq_getElem hlt, Option.getD_some]

/-! ## The handshake that is met next -/

theorem LinkSim.incoming_handshake {start l : Link w} {n : Net} {names : Naming}
    (h : LinkSim start l n names) (h8 : 8 ∣ w) (hw : w ≤ 56) :
    ∀ f ∈ n.inn.head?, ∀ z, f.handshake = some z →
      ∃ parsed ∈ l.incoming, parsed.handshakeIdentifier = some (skyHton32 (names.far z)) := by
  intro f hf z hz
  obtain ⟨rest, hn⟩ := inn_head hf
  obtain ⟨frame, frames, hl⟩ : ∃ frame frames, l.inn = frame :: frames := by
    have hinn := h.inn
    rw [hn] at hinn
    obtain ⟨frame, frames, -, -, hl⟩ := List.forall₂_cons_right_iff.mp hinn
    exact ⟨frame, frames, hl⟩
  obtain ⟨f', rest', parsed, c, hn', hparse, hreads, hc⟩ := h.incoming h8 hw hl
  obtain ⟨rfl, -⟩ := List.cons_eq_cons.mp (hn'.symm.trans hn)
  refine ⟨parsed, Link.incoming_eq hl hparse, ?_⟩
  rw [hreads.handshakeIdentifier]
  have hname := hc.handshake
  rw [hz, Option.map_some, Option.map_eq_some_iff] at hname
  obtain ⟨hs, hcs, hval⟩ := hname
  rw [hcs, Option.map_some, hval]

/-- The sessions of the link are numbered as those of the net, and they are the first ones
of `ids`. -/
structure Numbered (l : Link w) (ids : List UInt32) (n : Net) : Prop where
  number : l.sessions.length = n.created
  begins : l.sessions <+: ids
  nodup : l.sessions.Nodup

theorem map_isPrefix_iff {known ids : List UInt32} :
    known.map skyHton32 <+: ids ↔ known <+: ids.map skyHton32 := by
  have htwice : ∀ l : List UInt32, (l.map skyHton32).map skyHton32 = l := by
    intro l
    rw [List.map_map]
    exact List.map_id'' skyHton32_hton32 l
  constructor
  · intro h
    have hmap := h.map skyHton32
    rwa [htwice] at hmap
  · intro h
    have hmap := h.map skyHton32
    rwa [htwice] at hmap

theorem Link.sessions_isPrefix {l : Link w} {e : LinkEvent w} {ids : List UInt32}
    (h : (l.step e).sessions <+: ids) : l.sessions <+: ids := by
  refine List.IsPrefix.trans ?_ h
  rw [Link.sessions_step]
  cases e with
  | connect tickTime => exact List.prefix_append _ _
  | _ => exact List.prefix_refl _

namespace Numbered

variable {l : Link w} {ids : List UInt32} {n : Net}

theorem swap (h : Numbered l (ids.map skyHton32) n) : Numbered l.swap ids n.swap := by
  refine ⟨(List.length_map _).trans h.number, map_isPrefix_iff.mpr h.begins, ?_⟩
  apply h.nodup.map
  intro a b hab
  rw [← skyHton32_hton32 a, hab, skyHton32_hton32]

/-- A connect takes the next number. -/
theorem connect_name (h : Numbered l ids n) {tickTime : Int}
    (hids : (l.step (.connect tickTime)).sessions <+: ids) :
    (Naming.ofSessions ids).near (n.created + 1) = UInt32.ofInt tickTime := by
  rw [Link.sessions_step] at hids
  have hname := Naming.near_ofSessions hids (z := n.created + 1) (Nat.succ_pos _)
    (by rw [List.length_append, h.number, List.length_singleton])
  rw [Nat.add_sub_cancel, ← h.number, List.getElem?_concat_length] at hname
  rw [h.number] at hname
  exact (Option.some.inj hname).symm

theorem step (h : Numbered l ids n) {e : LinkEvent w} (hnew : l.NewSessions e)
    (hids : (l.step e).sessions <+: ids) {n' : Net}
    (hnumber : (l.step e).sessions.length = n'.created) : Numbered (l.step e) ids n' := by
  refine ⟨hnumber, hids, ?_⟩
  rw [Link.sessions_step]
  cases e with
  | connect tickTime =>
      have hnodup := h.nodup.concat hnew
      rwa [List.concat_eq_append] at hnodup
  | _ => exact h.nodup

end Numbered

/-- Induction over a run in which the sessions of the whole run are known from the
start. -/
theorem Link.run_sessions_induction {condition : Link w → LinkEvent w → Prop}
    {P : Link w → Link w → List UInt32 → Prop}
    (hswap : ∀ start l ids, P start l (ids.map skyHton32) → P start.swap l.swap ids)
    (hstep : ∀ start l e ids, P start l ids → condition l e → (l.step e).sessions <+: ids →
      P start (l.step e) ids)
    {start l : Link w} (hl : ∀ ids, l.sessions <+: ids → P start l ids)
    {events : List (Side × LinkEvent w)} (hmeets : l.RunMeets condition events) :
    P start (l.run events) (l.run events).sessions := by
  refine Link.run_induction (P := fun start l => ∀ ids, l.sessions <+: ids → P start l ids)
    (fun start l h ids hids => ?_) (fun start l e h hcondition ids hids => ?_) hl hmeets _
    (List.prefix_refl _)
  · exact hswap start l ids (h _ (map_isPrefix_iff.mp hids))
  · exact hstep start l e ids (h ids (Link.sessions_isPrefix hids)) hcondition hids

/-- In a run with new sessions a handshake that the near endpoint meets is understood. -/
theorem Link.NewSessions.understood {l : Link w} {tickTime now : Int}
    (hnew : l.NewSessions (.process tickTime now)) {ids : List UInt32} {n : Net} (hinv : Inv n)
    (h : Numbered l ids n) (hnewest : n.near.stamp.newest = l.near.newest)
    (hmet : ∀ f ∈ n.inn.head?, ∀ z, f.handshake = some z → ∃ parsed ∈ l.incoming,
      parsed.handshakeIdentifier = some (skyHton32 ((Naming.ofSessions ids).far z))) :
    ∀ f ∈ n.inn.head?, Understood l n (.ofSessions ids) f := by
  intro f hf
  obtain ⟨rest, hn⟩ := inn_head hf
  have hmem : f ∈ n.inn := hn ▸ List.mem_cons_self
  have hok := hinv.inn.frames f hmem
  have hknown : ∀ z, f.handshake = some z → 0 < z ∧ z ≤ l.sessions.length := by
    intro z hz
    refine ⟨hok.wellFormed.positive z (hok.handshake z hz), ?_⟩
    rw [h.number]
    exact (hinv.handshake_le hmem hz).2
  refine ⟨fun z _ => skyHton32_hton32 _, fun z y hz hy heq => ?_, fun z hz henters => ?_⟩
  · have hwell := hinv.out.sender.wellFormed
    have hy' : y ≤ l.sessions.length := by
      rw [h.number, ← hwell.session y hy]
      exact hinv.out.sender.newest_le
    obtain ⟨hpos, hle⟩ := hknown z hz
    have hzy := Naming.near_ofSessions h.begins hpos hle
    rw [heq, ← Naming.near_ofSessions h.begins (hwell.positive y hy) hy'] at hzy
    have hpos' := hwell.positive y hy
    have hinj := (List.getElem?_inj (show z - 1 < l.sessions.length by omega) h.nodup).mp hzy
    omega
  · obtain ⟨hpos, hle⟩ := hknown z hz
    obtain ⟨parsed, hincoming, hid⟩ := hmet f hf z hz
    have hid' : parsed.handshakeIdentifier = some ((Naming.ofSessions ids).near z) :=
      hid.trans (congrArg some (skyHton32_hton32 _))
    have hidx : l.sessions.idxOf ((Naming.ofSessions ids).near z) = z - 1 := by
      have hname := Naming.near_ofSessions h.begins hpos hle
      obtain ⟨hlt, hval⟩ := List.getElem?_eq_some_iff.mp hname
      rw [← hval]
      exact h.nodup.idxOf_getElem _ hlt
    have hfresh := hnew parsed hincoming _ hid' henters
    rw [hidx, ← hnewest] at hfresh
    rw [hidx]
    omega

/-! ## Runs from channels without a session -/

/-- The endpoint of a new channel. -/
def Endpoint.idle (vc : SkyVirtualChannel w) : Endpoint w :=
  { vc := vc, pushed := [], read := [], wipes := 0, newest := 0 }

def Link.idle (a b : SkyVirtualChannel w) : Link w :=
  { near := .idle a, far := .idle b, out := [], inn := [], sessions := [] }

/-- The link stands for a net that was reached from idle endpoints, and its sessions are
the first ones of `ids`. -/
structure Follows (stale : Prop) (start l : Link w) (ids : List UInt32) (n : Net) : Prop
    extends Numbered l ids n where
  reach : Reaches stale
    (.idle start.near.vc.sendRing.length start.far.vc.sendRing.length) n
  sim : LinkSim start l n (.ofSessions ids)
  room : 0 < start.near.vc.sendRing.length ∧ 0 < start.far.vc.sendRing.length
  fits : start.Fits ∧ start.swap.Fits

namespace Follows

variable {stale : Prop} {start l : Link w} {ids : List UInt32} {n : Net}

theorem inv (h : Follows stale start l ids n) : Inv n :=
  (inv_idle h.room.1 h.room.2).reaches h.reach

theorem swap (h : Follows stale start l (ids.map skyHton32) n) :
    Follows stale start.swap l.swap ids n.swap := by
  refine ⟨h.toNumbered.swap, h.reach.swap, ?_, h.room.symm, h.fits.symm⟩
  rw [← Naming.ofSessions_swap]
  exact h.sim.swap

theorem step (h : Follows stale start l ids n) (h8 : 8 ∣ w) (hw : w ≤ 56) {e : LinkEvent w}
    (hnew : l.NewSessions e) (hstale : ¬stale → l.NoStalePayload e)
    (hids : (l.step e).sessions <+: ids) : ∃ n', Follows stale start (l.step e) ids n' := by
  have henabled : LinkSim.Enabled stale start l n (.ofSessions ids) e := by
    cases e with
    | push payload => exact h.fits.1
    | process tickTime now =>
        exact ⟨hnew.understood h.inv h.toNumbered h.sim.near.newest
          (h.sim.incoming_handshake h8 hw), hstale⟩
    | connect tickTime => exact h.connect_name hids
    | _ => trivial
  obtain ⟨n', hreach, hsim, hnumber⟩ := h.sim.step h.inv h8 hw h.number henabled
  exact ⟨n', h.toNumbered.step hnew hids hnumber, h.reach.trans hreach, hsim, h.room, h.fits⟩

end Follows

theorem viewSim_fresh (width : Nat) (mode : Mode) (newest : Nat) (peerLog : List Bytes) :
    ViewSim .empty (.fresh width mode newest) [] peerLog :=
  ⟨rfl, rfl, rfl, rfl, fun _ hu => absurd hu (Nat.not_lt_zero _), rfl, rfl, fun _ _ => rfl,
    nofun⟩

theorem VcRep.endpointSim_idle {vc : SkyVirtualChannel w} (hrep : VcRep vc .empty)
    (hoff : vc.arqStateFlag = .off) (name : Nat → UInt32) :
    EndpointSim (.idle vc) (.fresh vc.sendRing.length .off 0) name [] :=
  ⟨⟨_, hrep, viewSim_fresh _ _ _ _⟩, hoff, rfl, rfl, rfl, rfl⟩

/-- Every run from new channels in which sessions are new is one of the net. -/
theorem Link.run_follows (stale : Prop) (hw : ArqSequenceWidth w) {a b : SkyVirtualChannel w}
    (ha : VcRep a .empty) (hb : VcRep b .empty)
    (hoff : a.arqStateFlag = .off ∧ b.arqStateFlag = .off)
    (hfits : (idle a b).Fits ∧ (idle a b).swap.Fits) {events : List (Side × LinkEvent w)}
    (hmeets : (idle a b).RunMeets
      (fun l e => l.NewSessions e ∧ (¬stale → l.NoStalePayload e)) events) :
    ∃ ids n, Follows stale (idle a b) ((idle a b).run events) ids n := by
  obtain ⟨h8, hw56, -⟩ := hw.bounds
  have hroom : 0 < a.sendRing.length ∧ 0 < b.sendRing.length :=
    ⟨ha.sendLength_pos, hb.sendLength_pos⟩
  refine ⟨_, Link.run_sessions_induction
    (P := fun start l ids => ∃ n, Follows stale start l ids n)
    (fun start l ids h => ?_) (fun start l e ids h hcondition hids => ?_) (fun ids hids => ?_)
    hmeets⟩
  · obtain ⟨n, hn⟩ := h
    exact ⟨n.swap, hn.swap⟩
  · obtain ⟨n, hn⟩ := h
    exact hn.step h8 hw56 hcondition.1 hcondition.2 hids
  · exact ⟨.idle a.sendRing.length b.sendRing.length, ⟨rfl, hids, List.nodup_nil⟩, .refl _,
      ⟨ha.endpointSim_idle hoff.1 _, hb.endpointSim_idle hoff.2 _, .nil, .nil, .refl _, .refl _,
        .inl rfl, .inl rfl⟩, hroom, hfits⟩

end Skylink
