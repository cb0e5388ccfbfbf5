import Skylink.Library.SessionWindow.Steps

/-!
# Runs

Every net that is reached from one with the invariant has it, and what follows for the
payloads that were handed over and for the windows.
-/

namespace SessionWindow

theorem inn_head {n : Net} {f : Frame} (hf : f ∈ n.inn.head?) : ∃ rest, n.inn = f :: rest := by
  cases h : n.inn with
  | nil => simp [h] at hf
  | cons g rest =>
      rw [h, List.head?_cons, Option.mem_def, Option.some.injEq] at hf
      exact ⟨rest, by rw [hf]⟩

/-- The session of a handshake is known to its sender. -/
theorem Inv.handshake_le {n : Net} (h : Inv n) {f : Frame} (hf : f ∈ n.inn) {z : Nat}
    (hz : f.handshake = some z) : z ≤ n.far.stamp.newest ∧ z ≤ n.created := by
  have hok := h.inn.frames f hf
  have hnewest := hok.wellFormed.session z (hok.handshake z hz)
  have hle := (h.inn.last f hf).newest
  have := h.inn.sender.newest_le
  omega

/-- A connected endpoint knows the sessions of all frames it can meet. -/
theorem Inv.frame_le {n : Net} (h : Inv n) :
    ∀ f ∈ n.inn, ∀ y, f.stamp.mode = .on y → y ≤ n.near.stamp.newest :=
  fun f hf => (h.inn.meets f hf).entered

variable {stale : Prop}

theorem Inv.step {n n' : Net} (h : Inv n) (hstep : Step stale n n') : Inv n' := by
  have hs := h.out.sender
  have hpeer := h.out.meetsNow
  have hon : ∀ z, n.near.stamp.mode = .on z → n.near.stamp.newest = z := by
    intro z hz
    exact hs.wellFormed.session z (by rw [hz, Mode.session_on])
  have hcreated := hs.newest_le
  cases hstep with
  | push =>
      exact ⟨h.out.keepStamp _ rfl rfl (Nat.le_succ _),
        h.inn.keepReceiver rfl rfl rfl rfl rfl rfl rfl rfl⟩
  | read u advance hlt hheld hready =>
      exact ⟨h.out.keepStamp _ rfl rfl le_rfl, h.inn.readReceiver hlt hheld hready⟩
  | advance z hmode hpushed hwidth =>
      exact ⟨h.out.advance hmode hpushed hwidth,
        h.inn.keepReceiver rfl rfl rfl rfl rfl rfl rfl rfl⟩
  | send f hf =>
      exact ⟨h.out.send hf, h.inn.appendAck hf.ack (fun _ _ => by rw [hf.stamp]) hon⟩
  | sendOff f hmode hpushed hwidth hstamp hhandshake hack hdata =>
      refine ⟨h.out.sendOff hmode hpushed hwidth hstamp hhandshake hdata, ?_⟩
      refine Dir.appendAck (r := { n.near with stamp := { n.near.stamp with
        tail := n.near.stamp.tx + 1, tx := n.near.stamp.tx + 1 } })
        (h.inn.keepReceiver rfl rfl rfl rfl rfl rfl rfl rfl) ?_ ?_ hon
      · intro k hk
        rw [hack] at hk
        cases hk
      · intro k hk
        rw [hack] at hk
        cases hk
  | lose out inn hout hinn =>
      exact ⟨(h.out.loseThere hout).loseBack hinn, (h.inn.loseThere hinn).loseBack hout⟩
  | connect =>
      refine ⟨h.out.restart (n.near.restart _ _) rfl ⟨rfl, rfl⟩ (fun z hz => ?_)
        ⟨by omega, le_rfl⟩ nofun hpeer.newest h.frame_le, ?_⟩
      · cases hz
        exact ⟨by omega, rfl⟩
      · have hrestart := h.inn.restartReceiver (.opening (n.created + 1)) (n.created + 1)
          nofun (fun z hz => by cases hz; omega) (by omega)
        exact hrestart.moreCreated (Nat.le_succ _)
  | disconnect =>
      exact ⟨h.out.restart (n.near.restart _ _) rfl ⟨rfl, rfl⟩
          (fun z hz => by cases hz) ⟨le_rfl, hcreated⟩ nofun hpeer.newest h.frame_le,
        h.inn.restartReceiver .off _ nofun nofun le_rfl⟩
  | enter f z hf hz hnew =>
      obtain ⟨rest, hrest⟩ := inn_head hf
      obtain ⟨hfar, hcreated⟩ := h.handshake_le (hrest ▸ List.mem_cons_self) hz
      refine ⟨h.out.restart ((n.near.restart _ _).connected _ _) rfl ⟨rfl, rfl⟩
        (fun y hy => ?_) ⟨hnew.le, hcreated⟩ (fun y hy => ?_) hpeer.newest h.frame_le, ?_⟩
      · cases hy
        exact ⟨hnew, rfl⟩
      · cases hy
        exact hfar
      · exact h.inn.connectReceiver hrest hz (.inl hnew) rfl rfl hnew.le rfl rfl rfl rfl rfl rfl
  | join f z hf hz hmode =>
      obtain ⟨rest, hrest⟩ := inn_head hf
      obtain ⟨hfar, -⟩ := h.handshake_le (hrest ▸ List.mem_cons_self) hz
      obtain ⟨htail, hhead, hheld⟩ := h.inn.received.opening z hmode
      have hnewest := hs.wellFormed.session z (by rw [hmode, Mode.session_opening])
      exact ⟨h.out.joinSender hmode hfar,
        h.inn.connectReceiver hrest hz (.inr hmode) rfl hnewest hnewest.le rfl htail hhead hheld
          rfl rfl⟩
  | ack f z k hf hk hmode =>
      obtain ⟨rest, hrest⟩ := inn_head hf
      have hnewest := hon z hmode
      have hmem : f ∈ n.inn := hrest ▸ List.mem_cons_self
      obtain ⟨y, hy, -⟩ := h.out.acks.window f hmem k hk
      obtain rfl := h.inn.session_eq hmem hy hmode hnewest
      have hout := h.out
      rw [hrest] at hout
      have hinn := h.inn
      refine ⟨?_, hinn.keepReceiver rfl rfl rfl rfl rfl rfl rfl rfl⟩
      have := hout.acknowledge hk hmode hy fun x hx => hinn.session_eq_now hx hmode hnewest
      rwa [← hrest] at this
  | takeOff f rest u advance hf hu hmode hfrom hfree hready =>
      have hinn := h.inn
      have hout := h.out
      rw [hf] at hinn hout
      exact ⟨(hout.keepStamp (n.near.take _ _ _) rfl rfl le_rfl).loseBack
          (List.sublist_cons_self _ _),
        hinn.takeOff hu hmode (hfrom.imp_right And.right) hready⟩
  | takeOn f rest z l u advance hf hu hmode hl hfree heq hon hready =>
      have hinn := h.inn
      have hout := h.out
      rw [hf] at hinn hout
      exact ⟨(hout.keepStamp (n.near.take _ _ _) rfl rfl le_rfl).loseBack
          (List.sublist_cons_self _ _),
        hinn.takeOn hu hmode hl heq hready hon⟩

/-- The invariant holds in every net that is reached. -/
theorem Inv.reaches {n n' : Net} (h : Inv n) (hreach : Reaches stale n n') : Inv n' := by
  induction hreach with
  | refl => exact h
  | near _ hstep ih => exact ih.step hstep
  | far _ hstep ih => exact (ih.swap.step hstep).swap

/-! ## The order of the payloads -/

namespace Ordered

variable {r : Node}

theorem read (h : Ordered r) (hr : Received r) {u : Nat} (advance : Nat)
    (hheld : r.held r.rTail = some u) :
    Ordered { r with
      rTail := r.rTail + 1
      rHead := r.rHead + advance
      held := Function.update r.held r.rTail none
      reads := r.reads ++ [u] } := by
  refine ⟨?_, fun l v hv x hx => ?_, fun l l' v v' hll hv hv' => ?_, fun z hz x hx => ?_⟩
  · rw [List.pairwise_append]
    refine ⟨h.reads, List.pairwise_singleton _ _, fun x hx y hy => ?_⟩
    rw [List.mem_singleton.mp hy]
    exact h.after _ _ hheld x hx
  · obtain ⟨hne, hv⟩ := held_of_cleared hv
    rcases List.mem_append.mp hx with hx | hx
    · exact h.after l v hv x hx
    · rw [List.mem_singleton.mp hx]
      have := (hr.window l v hv).1
      exact h.increasing r.rTail l u v (by omega) hheld hv
  · exact h.increasing l l' v v' hll (held_of_cleared hv).2 (held_of_cleared hv').2
  · simp only
    rcases List.mem_append.mp hx with hx | hx
    · have := h.on z hz x hx
      omega
    · rw [List.mem_singleton.mp hx, hr.on z hz _ _ hheld]
      omega

theorem take (h : Ordered r) {l u : Nat} (advance : Nat)
    (hu : ∀ l' v, r.held l' = some v → (l' < l → v < u) ∧ (l < l' → u < v))
    (hreads : ∀ x ∈ r.reads, x < u) : Ordered (r.take l u advance) := by
  refine ⟨h.reads, fun l' v hv x hx => ?_, fun l₁ l₂ v₁ v₂ hll hv₁ hv₂ => ?_, h.on⟩
  · rcases held_of_filled hv with ⟨rfl, rfl⟩ | hv
    · exact hreads x hx
    · exact h.after l' v hv x hx
  · rcases held_of_filled hv₁ with ⟨rfl, rfl⟩ | hold₁
    · rcases held_of_filled hv₂ with ⟨rfl, rfl⟩ | hold₂
      · exact absurd hll (lt_irrefl _)
      · exact (hu _ _ hold₂).2 hll
    · rcases held_of_filled hv₂ with ⟨rfl, rfl⟩ | hold₂
      · exact (hu _ _ hold₁).1 hll
      · exact h.increasing _ _ _ _ hll hold₁ hold₂

/-- A receiver that starts afresh at a payload after all that it has handed over. -/
theorem afresh (h : Ordered r) {r' : Node} (hreads : r'.reads = r.reads)
    (hheld : r'.held = fun _ => none)
    (horigin : ∀ z, r'.stamp.mode = .on z → ∀ x ∈ r.reads, x < r'.origin) : Ordered r' := by
  refine ⟨hreads ▸ h.reads, fun l v hv => ?_, fun l l' v v' _ hv => ?_, fun z hz x hx => ?_⟩
  · rw [hheld] at hv
    cases hv
  · rw [hheld] at hv
    cases hv
  · rw [hreads] at hx
    exact (horigin z hz x hx).trans_le (Nat.le_add_right _ _)

/-- Without stale payloads every step keeps the order. -/
theorem step {n n' : Net} (hn : Inv n) (h : Ordered n.near) (hstep : Step False n n') :
    Ordered n'.near := by
  have hr := hn.inn.received
  have hbase : ∀ f z, f ∈ n.inn.head? → f.handshake = some z → n.near.Unjoined z →
      ∀ x ∈ n.near.reads, x < f.stamp.base := by
    intro f z hf hz hnew x hx
    obtain ⟨rest, hrest⟩ := inn_head hf
    have hmem : f ∈ n.inn := hrest ▸ List.mem_cons_self
    have hsession := (hn.inn.frames f hmem).handshake z hz
    exact (hr.reads_bound x hx).trans_le ((hn.inn.meets f hmem).fresh z hsession hnew).1
  cases hstep with
  | read u advance hlt hheld hready => exact h.read hr advance hheld
  | connect => exact h.afresh rfl rfl nofun
  | disconnect => exact h.afresh rfl rfl nofun
  | enter f z hf hz hnew => exact h.afresh rfl rfl fun _ _ => hbase f z hf hz (.inl hnew)
  | join f z hf hz hmode =>
      exact h.afresh rfl (hr.opening z hmode).2.2 fun _ _ => hbase f z hf hz (.inr hmode)
  | takeOff f rest u advance hf hu hmode hfrom hfree hready =>
      have hoff := hfrom.resolve_right (fun hstale => hstale.1)
      have hmem : f ∈ n.inn := hf ▸ List.mem_cons_self
      have hbound : n.near.bound ≤ u := by
        rw [((hn.inn.frames f hmem).data u hu).2.2 hoff]
        exact (hn.inn.meets f hmem).off hoff
      refine h.take advance (fun l v hv => ⟨fun _ => ?_, fun hlt => ?_⟩)
        (fun x hx => (hr.reads_bound x hx).trans_le hbound)
      · exact ((hr.window l v hv).2).trans_le hbound
      · exact absurd (hr.idle (by simp [hmode]) l v hv) (not_le.mpr hlt)
  | takeOn f rest z l u advance hf hu hmode hl hfree heq hon hready =>
      have horder := hr.order
      refine h.take advance (fun l' v hv => ?_) (fun x hx => ?_)
      · have := hr.on z hmode l' v hv
        constructor <;> intro <;> omega
      · have := h.on z hmode x hx
        omega
  | _ => exact ⟨h.reads, h.after, h.increasing, by simpa using h.on⟩

end Ordered

theorem Step.far_eq {n n' : Net} (hstep : Step stale n n') : n'.far = n.far := by
  cases hstep <;> rfl

/-- Without stale payloads both endpoints keep the order. -/
theorem Inv.ordered {n n' : Net} (hn : Inv n) (hnear : Ordered n.near) (hfar : Ordered n.far)
    (hreach : Reaches False n n') : Ordered n'.near ∧ Ordered n'.far := by
  induction hreach with
  | refl => exact ⟨hnear, hfar⟩
  | near hmid hstep ih =>
      exact ⟨ih.1.step (hn.reaches hmid) hstep, hstep.far_eq ▸ ih.2⟩
  | @far n' n'' hmid hstep ih =>
      have hsame : n''.swap.near = n'.near := hstep.far_eq
      rw [hsame]
      exact ⟨ih.1, ih.2.step (hn.reaches hmid).swap hstep⟩

/-! ## Where runs start -/

/-- An endpoint that has not sent or received anything. -/
def Node.fresh (width : Nat) (mode : Mode) (newest : Nat) : Node :=
  { stamp := { mode := mode, epoch := 0, newest := newest, base := 0, tail := 0, tx := 0 }
    width := width, pushed := 0, origin := 0, rTail := 0, rHead := 0
    held := fun _ => none, reads := [], bound := 0 }

theorem Node.fresh_received (width : Nat) (mode : Mode) (newest : Nat) :
    Received (fresh width mode newest) :=
  ⟨le_rfl, fun l _ hl => absurd hl (Nat.not_lt_zero l), nofun, nofun, fun _ _ => nofun,
    fun _ => nofun, fun _ _ => ⟨rfl, rfl, rfl⟩⟩

theorem Node.fresh_ordered (width : Nat) (mode : Mode) (newest : Nat) :
    Ordered (fresh width mode newest) :=
  ⟨.nil, nofun, nofun, fun _ _ => nofun⟩

/-- Both endpoints without a session. -/
def Net.idle (width width' : Nat) : Net :=
  { near := .fresh width .off 0, far := .fresh width' .off 0, out := [], inn := [], created := 0 }

/-- Both endpoints in one session. -/
def Net.connected (width width' : Nat) : Net :=
  { near := .fresh width (.on 1) 1, far := .fresh width' (.on 1) 1, out := [], inn := []
    created := 1 }

theorem dir_idle {width width' : Nat} (hwidth : 0 < width) :
    Dir (.fresh width .off 0) (.fresh width' .off 0) [] [] 0 :=
  { sender := ⟨⟨le_rfl, le_rfl, by simpa [Node.fresh] using hwidth, nofun, nofun⟩, le_rfl,
      fun _ => rfl, le_rfl⟩
    frames := nofun, order := .nil, last := nofun, meets := nofun
    meetsNow := ⟨le_rfl, fun _ => le_rfl, nofun, nofun, nofun, nofun, nofun⟩
    received := Node.fresh_received _ _ _
    acks := ⟨nofun, .nil⟩ }

theorem dir_connected {width width' : Nat} (hwidth : 0 < width) :
    Dir (.fresh width (.on 1) 1) (.fresh width' (.on 1) 1) [] [] 1 := by
  have hone : ∀ z, Mode.on 1 = .on z → z = 1 := by
    intro z hz
    cases hz
    rfl
  refine
    { sender := ⟨⟨le_rfl, le_rfl, by simpa [Node.fresh] using hwidth, fun z hz => ?_,
        fun z hz => ?_⟩, le_rfl, nofun, le_rfl⟩
      frames := nofun, order := .nil, last := nofun, meets := nofun
      meetsNow := ⟨le_rfl, nofun, fun z hz => (hone z hz).le, fun z _ _ => ⟨le_rfl, rfl⟩,
        fun z hz => (hone z hz).le, fun _ _ _ => ⟨rfl, le_rfl⟩, fun _ _ => le_rfl⟩
      received := Node.fresh_received _ _ _
      acks := ⟨nofun, .nil⟩ }
  · cases hz
    rfl
  · cases hz
    exact Nat.one_pos

theorem inv_idle {width width' : Nat} (hwidth : 0 < width) (hwidth' : 0 < width') :
    Inv (.idle width width') :=
  ⟨dir_idle hwidth, dir_idle hwidth'⟩

theorem inv_connected {width width' : Nat} (hwidth : 0 < width) (hwidth' : 0 < width') :
    Inv (.connected width width') :=
  ⟨dir_connected hwidth, dir_connected hwidth'⟩

/-! ## What the invariant says -/

/-- In a common session the head of the receiver lies in the window of the sender. -/
theorem Inv.window {n : Net} (h : Inv n) {y z : Nat} (hnear : n.near.stamp.mode = .on y)
    (hfar : n.far.stamp.mode = .on z) :
    y = z ∧ n.far.origin = n.near.stamp.base ∧ n.near.stamp.tail ≤ n.far.origin + n.far.rHead ∧
      n.far.origin + n.far.rHead ≤ n.near.stamp.tx := by
  have hnewest := h.inn.sender.wellFormed.session z (by rw [hfar, Mode.session_on])
  obtain rfl := h.out.session_eq_now hnear hfar hnewest
  obtain ⟨hbase, htail⟩ := h.out.meetsNow.origin y hfar (by rw [hnear, Mode.session_on])
  exact ⟨rfl, hbase.symm, htail, h.out.meetsNow.head y hfar⟩

/-! ## Within one epoch -/

/-- The number of times an endpoint has started afresh never decreases. -/
theorem Step.epoch_le {n n' : Net} (hstep : Step stale n n') :
    n.near.stamp.epoch ≤ n'.near.stamp.epoch := by
  cases hstep with
  | connect => exact Nat.le_succ _
  | disconnect => exact Nat.le_succ _
  | enter f z hf hz hnew => exact Nat.le_succ _
  | _ => exact le_rfl

/-- What the steps of an endpoint keep in one epoch holds in every net that is reached
while the epoch lasts. -/
theorem Reaches.near_induction {P : Node → Prop} {n n' : Net} (h : Inv n)
    (hreach : Reaches stale n n') (hstart : P n.near)
    (hkeep : ∀ {m m' : Net}, Inv m → Step stale m m' → P m.near →
      m'.near.stamp.epoch = m.near.stamp.epoch → P m'.near) :
    n.near.stamp.epoch ≤ n'.near.stamp.epoch ∧
      (n'.near.stamp.epoch = n.near.stamp.epoch → P n'.near) := by
  induction hreach with
  | refl => exact ⟨le_rfl, fun _ => hstart⟩
  | near hmid hstep ih =>
      have hle := hstep.epoch_le
      exact ⟨ih.1.trans hle,
        fun heq => hkeep (h.reaches hmid) hstep (ih.2 (by omega)) (by omega)⟩
  | @far n' n'' hmid hstep ih =>
      have hsame : n''.swap.near = n'.near := hstep.far_eq
      rw [hsame]
      exact ih

/-- Everything from the first payload on has been handed over, without a gap. -/
structure Node.Whole (r : Node) (z : Nat) : Prop where
  mode : r.stamp.mode = .on z
  origin : r.origin = 0
  reads : r.reads = List.range r.rTail

/-- As long as it does not start afresh, an endpoint in a session hands over payload
after payload. -/
theorem Step.whole {n n' : Net} (h : Inv n) (hstep : Step stale n n') {z : Nat}
    (hwhole : n.near.Whole z) (hepoch : n'.near.stamp.epoch = n.near.stamp.epoch) :
    n'.near.Whole z := by
  obtain ⟨hmode, horigin, hreads⟩ := hwhole
  cases hstep with
  | read u advance hlt hheld hready =>
      refine ⟨hmode, horigin, ?_⟩
      have hval := h.inn.received.on z hmode _ _ hheld
      show n.near.reads ++ [u] = List.range (n.near.rTail + 1)
      rw [hreads, hval, horigin, Nat.zero_add, List.range_succ]
  | connect => exact absurd hepoch (Nat.succ_ne_self _)
  | disconnect => exact absurd hepoch (Nat.succ_ne_self _)
  | enter f z' hf hz hnew => exact absurd hepoch (Nat.succ_ne_self _)
  | join f z' hf hz hopening =>
      rw [hmode] at hopening
      cases hopening
  | sendOff f hoff hpushed hwidth hstamp hhandshake hack hdata =>
      rw [hmode] at hoff
      cases hoff
  | _ => exact ⟨hmode, horigin, hreads⟩

theorem Reaches.whole {n n' : Net} (h : Inv n) (hreach : Reaches stale n n') {z : Nat}
    (hwhole : n.near.Whole z) : n.near.stamp.epoch ≤ n'.near.stamp.epoch ∧
      (n'.near.stamp.epoch = n.near.stamp.epoch → n'.near.Whole z) :=
  hreach.near_induction (P := (Node.Whole · z)) h hwhole
    fun hm hstep hwhole => hstep.whole hm hwhole

/-- The window of a sender and the head of a receiver only move forward. -/
structure Node.Ahead (r r' : Node) : Prop where
  base : r'.stamp.base = r.stamp.base
  tail : r.stamp.tail ≤ r'.stamp.tail
  tx : r.stamp.tx ≤ r'.stamp.tx
  head : r.rHead ≤ r'.rHead

theorem Step.ahead {n n' : Net} (h : Inv n) (hstep : Step stale n n')
    (hepoch : n'.near.stamp.epoch = n.near.stamp.epoch) : n.near.Ahead n'.near := by
  cases hstep with
  | read u advance hlt hheld hready => exact ⟨rfl, le_rfl, le_rfl, Nat.le_add_right _ _⟩
  | advance z hmode hpushed hwidth => exact ⟨rfl, le_rfl, Nat.le_succ _, le_rfl⟩
  | sendOff f hmode hpushed hwidth hstamp hhandshake hack hdata =>
      have := h.out.sender.wellFormed.tail_le
      exact ⟨rfl, this.trans (Nat.le_succ _), Nat.le_succ _, le_rfl⟩
  | connect => exact absurd hepoch (Nat.succ_ne_self _)
  | disconnect => exact absurd hepoch (Nat.succ_ne_self _)
  | enter f z hf hz hnew => exact absurd hepoch (Nat.succ_ne_self _)
  | ack f z k hf hk hmode =>
      obtain ⟨rest, hrest⟩ := inn_head hf
      have hmem : f ∈ n.inn := hrest ▸ List.mem_cons_self
      have hsession : n.near.stamp.mode.session = some z := by rw [hmode, Mode.session_on]
      obtain ⟨y, hy, -, hwindow, -⟩ := h.out.acks.window f hmem k hk
      obtain rfl := h.inn.session_eq hmem hy hmode (h.out.sender.wellFormed.session z hsession)
      exact ⟨rfl, (hwindow hsession).1, le_rfl, le_rfl⟩
  | takeOff f rest u advance hf hu hmode hfrom hfree hready =>
      exact ⟨rfl, le_rfl, le_rfl, Nat.le_add_right _ _⟩
  | takeOn f rest z l u advance hf hu hmode hl hfree heq hon hready =>
      exact ⟨rfl, le_rfl, le_rfl, Nat.le_add_right _ _⟩
  | _ => exact ⟨rfl, le_rfl, le_rfl, le_rfl⟩

theorem Reaches.ahead {n n' : Net} (h : Inv n) (hreach : Reaches stale n n')
    (hepoch : n'.near.stamp.epoch = n.near.stamp.epoch) : n.near.Ahead n'.near := by
  refine (hreach.near_induction h (P := n.near.Ahead) ⟨rfl, le_rfl, le_rfl, le_rfl⟩
    fun hm hstep hahead hepoch => ?_).2 hepoch
  have hnext := hstep.ahead hm hepoch
  exact ⟨hnext.base.trans hahead.base, hahead.tail.trans hnext.tail, hahead.tx.trans hnext.tx,
    hahead.head.trans hnext.head⟩

end SessionWindow
