import Skylink.Library.SessionWindow.Model

/-!
# Safety of sliding windows over sessions

The invariant of one direction speaks about the stamps of the sender in the order in
which the receiver meets them, the oldest frame first and the present state of the
sender last. Whatever the receiver has taken lies before the transmit head of every
stamp it can still meet; in a common session its head lies in every window it can meet.
-/

namespace SessionWindow

/-! ## Stamps -/

structure Stamp.WellFormed (a : Stamp) (width : Nat) : Prop where
  base_le : a.base ≤ a.tail
  tail_le : a.tail ≤ a.tx
  window : a.tx < a.tail + width
  session : ∀ z, a.mode.session = some z → a.newest = z
  positive : ∀ z, a.mode.session = some z → 0 < z

/-- `a` is a stamp that the sender of `b` had before. -/
structure Precedes (a b : Stamp) : Prop where
  epoch : a.epoch ≤ b.epoch
  newest : a.newest ≤ b.newest
  tail : a.tail ≤ b.tail
  tx : a.tx ≤ b.tx
  same : a.epoch = b.epoch →
    a.base = b.base ∧ a.newest = b.newest ∧ a.mode.session = b.mode.session
  later : a.epoch < b.epoch → a.tx ≤ b.base ∧ ∀ z, b.mode.session = some z → a.newest < z
  off : b.mode = .off → a.tx ≤ b.tail

namespace Precedes

variable {a b c : Stamp}

theorem trans (h : Precedes a b) (h' : Precedes b c) : Precedes a c := by
  refine ⟨h.epoch.trans h'.epoch, h.newest.trans h'.newest, h.tail.trans h'.tail,
    h.tx.trans h'.tx, fun heq => ?_, fun hlt => ?_, fun hoff => h.tx.trans (h'.off hoff)⟩
  · obtain ⟨hbase, hnewest, hsession⟩ := h.same (by have := h.epoch; have := h'.epoch; omega)
    obtain ⟨hbase', hnewest', hsession'⟩ :=
      h'.same (by have := h.epoch; have := h'.epoch; omega)
    exact ⟨hbase.trans hbase', hnewest.trans hnewest', hsession.trans hsession'⟩
  · rcases Nat.lt_or_ge b.epoch c.epoch with hbc | hbc
    · obtain ⟨htx, hnew⟩ := h'.later hbc
      exact ⟨h.tx.trans htx, fun z hz => lt_of_le_of_lt h.newest (hnew z hz)⟩
    · obtain ⟨hbase, -, hsession⟩ := h'.same (le_antisymm h'.epoch hbc)
      obtain ⟨htx, hnew⟩ := h.later (by omega)
      exact ⟨by omega, fun z hz => hnew z (hsession.trans hz)⟩

/-- Two stamps of one session are of one epoch. -/
theorem base_eq {width : Nat} (h : Precedes a b) (ha : a.WellFormed width) {z : Nat}
    (hz : a.mode.session = some z) (hz' : b.mode.session = some z) : a.base = b.base := by
  rcases Nat.eq_or_lt_of_le h.epoch with heq | hlt
  · exact (h.same heq).1
  · have := (h.later hlt).2 z hz'
    have := ha.session z hz
    omega

/-- A stamp of another session starts after everything sent before. -/
theorem tx_le_base (h : Precedes a b) (hne : a.mode.session ≠ b.mode.session) :
    a.tx ≤ b.base := by
  rcases Nat.eq_or_lt_of_le h.epoch with heq | hlt
  · exact absurd (h.same heq).2.2 hne
  · exact (h.later hlt).1

end Precedes

theorem precedes_self {a : Stamp} (h : a.mode = .off → a.tail = a.tx) : Precedes a a :=
  ⟨le_rfl, le_rfl, le_rfl, le_rfl, fun _ => ⟨rfl, rfl, rfl⟩, fun hlt => absurd hlt (by omega),
    fun hoff => (h hoff).ge⟩

/-! ## The invariant -/

/-- What holds of the sending side of an endpoint alone. -/
structure Sender (s : Node) (created : Nat) : Prop where
  wellFormed : s.stamp.WellFormed s.width
  pushed : s.stamp.tx ≤ s.pushed
  idle : s.stamp.mode = .off → s.stamp.tail = s.stamp.tx
  newest_le : s.stamp.newest ≤ created

structure FrameOk (f : Frame) (width : Nat) : Prop where
  wellFormed : f.stamp.WellFormed width
  handshake : ∀ z, f.handshake = some z → f.stamp.mode.session = some z
  data : ∀ u, f.data = some u →
    f.stamp.tail ≤ u ∧ u < f.stamp.tx ∧ (f.stamp.mode = .off → u = f.stamp.tail)

/-- The endpoint has not been connected in the session, and may still be. -/
def Node.Unjoined (r : Node) (z : Nat) : Prop :=
  r.stamp.newest < z ∨ r.stamp.mode = .opening z

/-- What the receiver relies on when it meets a stamp. -/
structure Meets (r : Node) (a : Stamp) : Prop where
  bound : r.bound ≤ a.tx
  off : a.mode = .off → r.bound ≤ a.tail
  entered : ∀ z, a.mode = .on z → z ≤ r.stamp.newest
  fresh : ∀ z, a.mode.session = some z → r.Unjoined z → r.bound ≤ a.base ∧ a.tail = a.base
  newest : ∀ z, r.stamp.mode = .on z → z ≤ a.newest
  origin : ∀ z, r.stamp.mode = .on z → a.mode.session = some z →
    a.base = r.origin ∧ a.tail ≤ r.origin + r.rHead
  head : ∀ z, r.stamp.mode = .on z → r.origin + r.rHead ≤ a.tx

/-- The window of the receiver; in a session every payload has its place. -/
structure Received (r : Node) : Prop where
  order : r.rTail ≤ r.rHead
  ready : ∀ l, r.rTail ≤ l → l < r.rHead → (r.held l).isSome
  reads_bound : ∀ x ∈ r.reads, x < r.bound
  window : ∀ l u, r.held l = some u → r.rTail ≤ l ∧ u < r.bound
  on : ∀ z, r.stamp.mode = .on z → ∀ l u, r.held l = some u → u = r.origin + l
  idle : (∀ z, r.stamp.mode ≠ .on z) → ∀ l u, r.held l = some u → l ≤ r.rHead
  opening : ∀ z, r.stamp.mode = .opening z →
    r.rTail = 0 ∧ r.rHead = 0 ∧ r.held = fun _ => none

/-- What the receiver holds and has handed over is in the order of sending. -/
structure Ordered (r : Node) : Prop where
  reads : r.reads.Pairwise (· < ·)
  after : ∀ l u, r.held l = some u → ∀ x ∈ r.reads, x < u
  increasing : ∀ l l' u u', l < l' → r.held l = some u → r.held l' = some u' → u < u'
  on : ∀ z, r.stamp.mode = .on z → ∀ x ∈ r.reads, x < r.origin + r.rTail

/-- The acknowledgements on their way back to `s`. -/
structure Acks (s r : Node) (back : List Frame) : Prop where
  window : ∀ f ∈ back, ∀ k, f.ack = some k → ∃ y, f.stamp.mode = .on y ∧ ¬r.Unjoined y ∧
    (s.stamp.mode.session = some y →
      s.stamp.tail ≤ s.stamp.base + k ∧ s.stamp.base + k ≤ s.stamp.tx) ∧
    (r.stamp.mode = .on y → k ≤ r.rHead)
  sorted : back.Pairwise fun f g => ∀ k k', f.ack = some k → g.ack = some k' →
    f.stamp.mode = g.stamp.mode → k ≤ k'

/-- The invariant of the direction from `s` to `r`. -/
structure Dir (s r : Node) (there back : List Frame) (created : Nat) : Prop where
  sender : Sender s created
  frames : ∀ f ∈ there, FrameOk f s.width
  order : there.Pairwise fun f g => Precedes f.stamp g.stamp
  last : ∀ f ∈ there, Precedes f.stamp s.stamp
  meets : ∀ f ∈ there, Meets r f.stamp
  meetsNow : Meets r s.stamp
  received : Received r
  acks : Acks s r back

structure Inv (n : Net) : Prop where
  out : Dir n.near n.far n.out n.inn n.created
  inn : Dir n.far n.near n.inn n.out n.created

theorem Inv.swap {n : Net} (h : Inv n) : Inv n.swap := ⟨h.inn, h.out⟩

namespace Dir

variable {s r : Node} {there back : List Frame} {created : Nat}

/-! ## Changes of one side -/

/-- The sender moves on. -/
theorem moveSender (h : Dir s r there back created) {s' : Node} {created' : Nat}
    (hsender : Sender s' created') (hwidth : s'.width = s.width)
    (hprec : Precedes s.stamp s'.stamp) (hmeets : Meets r s'.stamp) (hacks : Acks s' r back) :
    Dir s' r there back created' :=
  ⟨hsender, fun f hf => hwidth ▸ h.frames f hf, h.order, fun f hf => (h.last f hf).trans hprec,
    h.meets, hmeets, h.received, hacks⟩

/-- The receiver moves on. -/
theorem moveReceiver (h : Dir s r there back created) {r' : Node}
    (hmeets : ∀ a, Meets r a → (a = s.stamp ∨ ∃ f ∈ there, a = f.stamp) → Meets r' a)
    (hreceived : Received r') (hacks : Acks s r' back) : Dir s r' there back created :=
  ⟨h.sender, h.frames, h.order, h.last,
    fun f hf => hmeets _ (h.meets f hf) (.inr ⟨f, hf, rfl⟩), hmeets _ h.meetsNow (.inl rfl),
    hreceived, hacks⟩

/-- Frames on the way out are lost. -/
theorem loseThere (h : Dir s r there back created) {there' : List Frame}
    (hsub : there'.Sublist there) : Dir s r there' back created :=
  ⟨h.sender, fun f hf => h.frames f (hsub.subset hf), h.order.sublist hsub,
    fun f hf => h.last f (hsub.subset hf), fun f hf => h.meets f (hsub.subset hf), h.meetsNow,
    h.received, h.acks⟩

/-- Acknowledgements are lost. -/
theorem loseBack (h : Dir s r there back created) {back' : List Frame}
    (hsub : back'.Sublist back) : Dir s r there back' created :=
  { h with acks := ⟨fun f hf => h.acks.window f (hsub.subset hf), h.acks.sorted.sublist hsub⟩ }

theorem moreCreated (h : Dir s r there back created) {created' : Nat}
    (hle : created ≤ created') : Dir s r there back created' :=
  { h with sender := { h.sender with newest_le := h.sender.newest_le.trans hle } }

/-- A frame joins the end of the channel, with a stamp between the last ones and that of
the sender. -/
theorem appendFrame (h : Dir s r there back created) {f : Frame} (hf : FrameOk f s.width)
    (hafter : ∀ g ∈ there, Precedes g.stamp f.stamp) (hbefore : Precedes f.stamp s.stamp)
    (hmeets : Meets r f.stamp) : Dir s r (there ++ [f]) back created := by
  refine ⟨h.sender, fun g hg => ?_, ?_, fun g hg => ?_, fun g hg => ?_, h.meetsNow, h.received,
    h.acks⟩
  · rcases List.mem_append.mp hg with hg | hg
    · exact h.frames g hg
    · rw [List.mem_singleton.mp hg]
      exact hf
  · rw [List.pairwise_append]
    exact ⟨h.order, List.pairwise_singleton _ _, fun g hg g' hg' => by
      rw [List.mem_singleton.mp hg']
      exact hafter g hg⟩
  · rcases List.mem_append.mp hg with hg | hg
    · exact h.last g hg
    · rw [List.mem_singleton.mp hg]
      exact hbefore
  · rcases List.mem_append.mp hg with hg | hg
    · exact h.meets g hg
    · rw [List.mem_singleton.mp hg]
      exact hmeets

/-- An acknowledgement joins the end of the channel back. -/
theorem appendAck (h : Dir s r there back created) {f : Frame}
    (hmode : ∀ k, f.ack = some k → k = r.rHead ∧ ∃ z, r.stamp.mode = .on z)
    (hstamp : ∀ k, f.ack = some k → f.stamp.mode = r.stamp.mode)
    (hnewest : ∀ z, r.stamp.mode = .on z → r.stamp.newest = z) :
    Dir s r there (back ++ [f]) created := by
  refine { h with acks := ⟨fun g hg k hk => ?_, ?_⟩ }
  · rcases List.mem_append.mp hg with hg | hg
    · exact h.acks.window g hg k hk
    · rw [List.mem_singleton.mp hg] at hk ⊢
      obtain ⟨rfl, z, hz⟩ := hmode k hk
      refine ⟨z, (hstamp _ hk).trans hz, ?_, fun hs => ?_, fun _ => le_rfl⟩
      · rintro (hlt | hopening)
        · exact absurd (hnewest z hz) (Nat.ne_of_lt hlt)
        · rw [hz] at hopening
          cases hopening
      obtain ⟨hbase, htail⟩ := h.meetsNow.origin z hz hs
      have hhead := h.meetsNow.head z hz
      rw [hbase]
      exact ⟨htail, hhead⟩
  · rw [List.pairwise_append]
    refine ⟨h.acks.sorted, List.pairwise_singleton _ _, fun g hg g' hg' k k' hk hk' heq => ?_⟩
    rw [List.mem_singleton.mp hg'] at hk' heq
    obtain ⟨rfl, z, hz⟩ := hmode k' hk'
    obtain ⟨y, hy, -, -, hle⟩ := h.acks.window g hg k hk
    rw [hstamp _ hk', hy] at heq
    exact hle heq.symm

/-! ## Facts about one direction -/

/-- A connected receiver meets frames of its own session only. -/
theorem session_eq (h : Dir s r there back created) {f : Frame} (hf : f ∈ there) {y z : Nat}
    (hy : f.stamp.mode = .on y) (hz : r.stamp.mode = .on z) (hr : r.stamp.newest = z) : y = z := by
  have hle := (h.meets f hf).entered y hy
  have hge := (h.meets f hf).newest z hz
  have := (h.frames f hf).wellFormed.session y (by rw [hy, Mode.session_on])
  omega

/-- The sessions of two connected endpoints are the same. -/
theorem session_eq_now (h : Dir s r there back created) {y z : Nat}
    (hy : s.stamp.mode = .on y) (hz : r.stamp.mode = .on z) (hr : r.stamp.newest = z) : y = z := by
  have hle := h.meetsNow.entered y hy
  have hge := h.meetsNow.newest z hz
  have := h.sender.wellFormed.session y (by rw [hy, Mode.session_on])
  omega

end Dir

end SessionWindow
