import Skylink.Library.SessionWindow.Safety

/-!
# Every step keeps the invariant

A step of an endpoint is a step of the sender of one direction and of the receiver of
the other.
-/

namespace SessionWindow

/-! ## Payloads in the window -/

/-- A payload that is held once a position is cleared. -/
theorem held_of_cleared {held : Nat → Option Nat} {t l v : Nat}
    (h : Function.update held t none l = some v) : l ≠ t ∧ held l = some v := by
  by_cases hl : l = t
  · rw [hl, Function.update_self] at h
    cases h
  · rw [Function.update_of_ne hl] at h
    exact ⟨hl, h⟩

/-- A payload that is held once a position is filled. -/
theorem held_of_filled {held : Nat → Option Nat} {t u l v : Nat}
    (h : Function.update held t (some u) l = some v) : (l = t ∧ v = u) ∨ held l = some v := by
  by_cases hl : l = t
  · rw [hl, Function.update_self] at h
    cases h
    exact .inl ⟨hl, rfl⟩
  · rw [Function.update_of_ne hl] at h
    exact .inr h

/-! ## Steps of the sender -/

namespace Dir

variable {s r : Node} {there back : List Frame} {created : Nat}

/-- Steps that leave the stamp alone. -/
theorem keepStamp (h : Dir s r there back created) (s' : Node) (hstamp : s'.stamp = s.stamp)
    (hwidth : s'.width = s.width) (hpushed : s.pushed ≤ s'.pushed) :
    Dir s' r there back created := by
  have hs := h.sender
  have hacks := h.acks
  refine h.moveSender ?_ hwidth ?_ (hstamp ▸ h.meetsNow) ?_
  · refine ⟨?_, ?_, ?_, ?_⟩
    · rw [hstamp, hwidth]
      exact hs.wellFormed
    · rw [hstamp]
      exact hs.pushed.trans hpushed
    · rw [hstamp]
      exact hs.idle
    · rw [hstamp]
      exact hs.newest_le
  · rw [hstamp]
    exact precedes_self hs.idle
  · refine ⟨?_, hacks.sorted⟩
    rw [hstamp]
    exact hacks.window

/-- Another payload of the window is on its way. -/
theorem advance (h : Dir s r there back created) {z : Nat} (hmode : s.stamp.mode = .on z)
    (hpushed : s.stamp.tx < s.pushed) (hwidth : s.stamp.tx + 1 < s.stamp.tail + s.width) :
    Dir { s with stamp := { s.stamp with tx := s.stamp.tx + 1 } } r there back created := by
  have hs := h.sender
  have hm := h.meetsNow
  have htail := hs.wellFormed.tail_le
  refine h.moveSender ?_ rfl ?_ ?_ ?_
  · exact ⟨⟨hs.wellFormed.base_le, by simp only; omega, hwidth, hs.wellFormed.session,
        hs.wellFormed.positive⟩, hpushed,
      fun hoff => by simp [hmode] at hoff, hs.newest_le⟩
  · exact ⟨le_rfl, le_rfl, le_rfl, Nat.le_succ _, fun _ => ⟨rfl, rfl, rfl⟩,
      fun hlt => absurd hlt (lt_irrefl _), fun hoff => by simp [hmode] at hoff⟩
  · exact ⟨hm.bound.trans (Nat.le_succ _), hm.off, hm.entered, hm.fresh, hm.newest,
      hm.origin, fun z hz => (hm.head z hz).trans (Nat.le_succ _)⟩
  · refine ⟨fun f hf k hk => ?_, h.acks.sorted⟩
    obtain ⟨y, hy, hknown, hwindow, hhead⟩ := h.acks.window f hf k hk
    exact ⟨y, hy, hknown, fun hz => ⟨(hwindow hz).1, (hwindow hz).2.trans (Nat.le_succ _)⟩,
      hhead⟩

theorem send (h : Dir s r there back created) {f : Frame} (hf : Sendable s f) :
    Dir s r (there ++ [f]) back created := by
  have hs := h.sender
  refine h.appendFrame ⟨?_, ?_, ?_⟩ ?_ ?_ ?_
  · rw [hf.stamp]
    exact hs.wellFormed
  · rw [hf.stamp]
    exact hf.handshake
  · intro u hu
    obtain ⟨hlo, hhi, z, hz⟩ := hf.data u hu
    rw [hf.stamp]
    exact ⟨hlo, hhi, fun hoff => by simp [hz] at hoff⟩
  · rw [hf.stamp]
    exact h.last
  · rw [hf.stamp]
    exact precedes_self hs.idle
  · rw [hf.stamp]
    exact h.meetsNow

/-- Without a session a payload is sent once and leaves the window at once. -/
theorem sendOff (h : Dir s r there back created) {f : Frame} (hmode : s.stamp.mode = .off)
    (hpushed : s.stamp.tx < s.pushed) (hwidth : 1 < s.width)
    (hstamp : f.stamp = { s.stamp with tx := s.stamp.tx + 1 }) (hhandshake : f.handshake = none)
    (hdata : f.data = some s.stamp.tx) :
    Dir { s with stamp := { s.stamp with tail := s.stamp.tx + 1, tx := s.stamp.tx + 1 } } r
      (there ++ [f]) back created := by
  have hs := h.sender
  have hm := h.meetsNow
  have hidle := hs.idle hmode
  have htail := hs.wellFormed.tail_le
  have hbase := hs.wellFormed.base_le
  have hnosession : ∀ z, s.stamp.mode.session ≠ some z := by simp [hmode]
  have hnoton : ∀ z, s.stamp.mode ≠ .on z := by simp [hmode]
  have hmoved : Dir { s with
      stamp := { s.stamp with tail := s.stamp.tx + 1, tx := s.stamp.tx + 1 } } r there back
      created := by
    refine h.moveSender ?_ rfl ?_ ?_ ?_
    · exact ⟨⟨by simp only; omega, le_rfl, by simp only; omega, hs.wellFormed.session,
        hs.wellFormed.positive⟩, hpushed,
        fun _ => rfl, hs.newest_le⟩
    · exact ⟨le_rfl, le_rfl, by simp only; omega, Nat.le_succ _, fun _ => ⟨rfl, rfl, rfl⟩,
        fun hlt => absurd hlt (lt_irrefl _), fun _ => Nat.le_succ _⟩
    · refine ⟨hm.bound.trans (Nat.le_succ _), fun _ => hm.bound.trans (Nat.le_succ _),
        hm.entered, fun z hz => absurd hz (hnosession z), hm.newest,
        fun z _ hz => absurd hz (hnosession z), fun z hz => (hm.head z hz).trans (Nat.le_succ _)⟩
    · refine ⟨fun g hg k hk => ?_, h.acks.sorted⟩
      obtain ⟨y, hy, hknown, -, hhead⟩ := h.acks.window g hg k hk
      exact ⟨y, hy, hknown, fun hz => absurd hz (hnosession y), hhead⟩
  have hnext : Precedes s.stamp f.stamp := by
    rw [hstamp]
    exact ⟨le_rfl, le_rfl, le_rfl, Nat.le_succ _, fun _ => ⟨rfl, rfl, rfl⟩,
      fun hlt => absurd hlt (lt_irrefl _), fun _ => hidle.ge⟩
  refine hmoved.appendFrame ⟨?_, ?_, ?_⟩ (fun g hg => (h.last g hg).trans hnext) ?_ ?_
  · rw [hstamp]
    exact ⟨hbase, by simp only; omega, by simp only; omega, hs.wellFormed.session,
      hs.wellFormed.positive⟩
  · intro z hz
    rw [hhandshake] at hz
    cases hz
  · intro u hu
    rw [hdata] at hu
    cases hu
    rw [hstamp]
    exact ⟨htail, Nat.lt_succ_self _, fun _ => hidle.symm⟩
  · rw [hstamp]
    exact ⟨le_rfl, le_rfl, by simp only; omega, le_rfl, fun _ => ⟨rfl, rfl, rfl⟩,
      fun hlt => absurd hlt (lt_irrefl _), fun _ => le_rfl⟩
  · rw [hstamp]
    exact ⟨hm.bound.trans (Nat.le_succ _), hm.off, hm.entered,
      fun z hz => absurd hz (hnosession z), hm.newest,
      fun z _ hz => absurd hz (hnosession z),
      fun z hz => (hm.head z hz).trans (Nat.le_succ _)⟩

/-- The sender starts afresh, without a session or in one that it has not known. -/
theorem restart (h : Dir s r there back created) (s' : Node) {mode : Mode}
    {newest created' : Nat}
    (hstamp : s'.stamp =
      { mode := mode, epoch := s.stamp.epoch + 1, newest := newest
        base := s.pushed, tail := s.pushed, tx := s.pushed })
    (hsame : s'.width = s.width ∧ s'.pushed = s.pushed)
    (hsession : ∀ z, mode.session = some z → s.stamp.newest < z ∧ newest = z)
    (hnewest : s.stamp.newest ≤ newest ∧ newest ≤ created')
    (hentered : ∀ z, mode = .on z → z ≤ r.stamp.newest)
    (hpeer : ∀ y, r.stamp.mode = .on y → y ≤ s.stamp.newest)
    (hback : ∀ f ∈ back, ∀ y, f.stamp.mode = .on y → y ≤ s.stamp.newest) :
    Dir s' r there back created' := by
  have hs := h.sender
  have hm := h.meetsNow
  have hbase := hs.wellFormed.base_le
  have htail := hs.wellFormed.tail_le
  have hpushed := hs.pushed
  have hwindow := hs.wellFormed.window
  refine h.moveSender ?_ hsame.1 ?_ ?_ ?_
  · refine ⟨?_, by rw [hstamp, hsame.2], ?_, ?_⟩
    all_goals rw [hstamp]
    · exact ⟨le_rfl, le_rfl, by rw [hsame.1]; simp only; omega, fun z hz => (hsession z hz).2,
        fun z hz => Nat.zero_lt_of_lt (hsession z hz).1⟩
    · exact fun _ => rfl
    · exact hnewest.2
  · rw [hstamp]
    exact ⟨Nat.le_succ _, hnewest.1, by simp only; omega, hpushed, fun heq => by simp at heq,
      fun _ => ⟨hpushed, fun z hz => (hsession z hz).1⟩, fun _ => hpushed⟩
  · rw [hstamp]
    exact ⟨hm.bound.trans hpushed, fun _ => hm.bound.trans hpushed, hentered,
      fun z _ _ => ⟨hm.bound.trans hpushed, rfl⟩, fun y hy => (hpeer y hy).trans hnewest.1,
      fun y hy hz => absurd (hpeer y hy) (not_le.mpr (hsession y hz).1),
      fun y hy => (hm.head y hy).trans hpushed⟩
  · refine ⟨fun f hf k hk => ?_, h.acks.sorted⟩
    obtain ⟨y, hy, hknown, -, hhead⟩ := h.acks.window f hf k hk
    refine ⟨y, hy, hknown, fun hz => ?_, hhead⟩
    rw [hstamp] at hz
    exact absurd (hback f hf y hy) (not_le.mpr (hsession y hz).1)

/-- The session that the sender has offered is confirmed. -/
theorem joinSender (h : Dir s r there back created) {z origin : Nat}
    (hmode : s.stamp.mode = .opening z) (hentered : z ≤ r.stamp.newest) :
    Dir (s.connected z origin) r there back created := by
  have hs := h.sender
  have hm := h.meetsNow
  have hz : s.stamp.mode.session = some z := by rw [hmode, Mode.session_opening]
  have hsession : ∀ y, (Mode.on z).session = some y → s.stamp.mode.session = some y := by
    intro y hy
    rw [hz]
    exact hy
  refine h.moveSender ?_ rfl ?_ ?_ ?_
  · exact ⟨⟨hs.wellFormed.base_le, hs.wellFormed.tail_le, hs.wellFormed.window,
      fun y hy => hs.wellFormed.session y (hsession y hy),
      fun y hy => hs.wellFormed.positive y (hsession y hy)⟩, hs.pushed,
      nofun, hs.newest_le⟩
  · refine ⟨le_rfl, le_rfl, le_rfl, le_rfl, fun _ => ⟨rfl, rfl, ?_⟩,
      fun hlt => absurd hlt (lt_irrefl _), nofun⟩
    rw [hz]
    rfl
  · refine ⟨hm.bound, nofun, fun y hy => ?_,
      fun y hy => hm.fresh y (hsession y hy), hm.newest,
      fun y hy hy' => hm.origin y hy (hsession y hy'), hm.head⟩
    cases hy
    exact hentered
  · refine ⟨fun f hf k hk => ?_, h.acks.sorted⟩
    obtain ⟨y, hy, hknown, hwindow, hhead⟩ := h.acks.window f hf k hk
    exact ⟨y, hy, hknown, fun hy' => hwindow (hsession y hy'), hhead⟩

/-- The oldest frame on the way back acknowledges payloads. -/
theorem acknowledge {f : Frame} (h : Dir s r there (f :: back) created) {z k : Nat}
    (hk : f.ack = some k) (hmode : s.stamp.mode = .on z) (hsame : f.stamp.mode = .on z)
    (hmine : ∀ y, r.stamp.mode = .on y → y = z) :
    Dir { s with stamp := { s.stamp with tail := s.stamp.base + k } } r there (f :: back)
      created := by
  have hs := h.sender
  have hm := h.meetsNow
  have hz : s.stamp.mode.session = some z := by rw [hmode, Mode.session_on]
  obtain ⟨y, hy, hknown, hwindow, hhead⟩ := h.acks.window f List.mem_cons_self k hk
  obtain rfl : y = z := by
    rw [hsame] at hy
    cases hy
    rfl
  obtain ⟨hlo, hhi⟩ := hwindow hz
  have hwidth := hs.wellFormed.window
  refine h.moveSender ?_ rfl ?_ ?_ ?_
  · exact ⟨⟨Nat.le_add_right _ _, hhi, by simp only; omega, hs.wellFormed.session,
        hs.wellFormed.positive⟩, hs.pushed,
      fun hoff => by simp [hmode] at hoff, hs.newest_le⟩
  · exact ⟨le_rfl, le_rfl, hlo, le_rfl, fun _ => ⟨rfl, rfl, rfl⟩,
      fun hlt => absurd hlt (lt_irrefl _), fun hoff => by simp [hmode] at hoff⟩
  · refine ⟨hm.bound, fun hoff => by simp [hmode] at hoff, hm.entered, fun x hx hx' => ?_,
      hm.newest, fun x hx hx' => ?_, hm.head⟩
    · rw [hz] at hx
      cases hx
      exact absurd hx' hknown
    · obtain ⟨hbase, -⟩ := hm.origin x hx hx'
      obtain rfl := hmine x hx
      refine ⟨hbase, ?_⟩
      have := hhead hx
      simp only
      omega
  · refine ⟨fun g hg k' hk' => ?_, h.acks.sorted⟩
    obtain ⟨y', hy', hknown', hwindow', hhead'⟩ := h.acks.window g hg k' hk'
    refine ⟨y', hy', hknown', fun hy'' => ⟨?_, (hwindow' hy'').2⟩, hhead'⟩
    have hyy : y' = y := by
      have : some y = some y' := hz.symm.trans hy''
      cases this
      rfl
    show s.stamp.base + k ≤ s.stamp.base + k'
    rcases List.mem_cons.mp hg with rfl | hg
    · rw [hk] at hk'
      cases hk'
      exact le_rfl
    · have := (List.pairwise_cons.mp h.acks.sorted).1 g hg k k' hk hk'
        (by rw [hsame, hy', hyy])
      omega

/-! ## Steps of the receiver -/

/-- Steps that concern the other direction only. -/
theorem keepReceiver (h : Dir s r there back created) {r' : Node}
    (hmode : r'.stamp.mode = r.stamp.mode) (hnewest : r'.stamp.newest = r.stamp.newest)
    (horigin : r'.origin = r.origin)
    (htail : r'.rTail = r.rTail) (hhead : r'.rHead = r.rHead) (hheld : r'.held = r.held)
    (hreads : r'.reads = r.reads) (hbound : r'.bound = r.bound) :
    Dir s r' there back created := by
  have hr := h.received
  have hunjoined : ∀ z, r'.Unjoined z ↔ r.Unjoined z := by
    intro z
    rw [Node.Unjoined, Node.Unjoined, hmode, hnewest]
  refine h.moveReceiver (fun a ha _ => ?_) ?_ ⟨fun f hf k hk => ?_, h.acks.sorted⟩
  · exact ⟨hbound ▸ ha.bound, hbound ▸ ha.off, hnewest ▸ ha.entered,
      fun z hz hz' => by rw [hbound]; exact ha.fresh z hz ((hunjoined z).mp hz'),
      hmode ▸ ha.newest, by rw [hmode, horigin, hhead]; exact ha.origin,
      by rw [hmode, horigin, hhead]; exact ha.head⟩
  · exact ⟨by rw [htail, hhead]; exact hr.order, by rw [htail, hhead, hheld]; exact hr.ready,
      by rw [hreads, hbound]; exact hr.reads_bound,
      by rw [hheld, htail, hbound]; exact hr.window,
      by rw [hmode, hheld, horigin]; exact hr.on,
      by rw [hmode, hheld, hhead]; exact hr.idle,
      by rw [hmode, htail, hhead, hheld]; exact hr.opening⟩
  · obtain ⟨y, hy, hknown, hwindow, hle⟩ := h.acks.window f hf k hk
    exact ⟨y, hy, mt (hunjoined y).mp hknown, hwindow, by rw [hmode, hhead]; exact hle⟩

/-- The payload at the tail is handed over. -/
theorem readReceiver (h : Dir s r there back created) {u advance : Nat}
    (hlt : r.rTail < r.rHead) (hheld : r.held r.rTail = some u)
    (hready : ∀ l, r.rTail < l → l < r.rHead + advance → (r.held l).isSome) :
    Dir s { r with
      rTail := r.rTail + 1
      rHead := r.rHead + advance
      held := Function.update r.held r.rTail none
      reads := r.reads ++ [u] } there back created := by
  have hr := h.received
  have hhead : ∀ z, r.stamp.mode = .on z → r.origin + (r.rHead + advance) ≤ max
      (r.origin + r.rHead) r.bound := by
    intro z hz
    rcases Nat.eq_zero_or_pos advance with rfl | hpos
    · exact le_max_left _ _
    · obtain ⟨v, hv⟩ := Option.isSome_iff_exists.mp
        (hready (r.rHead + advance - 1) (by omega) (by omega))
      have hval := hr.on z hz _ _ hv
      have := (hr.window _ _ hv).2
      exact le_max_of_le_right (by omega)
  refine h.moveReceiver (fun a ha _ => ?_) ?_ ⟨fun f hf k hk => ?_, h.acks.sorted⟩
  · refine ⟨ha.bound, ha.off, ha.entered, ha.fresh, ha.newest, fun z hz hz' => ?_,
      fun z hz => ?_⟩
    · obtain ⟨hbase, htail⟩ := ha.origin z hz hz'
      exact ⟨hbase, by simp only; omega⟩
    · exact (hhead z hz).trans (max_le (ha.head z hz) ha.bound)
  · refine ⟨by simp only; omega, fun l hl hl' => ?_, fun x hx => ?_, fun l v hv => ?_,
      fun z hz l v hv => hr.on z hz l v (held_of_cleared hv).2, fun hoff l v hv => ?_,
      fun z hz => ?_⟩
    · have hne : r.rTail < l := hl
      show (Function.update r.held r.rTail none l).isSome
      rw [Function.update_of_ne (by omega)]
      exact hready l hne hl'
    · rcases List.mem_append.mp hx with hx | hx
      · exact hr.reads_bound x hx
      · rw [List.mem_singleton.mp hx]
        exact (hr.window _ _ hheld).2
    · obtain ⟨hne, hv⟩ := held_of_cleared hv
      obtain ⟨hle, hbound⟩ := hr.window l v hv
      exact ⟨by simp only; omega, hbound⟩
    · have := hr.idle hoff l v (held_of_cleared hv).2
      simp only
      omega
    · have := hr.opening z hz
      omega
  · obtain ⟨y, hy, hknown, hwindow, hle⟩ := h.acks.window f hf k hk
    exact ⟨y, hy, hknown, hwindow, fun hz => (hle hz).trans (Nat.le_add_right _ _)⟩

/-- The receiver starts afresh outside any session. -/
theorem restartReceiver (h : Dir s r there back created) (mode : Mode) (newest : Nat)
    (hmode : ∀ z, mode ≠ .on z) (hopening : ∀ z, mode = .opening z → r.stamp.newest < z)
    (hnewest : r.stamp.newest ≤ newest) : Dir s (r.restart mode newest) there back created := by
  have hr := h.received
  have hunjoined : ∀ z, (r.restart mode newest).Unjoined z → r.Unjoined z := by
    rintro z (hlt | hz)
    · exact .inl (hnewest.trans_lt hlt)
    · exact .inl (hopening z hz)
  refine h.moveReceiver (fun a ha _ => ?_) ?_ ⟨fun f hf k hk => ?_, h.acks.sorted⟩
  · exact ⟨ha.bound, ha.off, fun z hz => (ha.entered z hz).trans hnewest,
      fun z hz hz' => ha.fresh z hz (hunjoined z hz'), fun z hz => absurd hz (hmode z),
      fun z hz => absurd hz (hmode z), fun z hz => absurd hz (hmode z)⟩
  · exact ⟨le_rfl, fun l _ hl => absurd hl (Nat.not_lt_zero l), hr.reads_bound, nofun,
      fun z hz => absurd hz (hmode z), fun _ => nofun, fun _ _ => ⟨rfl, rfl, rfl⟩⟩
  · obtain ⟨y, hy, hknown, hwindow, -⟩ := h.acks.window f hf k hk
    exact ⟨y, hy, mt (hunjoined y) hknown, hwindow, fun hz => absurd hz (hmode y)⟩

/-- The receiver enters or confirms a session that it has not been in, as the oldest
frame announces it. -/
theorem connectReceiver {f : Frame} {rest : List Frame} (h : Dir s r there back created)
    (hthere : there = f :: rest) {z : Nat} (hz : f.handshake = some z) (hjoined : r.Unjoined z)
    {r' : Node} (hmode : r'.stamp.mode = .on z) (hnewest' : r'.stamp.newest = z)
    (hnewest : r.stamp.newest ≤ z) (horigin : r'.origin = f.stamp.base) (htail : r'.rTail = 0)
    (hhead : r'.rHead = 0) (hheld : r'.held = fun _ => none) (hreads : r'.reads = r.reads)
    (hbound : r'.bound = r.bound) : Dir s r' there back created := by
  have hr := h.received
  have hmem : f ∈ there := hthere ▸ List.mem_cons_self
  have hfz := (h.frames f hmem).handshake z hz
  have hwell := (h.frames f hmem).wellFormed
  have hfnewest := hwell.session z hfz
  have hlater : ∀ y, r'.Unjoined y → r.stamp.newest < y := by
    rintro y (hlt | hy)
    · rw [hnewest'] at hlt
      exact hnewest.trans_lt hlt
    · rw [hmode] at hy
      cases hy
  -- Every stamp that is met from now on is that of this frame or a later one.
  have hafter : ∀ a, (a = s.stamp ∨ ∃ g ∈ there, a = g.stamp) →
      z ≤ a.newest ∧ (a.mode.session = some z → a.base = f.stamp.base) ∧
        f.stamp.base ≤ a.tx := by
    intro a ha
    have hprec : a = f.stamp ∨ Precedes f.stamp a := by
      rcases ha with rfl | ⟨g, hg, rfl⟩
      · exact .inr (h.last f hmem)
      · rw [hthere] at hg
        rcases List.mem_cons.mp hg with rfl | hg
        · exact .inl rfl
        · have horder := h.order
          rw [hthere] at horder
          exact .inr ((List.pairwise_cons.mp horder).1 g hg)
    rcases hprec with rfl | hprec
    · exact ⟨hfnewest.ge, fun _ => rfl, hwell.base_le.trans hwell.tail_le⟩
    · exact ⟨hfnewest.ge.trans hprec.newest, fun ha => (hprec.base_eq hwell hfz ha).symm,
        (hwell.base_le.trans hwell.tail_le).trans hprec.tx⟩
  have hsame : ∀ y, r'.stamp.mode = .on y → y = z := by
    intro y hy
    rw [hmode] at hy
    cases hy
    rfl
  refine h.moveReceiver (fun a ha hwhere => ?_) ?_ ⟨fun g hg k hk => ?_, h.acks.sorted⟩
  · obtain ⟨hznew, hbase, htx⟩ := hafter a hwhere
    refine ⟨hbound ▸ ha.bound, hbound ▸ ha.off,
      fun y hy => (ha.entered y hy).trans (hnewest.trans hnewest'.ge), fun y hy hy' => ?_,
      fun y hy => ?_, fun y hy hy' => ?_, fun y hy => ?_⟩
    · rw [hbound]
      exact ha.fresh y hy (.inl (hlater y hy'))
    · rw [hsame y hy]
      exact hznew
    · obtain rfl := hsame y hy
      rw [horigin, (ha.fresh y hy' hjoined).2]
      exact ⟨hbase hy', by rw [hbase hy']; exact Nat.le_add_right _ _⟩
    · rw [horigin, hhead]
      exact htx
  · refine ⟨by rw [htail, hhead], fun l _ hl => ?_, ?_, ?_, fun y hy => ?_,
      fun hno => absurd hmode (hno z), fun y hy => ?_⟩
    · rw [hhead] at hl
      exact absurd hl (Nat.not_lt_zero l)
    · rw [hreads, hbound]
      exact hr.reads_bound
    · rw [hheld]
      exact nofun
    · rw [hheld]
      exact nofun
    · rw [hmode] at hy
      cases hy
  · obtain ⟨y, hy, hknown, hwindow, -⟩ := h.acks.window g hg k hk
    refine ⟨y, hy, fun hy' => hknown (.inl (hlater y hy')), hwindow, fun hy' => ?_⟩
    obtain rfl := hsame y hy'
    exact absurd hjoined hknown

/-- A payload that is stored behind the head, at its place in a session. -/
theorem take_received {l u advance : Nat} (hr : Received r) (hl : r.rHead ≤ l)
    (hready : ∀ l', r.rTail ≤ l' → l' < r.rHead + advance →
      (Function.update r.held l (some u) l').isSome)
    (hon : ∀ z, r.stamp.mode = .on z → u = r.origin + l)
    (hoff : (∀ z, r.stamp.mode ≠ .on z) → l = r.rHead)
    (hopening : ∀ z, r.stamp.mode ≠ .opening z) : Received (r.take l u advance) := by
  have horder := hr.order
  refine ⟨horder.trans (Nat.le_add_right _ _), hready,
    fun x hx => lt_max_of_lt_left (hr.reads_bound x hx), fun l' v hv => ?_,
    fun z hz l' v hv => ?_, fun hno l' v hv => ?_, fun z hz => absurd hz (hopening z)⟩
  · rcases held_of_filled hv with ⟨rfl, rfl⟩ | hv
    · exact ⟨horder.trans hl, lt_max_of_lt_right (Nat.lt_succ_self _)⟩
    · exact ⟨(hr.window l' v hv).1, lt_max_of_lt_left (hr.window l' v hv).2⟩
  · rcases held_of_filled hv with ⟨rfl, rfl⟩ | hv
    · exact hon z hz
    · exact hr.on z hz l' v hv
  · show l' ≤ r.rHead + advance
    rcases held_of_filled hv with ⟨rfl, rfl⟩ | hv
    · have := hoff hno
      omega
    · have := hr.idle hno l' v hv
      omega

/-- Stamps after a frame, once its payload is taken. -/
theorem take_meets {f : Frame} {rest : List Frame} (h : Dir s r (f :: rest) back created)
    {l u advance : Nat} (hu : f.data = some u)
    (hfrom : f.stamp.mode = .off ∨ ∃ y, f.stamp.mode = .on y)
    (hopening : ∀ z, r.stamp.mode ≠ .opening z)
    (hhead : ∀ z, r.stamp.mode = .on z →
      r.origin + (r.rHead + advance) ≤ max (r.origin + r.rHead) (max r.bound (u + 1)))
    {a : Stamp} (ha : Meets r a) (hprec : Precedes f.stamp a) : Meets (r.take l u advance) a := by
  obtain ⟨-, hlt, -⟩ := (h.frames f List.mem_cons_self).data u hu
  have hutx : u + 1 ≤ a.tx := (Nat.succ_le_of_lt hlt).trans hprec.tx
  refine ⟨max_le ha.bound hutx, fun hoff => ?_, ha.entered, fun z hz hfresh => ?_, ha.newest,
    fun z hz hz' => ?_, fun z hz => ?_⟩
  · exact max_le (ha.off hoff) ((Nat.succ_le_of_lt hlt).trans (hprec.off hoff))
  · obtain ⟨hbound, htail⟩ := ha.fresh z hz hfresh
    have hnew : r.stamp.newest < z := hfresh.resolve_right (hopening z)
    have hne : f.stamp.mode.session ≠ a.mode.session := by
      rw [hz]
      rcases hfrom with hoff | ⟨y, hy⟩
      · rw [hoff]
        exact nofun
      · have hle := (h.meets f List.mem_cons_self).entered y hy
        rw [hy, Mode.session_on]
        exact fun heq => absurd (Option.some.inj heq) (Nat.ne_of_lt (hle.trans_lt hnew))
    exact ⟨max_le hbound ((Nat.succ_le_of_lt hlt).trans (hprec.tx_le_base hne)), htail⟩
  · obtain ⟨hbase, htail⟩ := ha.origin z hz hz'
    exact ⟨hbase, htail.trans (Nat.add_le_add_left (Nat.le_add_right _ _) _)⟩
  · exact (hhead z hz).trans (max_le (ha.head z hz) (max_le ha.bound hutx))

/-- The receiver takes the payload of the oldest frame. -/
theorem takeReceiver {f : Frame} {rest : List Frame} (h : Dir s r (f :: rest) back created)
    {l u advance : Nat} (hu : f.data = some u)
    (hfrom : f.stamp.mode = .off ∨ ∃ y, f.stamp.mode = .on y)
    (hopening : ∀ z, r.stamp.mode ≠ .opening z)
    (hhead : ∀ z, r.stamp.mode = .on z →
      r.origin + (r.rHead + advance) ≤ max (r.origin + r.rHead) (max r.bound (u + 1)))
    (hreceived : Received (r.take l u advance)) :
    Dir s (r.take l u advance) rest back created := by
  obtain ⟨hbefore, horder⟩ := List.pairwise_cons.mp h.order
  refine ⟨h.sender, fun g hg => h.frames g (List.mem_cons_of_mem _ hg), horder,
    fun g hg => h.last g (List.mem_cons_of_mem _ hg), fun g hg => ?_, ?_, hreceived,
    ⟨fun g hg k hk => ?_, h.acks.sorted⟩⟩
  · exact h.take_meets hu hfrom hopening hhead (h.meets g (List.mem_cons_of_mem _ hg))
      (hbefore g hg)
  · exact h.take_meets hu hfrom hopening hhead h.meetsNow (h.last f List.mem_cons_self)
  · obtain ⟨y, hy, hknown, hwindow, hle⟩ := h.acks.window g hg k hk
    exact ⟨y, hy, hknown, hwindow, fun hz => (hle hz).trans (Nat.le_add_right _ _)⟩

theorem takeOff {f : Frame} {rest : List Frame} (h : Dir s r (f :: rest) back created)
    {u advance : Nat} (hu : f.data = some u) (hmode : r.stamp.mode = .off)
    (hfrom : f.stamp.mode = .off ∨ ∃ y, f.stamp.mode = .on y)
    (hready : ∀ l, r.rTail ≤ l → l < r.rHead + advance →
      (Function.update r.held r.rHead (some u) l).isSome) :
    Dir s (r.take r.rHead u advance) rest back created := by
  have hnoton : ∀ z, r.stamp.mode ≠ .on z := by simp [hmode]
  have hopening : ∀ z, r.stamp.mode ≠ .opening z := by simp [hmode]
  exact h.takeReceiver hu hfrom hopening (fun z hz => absurd hz (hnoton z))
    (take_received h.received le_rfl hready (fun z hz => absurd hz (hnoton z)) (fun _ => rfl)
      hopening)

theorem takeOn {f : Frame} {rest : List Frame} (h : Dir s r (f :: rest) back created)
    {z l u advance : Nat} (hu : f.data = some u) (hmode : r.stamp.mode = .on z)
    (hl : r.rHead ≤ l) (heq : u = r.origin + l)
    (hready : ∀ l', r.rTail ≤ l' → l' < r.rHead + advance →
      (Function.update r.held l (some u) l').isSome)
    (hframe : ∃ y, f.stamp.mode = .on y) :
    Dir s (r.take l u advance) rest back created := by
  have hr := h.received
  have hheld := hr.on z hmode
  have horder := hr.order
  have hopening : ∀ y, r.stamp.mode ≠ .opening y := by simp [hmode]
  refine h.takeReceiver hu (.inr hframe) hopening (fun _ _ => ?_)
    (take_received hr hl hready (fun _ _ => heq) (fun hno => absurd hmode (hno z)) hopening)
  rcases Nat.eq_zero_or_pos advance with rfl | hpos
  · exact le_max_left _ _
  · obtain ⟨v, hv⟩ := Option.isSome_iff_exists.mp
      (hready (r.rHead + advance - 1) (by omega) (by omega))
    apply le_max_of_le_right
    by_cases hll : r.rHead + advance - 1 = l
    · exact le_max_of_le_right (by omega)
    · rw [Function.update_of_ne hll] at hv
      have hval := hheld _ _ hv
      have := (hr.window _ _ hv).2
      exact le_max_of_le_left (by omega)

end Dir

end SessionWindow
