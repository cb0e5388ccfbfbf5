import Skylink.Link.Session

/-!
# The read interface

What `sky_vc_read_next_received` gives to a caller that goes by its return code. The ring
writes the oldest payload to the target and moves on, but returns `SKY_RET_OK` where the
header promises the number of bytes, and it keeps a payload that is too long, which the
header says is dropped.
-/

namespace Skylink

variable {w : Nat}

/-! ## What is unread -/

/-- The payloads between the tail and the head of a receive queue, oldest first. -/
def VcView.unread (v : VcView) : List Bytes :=
  (List.range' v.rcvTail (v.rcvHead - v.rcvTail)).filterMap v.held

/-- The payloads that can be read, oldest first, as the chains of the buffer hold them. -/
def SkyVirtualChannel.unread (vc : SkyVirtualChannel w) : List Bytes :=
  (List.range (rcvRingCountReadablePackets vc.rcvRing)).filterMap fun k =>
    (vc.peekReceived k 65535).toOption

theorem VcView.unread_cons (v : VcView) (hlt : v.rcvTail < v.rcvHead) {p : Bytes}
    (hp : v.held v.rcvTail = some p) :
    v.unread = p ::
      (List.range' (v.rcvTail + 1) (v.rcvHead - (v.rcvTail + 1))).filterMap v.held := by
  have hcount : v.rcvHead - v.rcvTail = v.rcvHead - (v.rcvTail + 1) + 1 := by omega
  rw [VcView.unread, hcount, List.range'_succ, List.filterMap_cons_some hp]

/-- What is behind the oldest payload comes first once that has been read. -/
theorem VcView.unread_read (v : VcView) (n : Nat) (hlt : v.rcvTail < v.rcvHead) :
    (List.range' (v.rcvTail + 1) (v.rcvHead - (v.rcvTail + 1))).filterMap v.held <+:
      ({ v with
        rcvTail := v.rcvTail + 1
        rcvHead := v.rcvHead + n
        held := Function.update v.held v.rcvTail none } : VcView).unread := by
  have hcount : v.rcvHead + n - (v.rcvTail + 1) = v.rcvHead - (v.rcvTail + 1) + n := by omega
  have hheld : (List.range' (v.rcvTail + 1) (v.rcvHead - (v.rcvTail + 1))).filterMap
      (Function.update v.held v.rcvTail none) =
        (List.range' (v.rcvTail + 1) (v.rcvHead - (v.rcvTail + 1))).filterMap v.held := by
    refine List.filterMap_congr fun u hu => Function.update_of_ne ?_ _ _
    have := (List.mem_range'_1.mp hu).1
    omega
  simp only [VcView.unread]
  rw [hcount, ← List.range'_append_1, List.filterMap_append, hheld]
  exact List.prefix_append _ _

namespace VcRep

variable {vc : SkyVirtualChannel w} {v : VcView}

theorem countReadable (h : VcRep vc v) :
    rcvRingCountReadablePackets vc.rcvRing = v.rcvHead - v.rcvTail := by
  obtain ⟨m, hm⟩ := h
  exact hm.rcv.countReadable

theorem held_length_lt (h : VcRep vc v) {u : Nat} {p : Bytes} (hu : v.rcvTail ≤ u)
    (hp : v.held u = some p) : p.length < 65536 := by
  obtain ⟨m, hm⟩ := h
  obtain ⟨-, -, -, hstored⟩ := hm.rcv.slots.held hu hp
  exact hm.pool.stores.length_lt hstored

/-- The buffer holds what the view says. -/
theorem unread (h : VcRep vc v) : vc.unread = v.unread := by
  rw [SkyVirtualChannel.unread, VcView.unread, h.countReadable, List.range'_eq_map_range,
    List.filterMap_map]
  apply List.filterMap_congr
  intro k hk
  have hlt := List.mem_range.mp hk
  obtain ⟨p, hp⟩ := Option.isSome_iff_exists.mp
    (h.readable (u := v.rcvTail + k) (by omega) (by omega))
  have hlen := h.held_length_lt (Nat.le_add_right _ _) hp
  have hpeek := h.peekReceived (Nat.le_add_right _ _) hp (Nat.le_of_lt_succ hlen)
  rw [Nat.add_sub_cancel_left] at hpeek
  rw [hpeek]
  exact hp.symm

end VcRep

/-- A packet stored at the head that moves it. -/
theorem VcView.unread_stored (v : VcView) (src : Bytes) {n : Nat} (hle : v.rcvTail ≤ v.rcvHead)
    (hn : 0 < n) :
    v.unread ++ [src] <+: ({ v with
      rcvHead := v.rcvHead + n
      held := Function.update v.held v.rcvHead (some src) } : VcView).unread := by
  obtain ⟨n, rfl⟩ := Nat.exists_eq_add_of_le' hn
  have hcount : v.rcvHead + (n + 1) - v.rcvTail = v.rcvHead - v.rcvTail + (n + 1) := by omega
  have hhead : v.rcvTail + (v.rcvHead - v.rcvTail) = v.rcvHead := Nat.add_sub_cancel' hle
  have hold : (List.range' v.rcvTail (v.rcvHead - v.rcvTail)).filterMap
      (Function.update v.held v.rcvHead (some src)) = v.unread := by
    refine List.filterMap_congr fun u hu => Function.update_of_ne ?_ _ _
    have := (List.mem_range'_1.mp hu).2
    omega
  have hnew : (List.range' v.rcvTail (v.rcvHead + (n + 1) - v.rcvTail)).filterMap
      (Function.update v.held v.rcvHead (some src)) =
        v.unread ++ src :: (List.range' (v.rcvHead + 1) n).filterMap
          (Function.update v.held v.rcvHead (some src)) := by
    rw [hcount, ← List.range'_append_1, hhead, List.filterMap_append, hold, List.range'_succ,
      List.filterMap_cons_some (Function.update_self _ _ _)]
  change v.unread ++ [src] <+:
    (List.range' v.rcvTail (v.rcvHead + (n + 1) - v.rcvTail)).filterMap
      (Function.update v.held v.rcvHead (some src))
  rw [hnew]
  exact (List.prefix_append_right_inj _).mpr ⟨_, rfl⟩

/-- What is received at the head is unread, behind what was unread before. -/
theorem SkyVirtualChannel.Reached.unread_push {vc : SkyVirtualChannel w} (hw : 250 ≤ 2 ^ w)
    (h : vc.Reached) {src : Bytes} (hsrc : src.length < 65536) {n : Nat}
    (hpush : (skyVcPushRxPacketMonotonic vc src).2 = .ok n) (hn : 0 < n) :
    vc.unread ++ [src] <+: (skyVcPushRxPacketMonotonic vc src).1.unread := by
  obtain ⟨v, hrep⟩ := h.rep hw
  have hzero : (vc.rcvRing.headSequence - SerialNumber.serial 0 v.rcvHead).toNat = 0 := by
    rw [hrep.rcvSequences.2, BitVec.sub_self, BitVec.toNat_zero]
  obtain ⟨ret, heq⟩ | ⟨rcvRing, eb, n', heq, -, -, hrep', -⟩ :=
    hrep.pushRx hsrc vc.rcvRing.headSequence
  · rw [skyVcPushRxPacketMonotonic, heq] at hpush
    cases hpush
  · rw [hzero, Nat.add_zero] at hrep'
    rw [skyVcPushRxPacketMonotonic, heq] at hpush ⊢
    obtain rfl : n' = n := Except.ok.inj hpush
    rw [hrep.unread, hrep'.unread]
    exact v.unread_stored src hrep.rcvOrder.1 hn

/-! ## One read -/

/-- The channel has left its oldest payload behind, and those after it come next. -/
structure MovesPast (vc vc' : SkyVirtualChannel w) (rest : List Bytes) : Prop where
  tail : vc'.rcvRing.tailSequence = vc.rcvRing.tailSequence + 1
  unread : rest <+: vc'.unread

theorem not_movesPast_self (hw : 250 ≤ 2 ^ w) {vc : SkyVirtualChannel w} {rest : List Bytes} :
    ¬MovesPast vc vc rest := by
  intro h
  have hone : (1 : BitVec w) = 0 := by simpa using h.tail
  have hval : 1 % 2 ^ w = 0 % 2 ^ w := congrArg BitVec.toNat hone
  rw [Nat.mod_eq_of_lt (by omega), Nat.zero_mod] at hval
  cases hval

/-- What a read does: the bytes of the oldest payload with the code `SKY_RET_OK`, or
nothing at all. -/
theorem SkyVirtualChannel.Reached.read_oldest {vc : SkyVirtualChannel w} (hw : 250 ≤ 2 ^ w)
    (h : vc.Reached) {p : Bytes} {rest : List Bytes} (hunread : vc.unread = p :: rest)
    (maxLength : Nat) :
    (maxLength < p.length ∧
        skyVcReadNextReceived vc maxLength = (vc, .error .ebufferTooLongPayload)) ∨
      (p.length ≤ maxLength ∧ ∃ vc', skyVcReadNextReceived vc maxLength = (vc', .ok (0, p)) ∧
        MovesPast vc vc' rest) := by
  obtain ⟨v, hrep⟩ := h.rep hw
  rw [hrep.unread] at hunread
  have hlt : v.rcvTail < v.rcvHead := by
    by_contra hge
    rw [VcView.unread, Nat.sub_eq_zero_of_le (not_lt.mp hge)] at hunread
    cases hunread
  obtain ⟨q, hq⟩ := Option.isSome_iff_exists.mp (hrep.readable le_rfl hlt)
  rw [v.unread_cons hlt hq] at hunread
  obtain ⟨rfl, rfl⟩ := List.cons.inj hunread
  obtain hlong | ⟨hfits, vc', n, hread, hrep', -⟩ := hrep.readOldest hlt hq maxLength
  · exact .inl hlong
  · refine .inr ⟨hfits, vc', hread, ?_, ?_⟩
    · rw [hrep'.rcvSequences.1, hrep.rcvSequences.1, SerialNumber.serial_succ]
    · rw [hrep'.unread]
      exact v.unread_read n hlt

/-- What the header promises of a read, for the payload that is the oldest: its length as
the return code and its bytes in the target, or an error. Either way it is gone then. -/
structure ReadsNext (vc : SkyVirtualChannel w) (maxLength : Nat) (p : Bytes)
    (rest : List Bytes) : Prop where
  fits : p.length ≤ maxLength → ∃ vc' target,
    skyVcReadNextReceived vc maxLength = (vc', .ok ((p.length : Int), target)) ∧
      target.take p.length = p ∧ MovesPast vc vc' rest
  tooLong : maxLength < p.length → ∃ vc' ret,
    skyVcReadNextReceived vc maxLength = (vc', .error ret) ∧ ret < 0 ∧ MovesPast vc vc' rest

/-! ## A caller -/

/-- `VCInterface::check` as far as it reads: the bytes it publishes. -/
def vcInterfaceCheck (vc : SkyVirtualChannel w) (maxLength : Nat) :
    SkyVirtualChannel w × Option Bytes :=
  match skyVcReadNextReceived vc maxLength with
  | (vc, .ok (ret, data)) => (vc, if 0 < ret then some (data.take ret.toNat) else none)
  | (vc, .error _) => (vc, none)

/-- What repeated checks publish. -/
def published (maxLength : Nat) : Nat → SkyVirtualChannel w → List Bytes
  | 0, _ => []
  | checks + 1, vc =>
      (vcInterfaceCheck vc maxLength).2.toList ++
        published maxLength checks (vcInterfaceCheck vc maxLength).1

/-- The size of the target in `VCInterface::check`. -/
def packetMaxlen : Nat := 256

/-- Received payloads can be recovered: by one read the oldest, by as many checks as there
are payloads all that fit. An empty payload has no bytes to publish. -/
structure Recoverable (vc : SkyVirtualChannel w) (maxLength : Nat) : Prop where
  next : ∀ p rest, vc.unread = p :: rest → ReadsNext vc maxLength p rest
  all : published maxLength vc.unread.length vc =
    vc.unread.filter fun p => p ≠ [] ∧ p.length ≤ maxLength

theorem skyVcReadNextReceived_ret (vc : SkyVirtualChannel w) (maxLength : Nat) {ret : SkyRet}
    {target : Bytes} (h : (skyVcReadNextReceived vc maxLength).2 = .ok (ret, target)) :
    ret = 0 := by
  simp only [skyVcReadNextReceived, rcvRingReadNextReceived] at h
  split at h
  · cases h
  · split at h
    · cases h
    · cases h
      rfl

/-- No check publishes anything: a successful read returns `SKY_RET_OK`. -/
theorem vcInterfaceCheck_eq_none (vc : SkyVirtualChannel w) (maxLength : Nat) :
    (vcInterfaceCheck vc maxLength).2 = none := by
  rw [vcInterfaceCheck]
  split
  case h_1 vc' ret data heq =>
    have hret := skyVcReadNextReceived_ret vc maxLength (congrArg Prod.snd heq)
    subst hret
    rfl
  case h_2 => rfl

theorem published_eq_nil (maxLength checks : Nat) (vc : SkyVirtualChannel w) :
    published maxLength checks vc = [] := by
  induction checks generalizing vc with
  | zero => rfl
  | succ checks ih =>
      rw [published, vcInterfaceCheck_eq_none, ih]
      rfl

/-! ## When payloads can be recovered -/

theorem VcRep.unread_ne_nil {vc : SkyVirtualChannel w} {v : VcView} (h : VcRep vc v)
    (hreadable : rcvRingCountReadablePackets vc.rcvRing ≠ 0) : vc.unread ≠ [] := by
  rw [h.countReadable] at hreadable
  have hlt : v.rcvTail < v.rcvHead := by omega
  obtain ⟨p, hp⟩ := Option.isSome_iff_exists.mp (h.readable le_rfl hlt)
  rw [h.unread, v.unread_cons hlt hp]
  exact List.cons_ne_nil _ _

/-- Nothing but empty payloads can be recovered. -/
theorem recoverable_iff (hw : 250 ≤ 2 ^ w) {vc : SkyVirtualChannel w} (h : vc.Reached)
    (hreadable : rcvRingCountReadablePackets vc.rcvRing ≠ 0) (maxLength : Nat) :
    Recoverable vc maxLength ↔
      vc.unread.head? = some [] ∧ ∀ p ∈ vc.unread, p.length ≤ maxLength → p = [] := by
  obtain ⟨v, hrep⟩ := h.rep hw
  obtain ⟨p, rest, hunread⟩ := List.exists_cons_of_ne_nil (hrep.unread_ne_nil hreadable)
  have hread := h.read_oldest hw hunread maxLength
  constructor
  · rintro ⟨hnext, hall⟩
    obtain ⟨hfits, htooLong⟩ := hnext p rest hunread
    refine ⟨?_, fun q hq hlen => ?_⟩
    · obtain ⟨hlong, heq⟩ | ⟨hshort, vc', heq, -⟩ := hread
      · obtain ⟨vc', ret, hread', -, hpast⟩ := htooLong hlong
        rw [heq] at hread'
        obtain ⟨rfl, -⟩ := Prod.mk.inj hread'
        exact absurd hpast (not_movesPast_self hw)
      · obtain ⟨vc'', target, hread', -⟩ := hfits hshort
        rw [heq] at hread'
        have hret := (Prod.mk.inj (Except.ok.inj (Prod.mk.inj hread').2)).1
        have hempty : p = [] := List.eq_nil_of_length_eq_zero (by exact_mod_cast hret.symm)
        rw [hunread, hempty]
        rfl
    · rw [published_eq_nil] at hall
      have hnot := List.filter_eq_nil_iff.mp hall.symm q hq
      by_contra hne
      exact hnot (decide_eq_true ⟨hne, hlen⟩)
  · rintro ⟨hhead, hempty⟩
    rw [hunread, List.head?_cons] at hhead
    obtain rfl := Option.some.inj hhead
    refine ⟨fun q rest' hcons => ?_, ?_⟩
    · obtain ⟨rfl, rfl⟩ := List.cons.inj (hunread.symm.trans hcons)
      obtain ⟨hlong, -⟩ | ⟨-, vc', heq, hpast⟩ := hread
      · exact absurd hlong (Nat.not_lt_zero _)
      · exact ⟨fun _ => ⟨vc', [], heq, rfl, hpast⟩, fun hlong => absurd hlong (Nat.not_lt_zero _)⟩
    · rw [published_eq_nil, eq_comm, List.filter_eq_nil_iff]
      intro q hq hkeep
      obtain ⟨hne, hlen⟩ := of_decide_eq_true hkeep
      exact hne (hempty q hq hlen)

/-- A channel that has received one payload. -/
def receivedChannel (src : Bytes) : SkyVirtualChannel 8 := exampleChannel.run [.pushRxMonotonic src]

theorem receivedChannel_reached {src : Bytes} (h : Storable exampleChannel.elementBuffer src) :
    (receivedChannel src).Reached := by
  obtain ⟨conf, hcreate⟩ := exampleChannel_eq
  refine ⟨_, conf, _, _, hcreate, fun op hop => ?_, rfl⟩
  rw [List.mem_singleton.mp hop]
  exact h

theorem recoverable_iff_example :
    (receivedChannel []).Reached ∧
      rcvRingCountReadablePackets (receivedChannel []).rcvRing ≠ 0 ∧
      (Recoverable (receivedChannel []) packetMaxlen ↔
        (receivedChannel []).unread.head? = some [] ∧
          ∀ p ∈ (receivedChannel []).unread, p.length ≤ packetMaxlen → p = []) :=
  have hreached : (receivedChannel []).Reached := receivedChannel_reached (by decide +kernel)
  have hreadable : rcvRingCountReadablePackets (receivedChannel []).rcvRing ≠ 0 := by
    decide +kernel
  ⟨hreached, hreadable, recoverable_iff (by decide) hreached hreadable packetMaxlen⟩

/-- A payload of one byte is read with the return code 0. -/
theorem not_recoverable :
    ¬∀ (vc : SkyVirtualChannel 8), vc.Reached → rcvRingCountReadablePackets vc.rcvRing ≠ 0 →
      ∀ maxLength, Recoverable vc maxLength := by
  intro h
  have hreached : (receivedChannel [5]).Reached := receivedChannel_reached (by decide +kernel)
  obtain ⟨hnext, -⟩ := h _ hreached (by decide +kernel) packetMaxlen
  obtain ⟨vc', target, hread, -⟩ := (hnext [5] [] (by decide +kernel)).fits (by decide)
  have hret := congrArg Prod.snd hread
  have hcode : (skyVcReadNextReceived (receivedChannel [5]) packetMaxlen).2 = .ok (0, [5]) := by
    decide +kernel
  rw [hcode] at hret
  cases (Prod.mk.inj (Except.ok.inj hret)).1

end Skylink
