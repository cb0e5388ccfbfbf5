import Mathlib.Order.Lattice.Nat
import Skylink.SequenceRing.Receive

/-!
# The receive ring against its specification

The specification works on unbounded sequence numbers: it knows every packet that was
accepted and how many were read. The head is not part of its state but follows from it.
-/

namespace Skylink

open SerialNumber

variable {w : Nat}

/-! ## Sizes that never change -/

theorem rcvRingAdvanceHeadLoop_length (turns : Nat) (r : SkyRcvRing w) (advanced : Nat) :
    (rcvRingAdvanceHeadLoop turns r advanced).1.length = r.length := by
  induction turns generalizing r advanced with
  | zero => rfl
  | succ turns ih =>
      rw [rcvRingAdvanceHeadLoop]
      split_ifs
      · rfl
      · rfl
      · exact ih _ _

theorem rcvRingPushRxPacket_layout (r : SkyRcvRing w) (eb : SkyElementBuffer) (src : Bytes)
    (sequence : BitVec w) :
    (rcvRingPushRxPacket r eb src sequence).1.length = r.length ∧
      SameShape eb (rcvRingPushRxPacket r eb src sequence).2.1 := by
  have hstore := skyElementBufferStore_sameShape eb src
  rw [rcvRingPushRxPacket]
  dsimp only
  split
  · exact ⟨rfl, rfl, rfl⟩
  · split
    · exact ⟨rfl, rfl, rfl⟩
    · split
      · rename_i heq
        rw [heq] at hstore
        exact ⟨rfl, hstore⟩
      · rename_i heq
        rw [heq] at hstore
        exact ⟨rcvRingAdvanceHeadLoop_length _ _ _, hstore⟩

theorem rcvRingReadNextReceived_layout (r : SkyRcvRing w) (eb : SkyElementBuffer)
    (maxLength : Nat) :
    (rcvRingReadNextReceived r eb maxLength).1.length = r.length ∧
      SameShape eb (rcvRingReadNextReceived r eb maxLength).2.1 := by
  rw [rcvRingReadNextReceived]
  dsimp only
  split
  · exact ⟨rfl, rfl, rfl⟩
  · split
    · exact ⟨rfl, rfl, rfl⟩
    · exact ⟨rcvRingAdvanceHeadLoop_length _ _ _, skyElementBufferDelete_sameShape _ _⟩

/-! ## Calls -/

/-- The calls that fill and empty a receive ring. -/
inductive RcvRingOp (w : Nat)
  | push (src : Bytes) (sequence : BitVec w)
  | read (maxLength : Nat)

/-- The steps the head advanced, the payload, or the error code. -/
inductive RcvRingResult
  | pushed (advanced : Nat)
  | received (payload : Bytes)
  | failed (ret : SkyRet)
deriving DecidableEq

def RcvRingOp.Valid (b : SkyElementBuffer) : RcvRingOp w → Prop
  | .push src _ => Storable b src
  | .read _ => True

/-- A receive ring with the element buffer it is used with. -/
structure RcvRingState (w : Nat) where
  ring : SkyRcvRing w
  buffer : SkyElementBuffer

namespace RcvRingState

def step (c : RcvRingState w) : RcvRingOp w → RcvRingState w × RcvRingResult
  | .push src sequence =>
      match rcvRingPushRxPacket c.ring c.buffer src sequence with
      | (ring, buffer, .ok advanced) => (⟨ring, buffer⟩, .pushed advanced)
      | (ring, buffer, .error ret) => (⟨ring, buffer⟩, .failed ret)
  | .read maxLength =>
      match rcvRingReadNextReceived c.ring c.buffer maxLength with
      | (ring, buffer, .ok (_, payload)) => (⟨ring, buffer⟩, .received payload)
      | (ring, buffer, .error ret) => (⟨ring, buffer⟩, .failed ret)

def run (c : RcvRingState w) : List (RcvRingOp w) → RcvRingState w × List RcvRingResult
  | [] => (c, [])
  | op :: rest =>
      let (c, result) := c.step op
      let (c, results) := c.run rest
      (c, result :: results)

end RcvRingState

instance RcvRingOp.decidableValid (b : SkyElementBuffer) (op : RcvRingOp w) :
    Decidable (op.Valid b) :=
  match op with
  | .push src _ => inferInstanceAs (Decidable (Storable b src))
  | .read _ => inferInstanceAs (Decidable True)

theorem RcvRingOp.Valid.congr {b b' : SkyElementBuffer} {op : RcvRingOp w} (h : op.Valid b)
    (hshape : SameShape b b') : op.Valid b' := by
  cases op with
  | push src sequence => exact Storable.congr h hshape
  | read maxLength => trivial

theorem RcvRingState.step_sameShape (c : RcvRingState w) (op : RcvRingOp w) :
    SameShape c.buffer (c.step op).1.buffer := by
  cases op with
  | push src sequence =>
      obtain ⟨-, hpush⟩ := rcvRingPushRxPacket_layout c.ring c.buffer src sequence
      simp only [RcvRingState.step]
      split
      · rename_i heq
        rwa [heq] at hpush
      · rename_i heq
        rwa [heq] at hpush
  | read maxLength =>
      obtain ⟨-, hread⟩ := rcvRingReadNextReceived_layout c.ring c.buffer maxLength
      simp only [RcvRingState.step]
      split
      · rename_i heq
        rwa [heq] at hread
      · rename_i heq
        rwa [heq] at hread

/-! ## Specification -/

/-- `accepted u` is the packet with the unbounded number `u`, counted from the first
sequence of the ring; the packets below `tail` were read. -/
structure ReceiveSpec where
  tail : Nat
  accepted : Nat → Option Bytes

namespace ReceiveSpec

def initial : ReceiveSpec := ⟨0, fun _ => none⟩

/-- The packets that wait to be read. -/
def held (s : ReceiveSpec) (u : Nat) : Option Bytes := if u < s.tail then none else s.accepted u

def accept (s : ReceiveSpec) (u : Nat) (src : Bytes) : ReceiveSpec :=
  { s with accepted := Function.update s.accepted u (some src) }

def takeTail (s : ReceiveSpec) : ReceiveSpec := { s with tail := s.tail + 1 }

section Window

variable (start : BitVec w) (length horizonWidth : Nat)

/-- The first packet that is missing, unless the horizon would pass the whole ring. -/
noncomputable def head (s : ReceiveSpec) : Nat :=
  min (sInf {u | s.tail ≤ u ∧ s.held u = none}) (s.tail + length - horizonWidth - 1)

/-- The number that a sequence stands for is at most one round ahead of the head. -/
noncomputable def number (s : ReceiveSpec) (sequence : BitVec w) : Nat :=
  s.head length horizonWidth + (sequence - serial start (s.head length horizonWidth)).toNat

noncomputable def step (s : ReceiveSpec) : RcvRingOp w → ReceiveSpec × RcvRingResult
  | .push src sequence =>
      let u := s.number start length horizonWidth sequence
      if s.head length horizonWidth + horizonWidth < u then (s, .failed .ringInvalidSequence)
      else if (s.held u).isSome then (s, .failed .ringPacketAlreadyIn)
      else
        (s.accept u src,
          .pushed ((s.accept u src).head length horizonWidth - s.head length horizonWidth))
  | .read maxLength =>
      if s.head length horizonWidth = s.tail then (s, .failed .ringEmpty)
      else
        match s.held s.tail with
        | none => (s, .failed .ringEmpty)
        | some payload =>
            if maxLength < payload.length then (s, .failed .ebufferTooLongPayload)
            else (s.takeTail, .received payload)

noncomputable def run (s : ReceiveSpec) : List (RcvRingOp w) → ReceiveSpec × List RcvRingResult
  | [] => (s, [])
  | op :: rest =>
      let (s, result) := s.step start length horizonWidth op
      let (s, results) := s.run rest
      (s, result :: results)

end Window

/-! ## Refinement -/

/-- The ring and its buffer hold what the specification says. -/
structure Represents (s : ReceiveSpec) (start : BitVec w) (c : RcvRingState w) : Prop where
  head : c.ring.head = s.head c.ring.length c.ring.horizonWidth % c.ring.length
  headSequence :
    c.ring.headSequence = serial start (s.head c.ring.length c.ring.horizonWidth)
  tail : c.ring.tail = s.tail % c.ring.length
  tailSequence : c.ring.tailSequence = serial start s.tail
  count : ∃ held : Finset Nat, (∀ u, u ∈ held ↔ (s.held u).isSome) ∧
    c.ring.storageCount = held.card
  payload : ∀ u p, s.held u = some p → (c.ring.item (u % c.ring.length)).sequence = serial start u ∧
    skyElementBufferRead c.buffer (c.ring.item (u % c.ring.length)).idx p.length = .ok p

/-- The invariant of a run: `m` is what the buffer stores, `rest` the chains of others. -/
structure Rep (s : ReceiveSpec) (start : BitVec w) (length horizonWidth : Nat)
    (c : RcvRingState w) (m : Nat → Option Bytes) (rest : List Nat) : Prop where
  ring : RcvRep c.ring start s.tail (s.head length horizonWidth) s.held m
  pool : PoolHolds c.buffer m (ownedIdx c.ring.buff ++ rest)
  length : c.ring.length = length
  horizonWidth : c.ring.horizonWidth = horizonWidth

theorem head_eq {s : ReceiveSpec} {r : SkyRcvRing w} {start : BitVec w} {head : Nat}
    {m : Nat → Option Bytes} (h : RcvRep r start s.tail head s.held m) :
    s.head r.length r.horizonWidth = head := by
  have horder := h.order
  have hroom := h.room
  have hmissing : ({u | s.tail ≤ u ∧ s.held u = none} : Set Nat).Nonempty :=
    ⟨head + r.horizonWidth + 1, by omega, h.horizon _ (by omega)⟩
  have hmem := Nat.sInf_mem hmissing
  have hle : head ≤ sInf {u | s.tail ≤ u ∧ s.held u = none} := by
    by_contra hlt
    have hsome := h.readable _ hmem.1 (not_le.mp hlt)
    rw [hmem.2] at hsome
    cases hsome
  rw [ReceiveSpec.head]
  obtain hstop | hstall := h.stop
  · have hge : sInf {u | s.tail ≤ u ∧ s.held u = none} ≤ head := Nat.sInf_le ⟨horder, hstop⟩
    omega
  · omega

theorem held_accept {s : ReceiveSpec} {u : Nat} (hu : s.tail ≤ u) (p : Bytes) :
    (s.accept u p).held = Function.update s.held u (some p) := by
  funext v
  by_cases hv : v = u
  · subst hv
    simp [held, accept, not_lt.mpr hu]
  · simp [held, accept, Function.update_of_ne hv]

theorem held_takeTail (s : ReceiveSpec) :
    s.takeTail.held = Function.update s.held s.tail none := by
  funext v
  by_cases hv : v = s.tail
  · simp [held, takeTail, hv]
  · have hiff : v < s.tail + 1 ↔ v < s.tail := by omega
    simp [held, takeTail, Function.update_of_ne hv, hiff]

section Step

variable {s : ReceiveSpec} {start : BitVec w} {length horizonWidth : Nat} {c : RcvRingState w}
  {m : Nat → Option Bytes} {rest : List Nat}

theorem Rep.push (h : Rep s start length horizonWidth c m rest) {src : Bytes}
    (hsrc : src.length < 65536) (sequence : BitVec w)
    (hroom : (c.step (.push src sequence)).2 ≠ .failed .ebufferNoSpace) :
    ∃ m', Rep (s.step start length horizonWidth (.push src sequence)).1 start length
        horizonWidth (c.step (.push src sequence)).1 m' rest ∧ KeepsRest rest m m' ∧
      (s.step start length horizonWidth (.push src sequence)).2 =
        (c.step (.push src sequence)).2 := by
  have hwidth := h.horizonWidth
  have hlength := h.length
  generalize hd : (sequence - c.ring.headSequence).toNat = d
  have hnumber : s.number start length horizonWidth sequence =
      s.head length horizonWidth + d := by
    rw [number, ← h.ring.headSequence, hd]
  by_cases hbeyond : horizonWidth < d
  · have hc : c.step (.push src sequence) = (c, .failed .ringInvalidSequence) := by
      simp only [RcvRingState.step, rcvRingPush_beyond (by rw [hd, hwidth]; exact hbeyond)]
    have hs : s.step start length horizonWidth (.push src sequence) =
        (s, .failed .ringInvalidSequence) := by
      simp only [step, hnumber]
      rw [if_pos (by omega)]
    rw [hc, hs]
    exact ⟨m, h, .refl rest m, rfl⟩
  · have hle : (sequence - c.ring.headSequence).toNat ≤ c.ring.horizonWidth := by omega
    cases hheld : s.held (s.head length horizonWidth + d) with
    | some q =>
        have hsome : (s.held (s.head length horizonWidth + d)).isSome := by simp [hheld]
        have hc : c.step (.push src sequence) = (c, .failed .ringPacketAlreadyIn) := by
          simp only [RcvRingState.step, h.ring.push_held hle (by rw [hd]; exact hsome)]
        have hs : s.step start length horizonWidth (.push src sequence) =
            (s, .failed .ringPacketAlreadyIn) := by
          simp only [step, hnumber]
          rw [if_neg (by omega), if_pos hsome]
        rw [hc, hs]
        exact ⟨m, h, .refl rest m, rfl⟩
    | none =>
        have hfree : s.held (s.head length horizonWidth +
            (sequence - c.ring.headSequence).toNat) = none := by rw [hd]; exact hheld
        obtain hfull | ⟨ring, buffer, n, m', hpush, hrep, hpool, hkeep, hlen, hhor⟩ :=
          h.ring.push_new h.pool hsrc hle hfree
        · simp only [RcvRingState.step, hfull, ne_eq, not_true] at hroom
        · have horder := h.ring.order
          have hheld' := held_accept (s := s) (u := s.head length horizonWidth + d) (by omega) src
          rw [hd, ← hheld'] at hrep
          have hhead := head_eq (s := s.accept (s.head length horizonWidth + d) src) hrep
          rw [hlen, hlength, hhor, hwidth] at hhead
          have hc : c.step (.push src sequence) = (⟨ring, buffer⟩, .pushed n) := by
            simp only [RcvRingState.step, hpush]
          have hs : s.step start length horizonWidth (.push src sequence) =
              (s.accept (s.head length horizonWidth + d) src, .pushed n) := by
            simp only [step, hnumber]
            rw [if_neg (by omega), if_neg (by simp [hheld]), hhead, Nat.add_sub_cancel_left]
          rw [hc, hs]
          rw [← hhead] at hrep
          exact ⟨m', ⟨hrep, hpool, hlen.trans hlength, hhor.trans hwidth⟩, hkeep, rfl⟩

theorem Rep.read (h : Rep s start length horizonWidth c m rest) (maxLength : Nat) :
    ∃ m', Rep (s.step start length horizonWidth (.read maxLength : RcvRingOp w)).1 start length
        horizonWidth (c.step (.read maxLength)).1 m' rest ∧ KeepsRest rest m m' ∧
      (s.step start length horizonWidth (.read maxLength : RcvRingOp w)).2 =
        (c.step (.read maxLength)).2 := by
  have horder := h.ring.order
  by_cases hempty : s.head length horizonWidth = s.tail
  · have hc : c.step (.read maxLength) = (c, .failed .ringEmpty) := by
      simp only [RcvRingState.step, h.ring.read_empty hempty]
    have hs : s.step start length horizonWidth (.read maxLength : RcvRingOp w) =
        (s, .failed .ringEmpty) := by
      simp only [step, if_pos hempty]
    rw [hc, hs]
    exact ⟨m, h, .refl rest m, rfl⟩
  · obtain ⟨p, hp⟩ := Option.isSome_iff_exists.mp
      (h.ring.readable s.tail le_rfl (by omega))
    obtain ⟨hshort, hread⟩ | ⟨hfits, ring, buffer, n, m', hread, hrep, hpool, hkeep, hlen, hhor⟩ :=
      h.ring.read h.pool (by omega) hp maxLength
    · have hc : c.step (.read maxLength) = (c, .failed .ebufferTooLongPayload) := by
        simp only [RcvRingState.step, hread]
      have hs : s.step start length horizonWidth (.read maxLength : RcvRingOp w) =
          (s, .failed .ebufferTooLongPayload) := by
        simp only [step, if_neg hempty, hp, if_pos hshort]
      rw [hc, hs]
      exact ⟨m, h, .refl rest m, rfl⟩
    · have hc : c.step (.read maxLength) = (⟨ring, buffer⟩, .received p) := by
        simp only [RcvRingState.step, hread]
      have hs : s.step start length horizonWidth (.read maxLength : RcvRingOp w) =
          (s.takeTail, .received p) := by
        simp only [step, if_neg hempty, hp, if_neg (not_lt.mpr hfits)]
      rw [← held_takeTail] at hrep
      have hhead := head_eq (s := s.takeTail) hrep
      rw [hlen, h.length, hhor, h.horizonWidth] at hhead
      rw [hc, hs]
      rw [← hhead] at hrep
      exact ⟨m', ⟨hrep, hpool, hlen.trans h.length, hhor.trans h.horizonWidth⟩, hkeep, rfl⟩

theorem Rep.step (h : Rep s start length horizonWidth c m rest) {op : RcvRingOp w}
    (hop : op.Valid c.buffer) (hroom : (c.step op).2 ≠ .failed .ebufferNoSpace) :
    ∃ m', Rep (s.step start length horizonWidth op).1 start length horizonWidth
        (c.step op).1 m' rest ∧ KeepsRest rest m m' ∧
      (s.step start length horizonWidth op).2 = (c.step op).2 := by
  cases op with
  | push src sequence => exact h.push hop.1 sequence hroom
  | read maxLength => exact h.read maxLength

/-- No packet that was accepted is replaced. -/
theorem Rep.step_accepted (h : Rep s start length horizonWidth c m rest) (op : RcvRingOp w)
    {u : Nat} {p : Bytes} (hp : s.accepted u = some p) :
    (s.step start length horizonWidth op).1.accepted u = some p := by
  have horder := h.ring.order
  cases op with
  | push src sequence =>
      simp only [ReceiveSpec.step]
      split_ifs with hbeyond hheld
      · exact hp
      · exact hp
      · have hge : s.tail ≤ s.number start length horizonWidth sequence := by
          rw [number]
          omega
        have hne : u ≠ s.number start length horizonWidth sequence := by
          rintro rfl
          simp [held, not_lt.mpr hge, hp] at hheld
        show Function.update s.accepted _ _ u = some p
        rw [Function.update_of_ne hne, hp]
  | read maxLength =>
      simp only [ReceiveSpec.step]
      split_ifs
      · exact hp
      · split
        · exact hp
        · split_ifs <;> exact hp

/-- A read returns the packet at the tail and moves on to the next one. -/
theorem step_received (s : ReceiveSpec) (start : BitVec w) (length horizonWidth : Nat)
    (op : RcvRingOp w) :
    (∃ p, (s.step start length horizonWidth op).2 = .received p ∧ s.accepted s.tail = some p ∧
        (s.step start length horizonWidth op).1 = s.takeTail) ∨
      ((∀ p, (s.step start length horizonWidth op).2 ≠ .received p) ∧
        (s.step start length horizonWidth op).1.tail = s.tail) := by
  cases op with
  | push src sequence =>
      simp only [ReceiveSpec.step]
      split_ifs <;> exact .inr ⟨fun _ => by simp, rfl⟩
  | read maxLength =>
      simp only [ReceiveSpec.step]
      by_cases hempty : s.head length horizonWidth = s.tail
      · rw [if_pos hempty]
        exact .inr ⟨fun _ => by simp, rfl⟩
      · rw [if_neg hempty]
        cases hheld : s.held s.tail with
        | none => exact .inr ⟨fun _ => by simp, rfl⟩
        | some p =>
            by_cases hshort : maxLength < p.length
            · exact .inr ⟨fun _ => by simp [hshort], by simp [hshort]⟩
            · have haccepted : s.accepted s.tail = some p := by simpa [held] using hheld
              exact .inl ⟨p, by simp [hshort], haccepted, by simp [hshort]⟩

end Step

end ReceiveSpec

/-! ## Runs -/

/-- The payloads that the reads of a run returned. -/
def receivedPayloads (results : List RcvRingResult) : List Bytes :=
  results.filterMap fun
    | .received payload => some payload
    | _ => none

namespace ReceiveSpec

section Run

variable {s : ReceiveSpec} {start : BitVec w} {length horizonWidth : Nat} {c : RcvRingState w}
  {m : Nat → Option Bytes} {rest : List Nat}

theorem Rep.run (h : Rep s start length horizonWidth c m rest) {ops : List (RcvRingOp w)}
    (hops : ∀ op ∈ ops, op.Valid c.buffer)
    (hroom : ∀ result ∈ (c.run ops).2, result ≠ .failed .ebufferNoSpace) :
    ∃ m', Rep (s.run start length horizonWidth ops).1 start length horizonWidth (c.run ops).1 m'
        rest ∧ KeepsRest rest m m' ∧ (s.run start length horizonWidth ops).2 = (c.run ops).2 := by
  induction ops generalizing s c m with
  | nil => exact ⟨m, h, .refl rest m, rfl⟩
  | cons op ops ih =>
      simp only [RcvRingState.run, List.forall_mem_cons] at hroom
      obtain ⟨m₁, hrep, hkeep, hresult⟩ := h.step (hops op (by simp)) hroom.1
      have hshape := c.step_sameShape op
      obtain ⟨m₂, hrep₂, hkeep₂, hresults⟩ := ih hrep
        (fun op' hop' => (hops op' (by simp [hop'])).congr hshape) hroom.2
      exact ⟨m₂, hrep₂, hkeep.trans hkeep₂, congrArg₂ List.cons hresult hresults⟩

/-- In every run the specification stays in step with the ring. -/
theorem Rep.represents (h : Rep s start length horizonWidth c m rest) :
    s.Represents start c := by
  have hhead := head_eq h.ring
  refine ⟨?_, ?_, h.ring.tailIdx, h.ring.tailSequence, h.ring.count, fun u p hp => ?_⟩
  · rw [hhead]
    exact h.ring.headIdx
  · rw [hhead]
    exact h.ring.headSequence
  · have hge : s.tail ≤ u := by
      by_contra hlt
      simp [held, not_le.mp hlt] at hp
    obtain ⟨-, -, hseq, hstored⟩ := h.ring.slots.held hge hp
    exact ⟨hseq, h.pool.stores.read_ok hstored le_rfl⟩

theorem Rep.run_accepted (h : Rep s start length horizonWidth c m rest)
    {ops : List (RcvRingOp w)} (hops : ∀ op ∈ ops, op.Valid c.buffer)
    (hroom : ∀ result ∈ (c.run ops).2, result ≠ .failed .ebufferNoSpace) {u : Nat} {p : Bytes}
    (hp : s.accepted u = some p) :
    (s.run start length horizonWidth ops).1.accepted u = some p := by
  induction ops generalizing s c m with
  | nil => exact hp
  | cons op ops ih =>
      simp only [RcvRingState.run, List.forall_mem_cons] at hroom
      obtain ⟨m₁, hrep, -, -⟩ := h.step (hops op (by simp)) hroom.1
      exact ih hrep (fun op' hop' => (hops op' (by simp [hop'])).congr (c.step_sameShape op))
        hroom.2 (h.step_accepted op hp)

/-- The reads of a run return the accepted packets from the tail on, each once. -/
theorem Rep.run_received (h : Rep s start length horizonWidth c m rest)
    {ops : List (RcvRingOp w)} (hops : ∀ op ∈ ops, op.Valid c.buffer)
    (hroom : ∀ result ∈ (c.run ops).2, result ≠ .failed .ebufferNoSpace) :
    (s.run start length horizonWidth ops).1.tail =
        s.tail + (receivedPayloads (s.run start length horizonWidth ops).2).length ∧
      (receivedPayloads (s.run start length horizonWidth ops).2).map some =
        (List.range' s.tail (receivedPayloads (s.run start length horizonWidth ops).2).length).map
          (s.run start length horizonWidth ops).1.accepted := by
  induction ops generalizing s c m with
  | nil => exact ⟨rfl, rfl⟩
  | cons op ops ih =>
      have hroom' := hroom
      simp only [RcvRingState.run, List.forall_mem_cons] at hroom'
      obtain ⟨m₁, hrep, -, -⟩ := h.step (hops op (by simp)) hroom'.1
      have hvalid : ∀ op' ∈ ops, op'.Valid (c.step op).1.buffer :=
        fun op' hop' => (hops op' (by simp [hop'])).congr (c.step_sameShape op)
      obtain ⟨htail, hreads⟩ := ih hrep hvalid hroom'.2
      simp only [ReceiveSpec.run]
      obtain ⟨p, hresult, hp, hstep⟩ | ⟨hnone, hsame⟩ :=
        step_received s start length horizonWidth op
      · have hfinal := hrep.run_accepted hvalid hroom'.2 (h.step_accepted op hp)
        have hnext : (s.step start length horizonWidth op).1.tail = s.tail + 1 := by
          rw [hstep]
          rfl
        have hcons : receivedPayloads ((s.step start length horizonWidth op).2 ::
            ((s.step start length horizonWidth op).1.run start length horizonWidth ops).2) =
            p :: receivedPayloads
              ((s.step start length horizonWidth op).1.run start length horizonWidth ops).2 := by
          rw [hresult]
          rfl
        rw [hcons, List.length_cons, htail, hnext]
        refine ⟨by omega, ?_⟩
        rw [List.map_cons, List.range'_succ, List.map_cons, hreads, hnext, hfinal]
      · have hskip : receivedPayloads ((s.step start length horizonWidth op).2 ::
            ((s.step start length horizonWidth op).1.run start length horizonWidth ops).2) =
            receivedPayloads
              ((s.step start length horizonWidth op).1.run start length horizonWidth ops).2 := by
          cases hresult : (s.step start length horizonWidth op).2 with
          | pushed advanced => rfl
          | failed ret => rfl
          | received p => exact absurd hresult (hnone p)
        rw [hskip, htail, hreads, hsame]
        exact ⟨rfl, rfl⟩

theorem run_append (s : ReceiveSpec) (start : BitVec w) (length horizonWidth : Nat)
    (earlier later : List (RcvRingOp w)) :
    (s.run start length horizonWidth (earlier ++ later)).1 =
      ((s.run start length horizonWidth earlier).1.run start length horizonWidth later).1 := by
  induction earlier generalizing s with
  | nil => rfl
  | cons op ops ih => exact ih _

end Run

end ReceiveSpec

namespace RcvRingState

theorem run_append (c : RcvRingState w) (earlier later : List (RcvRingOp w)) :
    c.run (earlier ++ later) =
      (((c.run earlier).1.run later).1, (c.run earlier).2 ++ ((c.run earlier).1.run later).2) := by
  induction earlier generalizing c with
  | nil => rfl
  | cons op ops ih => simp only [List.cons_append, run, ih]

theorem run_sameShape (c : RcvRingState w) (ops : List (RcvRingOp w)) :
    SameShape c.buffer (c.run ops).1.buffer := by
  induction ops generalizing c with
  | nil => exact ⟨rfl, rfl⟩
  | cons op ops ih => exact (c.step_sameShape op).trans (ih _)

/-- A run of the ring returns what the specification returns and ends where it ends:
the reads are the accepted packets in order, and no accepted packet is replaced. -/
structure FollowsSpec (c : RcvRingState w) (start : BitVec w) (ops : List (RcvRingOp w)) :
    Prop where
  results : (c.run ops).2 =
    (ReceiveSpec.initial.run start c.ring.length c.ring.horizonWidth ops).2
  state : (ReceiveSpec.initial.run start c.ring.length c.ring.horizonWidth ops).1.Represents
    start (c.run ops).1
  reads : (receivedPayloads (c.run ops).2).map some =
    (List.range (ReceiveSpec.initial.run start c.ring.length c.ring.horizonWidth ops).1.tail).map
      (ReceiveSpec.initial.run start c.ring.length c.ring.horizonWidth ops).1.accepted
  kept : ∀ earlier later, ops = earlier ++ later → ∀ u p,
    (ReceiveSpec.initial.run start c.ring.length c.ring.horizonWidth earlier).1.accepted u =
        some p →
      (ReceiveSpec.initial.run start c.ring.length c.ring.horizonWidth ops).1.accepted u = some p

end RcvRingState

/-- A new ring next to whatever else the buffer stores. -/
theorem ReceiveSpec.rep_create {length horizonWidth : Int} {start : BitVec w}
    {ring : SkyRcvRing w} (hring : skyRcvRingCreate length horizonWidth start = some ring)
    {b : SkyElementBuffer} {m : Nat → Option Bytes} {rest : List Nat} (h : PoolHolds b m rest) :
    ReceiveSpec.initial.Rep start ring.length ring.horizonWidth ⟨ring, b⟩ m rest := by
  obtain ⟨r, rfl, hroom⟩ := skyRcvRingCreate_reset hring
  have hheld : ReceiveSpec.initial.held = fun _ => none := by
    funext u
    simp [ReceiveSpec.held, ReceiveSpec.initial]
  have hrep := rcvRep_reset r start m hroom
  rw [← hheld] at hrep
  have hhead := ReceiveSpec.head_eq (s := ReceiveSpec.initial) hrep
  refine ⟨?_, ?_, rfl, rfl⟩
  · rw [hhead]
    exact hrep
  · rw [SkyRcvRing.reset, ownedIdx_replicate_vacant]
    exact h

/-- Every run of a new ring on a buffer in use follows the specification as long as the
buffer has room. -/
theorem rcvRing_followsSpec {length horizonWidth : Int} {start : BitVec w} {ring : SkyRcvRing w}
    (hring : skyRcvRingCreate length horizonWidth start = some ring)
    {usableElementSize elementCount : Nat} (hu : 2 ≤ usableElementSize)
    (hc : elementCount ≤ 65530) (others : List BufferOp)
    (hothers : ∀ op ∈ others, op.Valid (skyElementBufferCreate usableElementSize elementCount))
    (ops : List (RcvRingOp w))
    (hops : ∀ op ∈ ops, op.Valid (skyElementBufferCreate usableElementSize elementCount))
    (hroom : ∀ result ∈ (RcvRingState.run
      ⟨ring, ((TrackedBuffer.create usableElementSize elementCount).run others).buffer⟩ ops).2,
        result ≠ .failed .ebufferNoSpace) :
    RcvRingState.FollowsSpec
      ⟨ring, ((TrackedBuffer.create usableElementSize elementCount).run others).buffer⟩ start
      ops := by
  obtain ⟨rest, m, hpool, hshape⟩ := TrackedBuffer.exists_poolHolds hu hc others hothers
  have hops' : ∀ op ∈ ops, op.Valid
      ((TrackedBuffer.create usableElementSize elementCount).run others).buffer :=
    fun op hop => (hops op hop).congr hshape
  have hrep := ReceiveSpec.rep_create hring hpool
  obtain ⟨m', hrep', -, hresults⟩ := hrep.run hops' hroom
  obtain ⟨htail, hreads⟩ := hrep.run_received hops' hroom
  refine ⟨hresults.symm, hrep'.represents, ?_, fun earlier later hsplit u p hp => ?_⟩
  · rw [← hresults, hreads, htail, List.range_eq_range']
    simp [ReceiveSpec.initial]
  · subst hsplit
    rw [RcvRingState.run_append] at hroom
    simp only [List.forall_mem_append] at hroom
    obtain ⟨m₁, hrep₁, -, -⟩ :=
      hrep.run (fun op hop => hops' op (by simp [hop])) hroom.1
    rw [ReceiveSpec.run_append]
    exact hrep₁.run_accepted (fun op hop =>
      (hops' op (by simp [hop])).congr (RcvRingState.run_sameShape _ _)) hroom.2 hp

def exampleRcvRing : SkyRcvRing 8 := (skyRcvRingCreate 6 2 253).get rfl

/-- Packets out of order, twice and beyond the horizon, across the sequence overflow. -/
def exampleRcvOps : List (RcvRingOp 8) :=
  [.push [1] 253, .push [3] 255, .push [9] 2, .push [3] 255, .push [2] 254, .push [4] 0,
    .read 10, .push [5] 1, .read 0, .read 10]

theorem rcvRing_followsSpec_example :
    RcvRingState.FollowsSpec
      ⟨exampleRcvRing, ((TrackedBuffer.create 4 20).run [.store [7, 7, 7]]).buffer⟩ 253
      exampleRcvOps :=
  rcvRing_followsSpec (Option.some_get _).symm (by decide) (by decide) _ (by decide)
    exampleRcvOps (by decide) (by decide +kernel)

end Skylink
