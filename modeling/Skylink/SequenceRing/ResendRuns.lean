import Skylink.Library.Trace
import Skylink.SequenceRing.Resend

/-!
# Resends over runs of the send ring

The send ring shares its element buffer: others store payloads of their own there and
delete them again. In every state that such a run reaches it is told what a list of
scheduled sequences is read back as, which runs keep the resend list recallable, and that
a packet is peeked at as it is read.
-/

namespace Skylink

open SerialNumber

variable {w : Nat}

/-! ## Runs on a shared element buffer -/

inductive SendRingEvent (w : Nat)
  | call (op : SendRingOp w)
  | store (payload : Bytes)
  | delete (idx : Nat)

namespace SendRingState

def after (c : SendRingState w) : SendRingEvent w → SendRingState w
  | .call op => c.step op
  | .store payload => { c with buffer := (skyElementBufferStore c.buffer payload).1 }
  | .delete idx => { c with buffer := skyElementBufferDelete c.buffer idx }

/-- The others delete nothing that the ring refers to. -/
def Allows (c : SendRingState w) : SendRingEvent w → Prop
  | .call op => op.Valid c.buffer
  | .store payload => Storable c.buffer payload
  | .delete idx => ∀ item ∈ c.ring.buff, item.idx ≠ idx

instance decidableAllows (c : SendRingState w) (e : SendRingEvent w) : Decidable (c.Allows e) :=
  match e with
  | .call op => inferInstanceAs (Decidable (op.Valid c.buffer))
  | .store payload => inferInstanceAs (Decidable (Storable c.buffer payload))
  | .delete idx => inferInstanceAs (Decidable (∀ item ∈ c.ring.buff, item.idx ≠ idx))

/-- A new ring on a new element buffer. -/
def New (c : SendRingState w) : Prop :=
  ∃ (length : Int) (start : BitVec w) (usableElementSize elementCount : Nat),
    skySendRingCreate length start = some c.ring ∧ length ≤ 2 ^ w ∧ 2 ≤ usableElementSize ∧
      elementCount ≤ 65530 ∧
      c.buffer = skyElementBufferCreate usableElementSize elementCount ∧ c.pushed = []

/-- The states that the runs lead to. -/
def Reached (c : SendRingState w) : Prop :=
  ∃ (created : SendRingState w) (events : List (SendRingEvent w)), created.New ∧
    Trace.AllSteps after Allows created events ∧ events.foldl after created = c

theorem Reached.after {c : SendRingState w} {e : SendRingEvent w} (h : c.Reached)
    (he : c.Allows e) : (c.after e).Reached := by
  obtain ⟨created, events, hnew, hallowed, rfl⟩ := h
  refine ⟨created, events ++ [e], hnew, Trace.allSteps_append.mpr ⟨hallowed, he, trivial⟩, ?_⟩
  rw [List.foldl_append]
  rfl

theorem New.exists_rep {c : SendRingState w} (h : c.New) :
    ∃ start m rest, Rep c start 0 0 (fun _ => []) m rest := by
  obtain ⟨ring, buffer, pushed⟩ := c
  obtain ⟨length, start, usableElementSize, elementCount, hring, hlength, hu, hc, rfl, rfl⟩ := h
  obtain ⟨rest, m, hpool, -⟩ := TrackedBuffer.exists_poolHolds hu hc [] (by simp)
  exact ⟨start, m, rest, Rep.created hring hlength hpool⟩

section Rep

variable {c : SendRingState w} {start : BitVec w} {tail tx : Nat} {payload : Nat → Bytes}
  {m : Nat → Option Bytes} {rest : List Nat}

/-- A payload of another user of the element buffer. -/
theorem Rep.store (h : Rep c start tail tx payload m rest) {p : Bytes} (hp : p.length < 65536) :
    ∃ m' rest', Rep (c.after (.store p)) start tail tx payload m' rest' := by
  obtain hno | ⟨idx, eb', hstore, hfresh, -, hstores, -⟩ := h.pool.stores.store hp
  · rw [after, hno]
    exact ⟨m, rest, h⟩
  · rw [after, hstore]
    have hother (i : Nat) (hi : i ∈ ownedIdx c.ring.buff) :
        Function.update m idx (some p) i = m i := by
      have hstored := (h.pool.owns.stored i).mp (List.mem_append_left _ hi)
      refine Function.update_of_ne ?_ _ _
      rintro rfl
      rw [hfresh] at hstored
      cases hstored
    exact ⟨_, idx :: rest, h.ring.mono ⟨hother⟩,
      ⟨hstores, h.pool.owns.store hfresh List.perm_middle p⟩, h.pushed⟩

/-- Another user deletes a payload of its own, or nothing. -/
theorem Rep.delete (h : Rep c start tail tx payload m rest) {idx : Nat}
    (hidx : ∀ item ∈ c.ring.buff, item.idx ≠ idx) :
    ∃ m' rest', Rep (c.after (.delete idx)) start tail tx payload m' rest' := by
  rw [after]
  cases hm : m idx with
  | none =>
      rw [h.pool.stores.delete_dead hm]
      exact ⟨m, rest, h⟩
  | some p =>
      have hnot : idx ∉ ownedIdx c.ring.buff := by
        rw [ownedIdx, List.mem_filter, List.mem_map]
        rintro ⟨⟨item, hitem, heq⟩, -⟩
        exact hidx item hitem heq
      have hmem : idx ∈ ownedIdx c.ring.buff ++ rest :=
        (h.pool.owns.stored idx).mpr (by rw [hm]; rfl)
      have hrest := (List.mem_append.mp hmem).resolve_left hnot
      have hperm : (ownedIdx c.ring.buff ++ rest).Perm
          (idx :: (ownedIdx c.ring.buff ++ rest.erase idx)) :=
        ((List.perm_cons_erase hrest).append_left _).trans List.perm_middle
      refine ⟨_, rest.erase idx, h.ring.mono ⟨fun i hi => Function.update_of_ne ?_ _ _⟩,
        ⟨h.pool.stores.delete hm, h.pool.owns.delete hperm⟩, h.pushed⟩
      rintro rfl
      exact hnot hi

theorem Rep.after (h : Rep c start tail tx payload m rest) {e : SendRingEvent w}
    (he : c.Allows e) :
    ∃ tail' tx' payload' m' rest', Rep (c.after e) start tail' tx' payload' m' rest' := by
  cases e with
  | call op =>
      obtain ⟨tail', tx', payload', m', h'⟩ := h.step he
      exact ⟨tail', tx', payload', m', rest, h'⟩
  | store p =>
      obtain ⟨m', rest', h'⟩ := h.store he.1
      exact ⟨tail, tx, payload, m', rest', h'⟩
  | delete idx =>
      obtain ⟨m', rest', h'⟩ := h.delete he
      exact ⟨tail, tx, payload, m', rest', h'⟩

end Rep

def HasRep (c : SendRingState w) : Prop :=
  ∃ start tail tx payload m rest, Rep c start tail tx payload m rest

theorem HasRep.after {c : SendRingState w} {e : SendRingEvent w} (h : c.HasRep)
    (he : c.Allows e) : (c.after e).HasRep := by
  obtain ⟨start, tail, tx, payload, m, rest, hrep⟩ := h
  obtain ⟨tail', tx', payload', m', rest', hrep'⟩ := hrep.after he
  exact ⟨start, tail', tx', payload', m', rest', hrep'⟩

theorem New.hasRep {c : SendRingState w} (h : c.New) : c.HasRep := by
  obtain ⟨start, m, rest, hrep⟩ := h.exists_rep
  exact ⟨start, 0, 0, _, m, rest, hrep⟩

/-- Every reached state keeps the invariant of the ring. -/
theorem Reached.hasRep {c : SendRingState w} (h : c.Reached) : c.HasRep := by
  obtain ⟨created, events, hnew, hallowed, rfl⟩ := h
  exact hallowed.keeps (fun _ _ hc he => hc.after he) hnew.hasRep

/-! ## Reading back what was scheduled -/

/-- The payload that was last pushed under a sequence. -/
def lastPushed (c : SendRingState w) (s : BitVec w) : Option Bytes := c.pushed.reverse.lookup s

/-- What the next calls of `sendRing_read_to_tx` with resends return. -/
def readsToTx : Nat → SendRingState w → List (Except SkyRet (Bytes × BitVec w))
  | 0, _ => []
  | k + 1, c =>
      (sendRingReadToTx c.ring c.buffer true).2 :: readsToTx k (c.step (.readToTx true))

/-- The sequences are scheduled one after the other, and as many reads return their
payloads in that order. -/
def ReadsBack (c : SendRingState w) (sequences : List (BitVec w)) : Prop :=
  List.Forall₂
    (fun s read => ∃ payload, c.lastPushed s = some payload ∧ read = .ok (payload, s)) sequences
    ((c.run (sequences.map .scheduleResend)).readsToTx sequences.length)

theorem exists_mem_of_forall₂ {α β : Type*} {R : α → β → Prop} {as : List α} {bs : List β}
    (h : List.Forall₂ R as bs) {a : α} (ha : a ∈ as) : ∃ b ∈ bs, R a b := by
  induction h with
  | nil => cases ha
  | cons hone hrest ih =>
      rcases List.mem_cons.mp ha with rfl | hmem
      · exact ⟨_, List.mem_cons_self, hone⟩
      · obtain ⟨b, hb, hR⟩ := ih hmem
        exact ⟨b, List.mem_cons_of_mem _ hb, hR⟩

section Rep

variable {c : SendRingState w} {start : BitVec w} {tail tx : Nat} {payload : Nat → Bytes}
  {m : Nat → Option Bytes} {rest : List Nat}

theorem Rep.lastPushed (h : Rep c start tail tx payload m rest) {u : Nat} (hu : tail ≤ u)
    (hu' : u < c.pushed.length) : c.lastPushed (serial start u) = some (payload u) := by
  have hroom := h.ring.room
  have hle := h.ring.lengthLe
  have hget : c.pushed[u] = (serial start u, payload u) := by
    have hpushed := h.pushed u hu'
    rw [List.getElem?_eq_getElem hu'] at hpushed
    exact Option.some.inj hpushed
  have hlater : (c.pushed.drop (u + 1)).reverse.lookup (serial start u) = none := by
    rw [List.lookup_eq_none_iff]
    intro x hx
    obtain ⟨i, hi, rfl⟩ := List.mem_iff_getElem.mp (List.mem_reverse.mp hx)
    rw [List.length_drop] at hi
    have hpushed := h.pushed (u + 1 + i) (by omega)
    rw [List.getElem?_eq_getElem (by omega)] at hpushed
    rw [List.getElem_drop, Option.some.inj hpushed, bne_iff_ne]
    intro heq
    have := serial_inj start hu (by omega) (by omega) (by omega) heq
    omega
  have hsplit : c.pushed = c.pushed.take u ++ (serial start u, payload u) ::
      c.pushed.drop (u + 1) := by
    rw [← hget, List.getElem_cons_drop, List.take_append_drop]
  rw [SendRingState.lastPushed, hsplit, List.reverse_append, List.reverse_cons, List.append_assoc,
    List.lookup_append, hlater]
  simp

/-- A sequence that can be recalled belongs to a packet that was transmitted. -/
theorem Rep.exists_recalled (h : Rep c start tail tx payload m rest) {s : BitVec w}
    (hs : sendRingCanRecall c.ring s = true) : ∃ u, tail ≤ u ∧ u < tx ∧ serial start u = s := by
  have hlt := (h.ring.canRecall_iff s).mp hs
  refine ⟨_, Nat.le_add_right tail _, hlt, ?_⟩
  rw [h.ring.tailSequence]
  exact exists_serial start tail s

theorem Rep.recallIndex (h : Rep c start tail tx payload m rest) {u : Nat} (hu : tail ≤ u)
    (hu' : u < tx) :
    sendRingGetRecallRingIndex c.ring (serial start u) = .ok (u % c.ring.length) := by
  have htx := h.ring.tx_le_head
  have hroom := h.ring.room
  have hle := h.ring.lengthLe
  have hsum : tail + (serial start u - c.ring.tailSequence).toNat = u := by
    rw [h.ring.tailSequence, serial_sub start hu (by omega)]
    omega
  rw [h.ring.recallIndex, hsum, if_pos hu']

/-- The first entry is read next, if its payload fits the target. -/
theorem Rep.readToTx_recalled (h : Rep c start tail tx payload m rest) {u : Nat} (hu : tail ≤ u)
    (hu' : u < tx) (hhead : c.ring.resends.head? = some (serial start u)) :
    (payload u).length ≤ skyPayloadMaxLen + 100 ↔
      (sendRingReadToTx c.ring c.buffer true).2 = .ok (payload u, serial start u) := by
  have htx := h.ring.tx_le_head
  have hroom := h.ring.room
  have hle := h.ring.lengthLe
  have hindex := h.recallIndex hu hu'
  obtain ⟨-, -, hm⟩ := h.ring.stored hu (lt_of_lt_of_le hu' htx)
  have hread := h.pool.stores.read hm (skyPayloadMaxLen + 100)
  obtain ⟨r', -, -, hsame, hcases, hrecall⟩ :=
    sendRingReadToTx_cases h.ring.resendsFit c.buffer true
  constructor
  · intro hfits
    rw [if_neg (by omega)] at hread
    rw [hrecall _ _ _ rfl hhead hindex hread]
  · intro hok
    by_contra hlong
    rw [if_pos (by omega)] at hread
    obtain hnew | ⟨s, i, p, hhead', hindex', hread', -⟩ := hcases
    · rw [hnew] at hok
      have hsequence := (sendRingReadNewPacketToTx_cases r' c.buffer).2.2 _ _ hok
      rw [hsame, h.ring.txSequence] at hsequence
      have := serial_inj start hu (by omega) h.ring.tail_le_tx (by omega) hsequence
      omega
    · obtain rfl := Option.some.inj (hhead.symm.trans hhead')
      cases hindex.symm.trans hindex'
      rw [hread] at hread'
      cases hread'

/-- What is not in the resend list is not read any more. -/
theorem Rep.readsToTx_forget (h : Rep c start tail tx payload m rest) {u : Nat} (hu : tail ≤ u)
    (hu' : u < tx) (hnot : serial start u ∉ c.ring.resends) (p : Bytes) (k : Nat) :
    .ok (p, serial start u) ∉ c.readsToTx k := by
  induction k generalizing c tx with
  | zero => exact List.not_mem_nil
  | succ k ih =>
      have hfit := h.ring.resendsFit
      rw [readsToTx, List.mem_cons, not_or]
      constructor
      · intro hread
        obtain hmem | hsequence := sendRingReadToTx_sequence hfit hread.symm
        · exact hnot hmem
        · have htx := h.ring.tx_le_head
          have hroom := h.ring.room
          have hle := h.ring.lengthLe
          rw [h.ring.txSequence] at hsequence
          have := serial_inj start hu (by omega) h.ring.tail_le_tx (by omega) hsequence
          omega
      · obtain ⟨tx', htx', hrep⟩ := h.readToTx true
        apply ih hrep (by omega)
        show _ ∉ (sendRingReadToTx c.ring c.buffer true).1.resends
        rw [(sendRingReadToTx_resends hfit c.buffer true).1, if_pos rfl]
        exact fun hmem => hnot (List.dropLast_subset _ (mem_poppedEntries hmem))

/-- Scheduling touches the resend list only. -/
theorem Rep.scheduleAll (h : Rep c start tail tx payload m rest) (hempty : c.ring.resendCount = 0)
    {sequences : List (BitVec w)} (hnodup : sequences.Nodup)
    (hle : sequences.length ≤ arqResendScheduleDepth)
    (hrecall : ∀ s ∈ sequences, sendRingCanRecall c.ring s = true) :
    ∃ c', c.run (sequences.map .scheduleResend) = c' ∧
      Rep c' start tail tx payload m rest ∧ c'.ring.resends = sequences := by
  have hfit := h.ring.resendsFit
  have hnil := hfit.resends_eq_nil.mpr hempty
  obtain ⟨r', hfold, hentries, hfit', hsame⟩ := scheduleAll_resends hfit hrecall
    (by rwa [hnil, List.nil_append]) (by rwa [hnil, List.length_nil, Nat.zero_add])
  have hrun (c : SendRingState w) : c.run (sequences.map .scheduleResend) =
      { c with ring := sequences.foldl (fun r s => (sendRingScheduleResend r s).1) c.ring } := by
    clear hnodup hle hrecall hfold hentries
    induction sequences generalizing c with
    | nil => rfl
    | cons s sequences ih => exact ih _
  rw [hnil, List.nil_append] at hentries
  refine ⟨_, hrun c, ?_, by rw [hfold]; exact hentries⟩
  rw [hfold]
  refine h.ofSameButResend ?_ ?_
  · rw [hsame]
    exact h.ring.ofResend hfit'.count_le hfit'.length_eq
  · rw [hsame]
    exact ⟨rfl, rfl⟩

end Rep

end SendRingState

open SendRingState in
/-- Only a single sequence is read back as it was scheduled: with more, the first pop
loses the last one. -/
theorem sendRing_readsBack_iff {c : SendRingState w} (h : c.Reached)
    (hempty : c.ring.resendCount = 0) {sequences : List (BitVec w)} (hnodup : sequences.Nodup)
    (hle : sequences.length ≤ arqResendScheduleDepth)
    (hrecall : ∀ s ∈ sequences, sendRingCanRecall c.ring s = true) :
    c.ReadsBack sequences ↔ sequences.length ≤ 1 ∧
      ∀ s ∈ sequences, ∀ payload, c.lastPushed s = some payload →
        payload.length ≤ skyPayloadMaxLen + 100 := by
  obtain ⟨start, tail, tx, payload, m, rest, hrep⟩ := h.hasRep
  obtain ⟨c', hrun, hrep', hentries⟩ := hrep.scheduleAll hempty hnodup hle hrecall
  have hpushed (u : Nat) (hu : tail ≤ u) (hu' : u < tx) :
      c.lastPushed (serial start u) = some (payload u) :=
    hrep.lastPushed hu (lt_of_lt_of_le hu' hrep.ring.tx_le_head)
  rw [ReadsBack, hrun]
  rcases sequences with _ | ⟨s, _ | ⟨s', sequences⟩⟩
  · exact iff_of_true .nil ⟨Nat.zero_le 1, by simp⟩
  · obtain ⟨u, hu, hu', rfl⟩ := hrep.exists_recalled (hrecall s (by simp))
    have hfits := hrep'.readToTx_recalled hu hu' (by rw [hentries]; rfl)
    have hreads : c'.readsToTx 1 = [(sendRingReadToTx c'.ring c'.buffer true).2] := rfl
    rw [List.length_singleton, hreads, List.forall₂_cons]
    simp only [hpushed u hu hu', Option.some.injEq, exists_eq_left', List.Forall₂.nil, and_true,
      List.mem_singleton, forall_eq, forall_eq', le_refl, true_and]
    exact hfits.symm
  · refine iff_of_false (fun hreads => ?_) (fun hone => by simp at hone)
    -- The last sequence is gone after the first read.
    have hlast := List.getLast_mem (List.cons_ne_nil s' sequences)
    obtain ⟨u, hu, hu', heq⟩ := hrep.exists_recalled (hrecall _ (List.mem_cons_of_mem s hlast))
    obtain ⟨tx', htx', hnext⟩ := hrep'.readToTx true
    have hgone : serial start u ∉ (c'.step (.readToTx true)).ring.resends := by
      show _ ∉ (sendRingReadToTx c'.ring c'.buffer true).1.resends
      rw [(sendRingReadToTx_resends hrep'.ring.resendsFit c'.buffer true).1, if_pos rfl, hentries,
        heq]
      exact last_not_mem_poppedEntries hnodup (List.cons_ne_nil s (s' :: sequences))
    have hrest := (List.forall₂_cons.mp hreads).2
    obtain ⟨read, hmem, p, -, hread⟩ := exists_mem_of_forall₂ hrest hlast
    rw [hread, ← heq] at hmem
    exact hnext.readsToTx_forget hu (by omega) hgone p _ hmem

/-- Three packets are pushed and transmitted. -/
def exampleTransmitted : List (SendRingEvent 8) :=
  [.call (.push [1]), .call (.push [2]), .call (.push [3]), .call (.readToTx false),
    .call (.readToTx false), .call (.readToTx false)]

def exampleNewState : SendRingState 8 := ⟨exampleSendRing, skyElementBufferCreate 4 20, []⟩

def exampleTransmittedState : SendRingState 8 :=
  exampleTransmitted.foldl SendRingState.after exampleNewState

theorem exampleNewState_new : exampleNewState.New :=
  ⟨4, 254, 4, 20, rfl, by decide, by decide, by decide, rfl, rfl⟩

theorem exampleTransmittedState_reached : exampleTransmittedState.Reached :=
  ⟨exampleNewState, exampleTransmitted, exampleNewState_new, by decide +kernel, rfl⟩

theorem sendRing_readsBack_example : exampleTransmittedState.ReadsBack [255] :=
  (sendRing_readsBack_iff exampleTransmittedState_reached (by decide +kernel) (by decide)
    (by decide) (by decide +kernel)).mpr ⟨by decide, by decide +kernel⟩

open SendRingState in
/-- The second of two scheduled packets is lost, the first is sent twice. -/
theorem not_sendRing_readsBack :
    exampleTransmittedState.Reached ∧ exampleTransmittedState.ring.resendCount = 0 ∧
      ([254, 255] : List (BitVec 8)).Nodup ∧
      (∀ s ∈ ([254, 255] : List (BitVec 8)),
        sendRingCanRecall exampleTransmittedState.ring s = true) ∧
      (exampleTransmittedState.run [.scheduleResend 254, .scheduleResend 255]).readsToTx 2 =
        [.ok ([1], 254), .ok ([1], 254)] ∧
      ¬exampleTransmittedState.ReadsBack [254, 255] := by
  have hreads : (exampleTransmittedState.run [.scheduleResend 254, .scheduleResend 255]).readsToTx
      2 = [.ok ([1], 254), .ok ([1], 254)] := by decide +kernel
  refine ⟨exampleTransmittedState_reached, by decide +kernel, by decide, by decide +kernel, hreads,
    fun h => ?_⟩
  rw [ReadsBack] at h
  have hrest := (List.forall₂_cons.mp (hreads ▸ h)).2
  obtain ⟨p, -, hread⟩ := (List.forall₂_cons.mp hrest).1
  cases hread

/-! ## What the resend list refers to -/

/-- The entries are pairwise distinct, and each can be recalled. -/
def SkySendRing.ResendsRecallable (r : SkySendRing w) : Prop :=
  r.resends.Nodup ∧
    ∀ s ∈ r.resends, (s - r.tailSequence).toNat < (r.txSequence - r.tailSequence).toNat

instance SkySendRing.decidableResendsRecallable (r : SkySendRing w) :
    Decidable r.ResendsRecallable := inferInstanceAs (Decidable (_ ∧ _))

namespace SendRingState

/-- Two entries at most are left to shift when one is taken off, and an acknowledgement
that moves the tail passes none of them. -/
def SparesResends (c : SendRingState w) : SendRingEvent w → Prop
  | .call (.readToTx includeResend) => includeResend = true → c.ring.resends.length ≤ 2
  | .call (.cleanTailUpTo sequence) =>
      (sequence - c.ring.tailSequence).toNat ≤ (c.ring.txSequence - c.ring.tailSequence).toNat →
        ∀ s ∈ c.ring.resends,
          (sequence - c.ring.tailSequence).toNat ≤ (s - c.ring.tailSequence).toNat
  | _ => True

section Rep

variable {c : SendRingState w} {start : BitVec w} {tail tx : Nat} {payload : Nat → Bytes}
  {m : Nat → Option Bytes} {rest : List Nat}

theorem Rep.recallable_iff (h : Rep c start tail tx payload m rest) :
    c.ring.ResendsRecallable ↔ c.ring.resends.Nodup ∧
      ∀ s ∈ c.ring.resends, tail + (s - serial start tail).toNat < tx := by
  have htail := h.ring.tail_le_tx
  have hiff (s : BitVec w) :
      (s - serial start tail).toNat < tx - tail ↔ tail + (s - serial start tail).toNat < tx := by
    omega
  rw [SkySendRing.ResendsRecallable, h.ring.txAhead, h.ring.tailSequence]
  simp only [hiff]

theorem Rep.readToTx_recallable (h : Rep c start tail tx payload m rest)
    (hsafe : c.ring.ResendsRecallable) (includeResend : Bool) :
    (c.step (.readToTx includeResend)).ring.ResendsRecallable ↔
      (includeResend = true → c.ring.resends.length ≤ 2) := by
  obtain ⟨tx', htx', h'⟩ := h.readToTx includeResend
  have hentries : (c.step (.readToTx includeResend)).ring.resends =
      if includeResend then poppedEntries c.ring.resends else c.ring.resends :=
    (sendRingReadToTx_resends h.ring.resendsFit c.buffer includeResend).1
  obtain ⟨hnodup, hbelow⟩ := h.recallable_iff.mp hsafe
  rw [h'.recallable_iff, hentries]
  cases includeResend with
  | false =>
      refine iff_of_true ⟨hnodup, fun s hs => ?_⟩ (fun hf => by cases hf)
      exact lt_of_lt_of_le (hbelow s hs) htx'
  | true =>
      rw [if_pos rfl, poppedEntries_nodup_iff hnodup]
      refine ⟨fun hkeeps _ => hkeeps.1, fun hle => ⟨hle rfl, fun s hs => ?_⟩⟩
      exact lt_of_lt_of_le (hbelow s (List.dropLast_subset _ (mem_poppedEntries hs))) htx'

theorem Rep.cleanTailUpTo_recallable (h : Rep c start tail tx payload m rest)
    (hsafe : c.ring.ResendsRecallable) (sequence : BitVec w) :
    (c.step (.cleanTailUpTo sequence)).ring.ResendsRecallable ↔
      c.SparesResends (.call (.cleanTailUpTo sequence)) := by
  have hahead := h.ring.txAhead
  have hentries : (c.step (.cleanTailUpTo sequence)).ring.resends = c.ring.resends :=
    sendRingCleanTailUpTo_resends c.ring c.buffer sequence
  obtain ⟨hbeyond, hclean⟩ | ⟨hle, r', eb', m', hclean, hring, hpool, -, -, -⟩ :=
    h.ring.cleanTailUpTo h.pool sequence
  · have hsame : (c.step (.cleanTailUpTo sequence)).ring = c.ring := by
      rw [SendRingState.step, hclean]
    rw [hsame]
    exact iff_of_true hsafe fun hback => by omega
  · have hrep : Rep (c.step (.cleanTailUpTo sequence)) start
        (tail + (sequence - c.ring.tailSequence).toNat) tx payload m' rest := by
      rw [SendRingState.step, hclean]
      exact ⟨hring, hpool, h.pushed⟩
    obtain ⟨hnodup, hbelow⟩ := h.recallable_iff.mp hsafe
    -- An entry behind the new tail is a whole round away from it.
    have hpassed (s : BitVec w) (hs : s ∈ c.ring.resends) :
        tail + (sequence - c.ring.tailSequence).toNat +
            (s - serial start (tail + (sequence - c.ring.tailSequence).toNat)).toNat < tx ↔
          (sequence - c.ring.tailSequence).toNat ≤ (s - c.ring.tailSequence).toNat := by
      have htx := h.ring.tx_le_head
      have hroom := h.ring.room
      have hlen := h.ring.lengthLe
      have hlt := hbelow s hs
      have hseq := exists_serial start tail s
      rw [h.ring.tailSequence] at hle ⊢
      generalize (sequence - serial start tail).toNat = d at hle ⊢
      generalize (s - serial start tail).toNat = e at hlt hseq ⊢
      rw [← hseq]
      rcases Nat.lt_or_ge e d with hbehind | hahead
      · rw [serial_sub_of_lt start (by omega) (by omega)]
        omega
      · rw [serial_sub start (by omega) (by omega)]
        omega
    rw [hrep.recallable_iff, hentries]
    constructor
    · rintro ⟨-, hall⟩ - s hs
      exact (hpassed s hs).mp (hall s hs)
    · intro hspared
      exact ⟨hnodup, fun s hs => (hpassed s hs).mpr (hspared (by omega) s hs)⟩

/-- The other calls keep what the list refers to. -/
theorem Rep.after_recallable (h : Rep c start tail tx payload m rest)
    (hsafe : c.ring.ResendsRecallable) (e : SendRingEvent w) :
    (c.after e).ring.ResendsRecallable ↔ c.SparesResends e := by
  have hfit := h.ring.resendsFit
  -- Scheduling adds only what can be recalled.
  have hscheduled {r' : SkySendRing w} {candidates : List (BitVec w)}
      (hentries : r'.resends =
        scheduled (sendRingCanRecall c.ring) c.ring.resends candidates)
      (hsame : r' = { c.ring with resendCount := r'.resendCount, resendList := r'.resendList }) :
      r'.ResendsRecallable := by
    rw [SkySendRing.ResendsRecallable, hentries, hsame]
    refine ⟨scheduled_nodup hsafe.1, fun s hs => ?_⟩
    obtain hold | hrecall := mem_scheduled hs
    · exact hsafe.2 s hold
    · have hlt := (h.ring.canRecall_iff s).mp hrecall
      have hahead := h.ring.txAhead
      show (s - c.ring.tailSequence).toNat < (c.ring.txSequence - c.ring.tailSequence).toNat
      omega
  cases e with
  | store payload => exact iff_of_true hsafe trivial
  | delete idx => exact iff_of_true hsafe trivial
  | call op =>
      cases op with
      | push p =>
          obtain ⟨hentries, htail, htx⟩ := sendRingPushPacketToSend_keeps c.ring c.buffer p
          have hring : (c.after (.call (.push p))).ring =
              (sendRingPushPacketToSend c.ring c.buffer p).1 := by
            simp only [SendRingState.after, SendRingState.step]
            split <;> rename_i heq <;> rw [heq]
          rw [hring, SkySendRing.ResendsRecallable, hentries, htail, htx]
          exact iff_of_true hsafe trivial
      | readToTx includeResend => exact h.readToTx_recallable hsafe includeResend
      | scheduleResend s =>
          refine iff_of_true ?_ trivial
          show (sendRingScheduleResend c.ring s).1.ResendsRecallable
          obtain ⟨r', heq, hentries, -, hsame⟩ := sendRingScheduleResend_eq hfit s
          rw [heq]
          exact hscheduled hentries hsame
      | scheduleResendsByMask s mask =>
          refine iff_of_true ?_ trivial
          show (sendRingScheduleResendsByMask c.ring s mask).1.ResendsRecallable
          obtain ⟨r', heq, hentries, -, hsame⟩ := sendRingScheduleResendsByMask_eq hfit s mask
          rw [heq]
          exact hscheduled hentries hsame
      | cleanTailUpTo sequence => exact h.cleanTailUpTo_recallable hsafe sequence

end Rep

end SendRingState

open SendRingState in
/-- The resend list stays recallable in exactly the runs in which no pop shifts two
entries or more and no acknowledgement passes an entry. -/
theorem sendRing_resendsRecallable_iff {c : SendRingState w} (h : c.New)
    {events : List (SendRingEvent w)} (hallowed : Trace.AllSteps after Allows c events) :
    Trace.AllStates after (fun c => c.ring.ResendsRecallable) c events ↔
      Trace.AllSteps after SparesResends c events := by
  have hnil : c.ring.resends = [] := by
    obtain ⟨length, start, -, -, hring, -⟩ := h
    obtain ⟨r, heq, -, -⟩ := skySendRingCreate_reset hring
    rw [heq]
    rfl
  refine Trace.allStates_iff (fun c e hc he => HasRep.after hc he)
    (fun c e hc he hsafe => ?_) hallowed h.hasRep ⟨?_, ?_⟩
  · obtain ⟨start, tail, tx, payload, m, rest, hrep⟩ := hc
    exact hrep.after_recallable hsafe e
  · rw [hnil]
    exact List.nodup_nil
  · rw [hnil]
    exact fun s hs => absurd hs List.not_mem_nil

instance SendRingState.decidableSparesResends (c : SendRingState w) (e : SendRingEvent w) :
    Decidable (c.SparesResends e) :=
  match e with
  | .call (.readToTx includeResend) =>
      inferInstanceAs (Decidable (includeResend = true → c.ring.resends.length ≤ 2))
  | .call (.cleanTailUpTo sequence) =>
      inferInstanceAs (Decidable ((sequence - c.ring.tailSequence).toNat ≤
          (c.ring.txSequence - c.ring.tailSequence).toNat →
        ∀ s ∈ c.ring.resends,
          (sequence - c.ring.tailSequence).toNat ≤ (s - c.ring.tailSequence).toNat))
  | .call (.push _) => inferInstanceAs (Decidable True)
  | .call (.scheduleResend _) => inferInstanceAs (Decidable True)
  | .call (.scheduleResendsByMask _ _) => inferInstanceAs (Decidable True)
  | .store _ => inferInstanceAs (Decidable True)
  | .delete _ => inferInstanceAs (Decidable True)

/-- Two packets are scheduled, one is sent again, then both are acknowledged. -/
def exampleResent : List (SendRingEvent 8) :=
  exampleTransmitted ++ [.call (.scheduleResend 255), .call (.scheduleResend 0),
    .call (.readToTx true), .call (.cleanTailUpTo 255)]

open SendRingState in
theorem sendRing_resendsRecallable_example :
    Trace.AllStates after (fun c => c.ring.ResendsRecallable) exampleNewState exampleResent :=
  (sendRing_resendsRecallable_iff exampleNewState_new (by decide +kernel)).mpr
    (by decide +kernel)

/-- Of three scheduled packets the first pop leaves one twice, and an acknowledgement
leaves a scheduled packet behind the tail. -/
theorem not_sendRing_resendsRecallable :
    let shifted := exampleTransmittedState.run
      [.scheduleResend 254, .scheduleResend 255, .scheduleResend 0, .readToTx true]
    let acknowledged := exampleTransmittedState.run [.scheduleResend 254, .cleanTailUpTo 0]
    exampleTransmittedState.Reached ∧
      (shifted.ring.resends = [255, 255] ∧ ¬shifted.ring.ResendsRecallable) ∧
      (acknowledged.ring.resends = [254] ∧ acknowledged.ring.tailSequence = 0 ∧
        ¬acknowledged.ring.ResendsRecallable) :=
  ⟨exampleTransmittedState_reached, by decide +kernel, by decide +kernel⟩

/-! ## Requests -/

/-- A request schedules the sequences that it asks for and that can be recalled exactly
if it meets none that cannot before the list is full, or only such ones after it. -/
theorem sendRing_scheduleResendsByMask_iff {c : SendRingState w} (hw : 17 ≤ 2 ^ w)
    (h : c.Reached) (hempty : c.ring.resendCount = 0) (sequence : BitVec w) (mask : UInt16) :
    (sendRingScheduleResendsByMask c.ring sequence mask).1.resends =
        ((requestedSequences sequence mask).filter (sendRingCanRecall c.ring)).take
          arqResendScheduleDepth ↔
      arqResendScheduleDepth ≤
          ((requestedSequences sequence mask).takeWhile (sendRingCanRecall c.ring)).length ∨
        ∀ s ∈ (requestedSequences sequence mask).dropWhile (sendRingCanRecall c.ring),
          sendRingCanRecall c.ring s = false := by
  obtain ⟨start, tail, tx, payload, m, rest, hrep⟩ := h.hasRep
  have hfit := hrep.ring.resendsFit
  have hnodup := requestedSequences_nodup hw sequence mask
  obtain ⟨r', heq, hentries, -, -⟩ := sendRingScheduleResendsByMask_eq hfit sequence mask
  rw [hfit.resends_eq_nil.mpr hempty, scheduled_eq_takeWhile (by rwa [List.nil_append]),
    List.nil_append, List.length_nil, Nat.sub_zero] at hentries
  rw [heq, hentries]
  exact take_takeWhile_eq_filter_iff _ _ _

theorem sendRing_scheduleResendsByMask_example :
    (sendRingScheduleResendsByMask exampleTransmittedState.ring 254 0xfffe).1.resends =
      [254, 255] :=
  (sendRing_scheduleResendsByMask_iff (by decide) exampleTransmittedState_reached
    (by decide +kernel) 254 0xfffe).mpr (.inr (by decide +kernel))

/-- The packet before the request is acknowledged, and nothing is sent again although
two more packets are asked for. -/
theorem not_sendRing_scheduleResendsByMask :
    let c := exampleTransmittedState.after (.call (.cleanTailUpTo 255))
    c.Reached ∧ c.ring.resendCount = 0 ∧
      requestedSequences (254 : BitVec 8) 0xfffc = [254, 255, 0] ∧
      ([254, 255, 0] : List (BitVec 8)).filter (sendRingCanRecall c.ring) = [255, 0] ∧
      (sendRingScheduleResendsByMask c.ring 254 0xfffc).1.resends = [] :=
  ⟨exampleTransmittedState_reached.after trivial, by decide +kernel⟩

end Skylink
