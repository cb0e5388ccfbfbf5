import Skylink.Library.SessionWindow.Invariant
import Skylink.Link.Model
import Skylink.VirtualChannel.Exchange

/-!
# The link refines sliding windows over sessions

Every state of the link stands for a net of endpoints that number their payloads
without bound. The counters of a channel are those of the net since the last wipe, and
its sequence numbers are these counters modulo `2 ^ w`; the invariant of the net makes
every comparison of sequence numbers exact.
-/

namespace Skylink

open SerialNumber

variable {w : Nat}

/-! ## The relation -/

/-- The queues of a channel and the endpoint they stand for. -/
structure ViewSim (v : VcView) (n : SessionWindow.Node) (log peerLog : List Bytes) : Prop where
  pushed : n.pushed = log.length
  tail : n.stamp.tail = n.stamp.base + v.sendTail
  tx : n.stamp.tx = n.stamp.base + v.sendTx
  head : n.pushed = n.stamp.base + v.sendHead
  payload : ∀ u < v.sendHead, log[n.stamp.base + u]? = some (v.payload u)
  rTail : n.rTail = v.rcvTail
  rHead : n.rHead = v.rcvHead
  vacant : ∀ l, n.held l = none → v.held l = none
  held : ∀ l u, n.held l = some u → ∃ p, peerLog[u]? = some p ∧ v.held l = some p

/-- The state of the channel and the mode it stands for; `name` maps the number of a
session to its identifier. -/
def ModeSim (vc : SkyVirtualChannel w) (name : Nat → UInt32) : SessionWindow.Mode → Prop
  | .off => vc.arqStateFlag = .off
  | .opening z => vc.arqStateFlag = .inInit ∧ vc.arqSessionIdentifier = name z
  | .on z => vc.arqStateFlag = .on ∧ vc.arqSessionIdentifier = name z

theorem ModeSim.congr {vc vc' : SkyVirtualChannel w} {name : Nat → UInt32}
    {mode : SessionWindow.Mode} (h : ModeSim vc name mode)
    (hstate : vc'.arqStateFlag = vc.arqStateFlag)
    (hid : vc'.arqSessionIdentifier = vc.arqSessionIdentifier) : ModeSim vc' name mode := by
  cases mode <;> simpa [ModeSim, hstate, hid] using h

structure EndpointSim (e : Endpoint w) (n : SessionWindow.Node) (name : Nat → UInt32)
    (peerLog : List Bytes) : Prop where
  view : ∃ v, VcRep e.vc v ∧ ViewSim v n e.pushed peerLog
  mode : ModeSim e.vc name n.stamp.mode
  width : n.width = e.vc.sendRing.length
  epoch : n.stamp.epoch = e.wipes
  newest : n.stamp.newest = e.newest
  read : e.read.map some = n.reads.map (peerLog[·]?)

/-- What a frame says and the frame it stands for. -/
structure ContentSim (name : Nat → UInt32) (log : List Bytes) (c : ArqContent w)
    (f : SessionWindow.Frame) : Prop where
  arqOn : c.arqOn = true ↔ ∃ z, f.stamp.mode = .on z
  handshake : c.handshake.map Prod.snd = f.handshake.map name
  ctrl : c.ctrl.map Prod.snd = f.ack.map (serial 0)
  silent : f.data = none → c.payload = none
  payload : ∀ u, f.data = some u →
    ∃ p, log[u]? = some p ∧ c.payload = some p ∧ p.length ≤ skyPayloadMaxLen
  data : ∀ u, f.data = some u → f.stamp.mode = .off ∨ ∃ z, f.stamp.mode = .on z
  sequence : ∀ s, c.sequence = some s → ∃ z u, f.stamp.mode = .on z ∧ f.data = some u ∧
    s = serial 0 (u - f.stamp.base)

def FrameSim (w : Nat) (name : Nat → UInt32) (log : List Bytes) (frame : SkyRadioFrame)
    (f : SessionWindow.Frame) : Prop :=
  ∃ (tx : SkyTransmitFrame) (identity : Bytes) (others : List (ExtValue w))
    (channel : Fin skyNumVirtualChannels) (c : ArqContent w),
    frame = tx.frame ∧ tx.Carries identity others channel c ∧ ContentSim name log c f

/-- The identifiers of the sessions as the two endpoints read them. -/
structure Naming where
  near : Nat → UInt32
  far : Nat → UInt32

def Naming.swap (names : Naming) : Naming := ⟨names.far, names.near⟩

/-- The sizes of the rings are those of the link at the start; payloads are sent only
where the window of the sender and the horizon of the receiver fit. -/
structure LinkSim (start l : Link w) (n : SessionWindow.Net) (names : Naming) : Prop where
  near : EndpointSim l.near n.near names.near l.far.pushed
  far : EndpointSim l.far n.far names.far l.near.pushed
  out : List.Forall₂ (FrameSim w names.near l.near.pushed) l.out n.out
  inn : List.Forall₂ (FrameSim w names.far l.far.pushed) l.inn n.inn
  sizesNear : SameSizes start.near.vc l.near.vc
  sizesFar : SameSizes start.far.vc l.far.vc
  fitNear : l.far.pushed = [] ∨ start.swap.Fits
  fitFar : l.near.pushed = [] ∨ start.Fits

theorem LinkSim.swap {start l : Link w} {n : SessionWindow.Net} {names : Naming}
    (h : LinkSim start l n names) : LinkSim start.swap l.swap n.swap names.swap :=
  ⟨h.far, h.near, h.inn, h.out, h.sizesFar, h.sizesNear, h.fitFar, h.fitNear⟩

/-! ## Longer logs -/

theorem ViewSim.held_isSome {v : VcView} {n : SessionWindow.Node} {log peerLog : List Bytes}
    (h : ViewSim v n log peerLog) (l : Nat) : (n.held l).isSome ↔ (v.held l).isSome := by
  cases hl : n.held l with
  | none => simp [h.vacant l hl]
  | some u =>
      obtain ⟨p, -, hp⟩ := h.held l u hl
      simp [hp]

theorem getElem?_append_of_some {log : List Bytes} {u : Nat} {p q : Bytes}
    (h : log[u]? = some p) : (log ++ [q])[u]? = some p := by
  obtain ⟨hlt, -⟩ := List.getElem?_eq_some_iff.mp h
  rw [List.getElem?_append_left hlt, h]

theorem ViewSim.peerPush {v : VcView} {n : SessionWindow.Node} {log peerLog : List Bytes}
    (h : ViewSim v n log peerLog) (q : Bytes) : ViewSim v n log (peerLog ++ [q]) :=
  { h with
    held := fun l u hl => by
      obtain ⟨p, hp, hv⟩ := h.held l u hl
      exact ⟨p, getElem?_append_of_some hp, hv⟩ }

theorem EndpointSim.peerPush {e : Endpoint w} {n : SessionWindow.Node} {name : Nat → UInt32}
    {peerLog : List Bytes} (h : EndpointSim e n name peerLog) (q : Bytes) :
    EndpointSim e n name (peerLog ++ [q]) := by
  obtain ⟨v, hrep, hview⟩ := h.view
  refine { h with view := ⟨v, hrep, hview.peerPush q⟩, read := ?_ }
  have hread := h.read
  rw [hread]
  apply List.map_congr_left
  intro u hu
  have hmem : peerLog[u]? ∈ e.read.map some := hread ▸ List.mem_map_of_mem hu
  obtain ⟨p, -, hp⟩ := List.mem_map.mp hmem
  rw [← hp, getElem?_append_of_some hp.symm]

theorem FrameSim.push {name : Nat → UInt32} {log : List Bytes} {frame : SkyRadioFrame}
    {f : SessionWindow.Frame} (h : FrameSim w name log frame f) (q : Bytes) :
    FrameSim w name (log ++ [q]) frame f := by
  obtain ⟨tx, identity, others, channel, c, hframe, hcarries, hc⟩ := h
  refine ⟨tx, identity, others, channel, c, hframe, hcarries, { hc with payload := ?_ }⟩
  intro u hu
  obtain ⟨p, hp, hrest⟩ := hc.payload u hu
  exact ⟨p, getElem?_append_of_some hp, hrest⟩

/-! ## Steps that do not touch the channels -/

section Steps

variable {start l : Link w} {n : SessionWindow.Net} {names : Naming} {stale : Prop}

/-- The near endpoint moves on; its log of payloads stays as it is. -/
theorem LinkSim.setNear (h : LinkSim start l n names) {e : Endpoint w} {m : SessionWindow.Node}
    (hnear : EndpointSim e m names.near l.far.pushed) (hpushed : e.pushed = l.near.pushed)
    (hsizes : SameSizes l.near.vc e.vc) :
    LinkSim start { l with near := e } { n with near := m } names := by
  refine ⟨hnear, ?_, ?_, h.inn, h.sizesNear.trans hsizes, h.sizesFar, h.fitNear, ?_⟩
  all_goals rw [hpushed]
  · exact h.far
  · exact h.out
  · exact h.fitFar

/-- An endpoint of the net stays in its session and hands nothing over. -/
structure KeepsSession (m m' : SessionWindow.Node) : Prop where
  mode : m'.stamp.mode = m.stamp.mode
  epoch : m'.stamp.epoch = m.stamp.epoch
  newest : m'.stamp.newest = m.stamp.newest
  width : m'.width = m.width
  reads : m'.reads = m.reads

theorem KeepsSession.refl (m : SessionWindow.Node) : KeepsSession m m := ⟨rfl, rfl, rfl, rfl, rfl⟩

/-- The near channel moves on in its session. -/
theorem LinkSim.setChannel (h : LinkSim start l n names) {vc : SkyVirtualChannel w} {v : VcView}
    {m : SessionWindow.Node} (hrep : VcRep vc v) (hview : ViewSim v m l.near.pushed l.far.pushed)
    (hstate : vc.arqStateFlag = l.near.vc.arqStateFlag)
    (hid : vc.arqSessionIdentifier = l.near.vc.arqSessionIdentifier)
    (hsizes : SameSizes l.near.vc vc) (hkeeps : KeepsSession n.near m) :
    LinkSim start { l with near := { l.near with vc := vc } } { n with near := m } names := by
  refine h.setNear ⟨⟨v, hrep, hview⟩, ?_, ?_, ?_, ?_, ?_⟩ rfl hsizes
  · rw [hkeeps.mode]
    exact h.near.mode.congr hstate hid
  · rw [hkeeps.width]
    exact h.near.width.trans hsizes.sendLength.symm
  · rw [hkeeps.epoch]
    exact h.near.epoch
  · rw [hkeeps.newest]
    exact h.near.newest
  · rw [hkeeps.reads]
    exact h.near.read

theorem LinkSim.push (h : LinkSim start l n names) (hfit : start.Fits) (payload : Bytes) :
    ∃ n', SessionWindow.Reaches stale n n' ∧ LinkSim start (l.step (.push payload)) n' names ∧
      n'.created = n.created := by
  obtain ⟨v, hrep, hview⟩ := h.near.view
  rw [Link.step, Endpoint.push]
  obtain ⟨ret, heq⟩ | ⟨vc', heq, hrep', hcontrol, hsizes⟩ := hrep.push payload
  · rw [heq]
    exact ⟨n, .refl n, h.setNear h.near rfl (.refl _), rfl⟩
  · have hlog : ∀ u < v.sendHead + 1,
        (l.near.pushed ++ [payload])[n.near.stamp.base + u]? =
          some (Function.update v.payload v.sendHead payload u) := by
      intro u hu
      rcases Nat.lt_succ_iff_lt_or_eq.mp hu with hlt | rfl
      · rw [Function.update_of_ne (by omega)]
        exact getElem?_append_of_some (hview.payload u hlt)
      · have hlast : n.near.stamp.base + v.sendHead = l.near.pushed.length := by
          rw [← hview.head, hview.pushed]
        rw [Function.update_self, hlast, List.getElem?_concat_length]
    have hhead : n.near.pushed + 1 = n.near.stamp.base + (v.sendHead + 1) := by
      have := hview.head
      omega
    rw [heq]
    refine ⟨_, .near (.refl n) (.push n), ⟨?_, h.far.peerPush payload,
      h.out.imp fun _ _ hf => hf.push payload, h.inn, h.sizesNear.trans hsizes, h.sizesFar,
      h.fitNear, .inr hfit⟩, rfl⟩
    exact ⟨⟨_, hrep', by simp [hview.pushed], hview.tail, hview.tx, hhead, hlog, hview.rTail,
      hview.rHead, hview.vacant, hview.held⟩, h.near.mode.congr hcontrol.1 hcontrol.3,
      h.near.width.trans hsizes.sendLength.symm, h.near.epoch, h.near.newest, h.near.read⟩

theorem LinkSim.read (h : LinkSim start l n names) (maxLength : Nat) :
    ∃ n', SessionWindow.Reaches stale n n' ∧ LinkSim start (l.step (.read maxLength)) n' names ∧
      n'.created = n.created := by
  obtain ⟨v, hrep, hview⟩ := h.near.view
  rw [Link.step, Endpoint.readNext]
  obtain ⟨ret, heq⟩ | ⟨vc', p, advance, heq, hlt, hp, hrep', hcontrol, hsizes⟩ :=
    hrep.read maxLength
  · rw [heq]
    exact ⟨n, .refl n, h.setNear h.near rfl (.refl _), rfl⟩
  · obtain ⟨u, hu⟩ := Option.isSome_iff_exists.mp
      ((hview.held_isSome v.rcvTail).mpr (by rw [hp]; rfl))
    obtain ⟨p', hlog, hp'⟩ := hview.held _ u hu
    obtain rfl : p' = p := Option.some.inj (hp'.symm.trans hp)
    have hready : ∀ i, n.near.rTail < i → i < n.near.rHead + advance →
        (n.near.held i).isSome := by
      intro i hi hi'
      rw [hview.rTail] at hi
      rw [hview.rHead] at hi'
      have hsome := hrep'.readable (u := i) hi hi'
      have hval : Function.update v.held v.rcvTail none i = v.held i :=
        Function.update_of_ne (by omega) _ _
      rw [hview.held_isSome, ← hval]
      exact hsome
    have htail := hview.rTail
    rw [← htail] at hu
    rw [heq]
    refine ⟨_, .near (.refl n) (.read n u advance (by rw [htail, hview.rHead]; exact hlt) hu
      hready), h.setNear ⟨⟨_, hrep', ?_⟩, h.near.mode.congr hcontrol.1 hcontrol.3,
        h.near.width.trans hsizes.sendLength.symm, h.near.epoch, h.near.newest, ?_⟩ rfl hsizes,
      rfl⟩
    · refine ⟨hview.pushed, hview.tail, hview.tx, hview.head, hview.payload,
        congrArg (· + 1) htail, congrArg (· + advance) hview.rHead, fun i hi => ?_,
        fun i u' hi => ?_⟩
      · by_cases hit : i = v.rcvTail
        · exact hit ▸ Function.update_self _ _ _
        · have hval : n.near.held i = none := by
            rw [← hi]
            exact (Function.update_of_ne (by rwa [htail]) _ _).symm
          exact (Function.update_of_ne hit _ _).trans (hview.vacant i hval)
      · replace hi : Function.update n.near.held n.near.rTail none i = some u' := hi
        have hit : i ≠ v.rcvTail := by
          rintro rfl
          rw [htail, Function.update_self] at hi
          cases hi
        have hval : n.near.held i = some u' := by
          rw [← hi]
          exact (Function.update_of_ne (by rwa [htail]) _ _).symm
        obtain ⟨q, hq, hv⟩ := hview.held i u' hval
        exact ⟨q, hq, (Function.update_of_ne hit _ _).trans hv⟩
    · show (l.near.read ++ [p']).map some = (n.near.reads ++ [u]).map (l.far.pushed[·]?)
      rw [List.map_append, List.map_append, h.near.read, List.map_singleton,
        List.map_singleton, hlog]

/-- The queues of a wiped channel. -/
theorem ViewSim.restart {v : VcView} {m : SessionWindow.Node} {log peerLog : List Bytes}
    (h : ViewSim v m log peerLog) (mode : SessionWindow.Mode) (newest : Nat) :
    ViewSim .empty (m.restart mode newest) log peerLog :=
  ⟨h.pushed, rfl, rfl, rfl, fun _ hu => absurd hu (Nat.not_lt_zero _), rfl, rfl,
    fun _ _ => rfl, nofun⟩

theorem LinkSim.disconnect (h : LinkSim start l n names) :
    ∃ n', SessionWindow.Reaches stale n n' ∧ LinkSim start (l.step .disconnect) n' names ∧
      n'.created = n.created := by
  obtain ⟨v, hrep, hview⟩ := h.near.view
  obtain ⟨hrep', hsizes⟩ := hrep.wipeToOff
  exact ⟨_, .near (.refl n) (.disconnect n), h.setNear ⟨⟨_, hrep', hview.restart _ _⟩, rfl,
    h.near.width.trans hsizes.sendLength.symm, congrArg (· + 1) h.near.epoch, h.near.newest,
    h.near.read⟩ rfl hsizes, rfl⟩

theorem LinkSim.checkTimeouts (h : LinkSim start l n names) (now timeout : Int) :
    ∃ n', SessionWindow.Reaches stale n n' ∧
      LinkSim start (l.step (.checkTimeouts now timeout)) n' names ∧
      n'.created = n.created := by
  by_cases hoff : l.near.vc.arqStateFlag = .off
  · have heq : l.step (.checkTimeouts now timeout) = l := by
      simp [Link.step, Endpoint.checkTimeouts, skyVcCheckTimeouts, hoff]
    exact ⟨n, .refl n, by rw [heq]; exact h, rfl⟩
  · rcases skyVcCheckTimeouts_eq l.near.vc now timeout with hsame | hwipe
    · have heq : l.step (.checkTimeouts now timeout) = l := by
        simp [Link.step, Endpoint.checkTimeouts, hsame]
      exact ⟨n, .refl n, by rw [heq]; exact h, rfl⟩
    · have heq : l.step (.checkTimeouts now timeout) = l.step .disconnect := by
        have hne : (skyVcWipeToArqOffState l.near.vc).arqStateFlag ≠ l.near.vc.arqStateFlag :=
          fun h => hoff h.symm
        simp [Link.step, Endpoint.checkTimeouts, Endpoint.disconnect, skyVcArqDisconnect, hwipe,
          hne]
      rw [heq]
      exact h.disconnect

/-- A new session with an identifier that names it from now on. -/
theorem LinkSim.connect (h : LinkSim start l n names) (tickTime : Int)
    (hname : names.near (n.created + 1) = UInt32.ofInt tickTime)
    (hnumber : l.sessions.length = n.created) :
    ∃ n', SessionWindow.Reaches stale n n' ∧ LinkSim start (l.step (.connect tickTime)) n' names ∧
      n'.created = n.created + 1 := by
  obtain ⟨v, hrep, hview⟩ := h.near.view
  obtain ⟨hrep', hsizes⟩ := hrep.wipeToInit tickTime
  have hsim := h.setNear (e := l.near.connect (l.sessions.length + 1) tickTime)
    (m := n.near.restart (.opening (n.created + 1)) (n.created + 1))
    ⟨⟨_, hrep', hview.restart _ _⟩, ⟨rfl, hname.symm⟩,
      h.near.width.trans hsizes.sendLength.symm, congrArg (· + 1) h.near.epoch,
      congrArg (· + 1) hnumber.symm, h.near.read⟩ rfl hsizes
  exact ⟨_, .near (.refl n) (.connect n), ⟨hsim.near, hsim.far, hsim.out, hsim.inn,
    hsim.sizesNear, hsim.sizesFar, hsim.fitNear, hsim.fitFar⟩, rfl⟩

theorem forall₂_eraseIdx {α β : Type} {R : α → β → Prop} {as : List α} {bs : List β}
    (h : List.Forall₂ R as bs) (i : Nat) : List.Forall₂ R (as.eraseIdx i) (bs.eraseIdx i) := by
  induction h generalizing i with
  | nil => exact .nil
  | cons hab hrest ih =>
      cases i with
      | zero => exact hrest
      | succ i => exact .cons hab (ih i)

theorem LinkSim.lose (h : LinkSim start l n names) (i : Nat) :
    ∃ n', SessionWindow.Reaches stale n n' ∧ LinkSim start (l.step (.lose i)) n' names ∧
      n'.created = n.created :=
  ⟨_, .near (.refl n) (.lose n (n.out.eraseIdx i) n.inn (List.eraseIdx_sublist _ _)
      (List.Sublist.refl _)),
    ⟨h.near, h.far, forall₂_eraseIdx h.out i, h.inn, h.sizesNear, h.sizesFar, h.fitNear,
      h.fitFar⟩, rfl⟩

end Steps

end Skylink
