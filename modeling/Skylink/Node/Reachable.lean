import Mathlib.Tactic.FinCases
import Skylink.Frame.Grammar
import Skylink.Node.Runs

/-!
# The channels of a node

Whatever a node receives, transmits and is asked for, the rings of its channels keep
their form.
-/

namespace Skylink

variable {w : Nat}

/-- A received frame has a whole buffer, and what is put into a channel can be stored at
all. -/
def NodeOp.Valid (node : SkyNode w) : NodeOp w → Prop
  | .rx _ frame => frame.raw.length = rawLen
  | .tx _ => True
  | .channel v op => op.Valid (node.virtualChannels v).elementBuffer

instance NodeOp.decidableValid (node : SkyNode w) (op : NodeOp w) : Decidable (op.Valid node) :=
  match op with
  | .rx _ frame => inferInstanceAs (Decidable (frame.raw.length = rawLen))
  | .tx _ => inferInstanceAs (Decidable True)
  | .channel v op => inferInstanceAs (Decidable (op.Valid (node.virtualChannels v).elementBuffer))

/-- The rings of every channel hold some queues. -/
def SkyNode.RingsHold (node : SkyNode w) : Prop :=
  ∀ v, ∃ view, VcRep (node.virtualChannels v) view

/-! ## Creation -/

theorem skyCreate_conf {config : SkyConfig} {node : SkyNode w}
    (h : skyCreate config = some node) :
    3 ≤ node.conf.identityLen ∧ node.conf.identityLen ≤ skyMaxIdentityLen := by
  simp only [skyCreate, Option.bind_eq_bind, Option.bind_eq_some_iff, Option.some.injEq] at h
  obtain ⟨_, hguard, -, -, -, -, -, -, -, -, rfl⟩ := h
  rw [guard] at hguard
  split at hguard
  · rename_i hlen
    exact hlen
  · cases hguard

/-- The channels of a new node are new. -/
theorem skyCreate_channels {config : SkyConfig} {node : SkyNode w}
    (h : skyCreate config = some node) (v : Fin skyNumVirtualChannels) :
    skyVcCreate (config.vc v) = some (node.conf.vc v, node.virtualChannels v) := by
  simp only [skyCreate, Option.bind_eq_bind, Option.bind_eq_some_iff, Option.some.injEq] at h
  obtain ⟨-, -, vc0, h0, vc1, h1, vc2, h2, vc3, h3, rfl⟩ := h
  fin_cases v
  · exact h0
  · exact h1
  · exact h2
  · exact h3

theorem skyCreate_ringsHold (hw : 250 ≤ 2 ^ w) {config : SkyConfig} {node : SkyNode w}
    (h : skyCreate config = some node) : node.RingsHold := by
  intro v
  exact ⟨_, (skyVcCreate_rep hw (skyCreate_channels h v)).2.1⟩

/-! ## Reception -/

theorem received_payload {node : SkyNode w} {frame : SkyRadioFrame} {parsed : SkyParsedFrame}
    (h : node.received frame = .ok parsed) : parsed.payload.length ≤ frame.raw.length := by
  obtain ⟨-, identity, -, hheader⟩ := received_ok node frame h
  obtain ⟨-, start, -, hpayload, -⟩ := rxHeader_located hheader
  rw [hpayload, List.length_drop]
  exact Nat.sub_le _ _

/-- The check cuts off the trailer of the payload, and the pointers stay. -/
theorem check_ok {H : KeyedHash} {self self' : SkyNode w} {frame : SkyRadioFrame}
    {parsed parsed' : SkyParsedFrame}
    (h : skyHmacCheckAuthentication H self frame parsed = (self', .ok parsed')) :
    ∃ hdr n, parsed' = { parsed with hdr := hdr, payloadLen := n } ∧ n ≤ parsed.payloadLen := by
  cases check_cases H self frame parsed with
  | unchecked payloadLen _ hlen heq =>
      obtain ⟨-, hok⟩ := Prod.mk.inj (h.symm.trans heq)
      refine ⟨_, _, Except.ok.inj hok, ?_⟩
      rw [hlen]
      split
      · exact Nat.sub_le _ _
      · exact le_rfl
  | passed sequenceTx _ _ _ _ _ heq =>
      obtain ⟨-, hok⟩ := Prod.mk.inj (h.symm.trans heq)
      exact ⟨_, _, Except.ok.inj hok, Nat.sub_le _ _⟩
  | _ =>
      rename_i heq
      cases h.symm.trans heq

theorem acceptFrame_virtualChannels (tick : Int) (node : SkyNode w) (rxTimeTicks : Int)
    (parsed : SkyParsedFrame) :
    (acceptFrame tick node rxTimeTicks parsed).1.virtualChannels =
      Function.update node.virtualChannels parsed.hdr.channel
        (skyVcProcessFrame tick (node.virtualChannels parsed.hdr.channel) parsed tick).1 := by
  rw [acceptFrame_eq]

theorem SkyNode.RingsHold.update {node : SkyNode w} (h : node.RingsHold)
    {v : Fin skyNumVirtualChannels} {vc : SkyVirtualChannel w} (hvc : ∃ view, VcRep vc view)
    (u : Fin skyNumVirtualChannels) :
    ∃ view, VcRep (Function.update node.virtualChannels v vc u) view := by
  rcases eq_or_ne u v with rfl | hne
  · rw [Function.update_self]
    exact hvc
  · rw [Function.update_of_ne hne]
    exact h u

/-- A frame is refused, or processed by the channel that its header names. -/
theorem skyRx_virtualChannels (H : KeyedHash) (tick : Int) (node : SkyNode w)
    (frame : SkyRadioFrame) :
    (skyRx H tick node frame).1.virtualChannels = node.virtualChannels ∨
      ∃ parsed : SkyParsedFrame, parsed.payload.length ≤ frame.raw.length ∧
        (skyRx H tick node frame).1.virtualChannels =
          Function.update node.virtualChannels parsed.hdr.channel
            (skyVcProcessFrame tick (node.virtualChannels parsed.hdr.channel) parsed tick).1 := by
  by_cases hlen : frame.length < skyFrameMinLen
  · rw [skyRx, if_pos hlen]
    exact .inl rfl
  · rw [skyRx_eq H tick node frame hlen]
    cases hreceived : node.received frame with
    | error ret => exact .inl rfl
    | ok parsed =>
        have hsame : (node.countReceived frame).SameOutsideCounters
            (skyHmacCheckAuthentication H (node.countReceived frame) frame parsed).1 :=
          check_sameOutsideCounters
        cases hcheck : skyHmacCheckAuthentication H (node.countReceived frame) frame parsed with
        | mk node' ret =>
            rw [hcheck] at hsame
            have hchannels : node'.virtualChannels = node.virtualChannels := hsame.virtualChannels
            cases ret with
            | error ret => exact .inl (by simpa only [hcheck] using hchannels)
            | ok parsed' =>
                have hpayload : parsed'.payload.length ≤ frame.raw.length := by
                  obtain ⟨hdr, n, rfl, -⟩ := check_ok hcheck
                  show parsed.payload.length ≤ frame.raw.length
                  exact received_payload hreceived
                refine .inr ⟨parsed', hpayload, ?_⟩
                simp only [hcheck]
                rw [acceptFrame_virtualChannels, hchannels]

theorem skyRx_ringsHold (H : KeyedHash) (tick : Int) {node : SkyNode w} (h : node.RingsHold)
    {frame : SkyRadioFrame} (hraw : frame.raw.length < 65536) :
    (skyRx H tick node frame).1.RingsHold := by
  intro v
  obtain hsame | ⟨parsed, hpayload, hprocessed⟩ := skyRx_virtualChannels H tick node frame
  · rw [hsame]
    exact h v
  · have hshort : parsed.payloadBytes.length < 65536 := by
      rw [SkyParsedFrame.payloadBytes, List.length_take]
      omega
    obtain ⟨view, hrep⟩ := h parsed.hdr.channel
    rw [hprocessed]
    exact h.update (hrep.process_any tick hshort tick) v

/-! ## Transmission -/

theorem SkyNode.RingsHold.checkTimeouts {node : SkyNode w} (h : node.RingsHold) (now : Int) :
    (node.checkTimeouts now).RingsHold := by
  intro v
  obtain ⟨view, hrep⟩ := h v
  show ∃ view, VcRep (skyVcCheckTimeouts (node.virtualChannels v) now
    node.conf.arq.timeoutTicks) view
  obtain heq | heq := skyVcCheckTimeouts_eq (node.virtualChannels v) now
    node.conf.arq.timeoutTicks
  · rw [heq]
    exact ⟨view, hrep⟩
  · rw [heq]
    exact ⟨_, hrep.wipeToOff.1⟩

theorem craftFrame_virtualChannels (H : KeyedHash) (node : SkyNode w)
    (v : Fin skyNumVirtualChannels) (now : Int) :
    ∃ tx frames, (craftFrame H node v now).1.virtualChannels =
      Function.update node.virtualChannels v
        (skyVcFillFrame (node.virtualChannels v) node.conf tx now frames).1 := by
  refine ⟨(skyTxExtensionEvalHmacReset node.hmac
    (macSetFrameFields node.conf.mac node.mac (skyTxStartFrame node.conf v) now) v).2,
    node.mac.framesSentInCurrentWindowPerVc v, ?_⟩
  simp only [craftFrame]
  split
  · rfl
  · rfl

/-- Time passes at all channels, and one of them may fill a frame. -/
theorem skyTx_virtualChannels (H : KeyedHash) (tick : Int) (node : SkyNode w) :
    (skyTx H tick node).1.virtualChannels = (node.checkTimeouts tick).virtualChannels ∨
      ∃ v tx frames, (skyTx H tick node).1.virtualChannels =
        Function.update (node.checkTimeouts tick).virtualChannels v
          (skyVcFillFrame ((node.checkTimeouts tick).virtualChannels v) node.conf tx tick
            frames).1 := by
  rw [skyTx_eq]
  split
  · rename_i v _ _
    obtain ⟨tx, frames, hcraft⟩ := craftFrame_virtualChannels H (node.readyToSend tick) v tick
    exact .inr ⟨v, tx, frames, hcraft⟩
  · exact .inl rfl

theorem skyTx_ringsHold (H : KeyedHash) (tick : Int) {node : SkyNode w} (h : node.RingsHold) :
    (skyTx H tick node).1.RingsHold := by
  intro u
  obtain hidle | ⟨v, tx, frames, hfilled⟩ := skyTx_virtualChannels H tick node
  · rw [hidle]
    exact h.checkTimeouts tick u
  · obtain ⟨view, hrep⟩ := h.checkTimeouts tick v
    rw [hfilled]
    exact (h.checkTimeouts tick).update (hrep.fill_any _ tx tick frames) u

/-! ## Runs -/

namespace SkyNode.RingsHold

variable {node created : SkyNode w}

theorem step (H : KeyedHash) (h : node.RingsHold) {op : NodeOp w} (hop : op.Valid created) :
    (node.step H op).RingsHold := by
  cases op with
  | rx tick frame =>
      have hraw : frame.raw.length = rawLen := hop
      exact skyRx_ringsHold H tick h (by rw [hraw]; decide)
  | tx tick => exact skyTx_ringsHold H tick h
  | channel v op =>
      obtain ⟨view, hrep⟩ := h v
      exact h.update (hrep.step hop)

theorem run (H : KeyedHash) (h : node.RingsHold) {ops : List (NodeOp w)}
    (hops : ∀ op ∈ ops, op.Valid created) : (node.run H ops).RingsHold := by
  induction ops generalizing node with
  | nil => exact h
  | cons op ops ih =>
      exact ih (h.step H (hops op (by simp))) fun op' hop' => hops op' (by simp [hop'])

end SkyNode.RingsHold

end Skylink
