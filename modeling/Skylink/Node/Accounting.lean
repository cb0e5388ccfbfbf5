import Mathlib.Algebra.BigOperators.Fin
import Skylink.Library.Trace
import Skylink.Node.Replay
import Skylink.Node.Transmission

/-!
# The counters of frames

Every frame that a node sends or takes is counted once for the whole node and once for its
channel. The counter of the channel for sent frames is never touched: `sky_tx` counts into
the one for received frames.
-/

namespace Skylink

open Trace

variable {w : Nat}

/-! ## The channel of a built frame -/

section Channel

variable (vc : SkyVirtualChannel w) (config : SkyConfig) (tx : SkyTransmitFrame) (now : Int)
  (frames : UInt16) (ret : SkyRet)

theorem extend_channel (payload : Bytes) : (tx.extend payload).hdr.channel = tx.hdr.channel :=
  SkyStaticHeader.channel_setFlag _ (by decide)

theorem addExtensions_channel (vs : List (ExtValue w)) :
    (addExtensions tx vs).hdr.channel = tx.hdr.channel := by
  induction vs generalizing tx with
  | nil => rfl
  | cons v vs ih =>
      have hone : (v.addTo tx).hdr.channel = tx.hdr.channel := by cases v <;> rfl
      exact (ih (v.addTo tx)).trans hone

theorem fillPayload_channel : (fillPayload vc tx ret).2.1.hdr.channel = tx.hdr.channel := by
  rw [fillPayload]
  split
  · split
    · rfl
    · dsimp only
      split
      · split
        · exact extend_channel _ _
        · exact extend_channel _ _
      · rfl
  · rfl

theorem fillFrame_channel :
    (skyVcFillFrame vc config tx now frames).2.1.hdr.channel = tx.hdr.channel := by
  rw [skyVcFillFrame]
  split
  · rw [fillFrameOff]
    split
    · rfl
    · split
      · split
        · exact extend_channel _ _
        · exact extend_channel _ _
      · rfl
  · split <;> rfl
  · rw [fillFrameOn_pending, fillPayload_channel, addExtensions_channel]
    exact SkyStaticHeader.channel_setFlag _ (by decide)

end Channel

theorem finishFrame_channel (H : KeyedHash) (node : SkyNode w) (v : Fin skyNumVirtualChannels)
    (tx : SkyTransmitFrame) : (finishFrame H node v tx).2.hdr.channel = tx.hdr.channel := by
  simp only [finishFrame, skyHmacExtendWithAuthentication]
  split_ifs
  · rfl
  · exact SkyStaticHeader.channel_setFlag _ (by decide)
  · rfl

theorem craftFrame_channel (H : KeyedHash) (node : SkyNode w) (v : Fin skyNumVirtualChannels)
    (now : Int) : (craftFrame H node v now).2.1.hdr.channel = v := by
  have hstart : (skyTxExtensionEvalHmacReset node.hmac
      (macSetFrameFields node.conf.mac node.mac (skyTxStartFrame node.conf v) now)
        v).2.hdr.channel = v := by
    rw [skyTxExtensionEvalHmacReset]
    split
    · exact SkyStaticHeader.channel_setVc v
    · exact SkyStaticHeader.channel_setVc v
  simp only [craftFrame]
  split
  · rw [fillFrame_channel, hstart]
  · rw [finishFrame_channel, fillFrame_channel, hstart]

/-! ## Events -/

namespace SkyNode

/-- The frames that the call emits on the channel. -/
def emits (H : KeyedHash) (v : Fin skyNumVirtualChannels) (node : SkyNode w) : NodeOp w → Nat
  | .tx tick =>
      match (skyTx H tick node).2.1 with
      | some tx => if tx.hdr.channel = v then 1 else 0
      | none => 0
  | _ => 0

/-- The frames on the channel that the call takes past the authentication. -/
def takes (H : KeyedHash) (v : Fin skyNumVirtualChannels) (node : SkyNode w) : NodeOp w → Nat
  | .rx _ frame => if frame.header.channel = v ∧ node.accepts H frame then 1 else 0
  | _ => 0

/-- The frames that a run emits on the channel. -/
def emitted (H : KeyedHash) (v : Fin skyNumVirtualChannels) (node : SkyNode w)
    (ops : List (NodeOp w)) : Nat := total (step H) (emits H v) node ops

/-- The received frames on the channel that pass the authentication in a run. -/
def taken (H : KeyedHash) (v : Fin skyNumVirtualChannels) (node : SkyNode w)
    (ops : List (NodeOp w)) : Nat := total (step H) (takes H v) node ops

end SkyNode

/-! ## The counters in one call -/

theorem emits_of_some {H : KeyedHash} {tick : Int} {node : SkyNode w} {tx : SkyTransmitFrame}
    (h : (skyTx H tick node).2.1 = some tx) (v : Fin skyNumVirtualChannels) :
    node.emits H v (.tx tick) = if tx.hdr.channel = v then 1 else 0 := by
  rw [SkyNode.emits, h]

theorem emits_of_none {H : KeyedHash} {tick : Int} {node : SkyNode w}
    (h : (skyTx H tick node).2.1 = none) (v : Fin skyNumVirtualChannels) :
    node.emits H v (.tx tick) = 0 := by
  rw [SkyNode.emits, h]

/-- A call that returns no frame counts none. -/
theorem skyTx_diag_of_none {H : KeyedHash} {tick : Int} {node : SkyNode w}
    (h : (skyTx H tick node).2.1 = none) : (skyTx H tick node).1.diag = node.diag := by
  rw [skyTx_eq] at h ⊢
  split at h
  · rename_i v hsend hpicked
    dsimp only at h ⊢
    have hret : (craftFrame H (node.readyToSend tick) v tick).2.2 ≠ 1 := by
      intro hone
      rw [if_pos hone] at h
      cases h
    revert hret
    simp only [craftFrame]
    split
    · exact fun _ => rfl
    · exact fun hret => absurd rfl hret
  · rfl

/-- A frame is counted for the node, and as received for its channel. -/
theorem skyTx_diag_of_some {H : KeyedHash} {tick : Int} {node : SkyNode w}
    {tx : SkyTransmitFrame} (h : (skyTx H tick node).2.1 = some tx) :
    (skyTx H tick node).1.diag.txFrames = node.diag.txFrames + 1 ∧
      (skyTx H tick node).1.diag.vcStats = Function.update node.diag.vcStats tx.hdr.channel
        { node.diag.vcStats tx.hdr.channel with
          rxFrames := (node.diag.vcStats tx.hdr.channel).rxFrames + 1 } := by
  obtain ⟨v, -, -, heq, hcraft⟩ := skyTx_crafted h
  have hchannel := craftFrame_channel H (node.readyToSend tick) v tick
  rw [hcraft] at hchannel
  rw [heq]
  dsimp only at hchannel ⊢
  rw [hchannel]
  have hret : (craftFrame H (node.readyToSend tick) v tick).2.2 = 1 := by rw [hcraft]
  revert hret
  simp only [craftFrame]
  split
  · rename_i hneg
    intro hret
    rw [show _ = (1 : SkyRet) from hret] at hneg
    exact absurd hneg (by decide)
  · exact fun _ => ⟨rfl, rfl⟩

theorem takes_of_not_accepts {H : KeyedHash} {tick : Int} {node : SkyNode w}
    {frame : SkyRadioFrame} (h : node.accepts H frame = false) (v : Fin skyNumVirtualChannels) :
    node.takes H v (.rx tick frame) = 0 := by
  rw [SkyNode.takes, h]
  exact if_neg fun hand => Bool.false_ne_true hand.2

/-- The authentication check counts its failures only. -/
theorem check_diag (H : KeyedHash) (node : SkyNode w) (frame : SkyRadioFrame)
    (parsed : SkyParsedFrame) :
    (skyHmacCheckAuthentication H node frame parsed).1.diag.vcStats = node.diag.vcStats ∧
      (skyHmacCheckAuthentication H node frame parsed).1.diag.txFrames = node.diag.txFrames := by
  cases check_cases H node frame parsed
  all_goals
    rename_i heq
    rw [heq]
    exact ⟨rfl, rfl⟩

theorem acceptFrame_diag (tick : Int) (node : SkyNode w) (rxTimeTicks : Int)
    (parsed : SkyParsedFrame) :
    (acceptFrame tick node rxTimeTicks parsed).1.diag.txFrames = node.diag.txFrames ∧
      (acceptFrame tick node rxTimeTicks parsed).1.diag.vcStats =
        Function.update node.diag.vcStats parsed.hdr.channel
          { node.diag.vcStats parsed.hdr.channel with
            rxFrames := (node.diag.vcStats parsed.hdr.channel).rxFrames + 1 } := by
  rw [acceptFrame_eq]
  exact ⟨rfl, rfl⟩

theorem check_channel {H : KeyedHash} {self self' : SkyNode w} {frame : SkyRadioFrame}
    {parsed parsed' : SkyParsedFrame}
    (h : skyHmacCheckAuthentication H self frame parsed = (self', .ok parsed')) :
    parsed'.hdr.channel = parsed.hdr.channel := by
  cases check_cases H self frame parsed with
  | unchecked payloadLen _ _ heq =>
      obtain ⟨-, hok⟩ := Prod.mk.inj (h.symm.trans heq)
      rw [Except.ok.inj hok]
      rfl
  | passed sequenceTx _ _ _ _ _ heq =>
      obtain ⟨-, hok⟩ := Prod.mk.inj (h.symm.trans heq)
      rw [Except.ok.inj hok]
      rfl
  | _ =>
      rename_i heq
      cases h.symm.trans heq

/-- What a reception leaves, told by whether the frame passes the authentication. -/
theorem skyRx_accepts_cases (H : KeyedHash) (tick : Int) (node : SkyNode w)
    (frame : SkyRadioFrame) :
    (node.accepts H frame = false ∧ (skyRx H tick node frame).1.diag.vcStats = node.diag.vcStats ∧
        (skyRx H tick node frame).1.diag.txFrames = node.diag.txFrames) ∨
      node.accepts H frame = true ∧ ∃ node' parsed, parsed.hdr.channel = frame.header.channel ∧
        node'.diag.vcStats = node.diag.vcStats ∧ node'.diag.txFrames = node.diag.txFrames ∧
        skyRx H tick node frame = acceptFrame tick node' frame.rxTimeTicks parsed := by
  by_cases hlen : frame.length < skyFrameMinLen
  · refine Or.inl ⟨?_, ?_⟩
    · rw [SkyNode.accepts, SkyNode.received, if_pos hlen]
    · rw [skyRx, if_pos hlen]
      exact ⟨rfl, rfl⟩
  rw [skyRx_eq H tick node frame hlen, SkyNode.accepts]
  cases hreceived : node.received frame with
  | error ret => exact Or.inl ⟨rfl, rfl, rfl⟩
  | ok parsed =>
      obtain ⟨hstats, htx⟩ := check_diag H (node.countReceived frame) frame parsed
      obtain ⟨node', ret, hcheck⟩ : ∃ node' ret,
          skyHmacCheckAuthentication H (node.countReceived frame) frame parsed = (node', ret) :=
        ⟨_, _, rfl⟩
      rw [hcheck] at hstats htx
      dsimp only
      rw [hcheck]
      cases ret with
      | error ret => exact Or.inl ⟨rfl, hstats, htx⟩
      | ok parsed' =>
          have hchannel : parsed'.hdr.channel = frame.header.channel := by
            rw [check_channel hcheck, received_hdr node frame hreceived]
          exact Or.inr ⟨rfl, node', parsed', hchannel, hstats, htx, rfl⟩

/-! ## The counters in one step -/

theorem UInt16.toNat_succ_modEq (c : UInt16) : (c + 1).toNat ≡ c.toNat + 1 [MOD 65536] := by
  rw [UInt16.toNat_add]
  exact Nat.mod_modEq _ _

/-- The statistics of a channel are set in one call at most. -/
theorem update_rxFrames (stats : Fin skyNumVirtualChannels → SkyVCDiagnostics)
    (u v : Fin skyNumVirtualChannels) :
    (Function.update stats u { stats u with rxFrames := (stats u).rxFrames + 1 } v).txFrames =
        (stats v).txFrames ∧
      (Function.update stats u
          { stats u with rxFrames := (stats u).rxFrames + 1 } v).rxFrames.toNat ≡
        (stats v).rxFrames.toNat + (if u = v then 1 else 0) [MOD 65536] := by
  by_cases h : u = v
  · subst h
    rw [Function.update_self, if_pos rfl]
    exact ⟨rfl, UInt16.toNat_succ_modEq _⟩
  · rw [Function.update_of_ne (Ne.symm h), if_neg h]
    exact ⟨rfl, Nat.ModEq.refl _⟩

theorem step_counters (H : KeyedHash) (node : SkyNode w) (op : NodeOp w) :
    (∀ v, ((node.step H op).diag.vcStats v).txFrames = (node.diag.vcStats v).txFrames ∧
      ((node.step H op).diag.vcStats v).rxFrames.toNat ≡
        (node.diag.vcStats v).rxFrames.toNat + (node.emits H v op + node.takes H v op)
          [MOD 65536]) ∧
    (node.step H op).diag.txFrames.toNat ≡
      node.diag.txFrames.toNat + ∑ v, node.emits H v op [MOD 65536] := by
  cases op with
  | rx tick frame =>
      have hemits (v : Fin skyNumVirtualChannels) : node.emits H v (.rx tick frame) = 0 := rfl
      simp only [hemits, Nat.zero_add, Finset.sum_const_zero, Nat.add_zero, SkyNode.step]
      rcases skyRx_accepts_cases H tick node frame with
        ⟨haccepts, hstats, htx⟩ | ⟨haccepts, node', parsed, hchannel, hstats, htx, heq⟩
      · rw [hstats, htx]
        refine ⟨fun v => ⟨rfl, ?_⟩, Nat.ModEq.refl _⟩
        rw [takes_of_not_accepts haccepts]
        exact Nat.ModEq.refl _
      · obtain ⟨htx', hstats'⟩ := acceptFrame_diag tick node' frame.rxTimeTicks parsed
        rw [heq, htx', htx, hstats', hstats, hchannel]
        refine ⟨fun v => ?_, Nat.ModEq.refl _⟩
        have htakes : node.takes H v (.rx tick frame) =
            if frame.header.channel = v then 1 else 0 := by
          simp only [SkyNode.takes, haccepts, and_true]
        rw [htakes]
        exact update_rxFrames node.diag.vcStats frame.header.channel v
  | tx tick =>
      have htakes (v : Fin skyNumVirtualChannels) : node.takes H v (.tx tick) = 0 := rfl
      simp only [htakes, Nat.add_zero, SkyNode.step]
      cases h : (skyTx H tick node).2.1 with
      | none =>
          rw [skyTx_diag_of_none h]
          refine ⟨fun v => ⟨rfl, ?_⟩, ?_⟩
          · rw [emits_of_none h]
            exact Nat.ModEq.refl _
          · simp only [emits_of_none h, Finset.sum_const_zero]
            exact Nat.ModEq.refl _
      | some tx =>
          obtain ⟨htx, hstats⟩ := skyTx_diag_of_some h
          rw [htx, hstats]
          simp only [emits_of_some h]
          refine ⟨update_rxFrames node.diag.vcStats tx.hdr.channel, ?_⟩
          rw [Finset.sum_ite_eq Finset.univ tx.hdr.channel fun _ => 1,
            if_pos (Finset.mem_univ _)]
          exact UInt16.toNat_succ_modEq _
  | channel v op =>
      have hemits (u : Fin skyNumVirtualChannels) : node.emits H u (.channel v op) = 0 := rfl
      have htakes (u : Fin skyNumVirtualChannels) : node.takes H u (.channel v op) = 0 := rfl
      refine ⟨fun u => ⟨rfl, ?_⟩, ?_⟩
      · rw [hemits, htakes]
        exact Nat.ModEq.refl _
      · simp only [hemits, Finset.sum_const_zero]
        exact Nat.ModEq.refl _

/-! ## The counters of a run -/

/-- The statistics tell, modulo 2^16, what was sent and received. -/
structure FramesCounted (H : KeyedHash) (node : SkyNode w) (ops : List (NodeOp w)) : Prop where
  txFrames : ∀ v, ((node.run H ops).diag.vcStats v).txFrames.toNat ≡
    node.emitted H v ops [MOD 65536]
  rxFrames : ∀ v, ((node.run H ops).diag.vcStats v).rxFrames.toNat ≡
    node.taken H v ops [MOD 65536]
  total : ∑ v, ((node.run H ops).diag.vcStats v).txFrames.toNat ≡
    (node.run H ops).diag.txFrames.toNat [MOD 65536]

theorem skyCreate_diag {config : SkyConfig} {node : SkyNode w} (h : skyCreate config = some node) :
    node.diag = .zero := by
  simp only [skyCreate, Option.bind_eq_bind, Option.bind_eq_some_iff, Option.some.injEq] at h
  obtain ⟨-, -, vc0, -, vc1, -, vc2, -, vc3, -, rfl⟩ := h
  rfl

/-- What the counters hold after a run of a new node. -/
theorem run_counters {config : SkyConfig} {node : SkyNode w} (h : skyCreate config = some node)
    (H : KeyedHash) (ops : List (NodeOp w)) :
    (∀ v, ((node.run H ops).diag.vcStats v).txFrames = 0 ∧
      ((node.run H ops).diag.vcStats v).rxFrames.toNat ≡
        node.emitted H v ops + node.taken H v ops [MOD 65536]) ∧
    (node.run H ops).diag.txFrames.toNat ≡ ∑ v, node.emitted H v ops [MOD 65536] := by
  have hzero := skyCreate_diag h
  refine ⟨fun v => ⟨?_, ?_⟩, ?_⟩
  · have hkeeps (node : SkyNode w) :
        ((node.run H ops).diag.vcStats v).txFrames = (node.diag.vcStats v).txFrames := by
      induction ops generalizing node with
      | nil => rfl
      | cons op ops ih => exact (ih (node.step H op)).trans ((step_counters H node op).1 v).1
    rw [hkeeps, hzero]
    rfl
  · have hrun := total_modEq (fun node : SkyNode w => (node.diag.vcStats v).rxFrames.toNat)
      (fun node op => ((step_counters H node op).1 v).2) node ops
    rw [total_add, hzero, show ((SkyDiagnostics.zero.vcStats v).rxFrames).toNat = 0 from rfl,
      Nat.zero_add] at hrun
    exact hrun
  · have hrun := total_modEq (fun node : SkyNode w => node.diag.txFrames.toNat)
      (fun node op => (step_counters H node op).2) node ops
    rw [total_sum, hzero, show SkyDiagnostics.zero.txFrames.toNat = 0 from rfl,
      Nat.zero_add] at hrun
    exact hrun

/-- The statistics of the channels are right just as long as the number of frames that were
sent on each of them is a multiple of 2^16, none at first. -/
theorem framesCounted_iff {config : SkyConfig} {node : SkyNode w}
    (h : skyCreate config = some node) (H : KeyedHash) (ops : List (NodeOp w)) :
    FramesCounted H node ops ↔ ∀ v, 65536 ∣ node.emitted H v ops := by
  obtain ⟨hchannels, htotal⟩ := run_counters h H ops
  constructor
  · intro hcounted v
    have htx := hcounted.txFrames v
    rw [(hchannels v).1] at htx
    exact (Nat.modEq_zero_iff_dvd).mp htx.symm
  · intro hall
    have hnone (v : Fin skyNumVirtualChannels) : node.emitted H v ops ≡ 0 [MOD 65536] :=
      (Nat.modEq_zero_iff_dvd).mpr (hall v)
    refine ⟨fun v => ?_, fun v => ?_, ?_⟩
    · rw [(hchannels v).1]
      exact (hnone v).symm
    · have hadd := (hnone v).add_right (node.taken H v ops)
      rw [Nat.zero_add] at hadd
      exact (hchannels v).2.trans hadd
    · have hsum : ∑ v, node.emitted H v ops ≡ 0 [MOD 65536] :=
        (Nat.modEq_zero_iff_dvd).mpr (Finset.dvd_sum fun v _ => hall v)
      have hleft : ∑ v, ((node.run H ops).diag.vcStats v).txFrames.toNat = 0 :=
        Finset.sum_eq_zero fun v _ => by
          rw [(hchannels v).1]
          rfl
      rw [hleft]
      exact (htotal.trans hsum).symm

theorem framesCounted_iff_example :
    FramesCounted exampleHash (exampleNode 0 7) [.channel 1 (.push [1, 2, 3]), .tx 0] ↔
      ∀ v, 65536 ∣ (exampleNode 0 7).emitted exampleHash v
        [.channel 1 (.push [1, 2, 3]), .tx 0] :=
  framesCounted_iff (exampleNode_eq 0 7) exampleHash _

/-- A node that sent one frame tells that it sent none on the channel, and received one. -/
theorem not_framesCounted :
    ¬ ∀ (config : SkyConfig) (node : SkyNode 8), skyCreate config = some node →
      ∀ (H : KeyedHash) (ops : List (NodeOp 8)), FramesCounted H node ops := by
  intro h
  have hcounted := (h (exampleConfig 0 7) (exampleNode 0 7) (exampleNode_eq 0 7) exampleHash
    [.channel 1 (.push [1, 2, 3]), .tx 0]).txFrames 1
  revert hcounted
  decide +kernel

end Skylink
