import Skylink.Library.RoundRobin
import Skylink.Node.Forgery
import Skylink.Node.Runs

/-!
# Turns of the channels

`sky_tx` asks the channels in turn, and begins one channel further each time it has picked
one. A channel that always has something to send gets every fourth frame at least.
-/

namespace Skylink

open RoundRobin

variable {w : Nat}

namespace SkyNode

/-- What `sky_tx` looks for in a channel. -/
def wants (node : SkyNode w) (v : Fin skyNumVirtualChannels) (tick : Int) : Bool :=
  decide (node.hmac.vcEnforcementNeed v ≠ 0) ||
    skyVcContentToSend ((node.checkTimeouts tick).virtualChannels v) node.conf tick
      (node.mac.framesSentInCurrentWindowPerVc v)

/-- The channel for which an operation builds a frame. -/
def serves (node : SkyNode w) : NodeOp w → Option (Fin skyNumVirtualChannels)
  | .tx tick => if macCanSend node.conf.mac node.mac tick then node.picked tick else none
  | .rx .. | .channel .. => none

/-- The channels for which the operations build frames, in order. -/
def served (H : KeyedHash) : SkyNode w → List (NodeOp w) → List (Fin skyNumVirtualChannels)
  | _, [] => []
  | node, op :: ops => (node.serves op).toList ++ served H (node.step H op) ops

/-- If the node may send, the channel has something to send. -/
def WantsAt (node : SkyNode w) (v : Fin skyNumVirtualChannels) : NodeOp w → Prop
  | .tx tick => macCanSend node.conf.mac node.mac tick → node.wants v tick
  | .rx .. | .channel .. => True

instance (node : SkyNode w) (v : Fin skyNumVirtualChannels) :
    (op : NodeOp w) → Decidable (node.WantsAt v op)
  | .tx _ => inferInstanceAs (Decidable (_ → _))
  | .rx .. | .channel .. => .isTrue trivial

def WantsAlways (H : KeyedHash) (v : Fin skyNumVirtualChannels) :
    SkyNode w → List (NodeOp w) → Prop
  | _, [] => True
  | node, op :: ops => node.WantsAt v op ∧ WantsAlways H v (node.step H op) ops

instance decidableWantsAlways (H : KeyedHash) (v : Fin skyNumVirtualChannels) :
    (node : SkyNode w) → (ops : List (NodeOp w)) → Decidable (node.WantsAlways H v ops)
  | _, [] => .isTrue trivial
  | node, op :: ops =>
      haveI : Decidable (WantsAlways H v (node.step H op) ops) :=
        decidableWantsAlways H v (node.step H op) ops
      inferInstanceAs (Decidable (node.WantsAt v op ∧ WantsAlways H v (node.step H op) ops))

end SkyNode

/-! ## One operation -/

theorem skyTxPickVcLoop_first {node : SkyNode w} {now : Int} {i : Nat} {rest : List Nat}
    {v : Fin skyNumVirtualChannels}
    (hv : Fin.ofNat skyNumVirtualChannels (node.mac.vcRoundRobinStart + i) = v)
    (hwants : node.hmac.vcEnforcementNeed v ≠ 0 ∨
      skyVcContentToSend (node.virtualChannels v) node.conf now
        (node.mac.framesSentInCurrentWindowPerVc v) = true) :
    skyTxPickVcLoop node now (i :: rest) = some v := by
  rw [skyTxPickVcLoop, hv]
  split_ifs with hneed hcontent
  · rfl
  · rfl
  · rcases hwants with hneed' | hcontent'
    · exact absurd hneed' hneed
    · exact absurd hcontent' hcontent

/-- The channel at the pointer comes first. -/
theorem picked_of_wants {node : SkyNode w} {v : Fin skyNumVirtualChannels} {tick : Int}
    (hstart : node.mac.vcRoundRobinStart % skyNumVirtualChannels = v)
    (hwants : node.wants v tick = true) : node.picked tick = some v := by
  have hfirst : Fin.ofNat skyNumVirtualChannels
      ((node.checkTimeouts tick).mac.vcRoundRobinStart + 0) = v := Fin.ext hstart
  rw [SkyNode.wants, Bool.or_eq_true, decide_eq_true_eq] at hwants
  have hloop : skyTxPickVcLoop (node.checkTimeouts tick) tick
      (List.range skyNumVirtualChannels) = some v := skyTxPickVcLoop_first hfirst hwants
  rw [SkyNode.picked, skyTxPickVc, hloop]

theorem skyTxTrackTddState_roundRobin (node : SkyNode w) (canSend contentToSend : Bool)
    (now : Int) : (skyTxTrackTddState node canSend contentToSend now).mac.vcRoundRobinStart =
      node.mac.vcRoundRobinStart := by
  have hkept {c : Prop} [Decidable c] {mac mac' : SkyMAC}
      (h : mac.vcRoundRobinStart = node.mac.vcRoundRobinStart)
      (h' : mac'.vcRoundRobinStart = node.mac.vcRoundRobinStart) :
      (if c then mac else mac').vcRoundRobinStart = node.mac.vcRoundRobinStart := by
    split
    · exact h
    · exact h'
  rw [skyTxTrackTddState]
  dsimp only
  repeat' first | rfl | apply hkept

theorem craftFrame_roundRobin (H : KeyedHash) (node : SkyNode w) (v : Fin skyNumVirtualChannels)
    (now : Int) :
    (craftFrame H node v now).1.mac.vcRoundRobinStart = node.mac.vcRoundRobinStart := by
  rw [craftFrame]
  dsimp only
  split
  · rfl
  · rfl

theorem skyRx_roundRobin (H : KeyedHash) (tick : Int) (node : SkyNode w)
    (frame : SkyRadioFrame) :
    (skyRx H tick node frame).1.mac.vcRoundRobinStart = node.mac.vcRoundRobinStart := by
  have hcheck (parsed : SkyParsedFrame) :
      (skyHmacCheckAuthentication H (node.countReceived frame) frame parsed).1.mac = node.mac :=
    check_sameOutsideCounters.mac
  rcases skyRx_cases H tick node frame with heq | heq | ⟨parsed, -, hrest⟩
  · rw [heq]
  · rw [heq]
    rfl
  · rcases hrest with ⟨node', ret, heq, hrx⟩ | ⟨node', parsed', heq, hrx⟩
    · have hmac : node'.mac = node.mac := by
        have hmac := hcheck parsed
        rwa [heq] at hmac
      rw [hrx, hmac]
    · have hmac : node'.mac = node.mac := by
        have hmac := hcheck parsed
        rwa [heq] at hmac
      rw [hrx, acceptFrame_mac, skyRxProcessExtMacControl]
      split
      · rw [hmac]
      · split_ifs
        · rw [hmac]
        · show (macUpdateBelief _ node'.mac _ _ _ _).vcRoundRobinStart = _
          rw [hmac]
          rfl

/-- The pointer goes on when a frame is built. -/
theorem step_roundRobin (H : KeyedHash) (node : SkyNode w) (op : NodeOp w) :
    (node.step H op).mac.vcRoundRobinStart =
      if (node.serves op).isSome then (node.mac.vcRoundRobinStart + 1) % skyNumVirtualChannels
      else node.mac.vcRoundRobinStart := by
  cases op with
  | rx tick frame => exact skyRx_roundRobin H tick node frame
  | channel v op => rfl
  | tx tick =>
      have htracked : (node.tracked tick).mac.vcRoundRobinStart = node.mac.vcRoundRobinStart :=
        skyTxTrackTddState_roundRobin _ _ _ _
      rw [SkyNode.step, skyTx_eq, SkyNode.serves]
      cases hsend : macCanSend node.conf.mac node.mac tick with
      | false => exact htracked
      | true =>
          cases hpicked : node.picked tick with
          | none => exact htracked
          | some v =>
              dsimp only
              rw [craftFrame_roundRobin, if_pos rfl, SkyNode.readyToSend, htracked]
              rfl

/-! ## Runs -/

theorem WantsAlways.serves {H : KeyedHash} {v : Fin skyNumVirtualChannels} {node : SkyNode w}
    {ops : List (NodeOp w)} (h : node.WantsAlways H v ops) :
    Serves v node.mac.vcRoundRobinStart (node.served H ops) := by
  induction ops generalizing node with
  | nil => trivial
  | cons op ops ih =>
      obtain ⟨hwants, hrest⟩ := h
      have hih := ih hrest
      rw [step_roundRobin] at hih
      rw [SkyNode.served]
      cases hserves : node.serves op with
      | none =>
          rw [hserves] at hih
          exact hih
      | some u =>
          rw [hserves, Option.isSome_some, if_pos rfl] at hih
          refine ⟨fun hstart => ?_, hih⟩
          cases op with
          | tx tick =>
              rw [SkyNode.serves] at hserves
              split_ifs at hserves with hsend
              rw [picked_of_wants hstart (hwants hsend)] at hserves
              exact (Option.some.inj hserves).symm
          | rx tick frame => cases hserves
          | channel u' op => cases hserves

/-- Two channels have packets. -/
def exampleTurns : List (NodeOp 8) :=
  [.channel 1 (.push [1]), .channel 1 (.push [2]), .channel 1 (.push [3]),
    .channel 2 (.push [4]), .channel 2 (.push [5]), .tx 5, .tx 6, .tx 7, .tx 8]

end Skylink
