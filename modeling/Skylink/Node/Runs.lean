import Skylink.Node.Forgery
import Skylink.VirtualChannel.Runs

/-!
# Runs of a node

A node receives frames, transmits and serves its user in any order. What the
authentication of a channel depends on moves in few places.
-/

namespace Skylink

variable {w : Nat}

/-- The calls to a node: reception, transmission, and an operation on a channel. -/
inductive NodeOp (w : Nat)
  | rx (tick : Int) (frame : SkyRadioFrame)
  | tx (tick : Int)
  | channel (v : Fin skyNumVirtualChannels) (op : VcOp w)

namespace SkyNode

def step (H : KeyedHash) (node : SkyNode w) : NodeOp w → SkyNode w
  | .rx tick frame => (skyRx H tick node frame).1
  | .tx tick => (skyTx H tick node).1
  | .channel v op =>
      { node with
        virtualChannels :=
          Function.update node.virtualChannels v ((node.virtualChannels v).step op) }

def run (H : KeyedHash) (node : SkyNode w) (ops : List (NodeOp w)) : SkyNode w :=
  ops.foldl (step H) node

theorem run_append (H : KeyedHash) (node : SkyNode w) (ops ops' : List (NodeOp w)) :
    node.run H (ops ++ ops') = (node.run H ops).run H ops' :=
  List.foldl_append

/-! ## Reception -/

/-- The part of `sky_rx` before the authentication check. -/
def received (node : SkyNode w) (frame : SkyRadioFrame) : Except SkyRet SkyParsedFrame :=
  if frame.length < skyFrameMinLen then .error .invalidPlainLength
  else
    match rxIdentity frame with
    | .error ret => .error ret
    | .ok identity =>
        if filterByIdentity node identity then .error .filteredByIdentity
        else rxHeader w frame identity

/-- The frame passes the authentication check of its channel. -/
def accepts (H : KeyedHash) (node : SkyNode w) (frame : SkyRadioFrame) : Bool :=
  match node.received frame with
  | .error _ => false
  | .ok parsed =>
      match (skyHmacCheckAuthentication H (node.countReceived frame) frame parsed).2 with
      | .error _ => false
      | .ok _ => true

end SkyNode

section Reception

variable (H : KeyedHash) (tick : Int) (node : SkyNode w) (frame : SkyRadioFrame)

theorem received_ok {parsed : SkyParsedFrame} (h : node.received frame = .ok parsed) :
    ¬frame.length < skyFrameMinLen ∧
      ∃ identity, rxIdentity frame = .ok identity ∧ rxHeader w frame identity = .ok parsed := by
  rw [SkyNode.received] at h
  split at h
  · cases h
  · rename_i hmin
    split at h
    · cases h
    · rename_i identity hid
      split at h
      · cases h
      · exact ⟨hmin, identity, hid, h⟩

theorem received_hdr {parsed : SkyParsedFrame} (h : node.received frame = .ok parsed) :
    parsed.hdr = frame.header := by
  obtain ⟨-, identity, hid, hheader⟩ := received_ok node frame h
  exact rxHeader_hdr hid hheader

/-- `sky_rx` in two stages. -/
theorem skyRx_eq (hlen : ¬frame.length < skyFrameMinLen) :
    skyRx H tick node frame =
      match node.received frame with
      | .error ret => (node.countReceived frame, ret)
      | .ok parsed =>
          match skyHmacCheckAuthentication H (node.countReceived frame) frame parsed with
          | (node', .error ret) => (node', ret)
          | (node', .ok parsed') => acceptFrame tick node' frame.rxTimeTicks parsed' := by
  have hfilter (identity : Bytes × Nat) :
      filterByIdentity (node.countReceived frame) identity = filterByIdentity node identity := rfl
  rw [skyRx, SkyNode.received, if_neg hlen, if_neg hlen]
  cases hid : rxIdentity frame with
  | error ret => rfl
  | ok identity =>
      dsimp only
      rw [hfilter]
      cases filterByIdentity node identity with
      | true => rfl
      | false =>
          cases rxHeader w frame identity with
          | error ret => rfl
          | ok parsed => rfl

end Reception

/-! ## Transmission -/

/-- The channel that `sky_tx` would transmit on. -/
def SkyNode.picked (node : SkyNode w) (tick : Int) : Option (Fin skyNumVirtualChannels) :=
  skyTxPickVc (node.checkTimeouts tick) tick

/-- The node when `sky_tx` has found whether it may send. -/
def SkyNode.tracked (node : SkyNode w) (tick : Int) : SkyNode w :=
  skyTxTrackTddState (node.checkTimeouts tick) (macCanSend node.conf.mac node.mac tick)
    (node.picked tick).isSome tick

/-- The node when `sky_tx` starts to craft a frame. -/
def SkyNode.readyToSend (node : SkyNode w) (tick : Int) : SkyNode w :=
  { node.tracked tick with
    mac := { (node.tracked tick).mac with
      vcRoundRobinStart :=
        ((node.tracked tick).mac.vcRoundRobinStart + 1) % skyNumVirtualChannels } }

/-- `sky_tx` in stages. -/
theorem skyTx_eq (H : KeyedHash) (tick : Int) (node : SkyNode w) :
    skyTx H tick node =
      match macCanSend node.conf.mac node.mac tick, node.picked tick with
      | true, some v =>
          ((craftFrame H (node.readyToSend tick) v tick).1,
            if (craftFrame H (node.readyToSend tick) v tick).2.2 = 1 then
              some (craftFrame H (node.readyToSend tick) v tick).2.1 else none,
            (craftFrame H (node.readyToSend tick) v tick).2.2)
      | _, _ => (node.tracked tick, none, 0) := rfl

/-! ## The state of the authentication -/

/-- What the authentication check reads. -/
structure SkyNode.SameAuthentication (node node' : SkyNode w) : Prop where
  conf : node'.conf = node.conf
  key : node'.hmac.key = node.hmac.key
  sequenceRx : node'.hmac.sequenceRx = node.hmac.sequenceRx
  enforcement : node'.hmac.vcEnforcementNeed = node.hmac.vcEnforcementNeed
  failures : node'.diag.rxHmacFail = node.diag.rxHmacFail

namespace SkyNode.SameAuthentication

theorem refl (node : SkyNode w) : node.SameAuthentication node := ⟨rfl, rfl, rfl, rfl, rfl⟩

theorem trans {node node' node'' : SkyNode w} (h : node.SameAuthentication node')
    (h' : node'.SameAuthentication node'') : node.SameAuthentication node'' :=
  ⟨h'.conf.trans h.conf, h'.key.trans h.key, h'.sequenceRx.trans h.sequenceRx,
    h'.enforcement.trans h.enforcement, h'.failures.trans h.failures⟩

end SkyNode.SameAuthentication

theorem acceptFrame_sameAuthentication (tick : Int) (node : SkyNode w) (rxTimeTicks : Int)
    (parsed : SkyParsedFrame) :
    node.SameAuthentication (acceptFrame tick node rxTimeTicks parsed).1 := by
  rw [acceptFrame_eq]
  exact ⟨rfl, rfl, rfl, rfl, rfl⟩

/-- Nothing after the check changes what the check reads. -/
theorem skyRx_sameAuthentication (H : KeyedHash) (tick : Int) {node : SkyNode w}
    {frame : SkyRadioFrame} {parsed : SkyParsedFrame}
    (hreceived : node.received frame = .ok parsed) :
    (skyHmacCheckAuthentication H (node.countReceived frame) frame parsed).1.SameAuthentication
      (skyRx H tick node frame).1 := by
  have hlen := (received_ok node frame hreceived).1
  rw [skyRx_eq H tick node frame hlen, hreceived]
  cases hcheck : skyHmacCheckAuthentication H (node.countReceived frame) frame parsed with
  | mk node' ret =>
      cases ret with
      | error ret => simpa only [hcheck] using SkyNode.SameAuthentication.refl node'
      | ok parsed' =>
          simpa only [hcheck] using
            acceptFrame_sameAuthentication tick node' frame.rxTimeTicks parsed'

/-- Transmission leaves the enforcement flags as they are. -/
theorem skyTxExtensionEvalHmacReset_fst (hmac : SkyHMAC) (tx : SkyTransmitFrame)
    (v : Fin skyNumVirtualChannels) : (skyTxExtensionEvalHmacReset hmac tx v).1 = hmac := by
  rw [skyTxExtensionEvalHmacReset]
  split
  · rfl
  · rename_i hneed
    rw [show (0 : UInt8) = hmac.vcEnforcementNeed v from (not_not.mp hneed).symm,
      Function.update_eq_self]

theorem craftFrame_sameAuthentication (H : KeyedHash) (node : SkyNode w)
    (v : Fin skyNumVirtualChannels) (now : Int) :
    node.SameAuthentication (craftFrame H node v now).1 := by
  simp only [craftFrame]
  rw [skyTxExtensionEvalHmacReset_fst]
  split
  · exact ⟨rfl, rfl, rfl, rfl, rfl⟩
  · exact ⟨rfl, rfl, rfl, rfl, rfl⟩

theorem skyTx_sameAuthentication (H : KeyedHash) (tick : Int) (node : SkyNode w) :
    node.SameAuthentication (skyTx H tick node).1 := by
  have hready : node.SameAuthentication (node.readyToSend tick) := ⟨rfl, rfl, rfl, rfl, rfl⟩
  rw [skyTx_eq]
  split
  · exact hready.trans (craftFrame_sameAuthentication H _ _ tick)
  · exact ⟨rfl, rfl, rfl, rfl, rfl⟩

/-- The operation is a reception of a frame that reaches the authentication check. -/
def NodeOp.Reaches (node : SkyNode w) (op : NodeOp w) (frame : SkyRadioFrame)
    (parsed : SkyParsedFrame) : Prop :=
  (∃ tick, op = .rx tick frame) ∧ node.received frame = .ok parsed

/-- Any other operation leaves alone what the check reads. -/
theorem step_sameAuthentication (H : KeyedHash) (node : SkyNode w) {op : NodeOp w}
    (hop : ∀ frame parsed, ¬op.Reaches node frame parsed) :
    node.SameAuthentication (node.step H op) := by
  cases op with
  | rx tick frame =>
      rw [SkyNode.step]
      by_cases hlen : frame.length < skyFrameMinLen
      · rw [skyRx, if_pos hlen]
        exact .refl node
      · rw [skyRx_eq H tick node frame hlen]
        cases hreceived : node.received frame with
        | error ret => exact ⟨rfl, rfl, rfl, rfl, rfl⟩
        | ok parsed => exact absurd ⟨⟨tick, rfl⟩, hreceived⟩ (hop frame parsed)
  | tx tick => exact skyTx_sameAuthentication H tick node
  | channel v op => exact ⟨rfl, rfl, rfl, rfl, rfl⟩

theorem step_conf (H : KeyedHash) (node : SkyNode w) (op : NodeOp w) :
    (node.step H op).conf = node.conf := by
  by_cases hop : ∃ frame parsed, op.Reaches node frame parsed
  · obtain ⟨frame, parsed, ⟨tick, rfl⟩, hreceived⟩ := hop
    exact (skyRx_sameAuthentication H tick hreceived).conf.trans check_sameOutsideCounters.conf
  · push Not at hop
    exact (step_sameAuthentication H node hop).conf

theorem run_conf (H : KeyedHash) (node : SkyNode w) (ops : List (NodeOp w)) :
    (node.run H ops).conf = node.conf := by
  induction ops generalizing node with
  | nil => rfl
  | cons op ops ih => exact (ih (node.step H op)).trans (step_conf H node op)

end Skylink
