import Skylink.Node.Runs

/-!
# Replayed frames

On a channel that requires authentication and sequence numbers the expected sequence
moves past every accepted frame, and a frame is let through again only when the 16-bit
numbers have come around.
-/

namespace Skylink

variable {w : Nat}

/-- The authentication sequence of a frame. -/
def SkyRadioFrame.sequence (frame : SkyRadioFrame) : UInt16 :=
  skyNtoh16 frame.header.frameSequence

namespace SkyNode

/-- A frame with sequence `s` is accepted on channel `v`. -/
def AcceptsOn (H : KeyedHash) (node : SkyNode w) (v : Fin skyNumVirtualChannels) (s : UInt16)
    (frame : SkyRadioFrame) : Prop :=
  frame.header.channel = v ∧ frame.sequence = s ∧ node.accepts H frame

/-- How far an operation moves `sequence_rx` of channel `v`, in unbounded numbers. -/
def advanceBy (H : KeyedHash) (v : Fin skyNumVirtualChannels) (node : SkyNode w) :
    NodeOp w → Nat
  | .rx _ frame =>
      if frame.header.channel = v ∧ node.accepts H frame then
        (frame.sequence - node.hmac.sequenceRx v).toNat + 1
      else 0
  | .tx _ | .channel .. => 0

def advance (H : KeyedHash) (v : Fin skyNumVirtualChannels) :
    SkyNode w → List (NodeOp w) → Nat
  | _, [] => 0
  | node, op :: ops => node.advanceBy H v op + advance H v (node.step H op) ops

end SkyNode

/-! ## The check of a channel that requires authentication -/

section Check

variable {H : KeyedHash} {self : SkyNode w} {frame : SkyRadioFrame} {parsed : SkyParsedFrame}

/-- A frame passes with its flag, room for the trailer, the right hash and, where the
sequence is required, a small jump. -/
def SkyNode.Passes (H : KeyedHash) (self : SkyNode w) (frame : SkyRadioFrame)
    (parsed : SkyParsedFrame) : Prop :=
  parsed.hdr.hasFlag skyFlagAuthenticated ∧ skyHmacLength ≤ parsed.payloadLen ∧
    frame.Authentic H self.hmac.key ∧
    ((self.conf.vc parsed.hdr.channel).hasFlag skyConfigFlagRequireSequence →
      ((skyNtoh16 parsed.hdr.frameSequence -
        self.hmac.sequenceRx parsed.hdr.channel).toNat : Int) ≤ self.conf.hmac.maximumJump)

variable (H frame) in
/-- What the check does where authentication is required. -/
theorem check_required
    (hreq : (self.conf.vc parsed.hdr.channel).hasFlag skyConfigFlagRequireAuthentication) :
    (self.Passes H frame parsed ∧ ∃ self' parsed',
        skyHmacCheckAuthentication H self frame parsed = (self', .ok parsed') ∧
        self'.conf = self.conf ∧ self'.hmac.sequenceRx =
          Function.update self.hmac.sequenceRx parsed.hdr.channel
            (skyNtoh16 parsed.hdr.frameSequence + 1)) ∨
      (¬self.Passes H frame parsed ∧ ∃ self' ret,
        skyHmacCheckAuthentication H self frame parsed = (self', .error ret) ∧
        self'.conf = self.conf ∧ self'.hmac.sequenceRx = self.hmac.sequenceRx) := by
  cases check_cases H self frame parsed with
  | short _ hroom heq =>
      exact .inr ⟨fun h => absurd h.2.1 (not_le.mpr hroom), _, _, heq, rfl, rfl⟩
  | unchecked _ hfree => exact absurd hreq hfree
  | forged ret _ _ hforged heq =>
      exact .inr ⟨fun h => hforged ⟨h.1, h.2.2.1⟩, _, _, heq, rfl, rfl⟩
  | far sequenceTx _ _ hseq hfar heq =>
      exact .inr ⟨fun h => absurd (h.2.2.2 hseq) (not_le.mpr hfar), _, _, heq, rfl, rfl⟩
  | passed sequenceTx _ _ hroom hauth hnear heq =>
      exact .inl ⟨⟨hauth.1, hroom, hauth.2, hnear⟩, _, _, heq, rfl, rfl⟩

/-- The check moves `sequence_rx` of no other channel. -/
theorem check_other {v : Fin skyNumVirtualChannels} (hv : v ≠ parsed.hdr.channel) :
    (skyHmacCheckAuthentication H self frame parsed).1.hmac.sequenceRx v =
      self.hmac.sequenceRx v := by
  cases check_cases H self frame parsed with
  | passed sequenceTx _ _ _ _ _ heq =>
      rw [heq]
      exact Function.update_of_ne hv _ _
  | _ =>
      rename_i heq
      exact congrArg (fun out => out.1.hmac.sequenceRx v) heq

end Check

/-! ## Steps and runs -/

section Run

variable (H : KeyedHash) (v : Fin skyNumVirtualChannels)

/-- `sky_rx` accepts exactly the received frames that pass. -/
theorem accepts_iff {node : SkyNode w} {frame : SkyRadioFrame} {parsed : SkyParsedFrame}
    (hreceived : node.received frame = .ok parsed)
    (hreq : (node.conf.vc parsed.hdr.channel).hasFlag skyConfigFlagRequireAuthentication) :
    node.accepts H frame ↔ node.Passes H frame parsed := by
  have hpass : (node.countReceived frame).Passes H frame parsed ↔ node.Passes H frame parsed :=
    Iff.rfl
  rw [SkyNode.accepts, hreceived]
  have hreq' : ((node.countReceived frame).conf.vc parsed.hdr.channel).hasFlag
      skyConfigFlagRequireAuthentication := hreq
  obtain ⟨hp, self', parsed', hcheck, -⟩ | ⟨hp, self', ret, hcheck, -⟩ :=
    check_required H frame hreq'
  · simp [hcheck, ← hpass, hp]
  · simp [hcheck, ← hpass, hp]

theorem exists_received {node : SkyNode w} {frame : SkyRadioFrame}
    (h : node.accepts H frame = true) : ∃ parsed, node.received frame = .ok parsed := by
  rw [SkyNode.accepts] at h
  cases hreceived : node.received frame with
  | error ret => simp [hreceived] at h
  | ok parsed => exact ⟨parsed, rfl⟩

theorem advanceBy_of_not_reaches {node : SkyNode w} {op : NodeOp w}
    (hop : ∀ frame parsed, ¬op.Reaches node frame parsed) : node.advanceBy H v op = 0 := by
  cases op with
  | rx tick frame =>
      cases hreceived : node.received frame with
      | error ret => simp [SkyNode.advanceBy, SkyNode.accepts, hreceived]
      | ok parsed => exact absurd ⟨⟨tick, rfl⟩, hreceived⟩ (hop frame parsed)
  | tx tick => rfl
  | channel v op => rfl

/-- The expected sequence of the channel moves past an accepted frame, and not otherwise. -/
theorem step_sequenceRx {node : SkyNode w}
    (hreq : (node.conf.vc v).hasFlag skyConfigFlagRequireAuthentication) (op : NodeOp w) :
    (node.step H op).hmac.sequenceRx v =
      node.hmac.sequenceRx v + UInt16.ofNat (node.advanceBy H v op) := by
  by_cases hop : ∃ frame parsed, op.Reaches node frame parsed
  · obtain ⟨frame, parsed, ⟨tick, rfl⟩, hreceived⟩ := hop
    have hhdr := received_hdr node frame hreceived
    have hrx := (skyRx_sameAuthentication H tick hreceived).sequenceRx
    rw [SkyNode.step, hrx, SkyNode.advanceBy]
    by_cases hv : frame.header.channel = v
    · have hchannel : parsed.hdr.channel = v := by rw [hhdr, hv]
      rw [← hchannel] at hreq
      have hiff := accepts_iff H hreceived hreq
      have hreq' : ((node.countReceived frame).conf.vc parsed.hdr.channel).hasFlag
          skyConfigFlagRequireAuthentication := hreq
      obtain ⟨hp, self', parsed', hcheck, -, hseq⟩ | ⟨hp, self', ret, hcheck, -, hseq⟩ :=
        check_required H frame hreq'
      · rw [if_pos ⟨hv, hiff.mpr hp⟩, hcheck]
        dsimp only
        rw [hseq, hchannel, Function.update_self, SkyRadioFrame.sequence, hhdr]
        show _ = node.hmac.sequenceRx v + _
        rw [UInt16.ofNat_add, UInt16.ofNat_toNat, ← UInt16.add_assoc,
          UInt16.add_comm (node.hmac.sequenceRx v), UInt16.sub_add_cancel]
        rfl
      · rw [if_neg fun h => hp (hiff.mp h.2), hcheck]
        dsimp only
        rw [hseq]
        exact (UInt16.add_zero _).symm
    · rw [if_neg fun h => hv h.1, check_other (by rw [hhdr]; exact Ne.symm hv)]
      exact (UInt16.add_zero _).symm
  · push Not at hop
    rw [(step_sameAuthentication H node hop).sequenceRx, advanceBy_of_not_reaches H v hop]
    exact (UInt16.add_zero _).symm

/-- After an accepted frame the next sequence is expected. -/
theorem step_accepted {node : SkyNode w}
    (hreq : (node.conf.vc v).hasFlag skyConfigFlagRequireAuthentication) {s : UInt16}
    {frame : SkyRadioFrame} (h : node.AcceptsOn H v s frame) (tick : Int) :
    (node.step H (.rx tick frame)).hmac.sequenceRx v = s + 1 := by
  obtain ⟨hv, hs, haccepts⟩ := h
  calc (node.step H (.rx tick frame)).hmac.sequenceRx v
    _ = node.hmac.sequenceRx v + UInt16.ofNat ((s - node.hmac.sequenceRx v).toNat + 1) := by
      rw [step_sequenceRx H v hreq, SkyNode.advanceBy, if_pos ⟨hv, haccepts⟩, hs]
    _ = node.hmac.sequenceRx v + (s - node.hmac.sequenceRx v) + 1 := by
      rw [UInt16.ofNat_add, UInt16.ofNat_toNat, ← UInt16.add_assoc]
      rfl
    _ = s + 1 := by
      rw [UInt16.add_comm (node.hmac.sequenceRx v), UInt16.sub_add_cancel]

/-- `advance` is the movement of `sequence_rx` without its wraps. -/
theorem run_sequenceRx {node : SkyNode w}
    (hreq : (node.conf.vc v).hasFlag skyConfigFlagRequireAuthentication)
    (ops : List (NodeOp w)) :
    (node.run H ops).hmac.sequenceRx v =
      node.hmac.sequenceRx v + UInt16.ofNat (node.advance H v ops) := by
  induction ops generalizing node with
  | nil => exact (UInt16.add_zero _).symm
  | cons op ops ih =>
      have hconf := step_conf H node op
      have hstep := step_sequenceRx H v hreq op
      have hrun := @ih (node.step H op) (by rw [hconf]; exact hreq)
      rw [SkyNode.advance, UInt16.ofNat_add, ← UInt16.add_assoc, ← hstep]
      exact hrun

end Run

/-! ## Replay protection -/

/-- What the 16-bit sequence numbers of a channel guarantee along every run. -/
structure SkyNode.ReplayProtected (H : KeyedHash) (node : SkyNode w)
    (v : Fin skyNumVirtualChannels) : Prop where
  /-- An accepted frame is not accepted again before the sequence has come around. -/
  replay : ∀ (before between : List (NodeOp w)) (tick : Int) (s : UInt16)
    (frame frame' : SkyRadioFrame),
    (node.run H before).AcceptsOn H v s frame →
    (node.run H (before ++ .rx tick frame :: between)).AcceptsOn H v s frame' →
    65535 - node.conf.hmac.maximumJump ≤
      (node.run H (before ++ [.rx tick frame])).advance H v between
  /-- The jump alone decides on an authentic frame. -/
  jump : ∀ (before : List (NodeOp w)) (s : UInt16) (frame : SkyRadioFrame)
    (parsed : SkyParsedFrame),
    (node.run H before).received frame = .ok parsed → parsed.hdr.channel = v →
    frame.sequence = s → parsed.hdr.hasFlag skyFlagAuthenticated →
    skyHmacLength ≤ parsed.payloadLen → frame.Authentic H (node.run H before).hmac.key →
    ((node.run H before).accepts H frame ↔
      ((s.toNat : Int) - ((node.run H before).hmac.sequenceRx v).toNat) % 65536 ≤
        node.conf.hmac.maximumJump)

theorem sub_toNat_eq_emod (s r : UInt16) :
    ((s - r).toNat : Int) = ((s.toNat : Int) - r.toNat) % 65536 := by
  have hs := s.toNat_lt
  have hr := r.toNat_lt
  rw [UInt16.toNat_sub]
  omega

/-- The sequence that was just accepted lies as far ahead as the numbers allow. -/
theorem sub_succ_add (s : UInt16) {n : Nat} (hn : n ≤ 65535) :
    (s - (s + 1 + UInt16.ofNat n)).toNat = 65535 - n := by
  have hs := s.toNat_lt
  have hone : (1 : UInt16).toNat = 1 := rfl
  have hn' : (UInt16.ofNat n).toNat = n := UInt16.toNat_ofNat_of_lt' (by rw [UInt16.size]; omega)
  rw [UInt16.toNat_sub, UInt16.toNat_add, UInt16.toNat_add, hn', hone]
  omega

/-- A channel that requires authentication and sequence numbers is protected from replays. -/
theorem replayProtected (H : KeyedHash) (node : SkyNode w) (v : Fin skyNumVirtualChannels)
    (hauth : (node.conf.vc v).hasFlag skyConfigFlagRequireAuthentication)
    (hsequence : (node.conf.vc v).hasFlag skyConfigFlagRequireSequence) :
    node.ReplayProtected H v where
  replay before between tick s frame frame' hfirst hsecond := by
    obtain ⟨hv', hs', haccepts'⟩ := hsecond
    let middle := node.run H (before ++ [.rx tick frame])
    have hmiddle : middle = (node.run H before).step H (.rx tick frame) :=
      SkyNode.run_append H node before [.rx tick frame]
    have hlast : node.run H (before ++ .rx tick frame :: between) = middle.run H between := by
      rw [List.append_cons, SkyNode.run_append]
    have hconf : middle.conf = node.conf := run_conf H node _
    have hconf' : (middle.run H between).conf = node.conf := (run_conf H middle _).trans hconf
    have hexpected : middle.hmac.sequenceRx v = s + 1 := by
      rw [hmiddle]
      exact step_accepted H v (by rw [run_conf]; exact hauth) hfirst tick
    have hauth' : (middle.conf.vc v).hasFlag skyConfigFlagRequireAuthentication := by
      rw [hconf]
      exact hauth
    have hrx := run_sequenceRx H v hauth' between
    rw [hlast] at haccepts'
    obtain ⟨parsed, hreceived⟩ := exists_received H haccepts'
    have hhdr := received_hdr _ _ hreceived
    have hchannel : parsed.hdr.channel = v := by rw [hhdr, hv']
    have hpass := (accepts_iff H hreceived (by rw [hchannel, hconf']; exact hauth)).mp haccepts'
    have hjump := hpass.2.2.2 (by rw [hchannel, hconf']; exact hsequence)
    rw [hchannel, hconf', hrx, hexpected, hhdr] at hjump
    change ((frame'.sequence - _).toNat : Int) ≤ _ at hjump
    rw [hs'] at hjump
    rcases Nat.lt_or_ge 65535 (middle.advance H v between) with hfar | hnear
    · have hpos : 0 ≤ node.conf.hmac.maximumJump := le_trans (Int.natCast_nonneg _) hjump
      show 65535 - node.conf.hmac.maximumJump ≤ (middle.advance H v between : Int)
      omega
    · rw [sub_succ_add s hnear] at hjump
      show 65535 - node.conf.hmac.maximumJump ≤ (middle.advance H v between : Int)
      omega
  jump before s frame parsed hreceived hv hs hflag hroom hauthentic := by
    have hconf := run_conf H node before
    have hreq : ((node.run H before).conf.vc parsed.hdr.channel).hasFlag
        skyConfigFlagRequireAuthentication := by
      rw [hconf, hv]
      exact hauth
    rw [accepts_iff H hreceived hreq, SkyNode.Passes, hconf, hv, ← hs, ← sub_toNat_eq_emod,
      SkyRadioFrame.sequence, ← received_hdr _ _ hreceived]
    exact ⟨fun h => h.2.2.2 hsequence, fun h => ⟨hflag, hroom, hauthentic, fun _ => h⟩⟩

/-- A frame with a payload and the trailer that the example hash asks for. -/
def authenticFrame (key : Bytes) : SkyRadioFrame :=
  let tx := (bareFrame [1, 2, 3, 4] (SkyStaticHeader.setVc ⟨0, 0, 0⟩ 1)).extend [9]
  let hmac : SkyHMAC := ⟨key, fun _ => 0, fun _ => 0, fun _ => 0⟩
  (skyHmacExtendWithAuthentication exampleHash hmac tx).frame

theorem replayProtected_example :
    (exampleNode 6 7).ReplayProtected exampleHash 1 ∧
      (exampleNode 6 7).AcceptsOn exampleHash 1 0 (authenticFrame (List.replicate 32 0)) :=
  ⟨replayProtected exampleHash (exampleNode 6 7) 1 (by decide +kernel) (by decide +kernel),
    by decide +kernel, by decide +kernel, by decide +kernel⟩

end Skylink
