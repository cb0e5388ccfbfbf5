import Skylink.Frame.Codec
import Skylink.Node.Model

/-!
# Reception step by step

What the authentication check and the reception of a frame may change, case by case.
-/

namespace Skylink

variable {w : Nat}

/-! ## The authentication check -/

/-- The frame carries the keyed hash of its other bytes. -/
def SkyRadioFrame.Authentic (H : KeyedHash) (key : Bytes) (frame : SkyRadioFrame) : Prop :=
  frame.trailer = H.hash key frame.hashed

/-- Only diagnostics and the enforcement flag of channel `v` may differ. -/
structure SkyNode.UnchangedExcept (v : Fin skyNumVirtualChannels) (node node' : SkyNode w) :
    Prop where
  conf : node'.conf = node.conf
  virtualChannels : node'.virtualChannels = node.virtualChannels
  mac : node'.mac = node.mac
  key : node'.hmac.key = node.hmac.key
  sequenceTx : node'.hmac.sequenceTx = node.hmac.sequenceTx
  sequenceRx : node'.hmac.sequenceRx = node.hmac.sequenceRx
  enforcement : ∀ u ≠ v, node'.hmac.vcEnforcementNeed u = node.hmac.vcEnforcementNeed u

theorem SkyNode.unchangedExcept_diag (v : Fin skyNumVirtualChannels) (node : SkyNode w)
    (diag : SkyDiagnostics) : node.UnchangedExcept v { node with diag := diag } :=
  ⟨rfl, rfl, rfl, rfl, rfl, rfl, fun _ _ => rfl⟩

theorem SkyNode.unchangedExcept_rejectFrame (v : Fin skyNumVirtualChannels)
    (node : SkyNode w) : node.UnchangedExcept v (node.rejectFrame v) :=
  ⟨rfl, rfl, rfl, rfl, rfl, rfl, fun _ hu => Function.update_of_ne hu _ _⟩

theorem SkyNode.UnchangedExcept.trans {v : Fin skyNumVirtualChannels}
    {node node' node'' : SkyNode w} (h : node.UnchangedExcept v node')
    (h' : node'.UnchangedExcept v node'') : node.UnchangedExcept v node'' :=
  ⟨h'.conf.trans h.conf, h'.virtualChannels.trans h.virtualChannels, h'.mac.trans h.mac,
    h'.key.trans h.key, h'.sequenceTx.trans h.sequenceTx, h'.sequenceRx.trans h.sequenceRx,
    fun u hu => (h'.enforcement u hu).trans (h.enforcement u hu)⟩

theorem SkyStaticHeader.channel_setVc :
    ∀ v : Fin skyNumVirtualChannels, (SkyStaticHeader.setVc ⟨0, 0, 0⟩ v).channel = v := by
  decide

theorem SkyStaticHeader.channel_setFlag (h : SkyStaticHeader) {flag : UInt8}
    (hf : flag &&& 0x03 = 0) : (h.setFlag flag).channel = h.channel := by
  rw [channel, channel, h.vc_setFlag hf]

/-- Swapping the frame sequence keeps the flags. -/
theorem SkyStaticHeader.hasFlag_swap (h : SkyStaticHeader) (s : UInt16) (flag : UInt8) :
    { h with frameSequence := s }.hasFlag flag = h.hasFlag flag := rfl

section Check

variable {H : KeyedHash} {self : SkyNode w} {frame : SkyRadioFrame} {parsed : SkyParsedFrame}

/-- The reset extension sets a transmit sequence only. -/
theorem processHmacReset_eq (hmac : SkyHMAC) (parsed : SkyParsedFrame)
    (v : Fin skyNumVirtualChannels) :
    ∃ sequenceTx, processHmacReset hmac parsed v = { hmac with sequenceTx := sequenceTx } := by
  cases h : parsed.hmacReset with
  | none => exact ⟨hmac.sequenceTx, by simp only [processHmacReset, h]⟩
  | some ext =>
      simp only [processHmacReset, h, skyRxProcessExtHmacSequenceReset]
      split
      · exact ⟨hmac.sequenceTx, rfl⟩
      · exact ⟨_, rfl⟩

/-- A frame has no room for its trailer, passes unchecked, is rejected for its trailer or
for its sequence, or passes. -/
inductive CheckOutcome (H : KeyedHash) (self : SkyNode w) (frame : SkyRadioFrame)
    (parsed : SkyParsedFrame) (out : SkyNode w × Except SkyRet SkyParsedFrame) : Prop
  | short (hflag : parsed.hdr.hasFlag skyFlagAuthenticated)
      (hroom : parsed.payloadLen < skyHmacLength)
      (heq : out = ({ self with diag := { self.diag with
        rxHmacFail := self.diag.rxHmacFail + 1 } }, .error .frameTooShortForHmac))
  | unchecked (payloadLen : Nat)
      (hreq : ¬(self.conf.vc parsed.hdr.channel).hasFlag skyConfigFlagRequireAuthentication)
      (hlen : payloadLen = if parsed.hdr.hasFlag skyFlagAuthenticated
        then parsed.payloadLen - skyHmacLength else parsed.payloadLen)
      (heq : out = (self, .ok { parsed with
        hdr := { parsed.hdr with frameSequence := skyNtoh16 parsed.hdr.frameSequence }
        payloadLen := payloadLen }))
  | forged (ret : SkyRet) (hret : ret ≠ .excessiveHmacJump)
      (hreq : (self.conf.vc parsed.hdr.channel).hasFlag skyConfigFlagRequireAuthentication)
      (hforged : ¬(parsed.hdr.hasFlag skyFlagAuthenticated ∧ frame.Authentic H self.hmac.key))
      (heq : out = (self.rejectFrame parsed.hdr.channel, .error ret))
  | far (sequenceTx : Fin skyNumVirtualChannels → UInt16)
      (hreset : processHmacReset self.hmac
        { parsed with
          hdr := { parsed.hdr with frameSequence := skyNtoh16 parsed.hdr.frameSequence } }
        parsed.hdr.channel = { self.hmac with sequenceTx := sequenceTx })
      (hauth : parsed.hdr.hasFlag skyFlagAuthenticated ∧ frame.Authentic H self.hmac.key)
      (hseq : (self.conf.vc parsed.hdr.channel).hasFlag skyConfigFlagRequireSequence)
      (hfar : self.conf.hmac.maximumJump < ((skyNtoh16 parsed.hdr.frameSequence -
        self.hmac.sequenceRx parsed.hdr.channel).toNat : Int))
      (heq : out = (({ self with hmac := { self.hmac with
        sequenceTx := sequenceTx } } : SkyNode w).rejectFrame parsed.hdr.channel,
          .error .excessiveHmacJump))
  | passed (sequenceTx : Fin skyNumVirtualChannels → UInt16)
      (hreset : processHmacReset self.hmac
        { parsed with
          hdr := { parsed.hdr with frameSequence := skyNtoh16 parsed.hdr.frameSequence } }
        parsed.hdr.channel = { self.hmac with sequenceTx := sequenceTx })
      (hreq : (self.conf.vc parsed.hdr.channel).hasFlag skyConfigFlagRequireAuthentication)
      (hroom : skyHmacLength ≤ parsed.payloadLen)
      (hauth : parsed.hdr.hasFlag skyFlagAuthenticated ∧ frame.Authentic H self.hmac.key)
      (hnear : (self.conf.vc parsed.hdr.channel).hasFlag skyConfigFlagRequireSequence →
        ((skyNtoh16 parsed.hdr.frameSequence -
          self.hmac.sequenceRx parsed.hdr.channel).toNat : Int) ≤ self.conf.hmac.maximumJump)
      (heq : out = ({ self with hmac := { self.hmac with
          sequenceTx := sequenceTx
          sequenceRx := Function.update self.hmac.sequenceRx parsed.hdr.channel
            (skyNtoh16 parsed.hdr.frameSequence + 1) } },
        .ok { parsed with
          hdr := { parsed.hdr with frameSequence := skyNtoh16 parsed.hdr.frameSequence }
          payloadLen := parsed.payloadLen - skyHmacLength }))

variable (H self frame parsed) in
theorem check_cases :
    CheckOutcome H self frame parsed (skyHmacCheckAuthentication H self frame parsed) := by
  obtain ⟨sequenceTx, hreset⟩ := processHmacReset_eq self.hmac
    { parsed with
      hdr := { parsed.hdr with frameSequence := skyNtoh16 parsed.hdr.frameSequence } }
    parsed.hdr.channel
  simp only [skyHmacCheckAuthentication, hreset]
  split
  case isTrue hshort => exact .short hshort.1 hshort.2 rfl
  case isFalse hlong =>
    split
    case isTrue hreq =>
      rw [Bool.not_eq_true', ← Bool.not_eq_true] at hreq
      split
      case isTrue hflag => exact .unchecked _ hreq (if_pos hflag).symm rfl
      case isFalse hflag => exact .unchecked _ hreq (if_neg hflag).symm rfl
    case isFalse hreq =>
      rw [Bool.not_eq_true', Bool.not_eq_false] at hreq
      split
      case isTrue hflag =>
        rw [Bool.not_eq_true', ← Bool.not_eq_true] at hflag
        exact .forged .authMissing (by decide) hreq (fun h => hflag h.1) rfl
      case isFalse hflag =>
        rw [Bool.not_eq_true', Bool.not_eq_false] at hflag
        split
        case isTrue htrailer =>
          exact .forged .authFailed (by decide) hreq (fun h => htrailer h.2) rfl
        case isFalse htrailer =>
          have hauth := And.intro hflag (not_not.mp htrailer)
          have hroom : skyHmacLength ≤ parsed.payloadLen :=
            not_lt.mp fun hlt => hlong ⟨hflag, hlt⟩
          split
          case isTrue hfar => exact .far sequenceTx hreset hauth hfar.1 hfar.2 rfl
          case isFalse hnear =>
            exact .passed sequenceTx hreset hreq hroom hauth
              (fun hseq => not_lt.mp fun hlt => hnear ⟨hseq, hlt⟩) rfl

/-- On such a channel a forged frame ends in a rejection. -/
theorem check_forged
    (hreq : (self.conf.vc parsed.hdr.channel).hasFlag skyConfigFlagRequireAuthentication)
    (hforged : ¬(parsed.hdr.hasFlag skyFlagAuthenticated ∧ frame.Authentic H self.hmac.key)) :
    ∃ self' ret, skyHmacCheckAuthentication H self frame parsed = (self', .error ret) ∧
      self.UnchangedExcept parsed.hdr.channel self' := by
  cases check_cases H self frame parsed with
  | short _ _ heq => exact ⟨_, _, heq, SkyNode.unchangedExcept_diag _ _ _⟩
  | unchecked _ hfree => exact absurd hreq hfree
  | forged ret _ _ _ heq => exact ⟨_, _, heq, SkyNode.unchangedExcept_rejectFrame _ _⟩
  | far _ _ hauth => exact absurd hauth hforged
  | passed _ _ _ _ hauth => exact absurd hauth hforged

/-- The check leaves configuration, channels, time division and key alone. -/
structure SkyNode.SameOutsideCounters (node node' : SkyNode w) : Prop where
  conf : node'.conf = node.conf
  virtualChannels : node'.virtualChannels = node.virtualChannels
  mac : node'.mac = node.mac
  key : node'.hmac.key = node.hmac.key

theorem check_sameOutsideCounters :
    self.SameOutsideCounters (skyHmacCheckAuthentication H self frame parsed).1 := by
  cases check_cases H self frame parsed
  all_goals
    rename_i heq
    rw [heq]
    exact ⟨rfl, rfl, rfl, rfl⟩

end Check

/-! ## Reception -/

/-- A frame ends before the check, at it, or is accepted. -/
theorem skyRx_cases (H : KeyedHash) (tick : Int) (node : SkyNode w) (frame : SkyRadioFrame) :
    (skyRx H tick node frame).1 = node ∨
      (skyRx H tick node frame).1 = node.countReceived frame ∨
      ∃ parsed, parsed.hdr = frame.header ∧
        ((∃ node' ret, skyHmacCheckAuthentication H (node.countReceived frame) frame parsed =
            (node', .error ret) ∧ skyRx H tick node frame = (node', ret)) ∨
          ∃ node' parsed', skyHmacCheckAuthentication H (node.countReceived frame) frame parsed =
              (node', .ok parsed') ∧
            skyRx H tick node frame = acceptFrame tick node' frame.rxTimeTicks parsed') := by
  rw [skyRx]
  split
  · exact .inl rfl
  · refine .inr ?_
    dsimp only
    split
    · exact .inl rfl
    · rename_i identity hid
      split
      · exact .inl rfl
      · split
        · exact .inl rfl
        · rename_i parsed hparsed
          refine .inr ⟨parsed, rxHeader_hdr hid hparsed, ?_⟩
          split
          · rename_i node' ret hcheck
            exact .inl ⟨node', ret, hcheck, rfl⟩
          · rename_i node' parsed' hcheck
            exact .inr ⟨node', parsed', hcheck, rfl⟩

theorem SkyNode.unchangedExcept_countReceived (v : Fin skyNumVirtualChannels)
    (node : SkyNode w) (frame : SkyRadioFrame) :
    node.UnchangedExcept v (node.countReceived frame) :=
  SkyNode.unchangedExcept_diag v node _

/-- A built frame of another node reaches the authentication check. -/
theorem skyRx_built (H : KeyedHash) (tick : Int) (node : SkyNode w) {tx : SkyTransmitFrame}
    {identity payload : Bytes} {vs : List (ExtValue w)} {parsed : SkyParsedFrame}
    (hbuilt : tx.Built identity vs payload) (hlen : skyFrameMinLen ≤ tx.length)
    (hfilter : filterByIdentity node (identity, identity.length) = false)
    (hparsed : rxHeader w tx.frame (identity, identity.length) = .ok parsed) :
    skyRx H tick node tx.frame =
      match skyHmacCheckAuthentication H (node.countReceived tx.frame) tx.frame parsed with
      | (node', .error ret) => (node', ret)
      | (node', .ok parsed') => acceptFrame tick node' tx.frame.rxTimeTicks parsed' := by
  have hfilter' : filterByIdentity (node.countReceived tx.frame)
      (identity, identity.length) = false := hfilter
  rw [skyRx, if_neg (by simpa [SkyTransmitFrame.frame] using hlen)]
  dsimp only
  rw [hbuilt.rxIdentity]
  dsimp only
  rw [hfilter', hparsed]
  rfl

theorem skyRxProcessExtMacControl_mac (tick : Int) (node : SkyNode w) (rxTimeTicks : Int)
    (parsed : SkyParsedFrame) :
    skyRxProcessExtMacControl tick node rxTimeTicks parsed =
      { node with mac := (skyRxProcessExtMacControl tick node rxTimeTicks parsed).mac } := by
  rw [skyRxProcessExtMacControl]
  cases parsed.macTdd with
  | none => rfl
  | some ext =>
      dsimp only
      split <;> rfl

/-- What is done with a frame that passed the check. -/
theorem acceptFrame_eq (tick : Int) (node : SkyNode w) (rxTimeTicks : Int)
    (parsed : SkyParsedFrame) :
    acceptFrame tick node rxTimeTicks parsed =
      ({ node with
          diag := { node.diag with
            vcStats := Function.update node.diag.vcStats parsed.hdr.channel
              { node.diag.vcStats parsed.hdr.channel with
                rxFrames := (node.diag.vcStats parsed.hdr.channel).rxFrames + 1 } }
          virtualChannels := Function.update node.virtualChannels parsed.hdr.channel
            (skyVcProcessFrame tick (node.virtualChannels parsed.hdr.channel) parsed tick).1
          mac := (skyRxProcessExtMacControl tick node rxTimeTicks parsed).mac },
        (skyVcProcessFrame tick (node.virtualChannels parsed.hdr.channel) parsed tick).2) := by
  rw [acceptFrame, skyRxProcessExtMacControl_mac]

theorem acceptFrame_mac (tick : Int) (node : SkyNode w) (rxTimeTicks : Int)
    (parsed : SkyParsedFrame) :
    (acceptFrame tick node rxTimeTicks parsed).1.mac =
      (skyRxProcessExtMacControl tick node rxTimeTicks parsed).mac := rfl

/-! ## The trailer -/

/-- A built frame ends with the bytes that were written last. -/
theorem SkyTransmitFrame.trailer_frame {tx : SkyTransmitFrame} {front trailer : Bytes}
    (h : tx.bytes = front ++ trailer) (ht : trailer.length = skyHmacLength) :
    tx.frame.trailer = trailer ∧ tx.frame.hashed = front := by
  have hlen : tx.length - skyHmacLength = front.length := by
    rw [← tx.bytes_length, h, List.length_append, ht, Nat.add_sub_cancel]
  have hraw : tx.frame.raw = front ++ (trailer ++ List.replicate (rawLen - tx.length) 0) := by
    rw [SkyTransmitFrame.frame, h, List.append_assoc]
  have hlength : tx.frame.length = tx.length := rfl
  constructor
  · rw [SkyRadioFrame.trailer, hlength, hlen, hraw, List.drop_left' rfl, ← ht, List.take_left]
  · rw [SkyRadioFrame.hashed, hlength, hlen, hraw, List.take_left' rfl]

end Skylink
