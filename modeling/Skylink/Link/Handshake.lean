import Skylink.Link.Session

/-!
# Handshakes

An identifier is put into network order when it is sent and read as it lies in memory,
so an endpoint knows the sessions of its peer by swapped identifiers. Here is what a
filled frame says about sessions and what a processed one does to them.
-/

namespace Skylink

variable {w : Nat}

/-- The frame was filled by an endpoint; `identifier` is that of its handshake as the
sender knows it. -/
def FrameSays (w : Nat) (frame : SkyRadioFrame) (identifier : Option UInt32) : Prop :=
  ∃ (tx : SkyTransmitFrame) (identity : Bytes) (others : List (ExtValue w))
    (channel : Fin skyNumVirtualChannels) (c : ArqContent w),
    frame = tx.frame ∧ tx.Carries identity others channel c ∧
      c.handshake.map Prod.snd = identifier ∧
        ∀ p, c.payload = some p → p.length ≤ skyPayloadMaxLen

/-- The receiver reads the swapped identifier. -/
theorem FrameSays.parse {frame : SkyRadioFrame} {identifier : Option UInt32}
    (h : FrameSays w frame identifier) (h8 : 8 ∣ w) (hw : w ≤ 56) :
    ∃ parsed, ∃ c : ArqContent w, frame.parse w = .ok parsed ∧ parsed.Reads c ∧
      c.handshake.map Prod.snd = identifier ∧
      parsed.handshakeIdentifier = identifier.map skyHton32 ∧
      parsed.payloadBytes.length < 65536 := by
  obtain ⟨tx, identity, others, channel, c, rfl, hcarries, hid, hpayload⟩ := h
  obtain ⟨parsed, hparse, hreads⟩ := hcarries.parse hw h8
  refine ⟨parsed, c, hparse, hreads, hid, ?_, ?_⟩
  · rw [hreads.handshakeIdentifier, ← hid, Option.map_map]
    rfl
  · rw [hreads.payloadBytes]
    cases hc : c.payload with
    | none => exact Nat.zero_lt_succ _
    | some p =>
        have hle := hpayload p hc
        have hmax : skyPayloadMaxLen < 65536 := by decide
        exact lt_of_le_of_lt hle hmax

/-- A filled frame names the session of its sender, or none. -/
theorem VcRep.fill_says {vc : SkyVirtualChannel w} {v : VcView} (h : VcRep vc v) (hw : w ≤ 56)
    (first : FrameStart w) (config : SkyConfig) (now : Int) (frames : UInt16) :
    ∃ vc' tx' ret i v', skyVcFillFrame vc config first.tx now frames = (vc', tx', ret) ∧
      FrameSays w tx'.frame i ∧ VcRep vc' v' ∧ vc'.arqStateFlag = vc.arqStateFlag ∧
      vc'.arqSessionIdentifier = vc.arqSessionIdentifier ∧
      ∀ x, i = some x → vc.arqStateFlag ≠ .off ∧ x = vc.arqSessionIdentifier := by
  obtain ⟨vc', tx', ret, c, v', heq, hcarries, hfilled, hrep, hstate, hid, -⟩ :=
    h.fill hw first.carries config now frames
  obtain ⟨hle, hle', hroom, -⟩ := h.sendOrder
  refine ⟨vc', tx', ret, c.handshake.map Prod.snd, v', heq,
    ⟨tx', _, _, _, c, rfl, hcarries, rfl, fun p hp => ?_⟩, hrep, hstate, hid, fun x hx => ?_⟩
  · cases hfilled with
    | idle hoff hview hc hret hdue =>
        rw [hc] at hp
        cases hp
    | packet hoff hlt hview hc hret hdue =>
        rw [hc] at hp
        obtain rfl := Option.some.inj hp
        exact h.payload_length_le hle hlt
    | connecting hinit hview hc hhandshake hret =>
        rw [hc] at hp
        cases hp
    | connected hon harqOn hhandshake hctrl tx htx hview hpayload hdue =>
        obtain ⟨-, hnone⟩ | ⟨u, hlo, hhi, -, hsome⟩ := hpayload
        · rw [hnone] at hp
          cases hp
        · rw [hsome] at hp
          obtain rfl := Option.some.inj hp
          have horder := hrep.sendOrder
          rw [hview] at horder
          have htx' : tx ≤ v.sendHead := horder.2.1
          exact h.payload_length_le hlo (by omega)
  · obtain ⟨hs, hc, rfl⟩ := Option.map_eq_some_iff.mp hx
    cases hfilled with
    | idle hoff hview hnone hret hdue =>
        rw [hnone] at hc
        cases hc
    | packet hoff hlt hview hnone hret hdue =>
        rw [hnone] at hc
        cases hc
    | connecting hinit hview _ hhandshake hret =>
        rw [hhandshake hs hc]
        exact ⟨by simp [hinit], rfl⟩
    | connected hon harqOn hhandshake hctrl tx htx hview hpayload hdue =>
        rw [hhandshake] at hc
        split at hc
        · obtain rfl := Option.some.inj hc
          exact ⟨by simp [hon], rfl⟩
        · cases hc

/-- What a handshake does to the state of the protocol. -/
inductive Shakes (vc vc' : SkyVirtualChannel w) (identifier : UInt32) : Prop
  | kept (hoff : vc.arqStateFlag ≠ .off) (hstays : vc.enters identifier = false)
      (hother : vc.arqStateFlag = .inInit → identifier ≠ vc.arqSessionIdentifier)
      (hstate : vc'.arqStateFlag = vc.arqStateFlag)
      (hid : vc'.arqSessionIdentifier = vc.arqSessionIdentifier)
  | joined (hinit : vc.arqStateFlag = .inInit) (hown : identifier = vc.arqSessionIdentifier)
      (hstays : vc.enters identifier = false) (hstate : vc'.arqStateFlag = .on)
      (hid : vc'.arqSessionIdentifier = vc.arqSessionIdentifier)
  | entered (henters : vc.enters identifier = true) (hstate : vc'.arqStateFlag = .on)
      (hid : vc'.arqSessionIdentifier = identifier)

/-- Processing a frame records its handshake, and only a handshake changes the state. -/
theorem Endpoint.process_says {e : Endpoint w} {v : VcView} (hrep : VcRep e.vc v)
    {frame : SkyRadioFrame} {i : Option UInt32} (hframe : FrameSays w frame i) (h8 : 8 ∣ w)
    (hw : w ≤ 56) (sessions : List UInt32) (tickTime now : Int) :
    ∃ vc' v', e.process sessions tickTime now frame =
        e.record sessions (i.map skyHton32) vc' ∧ VcRep vc' v' ∧
      (i = none → vc'.arqStateFlag = e.vc.arqStateFlag ∧
        vc'.arqSessionIdentifier = e.vc.arqSessionIdentifier) ∧
      ∀ x, i = some x → Shakes e.vc vc' (skyHton32 x) := by
  obtain ⟨parsed, c, hparse, hreads, hid, hhandshake, hlen⟩ := hframe.parse h8 hw
  obtain ⟨v', hrep'⟩ := hrep.process_any tickTime hlen now
  have hcontrol := processContents_control (processHandshake tickTime e.vc parsed) parsed now
  rw [← skyVcProcessFrame_fst, processHandshake_reads hreads] at hcontrol
  refine ⟨_, v', ?_, hrep', fun hi => ?_, fun x hi => ?_⟩
  · rw [Endpoint.process, hparse]
    dsimp only
    rw [hhandshake]
  · rw [hi, Option.map_eq_none_iff] at hid
    rw [hid] at hcontrol
    exact ⟨hcontrol.arqStateFlag, hcontrol.arqSessionIdentifier⟩
  · rw [hi, Option.map_eq_some_iff] at hid
    obtain ⟨hs, hc, rfl⟩ := hid
    rw [hc] at hcontrol
    have houtcome := skyVcHandleHandshake_outcome tickTime e.vc hs.1 (skyHton32 hs.2)
    dsimp only at hcontrol
    generalize (skyVcHandleHandshake tickTime e.vc hs.1 (skyHton32 hs.2)).1 = met
      at houtcome hcontrol
    obtain ⟨hstate, -, hid⟩ := hcontrol
    cases houtcome with
    | kept hoff hstays hother heq =>
        rw [heq] at hstate hid
        exact .kept hoff hstays hother hstate hid
    | joined hinit hown hstays heq =>
        rw [heq] at hstate hid
        exact .joined hinit hown hstays hstate hid
    | entered henters heq =>
        rw [heq] at hstate hid
        exact .entered henters hstate hid

end Skylink
