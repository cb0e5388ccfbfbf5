import Skylink.Node.Windows

/-!
# The windows over a run

The operations that move the cycle keep the window lengths within their limits. They lay
`T0` behind the present, and depend on ticks only through their differences on the clock.
-/

namespace Skylink

/-- The operations of the time division, with the tick at which they are called. -/
inductive MacEvent
  | updateBelief (now receiveTime peerMacLength peerMacRemaining : Int)
  | reset (now : Int)
  | expandWindow (now : Int)
  | shrinkWindow (now : Int)
  | shiftWindowing (tShift : Int)
  | carrierSensed (now : Int)
deriving DecidableEq, Repr

namespace SkyMAC

def after (config : SkyMACConfig) (mac : SkyMAC) : MacEvent → SkyMAC
  | .updateBelief now receiveTime length remaining =>
      macUpdateBelief config mac now receiveTime length remaining
  | .reset now => macReset config mac now
  | .expandWindow now => macExpandWindow config mac now
  | .shrinkWindow now => macShrinkWindow config mac now
  | .shiftWindowing tShift => macShiftWindowing mac tShift
  | .carrierSensed now => skyMacCarrierSensed config mac now

def run (config : SkyMACConfig) (mac : SkyMAC) (events : List MacEvent) : SkyMAC :=
  events.foldl (SkyMAC.after config) mac

end SkyMAC

/-- The state after a run from `sky_mac_create`, which normalises its configuration. -/
def skyMacRun (config : SkyMACConfig) (events : List MacEvent) : SkyMAC :=
  (skyMacCreate config.normalise).run config.normalise events

/-! ## Limits -/

/-- The window lengths and `T0` are in their ranges. -/
structure SkyMAC.WithinLimits (config : SkyMACConfig) (mac : SkyMAC) : Prop where
  my_ge : config.minimumWindowLengthTicks ≤ mac.myWindowLength
  my_le : mac.myWindowLength ≤ config.maximumWindowLengthTicks
  peer_ge : config.minimumWindowLengthTicks ≤ mac.peerWindowLength
  peer_le : mac.peerWindowLength ≤ config.maximumWindowLengthTicks
  t0_nonneg : 0 ≤ mac.t0
  t0_lt : mac.t0 < modTimeTicks

/-- A configuration with which the windows of every cycle fit in the clock. -/
structure SkyMACConfig.FitsClock (config : SkyMACConfig) : Prop where
  minimum_pos : 0 < config.minimumWindowLengthTicks
  minimum_le : config.minimumWindowLengthTicks ≤ config.maximumWindowLengthTicks
  gap_nonneg : 0 ≤ config.gapConstantTicks
  tail_nonneg : 0 ≤ config.tailConstantTicks
  increment_nonneg : 0 ≤ config.windowAdjustIncrementTicks
  carrier_nonneg : 0 ≤ config.carrierSenseTicks
  carrier_le : config.carrierSenseTicks ≤
    config.minimumWindowLengthTicks + config.gapConstantTicks
  cycle_lt : 2 * config.maximumWindowLengthTicks + config.gapConstantTicks +
    config.tailConstantTicks < modTimeTicks

theorem skyMacCreate_withinLimits {config : SkyMACConfig}
    (hle : config.minimumWindowLengthTicks ≤ config.maximumWindowLengthTicks) :
    (skyMacCreate config).WithinLimits config where
  my_ge := le_refl _
  my_le := hle
  peer_ge := le_refl _
  peer_le := hle
  t0_nonneg := le_refl _
  t0_lt := (by decide : (0 : Int) < modTimeTicks)

namespace SkyMAC.WithinLimits

variable {config : SkyMACConfig} {mac mac' : SkyMAC}

theorem cycle_lt (h : mac.WithinLimits config) (hfits : config.FitsClock) :
    getMacCycle config mac < modTimeTicks := by
  have hmy := h.my_le
  have hpeer := h.peer_le
  have hcycle := hfits.cycle_lt
  rw [getMacCycle]
  omega

theorem cycle_pos (h : mac.WithinLimits config) (hfits : config.FitsClock) :
    0 < getMacCycle config mac := by
  have hmy := h.my_ge
  have hpeer := h.peer_ge
  have hmin := hfits.minimum_pos
  have hgap := hfits.gap_nonneg
  have htail := hfits.tail_nonneg
  rw [getMacCycle]
  omega

theorem my_pos (h : mac.WithinLimits config) (hfits : config.FitsClock) :
    0 < mac.myWindowLength := hfits.minimum_pos.trans_le h.my_ge

/-- The limits only speak of the two lengths and of `T0`. -/
theorem move (h : mac.WithinLimits config)
    (hmy : config.minimumWindowLengthTicks ≤ mac'.myWindowLength ∧
      mac'.myWindowLength ≤ config.maximumWindowLengthTicks)
    (hpeer : mac'.peerWindowLength = mac.peerWindowLength) {t : Int}
    (ht0 : mac'.t0 = wrapTimeTicks t) : mac'.WithinLimits config where
  my_ge := hmy.1
  my_le := hmy.2
  peer_ge := hpeer ▸ h.peer_ge
  peer_le := hpeer ▸ h.peer_le
  t0_nonneg := ht0 ▸ wrapTimeTicks_nonneg t
  t0_lt := ht0 ▸ wrapTimeTicks_lt t

theorem updateBelief (h : mac.WithinLimits config)
    (hle : config.minimumWindowLengthTicks ≤ config.maximumWindowLengthTicks)
    (now receiveTime length remaining : Int) :
    (macUpdateBelief config mac now receiveTime length remaining).WithinLimits config := by
  rw [macUpdateBelief_eq, config.clampWindow_eq hle]
  constructor
  · exact h.my_ge
  · exact h.my_le
  · exact le_max_left _ _
  · exact max_le hle (min_le_left _ _)
  · exact wrapTimeTicks_nonneg _
  · exact wrapTimeTicks_lt _

theorem reset (h : mac.WithinLimits config)
    (hle : config.minimumWindowLengthTicks ≤ config.maximumWindowLengthTicks) (now : Int) :
    (macReset config mac now).WithinLimits config :=
  h.move ⟨le_refl _, hle⟩ rfl rfl

/-- An increment that is not negative keeps the length of the window within its limits. -/
theorem adjustWindow (h : mac.WithinLimits config)
    (hincrement : 0 ≤ config.windowAdjustIncrementTicks) (now : Int) :
    (macExpandWindow config mac now).WithinLimits config ∧
      (macShrinkWindow config mac now).WithinLimits config := by
  have hge := h.my_ge
  have hle := h.my_le
  constructor
  · refine h.move ?_ rfl rfl
    simp only [macExpandWindow]
    split_ifs <;> omega
  · refine h.move ?_ rfl rfl
    simp only [macShrinkWindow]
    split_ifs <;> omega

theorem carrierSensed (h : mac.WithinLimits config) (now : Int) :
    (skyMacCarrierSensed config mac now).WithinLimits config := by
  rw [skyMacCarrierSensed]
  split_ifs
  · exact h.move ⟨h.my_ge, h.my_le⟩ rfl rfl
  · exact h

theorem after (h : mac.WithinLimits config) (hfits : config.FitsClock) (event : MacEvent) :
    (mac.after config event).WithinLimits config := by
  have hle := hfits.minimum_le
  have hincrement := hfits.increment_nonneg
  cases event with
  | updateBelief now receiveTime length remaining =>
      exact h.updateBelief hle now receiveTime length remaining
  | reset now => exact h.reset hle now
  | expandWindow now => exact (h.adjustWindow hincrement now).1
  | shrinkWindow now => exact (h.adjustWindow hincrement now).2
  | shiftWindowing tShift => exact h.move ⟨h.my_ge, h.my_le⟩ rfl rfl
  | carrierSensed now => exact h.carrierSensed now

theorem run (hfits : config.FitsClock) (events : List MacEvent) :
    ∀ {mac : SkyMAC}, mac.WithinLimits config → (mac.run config events).WithinLimits config := by
  induction events with
  | nil =>
      intro mac h
      exact h
  | cons event events ih =>
      intro mac h
      exact ih (h.after hfits event)

end SkyMAC.WithinLimits

theorem skyMacRun_limits {config : SkyMACConfig} (hfits : config.normalise.FitsClock)
    (events : List MacEvent) : (skyMacRun config events).WithinLimits config.normalise :=
  SkyMAC.WithinLimits.run hfits events (skyMacCreate_withinLimits hfits.minimum_le)

/-! ## Opening the own window -/

/-- The node can send for the whole of its window. -/
structure SkyMAC.OpensAt (config : SkyMACConfig) (mac : SkyMAC) (now : Int) : Prop where
  canSend : macCanSend config mac now = true
  remaining : macOwnWindowRemaining config mac now = mac.myWindowLength

/-- Reset, expansion and shrinking lay `T0` one cycle back. -/
theorem SkyMAC.opensAt_of_t0 {config : SkyMACConfig} {mac : SkyMAC} {now : Int}
    (hlimits : mac.WithinLimits config) (hfits : config.FitsClock)
    (ht0 : mac.t0 = wrapTimeTicks (now - getMacCycle config mac)) : mac.OpensAt config now := by
  have hcycle := hlimits.cycle_pos hfits
  have hphase : mac.phase config now = 0 := by
    rw [SkyMAC.phase_eq, SkyMAC.sinceT0_of_t0 ht0 hcycle.le (hlimits.cycle_lt hfits),
      Int.emod_self]
  constructor
  · rw [macCanSend_iff hcycle, hphase]
    exact hlimits.my_pos hfits
  · rw [macOwnWindowRemaining_phase hcycle, hphase, sub_zero]

theorem macTimeToOwnWindow_carrierSensed {config : SkyMACConfig} {mac : SkyMAC}
    (hlimits : mac.WithinLimits config) (hfits : config.FitsClock) (now : Int) :
    macTimeToOwnWindow config (skyMacCarrierSensed config mac now) now =
      if macTimeToOwnWindow config mac now ≤ config.carrierSenseTicks then
        config.carrierSenseTicks
      else macTimeToOwnWindow config mac now := by
  have hsensed := hlimits.carrierSensed now
  rw [skyMacCarrierSensed] at hsensed ⊢
  split_ifs at hsensed ⊢
  · -- The carrier time ends before the window of the peer does.
    have hends : mac.myWindowLength + config.carrierSenseTicks ≤ getMacCycle config mac := by
      have hcarrier := hfits.carrier_le
      have hpeer := hlimits.peer_ge
      have htail := hfits.tail_nonneg
      rw [getMacCycle]
      omega
    refine macTimeToOwnWindow_of_t0 ?_ (hsensed.my_pos hfits) hfits.carrier_nonneg hends
      (hsensed.cycle_lt hfits)
    rw [← sub_add]
    rfl
  · rfl

/-- In every run the windows are within their limits, and the operations that open the own
window open all of it. -/
theorem skyMacRun_withinLimits {config : SkyMACConfig} (hfits : config.normalise.FitsClock)
    (events : List MacEvent) :
    let mac := skyMacRun config events
    let config := config.normalise
    mac.WithinLimits config ∧
      ∀ now,
        (macReset config mac now).OpensAt config now ∧
          (macExpandWindow config mac now).OpensAt config now ∧
            (macShrinkWindow config mac now).OpensAt config now ∧
              macTimeToOwnWindow config (skyMacCarrierSensed config mac now) now =
                if macTimeToOwnWindow config mac now ≤ config.carrierSenseTicks then
                  config.carrierSenseTicks
                else macTimeToOwnWindow config mac now := by
  intro mac config
  have hlimits : mac.WithinLimits config := skyMacRun_limits hfits events
  have hle := hfits.minimum_le
  have hincrement := hfits.increment_nonneg
  refine ⟨hlimits, fun now => ⟨?_, ?_, ?_, macTimeToOwnWindow_carrierSensed hlimits hfits now⟩⟩
  · exact SkyMAC.opensAt_of_t0 (hlimits.reset hle now) hfits rfl
  · exact SkyMAC.opensAt_of_t0 (hlimits.adjustWindow hincrement now).1 hfits rfl
  · exact SkyMAC.opensAt_of_t0 (hlimits.adjustWindow hincrement now).2 hfits rfl

theorem skyMacRun_withinLimits_example :
    let config := (exampleConfig 0 1).mac.normalise
    let mac := skyMacRun (exampleConfig 0 1).mac
      [.updateBelief 5 16777200 600 200, .expandWindow 40, .shiftWindowing (-300)]
    mac.myWindowLength = 550 ∧ mac.peerWindowLength = 600 ∧
      (macReset config mac 16777215).OpensAt config 16777215 := by
  have hfits : (exampleConfig 0 1).mac.normalise.FitsClock := by
    constructor <;> decide
  have hrun := skyMacRun_withinLimits hfits
    [.updateBelief 5 16777200 600 200, .expandWindow 40, .shiftWindowing (-300)]
  exact ⟨by decide +kernel, by decide +kernel, (hrun.2 16777215).1⟩

/-! ## The origin of the ticks -/

/-- The ticks that a state keeps, on a clock that is ahead by `d`. -/
def SkyMAC.shiftTicks (mac : SkyMAC) (d : Int) : SkyMAC :=
  { mac with
    t0 := wrapTimeTicks (mac.t0 + d)
    lastBeliefUpdate := wrapTimeTicks (mac.lastBeliefUpdate + d) }

theorem wrapTimeTicks_modEq (t : Int) : wrapTimeTicks t ≡ t [ZMOD modTimeTicks] := by
  rw [wrapTimeTicks_eq_emod]
  exact Int.mod_modEq t modTimeTicks

theorem wrapTimeTicks_congr {t t' : Int} (h : t ≡ t' [ZMOD modTimeTicks]) :
    wrapTimeTicks t = wrapTimeTicks t' := by
  rw [wrapTimeTicks_eq_emod, wrapTimeTicks_eq_emod]
  exact h

/-- Differences of ticks do not depend on the origin. -/
theorem wrapTimeTicks_shift_sub (now start k d : Int) :
    wrapTimeTicks (wrapTimeTicks (now + d) - (wrapTimeTicks (start + d) + k)) =
      wrapTimeTicks (now - (start + k)) := by
  apply wrapTimeTicks_congr
  calc wrapTimeTicks (now + d) - (wrapTimeTicks (start + d) + k)
      ≡ now + d - (start + d + k) [ZMOD modTimeTicks] :=
        (wrapTimeTicks_modEq _).sub ((wrapTimeTicks_modEq _).add_right k)
    _ = now - (start + k) := by omega

theorem wrapTimeTicks_shift_sub_zero (now start d : Int) :
    wrapTimeTicks (wrapTimeTicks (now + d) - wrapTimeTicks (start + d)) =
      wrapTimeTicks (now - start) := by
  have hzero := wrapTimeTicks_shift_sub now start 0 d
  rwa [add_zero, add_zero] at hzero

/-- A place laid relative to the present moves with the present. -/
theorem wrapTimeTicks_shift_add (now k d : Int) :
    wrapTimeTicks (wrapTimeTicks (now + d) + k) = wrapTimeTicks (wrapTimeTicks (now + k) + d) := by
  apply wrapTimeTicks_congr
  calc wrapTimeTicks (now + d) + k
      ≡ now + d + k [ZMOD modTimeTicks] := (wrapTimeTicks_modEq _).add_right k
    _ = now + k + d := by omega
    _ ≡ wrapTimeTicks (now + k) + d [ZMOD modTimeTicks] :=
        ((wrapTimeTicks_modEq _).add_right d).symm

section Shift

variable (config : SkyMACConfig) (mac : SkyMAC) (now d : Int)

theorem macTimeToOwnWindow_shiftTicks :
    macTimeToOwnWindow config (mac.shiftTicks d) (wrapTimeTicks (now + d)) =
      macTimeToOwnWindow config mac now := by
  have hsub := wrapTimeTicks_shift_sub_zero now mac.t0 d
  simp only [macTimeToOwnWindow, SkyMAC.shiftTicks, hsub]
  rfl

theorem macOwnWindowRemaining_shiftTicks :
    macOwnWindowRemaining config (mac.shiftTicks d) (wrapTimeTicks (now + d)) =
      macOwnWindowRemaining config mac now := by
  have hsub := wrapTimeTicks_shift_sub_zero now mac.t0 d
  simp only [macOwnWindowRemaining, SkyMAC.shiftTicks, hsub]
  rfl

theorem macPeerWindowRemaining_shiftTicks :
    macPeerWindowRemaining config (mac.shiftTicks d) (wrapTimeTicks (now + d)) =
      macPeerWindowRemaining config mac now := by
  have hsub := wrapTimeTicks_shift_sub now mac.t0
    (mac.myWindowLength + config.gapConstantTicks) d
  simp only [macPeerWindowRemaining, SkyMAC.shiftTicks, add_assoc, hsub]
  rfl

theorem macCanSend_shiftTicks :
    macCanSend config (mac.shiftTicks d) (wrapTimeTicks (now + d)) =
      macCanSend config mac now := by
  rw [macCanSend, macOwnWindowRemaining_shiftTicks, macCanSend]

theorem macIdleFrameNeeded_shiftTicks :
    macIdleFrameNeeded config (mac.shiftTicks d) (wrapTimeTicks (now + d)) =
      macIdleFrameNeeded config mac now := by
  have hsub := wrapTimeTicks_shift_sub_zero now mac.lastBeliefUpdate d
  simp only [macIdleFrameNeeded, SkyMAC.shiftTicks, hsub]
  rfl

variable {mac} in
theorem SkyMAC.eq_shiftTicks {mac' : SkyMAC} {d : Int}
    (hrest : mac' = { mac.shiftTicks d with t0 := mac'.t0 })
    (ht0 : mac'.t0 = wrapTimeTicks (mac.t0 + d)) : mac' = mac.shiftTicks d := by
  rw [hrest, ht0]
  rfl

theorem macReset_shiftTicks :
    macReset config (mac.shiftTicks d) (wrapTimeTicks (now + d)) =
      (macReset config mac now).shiftTicks d :=
  SkyMAC.eq_shiftTicks rfl (wrapTimeTicks_shift_add now _ d)

theorem macExpandWindow_shiftTicks :
    macExpandWindow config (mac.shiftTicks d) (wrapTimeTicks (now + d)) =
      (macExpandWindow config mac now).shiftTicks d :=
  SkyMAC.eq_shiftTicks rfl (wrapTimeTicks_shift_add now _ d)

theorem macShrinkWindow_shiftTicks :
    macShrinkWindow config (mac.shiftTicks d) (wrapTimeTicks (now + d)) =
      (macShrinkWindow config mac now).shiftTicks d :=
  SkyMAC.eq_shiftTicks rfl (wrapTimeTicks_shift_add now _ d)

theorem skyMacCarrierSensed_shiftTicks :
    skyMacCarrierSensed config (mac.shiftTicks d) (wrapTimeTicks (now + d)) =
      (skyMacCarrierSensed config mac now).shiftTicks d := by
  rw [skyMacCarrierSensed, macTimeToOwnWindow_shiftTicks, skyMacCarrierSensed]
  split_ifs
  · have hcycle : getMacCycle config (mac.shiftTicks d) = getMacCycle config mac := rfl
    apply SkyMAC.eq_shiftTicks rfl
    rw [hcycle, sub_add, sub_add]
    exact wrapTimeTicks_shift_add now _ d
  · rfl

theorem macUpdateBelief_shiftTicks {now receiveTime : Int} (hnow : 0 ≤ now ∧ now < modTimeTicks)
    (hreceive : 0 ≤ receiveTime ∧ receiveTime < modTimeTicks) (length remaining : Int) :
    macUpdateBelief config (mac.shiftTicks d) (wrapTimeTicks (now + d))
        (wrapTimeTicks (receiveTime + d)) length remaining =
      (macUpdateBelief config mac now receiveTime length remaining).shiftTicks d := by
  have hsince : (wrapTimeTicks (now + d) - wrapTimeTicks (receiveTime + d)) % modTimeTicks =
      (now - receiveTime) % modTimeTicks := by
    have hsub := wrapTimeTicks_shift_sub_zero now receiveTime d
    rwa [wrapTimeTicks_eq_emod, wrapTimeTicks_eq_emod (now - receiveTime)] at hsub
  apply SkyMAC.eq_shiftTicks rfl
  rw [macUpdateBelief_t0 config (mac.shiftTicks d)
      ⟨wrapTimeTicks_nonneg _, wrapTimeTicks_lt _⟩ ⟨wrapTimeTicks_nonneg _, wrapTimeTicks_lt _⟩,
    hsince, macUpdateBelief_t0 config mac hnow hreceive]
  exact wrapTimeTicks_shift_add receiveTime _ d

/-- The time division does not depend on the origin of the ticks. -/
theorem mac_shiftTicks_invariant {now receiveTime : Int} (hnow : 0 ≤ now ∧ now < modTimeTicks)
    (hreceive : 0 ≤ receiveTime ∧ receiveTime < modTimeTicks) (length remaining : Int) :
    let now' := wrapTimeTicks (now + d)
    let receiveTime' := wrapTimeTicks (receiveTime + d)
    let mac' := mac.shiftTicks d
    (macCanSend config mac' now' = macCanSend config mac now ∧
        macTimeToOwnWindow config mac' now' = macTimeToOwnWindow config mac now ∧
          macOwnWindowRemaining config mac' now' = macOwnWindowRemaining config mac now ∧
            macPeerWindowRemaining config mac' now' = macPeerWindowRemaining config mac now ∧
              macIdleFrameNeeded config mac' now' = macIdleFrameNeeded config mac now) ∧
      macUpdateBelief config mac' now' receiveTime' length remaining =
          (macUpdateBelief config mac now receiveTime length remaining).shiftTicks d ∧
        macReset config mac' now' = (macReset config mac now).shiftTicks d ∧
          macExpandWindow config mac' now' = (macExpandWindow config mac now).shiftTicks d ∧
            macShrinkWindow config mac' now' = (macShrinkWindow config mac now).shiftTicks d ∧
              skyMacCarrierSensed config mac' now' =
                (skyMacCarrierSensed config mac now).shiftTicks d := by
  intro now' receiveTime' mac'
  refine ⟨⟨?_, ?_, ?_, ?_, ?_⟩, ?_, ?_, ?_, ?_, ?_⟩
  · exact macCanSend_shiftTicks config mac now d
  · exact macTimeToOwnWindow_shiftTicks config mac now d
  · exact macOwnWindowRemaining_shiftTicks config mac now d
  · exact macPeerWindowRemaining_shiftTicks config mac now d
  · exact macIdleFrameNeeded_shiftTicks config mac now d
  · exact macUpdateBelief_shiftTicks config mac d hnow hreceive length remaining
  · exact macReset_shiftTicks config mac now d
  · exact macExpandWindow_shiftTicks config mac now d
  · exact macShrinkWindow_shiftTicks config mac now d
  · exact skyMacCarrierSensed_shiftTicks config mac now d

theorem mac_shiftTicks_invariant_example :
    let config := (exampleConfig 0 1).mac
    let mac := skyMacCreate config
    let mac' := macUpdateBelief config (mac.shiftTicks 100) (wrapTimeTicks (16777200 + 100))
      (wrapTimeTicks (16777100 + 100)) 600 200
    (wrapTimeTicks (16777200 + 100), wrapTimeTicks (16777100 + 100)) = (84, 16777200) ∧
      mac' = (macUpdateBelief config mac 16777200 16777100 600 200).shiftTicks 100 :=
  ⟨by decide +kernel, (mac_shiftTicks_invariant (exampleConfig 0 1).mac
    (skyMacCreate (exampleConfig 0 1).mac) 100 (by decide) (by decide) 600 200).2.1⟩

end Shift

/-! ## The windows of a cycle -/

/-- The remaining times at a tick agree with the place in the cycle. -/
structure SkyMAC.PartitionsCycle (config : SkyMACConfig) (mac : SkyMAC) (now : Int) : Prop where
  own_iff : 0 < macOwnWindowRemaining config mac now ↔ mac.phase config now < mac.myWindowLength
  peer_iff : 0 < macPeerWindowRemaining config mac now ↔
    mac.myWindowLength + config.gapConstantTicks ≤ mac.phase config now ∧
      mac.phase config now <
        mac.myWindowLength + config.gapConstantTicks + mac.peerWindowLength
  not_both : ¬(0 < macOwnWindowRemaining config mac now ∧
    0 < macPeerWindowRemaining config mac now)
  own_rest : 0 < macOwnWindowRemaining config mac now →
    macOwnWindowRemaining config mac now = mac.myWindowLength - mac.phase config now
  peer_rest : 0 < macPeerWindowRemaining config mac now →
    macPeerWindowRemaining config mac now =
      mac.myWindowLength + config.gapConstantTicks + mac.peerWindowLength -
        mac.phase config now

/-- The place in the cycle from which the window of the peer is measured. Until that window
first opens, it is counted as if the clock had not wrapped at `T0`. -/
def SkyMAC.peerPhase (config : SkyMACConfig) (mac : SkyMAC) (now : Int) : Int :=
  (if mac.myWindowLength + config.gapConstantTicks ≤ mac.sinceT0 now then mac.sinceT0 now
    else mac.sinceT0 now + modTimeTicks) % getMacCycle config mac

/-- The assumptions about a state: windows, gap and tail fit in one turn of the clock. -/
structure SkyMAC.FitsClock (config : SkyMACConfig) (mac : SkyMAC) : Prop where
  my_pos : 0 < mac.myWindowLength
  peer_pos : 0 < mac.peerWindowLength
  gap_nonneg : 0 ≤ config.gapConstantTicks
  tail_nonneg : 0 ≤ config.tailConstantTicks
  cycle_lt : getMacCycle config mac < modTimeTicks

section Partition

variable {config : SkyMACConfig} {mac : SkyMAC}

theorem SkyMAC.FitsClock.lead_lt (hfits : mac.FitsClock config) :
    mac.myWindowLength + config.gapConstantTicks < getMacCycle config mac := by
  have hpeer := hfits.peer_pos
  have htail := hfits.tail_nonneg
  rw [getMacCycle]
  omega

theorem SkyMAC.FitsClock.cycle_pos (hfits : mac.FitsClock config) :
    0 < getMacCycle config mac := by
  have hmy := hfits.my_pos
  have hgap := hfits.gap_nonneg
  exact lt_trans (by omega) hfits.lead_lt

theorem macPeerWindowRemaining_peerPhase (hfits : mac.FitsClock config) (now : Int) :
    macPeerWindowRemaining config mac now =
      mac.peerWindowLength -
        (if mac.myWindowLength + config.gapConstantTicks ≤ mac.peerPhase config now then
            mac.peerPhase config now - (mac.myWindowLength + config.gapConstantTicks)
          else mac.peerPhase config now - (mac.myWindowLength + config.gapConstantTicks) +
            getMacCycle config mac) := by
  have hlead : 0 ≤ mac.myWindowLength + config.gapConstantTicks :=
    add_nonneg hfits.my_pos.le hfits.gap_nonneg
  have hle := hfits.lead_lt.le
  rw [macPeerWindowRemaining_phase hfits.cycle_pos hlead (hle.trans hfits.cycle_lt.le),
    SkyMAC.peerPhase]
  congr 1
  rw [← Cycle.emod_sub_offset hfits.cycle_pos hlead hle]
  split_ifs
  · rfl
  · rw [sub_add_eq_add_sub]

theorem macPeerWindowRemaining_pos_iff (hfits : mac.FitsClock config) (now : Int) :
    0 < macPeerWindowRemaining config mac now ↔
      mac.myWindowLength + config.gapConstantTicks ≤ mac.peerPhase config now ∧
        mac.peerPhase config now <
          mac.myWindowLength + config.gapConstantTicks + mac.peerWindowLength := by
  have hnonneg : 0 ≤ mac.peerPhase config now := Int.emod_nonneg _ hfits.cycle_pos.ne'
  have htail := hfits.tail_nonneg
  have hcycle : getMacCycle config mac = mac.myWindowLength + config.gapConstantTicks +
      mac.peerWindowLength + config.tailConstantTicks := rfl
  rw [macPeerWindowRemaining_peerPhase hfits]
  split_ifs <;> omega

theorem macPeerWindowRemaining_of_pos (hfits : mac.FitsClock config) {now : Int}
    (hpos : 0 < macPeerWindowRemaining config mac now) :
    macPeerWindowRemaining config mac now =
      mac.myWindowLength + config.gapConstantTicks + mac.peerWindowLength -
        mac.peerPhase config now := by
  have hopen := (macPeerWindowRemaining_pos_iff hfits now).mp hpos
  rw [macPeerWindowRemaining_peerPhase hfits, if_pos hopen.1]
  omega

/-- Once the first window of the peer is due, it is measured in the same cycle. -/
theorem SkyMAC.peerPhase_eq_phase {now : Int}
    (hdue : mac.myWindowLength + config.gapConstantTicks ≤ mac.sinceT0 now) :
    mac.peerPhase config now = mac.phase config now := by
  rw [SkyMAC.peerPhase, if_pos hdue, SkyMAC.phase_eq]

theorem SkyMAC.partitionsCycle_of_peerPhase (hfits : mac.FitsClock config) {now : Int}
    (hphase : mac.peerPhase config now = mac.phase config now) :
    mac.PartitionsCycle config now := by
  have hown := macOwnWindowRemaining_phase hfits.cycle_pos now
  have hpeer := macPeerWindowRemaining_pos_iff hfits now
  have hgap := hfits.gap_nonneg
  rw [hphase] at hpeer
  constructor
  · rw [hown, sub_pos]
  · exact hpeer
  · rintro ⟨hownPos, hpeerPos⟩
    have hbehind := (hpeer.mp hpeerPos).1
    omega
  · exact fun _ => hown
  · intro hpos
    rw [macPeerWindowRemaining_of_pos hfits hpos, hphase]

/-- Before the first window of the peer is due, it has to be measured as closed. -/
theorem SkyMAC.partitionsCycle_iff_of_lt (hfits : mac.FitsClock config) {now : Int}
    (hearly : mac.sinceT0 now < mac.myWindowLength + config.gapConstantTicks) :
    mac.PartitionsCycle config now ↔ ¬0 < macPeerWindowRemaining config mac now := by
  have hsince := mac.sinceT0_nonneg now
  have hphase : mac.phase config now = mac.sinceT0 now :=
    Int.emod_eq_of_lt hsince (hearly.trans hfits.lead_lt)
  have hown := macOwnWindowRemaining_phase hfits.cycle_pos now
  constructor
  · intro hpart hpos
    have hbehind := (hpart.peer_iff.mp hpos).1
    omega
  · intro hclosed
    constructor
    · rw [hown, sub_pos]
    · exact ⟨fun hpos => absurd hpos hclosed, fun hopen => by omega⟩
    · exact fun hboth => hclosed hboth.2
    · exact fun _ => hown
    · exact fun hpos => absurd hpos hclosed

theorem SkyMAC.partitionsCycle_iff (hfits : mac.FitsClock config) (now : Int) :
    mac.PartitionsCycle config now ↔
      mac.myWindowLength + config.gapConstantTicks ≤ mac.sinceT0 now ∨
        ¬(mac.myWindowLength + config.gapConstantTicks ≤
            (mac.sinceT0 now + modTimeTicks) % getMacCycle config mac ∧
          (mac.sinceT0 now + modTimeTicks) % getMacCycle config mac <
            mac.myWindowLength + config.gapConstantTicks + mac.peerWindowLength) := by
  rcases le_or_gt (mac.myWindowLength + config.gapConstantTicks) (mac.sinceT0 now) with
    hdue | hearly
  · exact iff_of_true (SkyMAC.partitionsCycle_of_peerPhase hfits
      (SkyMAC.peerPhase_eq_phase hdue)) (.inl hdue)
  · rw [SkyMAC.partitionsCycle_iff_of_lt hfits hearly, macPeerWindowRemaining_pos_iff hfits,
      SkyMAC.peerPhase, if_neg (not_le.mpr hearly)]
    exact (or_iff_right (not_le.mpr hearly)).symm

end Partition

/-- In the states of a run the window of the peer is measured wrongly only before it is
first due, and where the clock would be in it without the wrap. -/
theorem skyMacRun_partitionsCycle_iff {config : SkyMACConfig} {events : List MacEvent}
    (hfits : (skyMacRun config events).FitsClock config.normalise) (now : Int) :
    let mac := skyMacRun config events
    let config := config.normalise
    let peerOpens := mac.myWindowLength + config.gapConstantTicks
    let unwrapped := (mac.sinceT0 now + modTimeTicks) % getMacCycle config mac
    mac.PartitionsCycle config now ↔
      peerOpens ≤ mac.sinceT0 now ∨
        ¬(peerOpens ≤ unwrapped ∧ unwrapped < peerOpens + mac.peerWindowLength) :=
  SkyMAC.partitionsCycle_iff hfits now

theorem skyMacRun_partitionsCycle_iff_example :
    (skyMacRun (exampleConfig 0 1).mac [.reset 5000]).PartitionsCycle
      (exampleConfig 0 1).mac.normalise 5100 := by
  have hfits : (skyMacRun (exampleConfig 0 1).mac [.reset 5000]).FitsClock
      (exampleConfig 0 1).mac.normalise := by
    constructor <;> decide
  exact (skyMacRun_partitionsCycle_iff hfits 5100).mpr (.inl (by decide +kernel))

/-- A node whose own window has just opened finds the window of the peer open as well. -/
theorem not_skyMacRun_partitionsCycle :
    let config := { (exampleConfig 0 1).mac with minimumWindowLengthTicks := 320 }
    let mac := skyMacRun config []
    mac.FitsClock config.normalise ∧ mac.phase config.normalise 0 = 0 ∧
      macOwnWindowRemaining config.normalise mac 0 = 320 ∧
        macPeerWindowRemaining config.normalise mac 0 = 144 ∧
          ¬mac.PartitionsCycle config.normalise 0 := by
  intro config mac
  have hown : macOwnWindowRemaining config.normalise mac 0 = 320 := by decide +kernel
  have hpeer : macPeerWindowRemaining config.normalise mac 0 = 144 := by decide +kernel
  refine ⟨by constructor <;> decide, by decide +kernel, hown, hpeer, fun hpart => ?_⟩
  exact hpart.not_both ⟨by rw [hown]; decide, by rw [hpeer]; decide⟩

end Skylink
