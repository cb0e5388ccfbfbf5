import Skylink.Library.Cycle
import Skylink.Node.Mac

/-!
# The windows of a node

A cycle has the own window, a gap, the window of the peer and a tail. The node counts
cycles from `T0`, on a clock of `MOD_TIME_TICKS` ticks, which are no whole number of
cycles.
-/

namespace Skylink

theorem wrapTimeTicks_nonneg (t : Int) : 0 ≤ wrapTimeTicks t :=
  positiveModulo_nonneg (by decide) t

theorem wrapTimeTicks_lt (t : Int) : wrapTimeTicks t < modTimeTicks := by
  rw [wrapTimeTicks_eq_emod]
  exact Int.emod_lt_of_pos t (by decide)

/-- The ticks that a node counts since `T0`. -/
def SkyMAC.sinceT0 (mac : SkyMAC) (now : Int) : Int := Cycle.elapsed modTimeTicks mac.t0 now

/-- The place in the cycle that a node counts. -/
def SkyMAC.phase (config : SkyMACConfig) (mac : SkyMAC) (now : Int) : Int :=
  Cycle.phase modTimeTicks (getMacCycle config mac) mac.t0 now

section Phase

variable {config : SkyMACConfig} {mac : SkyMAC}

theorem SkyMAC.sinceT0_eq (mac : SkyMAC) (now : Int) :
    mac.sinceT0 now = (now - mac.t0) % modTimeTicks := rfl

theorem SkyMAC.sinceT0_nonneg (mac : SkyMAC) (now : Int) : 0 ≤ mac.sinceT0 now :=
  Cycle.elapsed_nonneg (by decide)

theorem SkyMAC.phase_eq (config : SkyMACConfig) (mac : SkyMAC) (now : Int) :
    mac.phase config now = mac.sinceT0 now % getMacCycle config mac := rfl

theorem SkyMAC.phase_nonneg (hcycle : 0 < getMacCycle config mac) (now : Int) :
    0 ≤ mac.phase config now := Cycle.phase_nonneg hcycle

theorem SkyMAC.phase_lt (hcycle : 0 < getMacCycle config mac) (now : Int) :
    mac.phase config now < getMacCycle config mac := Cycle.phase_lt hcycle

theorem wrapTddCycle_eq (hcycle : 0 < getMacCycle config mac) (now start : Int) :
    wrapTddCycle config mac (wrapTimeTicks (now - start)) =
      Cycle.phase modTimeTicks (getMacCycle config mac) start now := by
  rw [wrapTddCycle, positiveModulo_eq_emod hcycle, wrapTimeTicks_eq_emod]
  rfl

theorem macOwnWindowRemaining_phase (hcycle : 0 < getMacCycle config mac) (now : Int) :
    macOwnWindowRemaining config mac now = mac.myWindowLength - mac.phase config now := by
  rw [macOwnWindowRemaining, wrapTddCycle_eq hcycle]
  rfl

theorem macCanSend_iff (hcycle : 0 < getMacCycle config mac) (now : Int) :
    macCanSend config mac now = true ↔ mac.phase config now < mac.myWindowLength := by
  rw [macCanSend, decide_eq_true_eq, macOwnWindowRemaining_phase hcycle, sub_pos]

theorem macTimeToOwnWindow_eq (hcycle : 0 < getMacCycle config mac) (now : Int) :
    macTimeToOwnWindow config mac now =
      Cycle.untilOpen modTimeTicks (getMacCycle config mac) mac.myWindowLength mac.t0 now := by
  rw [macTimeToOwnWindow, wrapTddCycle_eq hcycle]
  rfl

/-- The clock wraps between the first own window and the window of the peer behind it. -/
theorem macPeerWindowRemaining_phase (hcycle : 0 < getMacCycle config mac)
    (hlead : 0 ≤ mac.myWindowLength + config.gapConstantTicks)
    (hle : mac.myWindowLength + config.gapConstantTicks ≤ modTimeTicks) (now : Int) :
    macPeerWindowRemaining config mac now =
      mac.peerWindowLength -
        (if mac.myWindowLength + config.gapConstantTicks ≤ mac.sinceT0 now then
            mac.sinceT0 now - (mac.myWindowLength + config.gapConstantTicks)
          else mac.sinceT0 now - (mac.myWindowLength + config.gapConstantTicks) +
            modTimeTicks) % getMacCycle config mac := by
  have hoffset := @Cycle.elapsed_offset mac.t0 now modTimeTicks _ (by decide) hlead hle
  rw [macPeerWindowRemaining, wrapTddCycle_eq hcycle, add_assoc, Cycle.phase, hoffset]
  rfl

theorem SkyMAC.phase_wrap (config : SkyMACConfig) (mac : SkyMAC) (t : Int) :
    mac.phase config (wrapTimeTicks t) = mac.phase config t := by
  rw [SkyMAC.phase, SkyMAC.phase, Cycle.phase, Cycle.phase, Cycle.elapsed, Cycle.elapsed,
    wrapTimeTicks_eq_emod, Int.emod_sub_emod]

end Phase

/-! ## The time to the own window -/

/-- Where `T0` was laid before the present. -/
theorem SkyMAC.sinceT0_of_t0 {mac : SkyMAC} {now x : Int}
    (ht0 : mac.t0 = wrapTimeTicks (now - x)) (hx : 0 ≤ x) (hlt : x < modTimeTicks) :
    mac.sinceT0 now = x := by
  rw [SkyMAC.sinceT0_eq, ht0, wrapTimeTicks_eq_emod, Int.sub_emod_emod, sub_sub_cancel]
  exact Int.emod_eq_of_lt hx hlt

/-- The operations lay `T0` so that the own window opens in some ticks, and a cycle back, so
that it is behind the present. -/
theorem macTimeToOwnWindow_of_t0 {config : SkyMACConfig} {mac : SkyMAC} {now k : Int}
    (ht0 : mac.t0 = wrapTimeTicks (now - (getMacCycle config mac - k)))
    (hmy : 0 < mac.myWindowLength) (hk : 0 ≤ k)
    (hle : mac.myWindowLength + k ≤ getMacCycle config mac)
    (hlt : getMacCycle config mac < modTimeTicks) : macTimeToOwnWindow config mac now = k := by
  have hcycle : 0 < getMacCycle config mac := by omega
  have hsince := SkyMAC.sinceT0_of_t0 ht0 (by omega) (by omega)
  have huntil : macTimeToOwnWindow config mac now =
      if mac.phase config now < mac.myWindowLength then 0
      else getMacCycle config mac - mac.phase config now := macTimeToOwnWindow_eq hcycle now
  rw [huntil, SkyMAC.phase_eq, hsince]
  rcases hk.eq_or_lt with rfl | hpos
  · rw [sub_zero, Int.emod_self, if_pos hmy]
  · rw [Int.emod_eq_of_lt (by omega) (by omega), if_neg (by omega), sub_sub_cancel]

/-- The node can send `k` ticks from now, and not before. -/
def SkyMAC.SendsFirstIn (config : SkyMACConfig) (mac : SkyMAC) (now k : Int) : Prop :=
  IsLeast {j | 0 ≤ j ∧ macCanSend config mac (wrapTimeTicks (now + j)) = true} k

/-- The time to the own window is exact unless the clock wraps before the window opens. -/
theorem macTimeToOwnWindow_isLeast_iff {config : SkyMACConfig} {mac : SkyMAC}
    (hmy : 0 < mac.myWindowLength) (hcycle : 0 < getMacCycle config mac) (now : Int) :
    mac.SendsFirstIn config now (macTimeToOwnWindow config mac now) ↔
      mac.phase config now < mac.myWindowLength ∨
        mac.sinceT0 now + (getMacCycle config mac - mac.phase config now) ≤ modTimeTicks := by
  have hset : {k | 0 ≤ k ∧ macCanSend config mac (wrapTimeTicks (now + k)) = true} =
      {k | 0 ≤ k ∧ Cycle.phase modTimeTicks (getMacCycle config mac) mac.t0 (now + k) <
        mac.myWindowLength} := by
    ext k
    apply and_congr_right
    intro _
    rw [macCanSend_iff hcycle, SkyMAC.phase_wrap]
    rfl
  rw [SkyMAC.SendsFirstIn, hset, macTimeToOwnWindow_eq hcycle]
  exact Cycle.isLeast_untilOpen_iff (by decide) hcycle hmy

theorem macTimeToOwnWindow_isLeast_iff_example :
    (skyMacCreate (exampleConfig 0 1).mac).SendsFirstIn (exampleConfig 0 1).mac 1000
      (macTimeToOwnWindow (exampleConfig 0 1).mac (skyMacCreate (exampleConfig 0 1).mac) 1000) :=
  (macTimeToOwnWindow_isLeast_iff (by decide) (by decide) 1000).mpr (.inr (by decide +kernel))

/-- In the last tick of the clock the node waits for the end of its cycle, but it can send
in the next tick. -/
theorem not_macTimeToOwnWindow_isLeast :
    let config := (exampleConfig 0 1).mac
    let mac := skyMacCreate config
    0 < mac.myWindowLength ∧ getMacCycle config mac = 1180 ∧ mac.t0 = 0 ∧
      macTimeToOwnWindow config mac 16777215 = 25 ∧
      macCanSend config mac (wrapTimeTicks (16777215 + 1)) = true ∧
      ¬mac.SendsFirstIn config 16777215 (macTimeToOwnWindow config mac 16777215) := by
  have htime : macTimeToOwnWindow (exampleConfig 0 1).mac
      (skyMacCreate (exampleConfig 0 1).mac) 16777215 = 25 := by decide +kernel
  have hsend : macCanSend (exampleConfig 0 1).mac (skyMacCreate (exampleConfig 0 1).mac)
      (wrapTimeTicks (16777215 + 1)) = true := by decide +kernel
  refine ⟨by decide, by decide, rfl, htime, hsend, fun hleast => ?_⟩
  rw [htime] at hleast
  exact absurd (hleast.2 ⟨by decide, hsend⟩) (by decide)

/-! ## Belief -/

/-- The peer window as it is kept. -/
def SkyMACConfig.clampWindow (config : SkyMACConfig) (length : Int) : Int :=
  if length < config.minimumWindowLengthTicks then config.minimumWindowLengthTicks
  else if config.maximumWindowLengthTicks < length then config.maximumWindowLengthTicks
  else length

/-- The belief in a closed form. -/
theorem macUpdateBelief_eq (config : SkyMACConfig) (mac : SkyMAC)
    (now receiveTime length remaining : Int) :
    macUpdateBelief config mac now receiveTime length remaining =
      { mac with
        lastBeliefUpdate := now
        peerWindowLength := config.clampWindow length
        t0 := wrapTimeTicks (max (receiveTime + min remaining (config.clampWindow length))
          (if now < receiveTime then receiveTime + wrapTimeTicks (now - receiveTime) else now) +
            (config.tailConstantTicks -
              getMacCycle config { mac with peerWindowLength := config.clampWindow length }))
        totalFramesSentInCurrentWindow := 0
        framesSentInCurrentWindowPerVc := fun _ => 0 } := by
  have hmin (a b : Int) : (if a < b then a else b) = min b a := by
    rw [min_comm, min_def_lt]
  have hmax (a b : Int) : (if a < b then wrapTimeTicks b else wrapTimeTicks a) =
      wrapTimeTicks (max a b) := by
    rw [max_def_lt]
    split_ifs <;> rfl
  rw [macUpdateBelief]
  dsimp only
  rw [hmax, hmin, max_add_add_right]
  rfl

theorem SkyMACConfig.clampWindow_eq {config : SkyMACConfig}
    (hle : config.minimumWindowLengthTicks ≤ config.maximumWindowLengthTicks) (length : Int) :
    config.clampWindow length =
      max config.minimumWindowLengthTicks (min config.maximumWindowLengthTicks length) := by
  rw [clampWindow]
  split_ifs <;> omega

/-- `T0` after an announcement, whether or not the clock has wrapped since the reception. -/
theorem macUpdateBelief_t0 (config : SkyMACConfig) (mac : SkyMAC) {now receiveTime : Int}
    (hnow : 0 ≤ now ∧ now < modTimeTicks) (hreceive : 0 ≤ receiveTime ∧ receiveTime < modTimeTicks)
    (length remaining : Int) :
    (macUpdateBelief config mac now receiveTime length remaining).t0 =
      wrapTimeTicks (receiveTime + (max (min remaining (config.clampWindow length))
        ((now - receiveTime) % modTimeTicks) + (config.tailConstantTicks -
          getMacCycle config { mac with peerWindowLength := config.clampWindow length }))) := by
  have hmod : modTimeTicks = 16777216 := rfl
  have hpassed : (if now < receiveTime then receiveTime + wrapTimeTicks (now - receiveTime)
      else now) = receiveTime + (now - receiveTime) % modTimeTicks := by
    rw [wrapTimeTicks_eq_emod]
    split
    · rfl
    · rw [Int.emod_eq_of_lt (by omega) (by omega)]
      omega
  rw [macUpdateBelief_eq]
  dsimp only
  rw [hpassed, max_add_add_left, add_assoc]

/-- After an announcement the own window opens when the tail behind the rest of the peer
window is over. -/
theorem macUpdateBelief_law {config : SkyMACConfig} {mac : SkyMAC} (hmy : 0 < mac.myWindowLength)
    (hgap : 0 ≤ config.gapConstantTicks) (htail : 0 ≤ config.tailConstantTicks)
    (hmin : 0 < config.minimumWindowLengthTicks)
    (hle : config.minimumWindowLengthTicks ≤ config.maximumWindowLengthTicks)
    (hfits : mac.myWindowLength + config.gapConstantTicks + config.maximumWindowLengthTicks +
      config.tailConstantTicks < modTimeTicks) {now receiveTime : Int}
    (hnow : 0 ≤ now ∧ now < modTimeTicks) (hreceive : 0 ≤ receiveTime ∧ receiveTime < modTimeTicks)
    (length remaining : Int) :
    let mac' := macUpdateBelief config mac now receiveTime length remaining
    mac'.peerWindowLength =
        max config.minimumWindowLengthTicks (min config.maximumWindowLengthTicks length) ∧
      macTimeToOwnWindow config mac' now = config.tailConstantTicks +
        max 0 (min remaining mac'.peerWindowLength - (now - receiveTime) % modTimeTicks) ∧
      0 ≤ mac'.t0 ∧ mac'.t0 < modTimeTicks := by
  intro mac'
  -- The time since the reception, whether or not the clock has wrapped in between.
  obtain ⟨since, hsince⟩ : ∃ since, (now - receiveTime) % modTimeTicks = since := ⟨_, rfl⟩
  have hpeer : mac'.peerWindowLength =
      max config.minimumWindowLengthTicks (min config.maximumWindowLengthTicks length) := by
    rw [← config.clampWindow_eq hle]
    simp only [mac', macUpdateBelief_eq]
  have hmy' : mac'.myWindowLength = mac.myWindowLength := rfl
  have hcycle : getMacCycle config mac' = mac.myWindowLength + config.gapConstantTicks +
      mac'.peerWindowLength + config.tailConstantTicks := rfl
  have ht0 : mac'.t0 = wrapTimeTicks (now - (getMacCycle config mac' -
      (config.tailConstantTicks + max 0 (min remaining mac'.peerWindowLength - since)))) := by
    have hbelief : mac'.t0 = wrapTimeTicks (receiveTime + (max (min remaining
        mac'.peerWindowLength) since + (config.tailConstantTicks - getMacCycle config mac'))) := by
      rw [hpeer, ← config.clampWindow_eq hle, ← hsince]
      exact macUpdateBelief_t0 config mac hnow hreceive length remaining
    have hdiv := Int.mul_ediv_add_emod (now - receiveTime) modTimeTicks
    have hsplit : now - (getMacCycle config mac' - (config.tailConstantTicks +
        max 0 (min remaining mac'.peerWindowLength - since))) =
          receiveTime + (max (min remaining mac'.peerWindowLength) since +
            (config.tailConstantTicks - getMacCycle config mac')) +
            modTimeTicks * ((now - receiveTime) / modTimeTicks) := by
      omega
    rw [hbelief, hsplit, wrapTimeTicks_eq_emod, wrapTimeTicks_eq_emod, Int.add_mul_emod_self_left]
  refine ⟨hpeer, ?_, ?_, ?_⟩
  · have hnonneg : 0 ≤ since := hsince ▸ Int.emod_nonneg _ (by decide)
    rw [hsince]
    exact macTimeToOwnWindow_of_t0 ht0 hmy (by omega) (by omega) (by omega)
  · rw [ht0]
    exact wrapTimeTicks_nonneg _
  · rw [ht0]
    exact wrapTimeTicks_lt _

/-- The announcement was received before the clock wrapped, and is processed after it. -/
theorem macUpdateBelief_law_example :
    let config := (exampleConfig 0 1).mac
    let mac := macUpdateBelief config (skyMacCreate config) 5 16777200 600 200
    mac.peerWindowLength = max 300 (min 1000 600) ∧
      macTimeToOwnWindow config mac 5 =
        80 + max 0 (min 200 mac.peerWindowLength - (5 - 16777200) % modTimeTicks) ∧
      0 ≤ mac.t0 ∧ mac.t0 < modTimeTicks :=
  macUpdateBelief_law (by decide) (by decide) (by decide) (by decide) (by decide) (by decide)
    (by decide) (by decide) 600 200

end Skylink
