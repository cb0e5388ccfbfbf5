import Skylink.Node.Model
import Skylink.Node.Windows

/-!
# Mutual exclusion of the two sides

A frame tells the receiver how long the sender's window is and how much of it is left.
The receiver lays its own window behind it, and as long as both sides work with the
same cycle their windows never meet again.
-/

namespace Skylink

/-- Both sides are configured for the same timing. -/
structure SkyMACConfig.SameTiming (confA confB : SkyMACConfig) : Prop where
  gap : confB.gapConstantTicks = confA.gapConstantTicks
  tail : confB.tailConstantTicks = confA.tailConstantTicks
  minimum : confB.minimumWindowLengthTicks = confA.minimumWindowLengthTicks
  maximum : confB.maximumWindowLengthTicks = confA.maximumWindowLengthTicks

instance SkyMACConfig.decidableSameTiming (confA confB : SkyMACConfig) :
    Decidable (confA.SameTiming confB) :=
  decidable_of_iff (confB.gapConstantTicks = confA.gapConstantTicks ∧
      confB.tailConstantTicks = confA.tailConstantTicks ∧
      confB.minimumWindowLengthTicks = confA.minimumWindowLengthTicks ∧
      confB.maximumWindowLengthTicks = confA.maximumWindowLengthTicks)
    ⟨fun h => ⟨h.1, h.2.1, h.2.2.1, h.2.2.2⟩, fun h => ⟨h.1, h.2, h.3, h.4⟩⟩

/-- The window state did not change. -/
structure SkyMAC.SameWindows (mac mac' : SkyMAC) : Prop where
  t0 : mac'.t0 = mac.t0
  myWindowLength : mac'.myWindowLength = mac.myWindowLength
  peerWindowLength : mac'.peerWindowLength = mac.peerWindowLength

/-- The ticks since `T0` have not wrapped between the times `t` and `u`. -/
def SkyMAC.NotWrapped (mac : SkyMAC) (t u : Int) : Prop :=
  t ≤ u ∧ wrapTimeTicks (t - mac.t0) + (u - t) < modTimeTicks

instance SkyMAC.decidableNotWrapped (mac : SkyMAC) (t u : Int) : Decidable (mac.NotWrapped t u) :=
  inferInstanceAs (Decidable (_ ∧ _))

/-- The time at which the cycle started in which the node counts at time `t`. -/
def SkyMAC.origin (mac : SkyMAC) (t : Int) : Int := t - wrapTimeTicks (t - mac.t0)

/-- Until the ticks wrap, a node sends in the windows of a cycle from its origin on. -/
theorem macCanSend_iff_open {config : SkyMACConfig} {mac : SkyMAC}
    (hcycle : 0 < getMacCycle config mac) {t u : Int} (h : mac.NotWrapped t u) :
    macCanSend config mac (wrapTimeTicks u) ↔
      Cycle.Open (getMacCycle config mac) mac.myWindowLength (mac.origin t) u := by
  obtain ⟨htu, hlt⟩ := h
  have hnonneg := wrapTimeTicks_nonneg (t - mac.t0)
  have hphase : wrapTimeTicks (wrapTimeTicks u - mac.t0) = u - mac.origin t := by
    have hsplit : u - mac.t0 = t - mac.t0 + (u - t) := by omega
    calc wrapTimeTicks (wrapTimeTicks u - mac.t0)
      _ = (t - mac.t0 + (u - t)) % modTimeTicks := by
        rw [wrapTimeTicks_eq_emod, wrapTimeTicks_eq_emod u, Int.emod_sub_emod, hsplit]
      _ = (wrapTimeTicks (t - mac.t0) + (u - t)) % modTimeTicks := by
        rw [← Int.emod_add_emod, ← wrapTimeTicks_eq_emod (t - mac.t0)]
      _ = wrapTimeTicks (t - mac.t0) + (u - t) := Int.emod_eq_of_lt (by omega) hlt
      _ = u - mac.origin t := by
        rw [SkyMAC.origin]
        omega
  rw [macCanSend, macOwnWindowRemaining, wrapTddCycle, hphase, positiveModulo_eq_emod hcycle,
    Cycle.Open, decide_eq_true_eq, sub_pos]

/-- The window fields of a frame. -/
theorem macSetFrameFields_tddControl {config : SkyMACConfig} {mac : SkyMAC}
    {tx : SkyTransmitFrame} {now : Int} {ext : SkyHeaderExtension} {header : UInt8}
    (hext : (macSetFrameFields config mac tx now).body = tx.body ++ header :: ext.data) :
    ext.tddControl = (UInt16.ofInt mac.myWindowLength, UInt16.ofInt
      (if macOwnWindowRemaining config mac now < 1 then 1
        else macOwnWindowRemaining config mac now)) := by
  have hdata := (List.cons_eq_cons.mp (List.append_cancel_left hext)).2
  rw [SkyHeaderExtension.tddControl, ← hdata]
  simp only [loadU16_storeU16_append, skyNtoh16, skyHton16_hton16]
  rw [List.drop_left' (storeU16_length _), loadU16_storeU16, skyHton16_hton16]

/-- What a receiver believes that processes a frame in the tick of its reception. -/
theorem macUpdateBelief_windows {config : SkyMACConfig} {mac : SkyMAC}
    {now length remaining : Int} (hmin : config.minimumWindowLengthTicks ≤ length)
    (hmax : length ≤ config.maximumWindowLengthTicks) (hpos : 1 ≤ remaining)
    (hle : remaining ≤ length) :
    (macUpdateBelief config mac now now length remaining).SameWindows
      { mac with
        peerWindowLength := length
        t0 := wrapTimeTicks
          (now + remaining - (mac.myWindowLength + config.gapConstantTicks + length)) } := by
  simp only [macUpdateBelief, if_neg (not_lt.mpr hmin), if_neg (not_lt.mpr hmax),
    if_neg (not_lt.mpr hle), if_neg (lt_irrefl now), getMacCycle]
  refine ⟨?_, rfl, rfl⟩
  rw [if_neg (by omega)]
  exact congrArg wrapTimeTicks (by omega)

theorem toNat_ofInt {x : Int} (hx : 0 ≤ x) (hlt : x < 65536) :
    ((UInt16.ofInt x).toNat : Int) = x := by
  rw [UInt16.ofInt, UInt16.toNat_ofNat_of_lt' (by rw [UInt16.size]; omega)]
  omega

/-- The phase in the cycle is the part of the window that is over. -/
theorem macOwnWindowRemaining_eq {config : SkyMACConfig} {mac : SkyMAC}
    (hcycle : 0 < getMacCycle config mac) (t : Int) :
    macOwnWindowRemaining config mac (wrapTimeTicks t) =
      mac.myWindowLength - wrapTimeTicks (t - mac.t0) % getMacCycle config mac := by
  rw [macOwnWindowRemaining, wrapTddCycle, positiveModulo_eq_emod hcycle, wrapTimeTicks_eq_emod,
    wrapTimeTicks_eq_emod t, Int.emod_sub_emod, ← wrapTimeTicks_eq_emod]

theorem SkyMAC.SameWindows.cycle {mac mac' : SkyMAC} (h : mac.SameWindows mac')
    (config : SkyMACConfig) : getMacCycle config mac' = getMacCycle config mac := by
  rw [getMacCycle, getMacCycle, h.myWindowLength, h.peerWindowLength]

theorem SkyMAC.SameWindows.origin {mac mac' : SkyMAC} (h : mac.SameWindows mac') (t : Int) :
    mac'.origin t = mac.origin t := by
  rw [SkyMAC.origin, SkyMAC.origin, h.t0]

/-- Where the cycle of a receiver starts, seen from the reception. -/
theorem belief_origin {config : SkyMACConfig} {mac mac' : SkyMAC} {t length remaining : Int}
    (hmin : config.minimumWindowLengthTicks ≤ length)
    (hmax : length ≤ config.maximumWindowLengthTicks) (hpos : 1 ≤ remaining)
    (hle : remaining ≤ length) (hlead : 0 ≤ mac.myWindowLength + config.gapConstantTicks)
    (hlt : mac.myWindowLength + config.gapConstantTicks + length < modTimeTicks)
    (h : (macUpdateBelief config mac (wrapTimeTicks t) (wrapTimeTicks t) length
      remaining).SameWindows mac') :
    mac'.origin t =
        t + remaining - (mac.myWindowLength + config.gapConstantTicks + length) ∧
      mac'.myWindowLength = mac.myWindowLength ∧ mac'.peerWindowLength = length := by
  obtain ⟨ht0, hmy, hpeer⟩ := @macUpdateBelief_windows config mac (wrapTimeTicks t) length
    remaining hmin hmax hpos hle
  refine ⟨?_, h.myWindowLength.trans hmy.symm, h.peerWindowLength.trans hpeer.symm⟩
  have hsince : wrapTimeTicks (t - mac'.t0) =
      mac.myWindowLength + config.gapConstantTicks + length - remaining := by
    calc wrapTimeTicks (t - mac'.t0)
      _ = (t - (t % modTimeTicks + remaining -
            (mac.myWindowLength + config.gapConstantTicks + length)) % modTimeTicks) %
              modTimeTicks := by
        rw [h.t0, ← ht0, wrapTimeTicks_eq_emod, wrapTimeTicks_eq_emod, wrapTimeTicks_eq_emod]
      _ = (t - (t % modTimeTicks + (remaining -
            (mac.myWindowLength + config.gapConstantTicks + length)))) % modTimeTicks := by
        rw [Int.sub_emod_emod, add_sub_assoc]
      _ = (t - (t + (remaining - (mac.myWindowLength + config.gapConstantTicks + length)))) %
            modTimeTicks := by
        rw [← Int.sub_emod_emod, Int.emod_add_emod, Int.sub_emod_emod]
      _ = (mac.myWindowLength + config.gapConstantTicks + length - remaining) % modTimeTicks :=
        congrArg (· % modTimeTicks) (by omega)
      _ = mac.myWindowLength + config.gapConstantTicks + length - remaining :=
        Int.emod_eq_of_lt (by omega) (by omega)
  rw [SkyMAC.origin, hsince]
  omega

/-- After a frame from `A` was processed by `B` within the gap, at most one of them can send,
until a window state changes or the ticks of a cycle start wrap. -/
theorem macCanSend_exclusive {confA confB : SkyMACConfig} {a b : SkyMAC}
    (htiming : confA.SameTiming confB) (hgap : 0 ≤ confA.gapConstantTicks)
    (htail : 0 ≤ confA.tailConstantTicks)
    (hmine : 0 < a.myWindowLength ∧ a.myWindowLength < 65536)
    (hpeer : 0 < b.myWindowLength ∧ b.myWindowLength < 65536)
    (hbelief : a.peerWindowLength = b.myWindowLength)
    (hcycle : getMacCycle confA a < modTimeTicks)
    (hlimits : confA.minimumWindowLengthTicks ≤ a.myWindowLength ∧
      a.myWindowLength ≤ confA.maximumWindowLengthTicks)
    {t d : Int} (hsend : macCanSend confA a (wrapTimeTicks t))
    (hd : 0 ≤ d) (hd' : d ≤ confA.gapConstantTicks)
    {tx : SkyTransmitFrame} {ext : SkyHeaderExtension} {header : UInt8}
    (hext : (macSetFrameFields confA a tx (wrapTimeTicks t)).body = tx.body ++ header :: ext.data)
    {a' b' : SkyMAC} (ha' : a.SameWindows a')
    (hb' : (macUpdateBelief confB b (wrapTimeTicks (t + d)) (wrapTimeTicks (t + d))
      ext.tddControl.1.toNat ext.tddControl.2.toNat).SameWindows b')
    {u : Int} (hu : a'.NotWrapped t u) (hu' : b'.NotWrapped (t + d) u) :
    ¬(macCanSend confA a' (wrapTimeTicks u) ∧ macCanSend confB b' (wrapTimeTicks u)) := by
  rintro ⟨hsendA, hsendB⟩
  have hcycleA : getMacCycle confA a =
      a.myWindowLength + confA.gapConstantTicks + b.myWindowLength + confA.tailConstantTicks := by
    rw [getMacCycle, hbelief]
  have hposA : 0 < getMacCycle confA a := by omega
  -- What the frame says.
  let remaining := macOwnWindowRemaining confA a (wrapTimeTicks t)
  have hremaining : remaining =
      a.myWindowLength - wrapTimeTicks (t - a.t0) % getMacCycle confA a :=
    macOwnWindowRemaining_eq hposA t
  have hpos : 0 < remaining := by simpa [macCanSend] using hsend
  have hphase := Int.emod_nonneg (wrapTimeTicks (t - a.t0)) hposA.ne'
  have hfields := macSetFrameFields_tddControl hext
  rw [if_neg (not_lt.mpr hpos)] at hfields
  rw [hfields] at hb'
  dsimp only at hb'
  rw [toNat_ofInt (by omega) (by omega), toNat_ofInt (by omega) (by omega)] at hb'
  -- Where the two windows open.
  obtain ⟨horiginB, hmyB, hpeerB⟩ := belief_origin (by rw [htiming.minimum]; exact hlimits.1)
    (by rw [htiming.maximum]; exact hlimits.2) hpos (by omega)
    (by rw [htiming.gap]; omega) (by rw [htiming.gap]; omega) hb'
  have hcycleB : getMacCycle confB b' = getMacCycle confA a := by
    rw [getMacCycle, hmyB, hpeerB, htiming.gap, htiming.tail, hcycleA]
    omega
  rw [macCanSend_iff_open (by rw [ha'.cycle]; exact hposA) hu, ha'.cycle, ha'.myWindowLength,
    ha'.origin] at hsendA
  rw [macCanSend_iff_open (by rw [hcycleB]; exact hposA) hu', hcycleB, hmyB] at hsendB
  have hoffset : b'.origin (t + d) ≡ a.origin t +
      (a.myWindowLength + confA.tailConstantTicks + d) [ZMOD getMacCycle confA a] := by
    have hdiv := Int.mul_ediv_add_emod (wrapTimeTicks (t - a.t0)) (getMacCycle confA a)
    rw [Int.modEq_iff_dvd]
    refine ⟨1 - wrapTimeTicks (t - a.t0) / getMacCycle confA a, ?_⟩
    rw [horiginB, htiming.gap, SkyMAC.origin, mul_sub, mul_one]
    omega
  rw [Cycle.open_congr hoffset] at hsendB
  exact Cycle.not_open_both hposA (by omega) (by omega) hsendA hsendB

/-- The timing of the examples, with windows that can be adjusted by an increment. -/
def exampleTiming (increment : Int) : SkyMACConfig :=
  { (exampleConfig 0 1).mac with windowAdjustIncrementTicks := increment }

/-- A node that has adjusted its window at tick 10000. -/
def exampleSender (increment : Int) : SkyMAC :=
  macExpandWindow (exampleTiming increment) (skyMacCreate (exampleTiming increment)) 10000

/-- The extension that announces a window that has just begun. -/
def exampleWindow (length : UInt16) : SkyHeaderExtension :=
  ⟨0, extensionMacTddControl, 4, storeU16 (skyHton16 length) ++ storeU16 (skyHton16 length)⟩

theorem macCanSend_exclusive_example :
    ¬(macCanSend (exampleTiming 250) (exampleSender 250) (wrapTimeTicks 10650) ∧
      macCanSend (exampleTiming 250)
        (macUpdateBelief (exampleTiming 250) (skyMacCreate (exampleTiming 250))
          (wrapTimeTicks (10000 + 20)) (wrapTimeTicks (10000 + 20))
          (exampleWindow 550).tddControl.1.toNat (exampleWindow 550).tddControl.2.toNat)
        (wrapTimeTicks 10650)) := by
  let tx := skyTxStartFrame (exampleConfig 0 1) 0
  have hext : (macSetFrameFields (exampleTiming 250) (exampleSender 250) tx
      (wrapTimeTicks 10000)).body =
        tx.body ++ extensionHeaderByte extensionMacTddControl 4 :: (exampleWindow 550).data := by
    decide +kernel
  exact macCanSend_exclusive (a := exampleSender 250) (b := skyMacCreate (exampleTiming 250))
    ⟨rfl, rfl, rfl, rfl⟩ (by decide) (by decide) (by decide +kernel) (by decide +kernel)
    (by decide +kernel) (by decide +kernel) (by decide +kernel) (by decide +kernel) (by decide)
    (by decide) hext ⟨rfl, rfl, rfl⟩ ⟨rfl, rfl, rfl⟩ (by decide +kernel) (by decide +kernel)

/-- A window that a negative increment has made shorter than the minimum is taken for
longer than it is, and the windows drift into each other. -/
theorem not_macCanSend_exclusive :
    let a := exampleSender (-250)
    let b := macUpdateBelief (exampleTiming (-250)) (skyMacCreate (exampleTiming (-250)))
      (wrapTimeTicks 10000) (wrapTimeTicks 10000) (exampleWindow 50).tddControl.1.toNat
      (exampleWindow 50).tddControl.2.toNat
    (macSetFrameFields (exampleTiming (-250)) a (skyTxStartFrame (exampleConfig 0 1) 0)
        (wrapTimeTicks 10000)).body =
          extensionHeaderByte extensionMacTddControl 4 :: (exampleWindow 50).data ∧
      a.myWindowLength = 50 ∧ a.peerWindowLength = b.myWindowLength ∧
      macCanSend (exampleTiming (-250)) a (wrapTimeTicks 10000) ∧
      a.NotWrapped 10000 13720 ∧ b.NotWrapped 10000 13720 ∧
      macCanSend (exampleTiming (-250)) a (wrapTimeTicks 13720) ∧
      macCanSend (exampleTiming (-250)) b (wrapTimeTicks 13720) := by
  decide +kernel

end Skylink
