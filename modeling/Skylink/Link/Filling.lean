import Skylink.Link.Simulation

/-!
# A filled frame stands for a sent one

A frame that `sky_vc_fill_frame` fills says what the endpoint of the net may send, and
the counters of the channel move as those of the endpoint do.
-/

namespace Skylink

open SerialNumber SessionWindow

variable {w : Nat}

/-! ## The mode of a channel -/

namespace ModeSim

variable {vc : SkyVirtualChannel w} {name : Nat → UInt32} {mode : Mode}

theorem eq_off (h : ModeSim vc name mode) (hstate : vc.arqStateFlag = .off) : mode = .off := by
  cases mode <;> simp [ModeSim, hstate] at h ⊢

theorem eq_opening (h : ModeSim vc name mode) (hstate : vc.arqStateFlag = .inInit) :
    ∃ z, mode = .opening z ∧ vc.arqSessionIdentifier = name z := by
  cases mode with
  | opening z => exact ⟨z, rfl, h.2⟩
  | _ => simp [ModeSim, hstate] at h

theorem eq_on (h : ModeSim vc name mode) (hstate : vc.arqStateFlag = .on) :
    ∃ z, mode = .on z ∧ vc.arqSessionIdentifier = name z := by
  cases mode with
  | on z => exact ⟨z, rfl, h.2⟩
  | _ => simp [ModeSim, hstate] at h

end ModeSim

/-- A frame that says nothing. -/
theorem contentSim_nothing {name : Nat → UInt32} {log : List Bytes} {f : Frame}
    (hmode : f.stamp.mode = .off) (hhandshake : f.handshake = none) (hack : f.ack = none)
    (hdata : f.data = none) : ContentSim name log (.nothing : ArqContent w) f :=
  { arqOn := by simp [ArqContent.nothing, hmode]
    handshake := by rw [hhandshake]; rfl
    ctrl := by rw [hack]; rfl
    silent := fun _ => rfl
    payload := fun u hu => by rw [hdata] at hu; cases hu
    data := fun u hu => by rw [hdata] at hu; cases hu
    sequence := nofun }

section Fill

variable {start l : Link w} {n : Net} {names : Naming} {stale : Prop}

/-- A frame joins the channel on both sides of the simulation. -/
theorem LinkSim.appendFrame (h : LinkSim start l n names) {frame : SkyRadioFrame} {f : Frame}
    (hf : FrameSim w names.near l.near.pushed frame f) :
    LinkSim start { l with out := l.out ++ [frame] } { n with out := n.out ++ [f] } names :=
  ⟨h.near, h.far, List.rel_append h.out (.cons hf .nil), h.inn, h.sizesNear, h.sizesFar,
    h.fitNear, h.fitFar⟩

/-- The near channel has been used, and its frame has been sent or not. -/
theorem fill_eq {vc' : SkyVirtualChannel w} {first : FrameStart w} {tx' : SkyTransmitFrame}
    {ret : SkyRet} {config : SkyConfig} {now : Int} {frames : UInt16}
    (heq : skyVcFillFrame l.near.vc config first.tx now frames = (vc', tx', ret)) :
    l.step (.fill first config now frames) =
      { l with
        near := { l.near with vc := vc' }
        out := if ret < 0 then l.out else l.out ++ [tx'.frame] } := by
  rw [Link.step, Link.fill, heq]

/-- What a connected endpoint sends for the content of a frame. -/
def connectedFrame (stamp : Stamp) (c : ArqContent w) (z rHead : Nat) (data : Option Nat) :
    Frame :=
  { stamp := stamp
    handshake := c.handshake.map fun _ => z
    ack := c.ctrl.map fun _ => rHead
    data := data }

theorem connectedFrame_sendable {m : Node} {c : ArqContent w} {z : Nat} {data : Option Nat}
    (hmode : m.stamp.mode = .on z)
    (hdata : ∀ u, data = some u → m.stamp.tail ≤ u ∧ u < m.stamp.tx) :
    Sendable m (connectedFrame m.stamp c z m.rHead data) := by
  refine ⟨rfl, fun y hy => ?_, fun k hk => ?_, fun u hu => ?_⟩
  · obtain ⟨hs, -, rfl⟩ := Option.map_eq_some_iff.mp hy
    show m.stamp.mode.session = some z
    rw [hmode, Mode.session_on]
  · obtain ⟨s, -, rfl⟩ := Option.map_eq_some_iff.mp hk
    exact ⟨rfl, z, hmode⟩
  · exact ⟨(hdata u hu).1, (hdata u hu).2, z, hmode⟩

/-- The payload of the content belongs to the window, and its number is counted from the
base of the session. -/
theorem connectedFrame_content {vc : SkyVirtualChannel w} {v : VcView} {m : Node}
    {log peerLog : List Bytes} {name : Nat → UInt32} {c : ArqContent w} {z : Nat}
    (hrep : VcRep vc v) (hview : ViewSim v m log peerLog) (hmode : m.stamp.mode = .on z)
    (harqOn : c.arqOn = true) (hhandshake : ∀ h, c.handshake = some h → h.2 = name z)
    (hctrl : ∀ s, c.ctrl = some s → s.2 = serial 0 v.rcvHead)
    (hpayload : (c.sequence = none ∧ c.payload = none) ∨
      ∃ u, v.sendTail ≤ u ∧ u < v.sendTx ∧ c.sequence = some (serial 0 u) ∧
        c.payload = some (v.payload u)) :
    ∃ data : Option Nat, (∀ u, data = some u → m.stamp.tail ≤ u ∧ u < m.stamp.tx) ∧
      ContentSim name log c (connectedFrame m.stamp c z m.rHead data) := by
  obtain ⟨-, hhead, -, -⟩ := hrep.sendOrder
  have hon : c.arqOn = true ↔ ∃ z, m.stamp.mode = .on z := iff_of_true harqOn ⟨z, hmode⟩
  have hhs : c.handshake.map Prod.snd = (c.handshake.map fun _ => z).map name := by
    cases hc : c.handshake with
    | none => rfl
    | some hs => simp [hhandshake hs hc]
  have hack : c.ctrl.map Prod.snd = (c.ctrl.map fun _ => m.rHead).map (serial 0) := by
    cases hc : c.ctrl with
    | none => rfl
    | some s => simp [hctrl s hc, hview.rHead]
  rcases hpayload with ⟨hseq, hnone⟩ | ⟨u, hlo, hhi, hseq, hsome⟩
  · refine ⟨none, nofun, hon, hhs, hack, fun _ => hnone, nofun, nofun, fun s hs => ?_⟩
    rw [hseq] at hs
    cases hs
  · refine ⟨some (m.stamp.base + u), fun u' hu' => ?_, hon, hhs, hack, nofun,
      fun u' hu' => ?_, fun _ _ => .inr ⟨z, hmode⟩, fun s hs => ?_⟩
    · cases hu'
      rw [hview.tail, hview.tx]
      omega
    · cases hu'
      exact ⟨_, hview.payload u (by omega), hsome, hrep.payload_length_le hlo (by omega)⟩
    · rw [hseq] at hs
      cases hs
      refine ⟨z, _, hmode, rfl, ?_⟩
      show serial 0 u = serial 0 (m.stamp.base + u - m.stamp.base)
      rw [Nat.add_sub_cancel_left]

theorem LinkSim.fillConnected (h : LinkSim start l n names)
    {vc' : SkyVirtualChannel w} {v v' : VcView} {c : ArqContent w} {ret : SkyRet}
    {tx' : SkyTransmitFrame} {identity : Bytes} {others : List (ExtValue w)}
    {channel : Fin skyNumVirtualChannels}
    (hview : ViewSim v n.near l.near.pushed l.far.pushed)
    (hcarries : tx'.Carries identity others channel c) (hrep' : VcRep vc' v')
    (hsame : vc'.arqStateFlag = l.near.vc.arqStateFlag ∧
      vc'.arqSessionIdentifier = l.near.vc.arqSessionIdentifier)
    (hsizes : SameSizes l.near.vc vc') (hstate : l.near.vc.arqStateFlag = .on)
    (harqOn : c.arqOn = true)
    (hhandshake : ∀ h, c.handshake = some h → h.2 = l.near.vc.arqSessionIdentifier)
    (hctrl : ∀ s, c.ctrl = some s → s = (serial 0 v.sendTx, serial 0 v.rcvHead)) {tx : Nat}
    (htx : tx = v.sendTx ∨ tx = v.sendTx + 1) (hv' : v' = { v with sendTx := tx })
    (hpayload : (c.sequence = none ∧ c.payload = none) ∨
      ∃ u, v.sendTail ≤ u ∧ u < tx ∧ c.sequence = some (serial 0 u) ∧
        c.payload = some (v.payload u)) :
    ∃ n', Reaches stale n n' ∧
      LinkSim start { l with
        near := { l.near with vc := vc' }
        out := if ret < 0 then l.out else l.out ++ [tx'.frame] } n' names ∧
      n'.created = n.created := by
  obtain ⟨z, hmode, hid⟩ := h.near.mode.eq_on hstate
  subst hv'
  obtain ⟨htail, hhead, hroom, -⟩ := hrep'.sendOrder
  simp only at htail hhead hroom
  have hlen := hsizes.sendLength
  -- The transmit head moves first, then the frame is sent with the new stamp.
  let m : Node := { n.near with stamp := { n.near.stamp with tx := n.near.stamp.base + tx } }
  have hview' : ViewSim { v with sendTx := tx } m l.near.pushed l.far.pushed :=
    ⟨hview.pushed, hview.tail, rfl, hview.head, hview.payload, hview.rTail, hview.rHead,
      hview.vacant, hview.held⟩
  have hsim : LinkSim start { l with near := { l.near with vc := vc' } } { n with near := m }
      names :=
    h.setChannel hrep' hview' hsame.1 hsame.2 hsizes ⟨rfl, rfl, rfl, rfl, rfl⟩
  have hreach : Reaches stale n { n with near := m } := by
    rcases htx with rfl | rfl
    · have hm : m = n.near := by
        simp only [m, ← hview.tx]
      rw [hm]
      exact .refl n
    · have hm : m = { n.near with stamp := { n.near.stamp with tx := n.near.stamp.tx + 1 } } := by
        simp only [m, hview.tx, Nat.add_assoc]
      rw [hm]
      refine .near (.refl n) (.advance n z hmode ?_ ?_)
      · rw [hview.tx, hview.head]
        omega
      · rw [hview.tx, hview.tail, h.near.width]
        omega
  by_cases hret : ret < 0
  · rw [if_pos hret]
    exact ⟨_, hreach, hsim, rfl⟩
  · rw [if_neg hret]
    obtain ⟨data, hdata, hcontent⟩ := connectedFrame_content hrep' hview' hmode harqOn
      (fun hs hc => (hhandshake hs hc).trans hid) (fun s hs => congrArg Prod.snd (hctrl s hs))
      hpayload
    exact ⟨_, .near hreach (.send { n with near := m } _ (connectedFrame_sendable hmode hdata)),
      hsim.appendFrame ⟨tx', identity, others, channel, c, rfl, hcarries, hcontent⟩, rfl⟩

theorem LinkSim.fill (h : LinkSim start l n names) (hinv : Inv n) (hw : w ≤ 56)
    (first : FrameStart w)
    (config : SkyConfig) (now : Int) (frames : UInt16) :
    ∃ n', Reaches stale n n' ∧ LinkSim start (l.step (.fill first config now frames)) n' names ∧
      n'.created = n.created := by
  obtain ⟨v, hrep, hview⟩ := h.near.view
  obtain ⟨vc', tx', ret, c, v', heq, hcarries, hfilled, hrep', hstate', hid', hsizes⟩ :=
    hrep.fill hw first.carries config now frames
  rw [fill_eq heq]
  cases hfilled with
  | idle hstate hv hc hret hdue =>
      obtain rfl := hc
      obtain rfl := hv
      have hmode := h.near.mode.eq_off hstate
      let f : Frame := { stamp := n.near.stamp, handshake := none, ack := none, data := none }
      have hsim := h.setChannel hrep' hview hstate' hid' hsizes (.refl n.near)
      rw [if_neg (not_lt.mpr hret)]
      exact ⟨_, .near (.refl n) (.send n f ⟨rfl, nofun, nofun, nofun⟩), hsim.appendFrame
        ⟨tx', _, _, _, _, rfl, hcarries, contentSim_nothing hmode rfl rfl rfl⟩, rfl⟩
  | packet hstate hlt hv hc hret hdue =>
      have hmode := h.near.mode.eq_off hstate
      have hidle := hinv.out.sender.idle hmode
      obtain ⟨htail, -, hroom, -⟩ := hrep.sendOrder
      have htx : n.near.stamp.tx < n.near.pushed := by
        rw [hview.tx, hview.head]
        omega
      let f : Frame :=
        { stamp := { n.near.stamp with tx := n.near.stamp.tx + 1 }
          handshake := none, ack := none, data := some n.near.stamp.tx }
      let m : Node := { n.near with stamp := { n.near.stamp with
        tail := n.near.stamp.tx + 1, tx := n.near.stamp.tx + 1 } }
      have hview' : ViewSim v' m l.near.pushed l.far.pushed := by
        rw [hv]
        exact ⟨hview.pushed, congrArg (· + 1) hview.tx, congrArg (· + 1) hview.tx, hview.head,
          hview.payload, hview.rTail, hview.rHead, hview.vacant, hview.held⟩
      have hsim := h.setChannel hrep' hview' hstate' hid' hsizes ⟨rfl, rfl, rfl, rfl, rfl⟩
      have hcontent : ContentSim names.near l.near.pushed c f := by
        rw [hc]
        refine ⟨?_, rfl, rfl, nofun, fun u hu => ?_, fun _ _ => .inl hmode, nofun⟩
        · simp [ArqContent.nothing, f, hmode]
        · cases hu
          rw [hview.tx]
          exact ⟨_, hview.payload _ hlt, rfl, hrep.payload_length_le htail hlt⟩
      rw [if_neg (not_lt.mpr hret)]
      have hwidth : 1 < n.near.width := by
        rw [h.near.width]
        omega
      exact ⟨_, .near (.refl n) (.sendOff n f hmode htx hwidth rfl rfl rfl rfl), hsim.appendFrame
        ⟨tx', _, _, _, c, rfl, hcarries, hcontent⟩, rfl⟩
  | connecting hstate hv hc hhandshake hret =>
      obtain rfl := hv
      obtain ⟨z, hmode, hid⟩ := h.near.mode.eq_opening hstate
      let f : Frame :=
        { stamp := n.near.stamp, handshake := c.handshake.map fun _ => z, ack := none
          data := none }
      have hsim := h.setChannel hrep' hview hstate' hid' hsizes (.refl n.near)
      have hsend : Sendable n.near f := by
        refine ⟨rfl, fun y hy => ?_, nofun, nofun⟩
        obtain ⟨hs, -, rfl⟩ := Option.map_eq_some_iff.mp hy
        rw [hmode, Mode.session_opening]
      have hcontent : ContentSim names.near l.near.pushed c f := by
        rw [hc]
        refine ⟨?_, ?_, rfl, fun _ => rfl, nofun, nofun, nofun⟩
        · simp [ArqContent.nothing, f, hmode]
        · show c.handshake.map Prod.snd = (c.handshake.map fun _ => z).map names.near
          cases hcs : c.handshake with
          | none => rfl
          | some hs => simp [hhandshake hs hcs, hid]
      rw [if_neg (not_lt.mpr hret)]
      exact ⟨_, .near (.refl n) (.send n f hsend), hsim.appendFrame
        ⟨tx', _, _, _, c, rfl, hcarries, hcontent⟩, rfl⟩
  | connected hstate harqOn hhandshake hctrl tx htx hv hpayload hdue =>
      refine h.fillConnected hview hcarries hrep' ⟨hstate', hid'⟩ hsizes hstate harqOn
        (fun hs hc => ?_) hctrl htx hv hpayload
      rw [hhandshake] at hc
      split at hc
      · cases hc
        rfl
      · cases hc

end Fill

end Skylink
