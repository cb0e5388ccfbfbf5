import Skylink.Link.Filling

/-!
# A processed frame stands for a received one

A handshake, an acknowledgement and a payload are steps of the net, one after the other,
provided that the identifier of a handshake is understood and that the payload was not
sent under a session to an endpoint that has none.
-/

namespace Skylink

open SerialNumber SessionWindow

variable {w : Nat}

/-! ## The two parts of processing -/

/-- What `sky_vc_process_frame` does after the handshake. -/
def processContents (vc : SkyVirtualChannel w) (parsed : SkyParsedFrame) (now : Int) :
    SkyVirtualChannel w :=
  match vc.arqStateFlag with
  | .off =>
      if 0 < parsed.payloadLen then (skyVcPushRxPacketMonotonic vc parsed.payloadBytes).1
      else vc
  | .inInit => vc
  | .on => (processFrameOn vc parsed now).1

theorem skyVcProcessFrame_fst (tickTime : Int) (vc : SkyVirtualChannel w)
    (parsed : SkyParsedFrame) (now : Int) :
    (skyVcProcessFrame tickTime vc parsed now).1 =
      processContents (processHandshake tickTime vc parsed) parsed now := by
  rw [skyVcProcessFrame, processContents]
  cases (processHandshake tickTime vc parsed).arqStateFlag with
  | off =>
      dsimp only
      split <;> rfl
  | _ => rfl

theorem processRequest_control (vc : SkyVirtualChannel w) (parsed : SkyParsedFrame) :
    SameControl vc (processRequest vc parsed) := by
  rw [processRequest]
  cases parsed.arqRequest with
  | none => exact .refl vc
  | some ext => exact ⟨rfl, rfl, rfl⟩

theorem processCtrl_control (vc : SkyVirtualChannel w) (parsed : SkyParsedFrame) (now : Int) :
    SameControl vc (processCtrl vc parsed now) := by
  rw [processCtrl]
  cases parsed.arqCtrl with
  | none => exact .refl vc
  | some ext =>
      dsimp only
      rw [VcRep.updateRxSync_eq]
      exact ⟨rfl, rfl, rfl⟩

/-- Only handshakes change the state of the protocol. -/
theorem processContents_control (vc : SkyVirtualChannel w) (parsed : SkyParsedFrame)
    (now : Int) : SameControl vc (processContents vc parsed now) := by
  rw [processContents]
  split
  · split
    · exact ⟨rfl, rfl, rfl⟩
    · exact .refl vc
  · exact .refl vc
  · have hctrl := processCtrl_control vc parsed now
    rw [processFrameOn]
    dsimp only
    split
    · split
      · exact hctrl
      · have hpush : ∀ (vc : SkyVirtualChannel w) s p,
            SameControl vc (skyVcPushRxPacket vc s p now).1 :=
          fun _ _ _ => ⟨rfl, rfl, rfl⟩
        exact hctrl.trans ((hpush _ _ _).trans (processRequest_control _ parsed))
    · exact hctrl.trans (processRequest_control _ parsed)

/-- A handshake leaves no channel without a session. -/
theorem processHandshake_off {tickTime : Int} {vc : SkyVirtualChannel w}
    {parsed : SkyParsedFrame}
    (h : (processHandshake tickTime vc parsed).arqStateFlag = .off) :
    vc.arqStateFlag = .off ∧ parsed.arqHandshake = none := by
  rw [processHandshake] at h
  cases hext : parsed.arqHandshake with
  | none =>
      rw [hext] at h
      exact ⟨h, rfl⟩
  | some ext =>
      rw [hext] at h
      dsimp only at h
      have houtcome := skyVcHandleHandshake_outcome tickTime vc ext.arqHandshake.1
        ext.arqHandshake.2
      cases houtcome with
      | kept hoff hstays hother heq =>
          rw [heq] at h
          exact absurd h hoff
      | joined hinit hid hstays heq =>
          rw [heq] at h
          cases h
      | entered henters heq =>
          rw [heq] at h
          cases h

/-! ## Conditions on a received frame -/

/-- A payload that was sent under a session reaches an endpoint that has none, and no
handshake comes with it. -/
def SkyParsedFrame.Stale (parsed : SkyParsedFrame) (vc : SkyVirtualChannel w) : Prop :=
  vc.arqStateFlag = .off ∧ parsed.arqHandshake = none ∧ 0 < parsed.payloadLen ∧
    parsed.hdr.hasFlag skyFlagArqOn

/-- The near endpoint reads the identifier of the handshake `f` as it names the session,
and it has not known the session if it enters it. -/
structure Understood (l : Link w) (n : Net) (names : Naming) (f : Frame) : Prop where
  read : ∀ z, f.handshake = some z → skyHton32 (names.far z) = names.near z
  injective : ∀ z y, f.handshake = some z → n.near.stamp.mode.session = some y →
    names.near z = names.near y → z = y
  fresh : ∀ z, f.handshake = some z → l.near.vc.enters (names.near z) →
    n.near.stamp.newest < z ∧ l.sessions.idxOf (names.near z) + 1 = z

theorem SkyParsedFrame.Reads.handshakeIdentifier {parsed : SkyParsedFrame} {c : ArqContent w}
    (h : parsed.Reads c) :
    parsed.handshakeIdentifier = c.handshake.map fun hs => skyHton32 hs.2 := by
  have hread := congrArg (Option.map Prod.snd) h.handshake
  simpa [SkyParsedFrame.handshakeIdentifier, Function.comp_def] using hread

section Process

variable {start l : Link w} {n : Net} {names : Naming} {stale : Prop}

/-! ## The handshake -/

/-- A handshake is a step of the net, or none. -/
theorem LinkSim.handshake (h : LinkSim start l n names) {f : Frame} {rest : List Frame}
    (hinn : n.inn = f :: rest) {c : ArqContent w} {peerLog : List Bytes}
    (hc : ContentSim names.far peerLog c f) (tickTime : Int) {parsed : SkyParsedFrame}
    (hreads : parsed.Reads c) (hunder : Understood l n names f) :
    ∃ m : Node, Reaches stale n { n with near := m } ∧
      LinkSim start { l with
        near := l.near.record l.sessions parsed.handshakeIdentifier
          (processHandshake tickTime l.near.vc parsed) }
        { n with near := m } names := by
  have hhead : f ∈ n.inn.head? := by rw [hinn, List.head?_cons, Option.mem_def]
  have hhandshake := hc.handshake
  rw [processHandshake_reads hreads, hreads.handshakeIdentifier]
  cases hcs : c.handshake with
  | none => exact ⟨n.near, .refl n, h⟩
  | some hs =>
      rw [hcs, Option.map_some, eq_comm, Option.map_eq_some_iff] at hhandshake
      obtain ⟨z, hz, hname⟩ := hhandshake
      have hid : skyHton32 hs.2 = names.near z := by rw [← hname, hunder.read z hz]
      rw [Option.map_some, hid]
      dsimp only
      have houtcome := skyVcHandleHandshake_outcome tickTime l.near.vc hs.1 (skyHton32 hs.2)
      rw [hid] at houtcome ⊢
      generalize (skyVcHandleHandshake tickTime l.near.vc hs.1 (names.near z)).1 = vc'
        at houtcome ⊢
      obtain ⟨v, hrep, hview⟩ := h.near.view
      cases houtcome with
      | kept hoff hstays hother heq =>
          have hcontrol : vc'.arqStateFlag = l.near.vc.arqStateFlag ∧
              vc'.arqSessionIdentifier = l.near.vc.arqSessionIdentifier := by
            rw [heq]
            exact ⟨rfl, rfl⟩
          have hsizes : SameSizes l.near.vc vc' := by
            rw [heq]
            exact ⟨rfl, rfl, rfl⟩
          rw [Endpoint.record, Option.filter_some_neg (by simpa using hstays)]
          exact ⟨n.near, .refl n, h.setNear ⟨⟨v, by rw [heq]; exact hrep.congr rfl rfl rfl, hview⟩,
            h.near.mode.congr hcontrol.1 hcontrol.2, h.near.width.trans hsizes.sendLength.symm,
            h.near.epoch, h.near.newest, h.near.read⟩ rfl hsizes⟩
      | joined hinit hsame hstays heq =>
          obtain ⟨y, hmode, hy⟩ := h.near.mode.eq_opening hinit
          obtain rfl : z = y := hunder.injective z y hz (by rw [hmode, Mode.session_opening])
            (hsame.trans hy)
          rw [Endpoint.record, Option.filter_some_neg (by simpa using hstays)]
          refine ⟨_, .near (.refl n) (.join n f z hhead hz hmode), h.setNear ⟨⟨v, ?_, ?_⟩, ?_,
            h.near.width.trans (by rw [heq]), h.near.epoch, h.near.newest, h.near.read⟩ rfl
            (by rw [heq]; exact ⟨rfl, rfl, rfl⟩)⟩
          · rw [heq]
            exact hrep.congr rfl rfl rfl
          · exact ⟨hview.pushed, hview.tail, hview.tx, hview.head, hview.payload, hview.rTail,
              hview.rHead, hview.vacant, hview.held⟩
          · rw [heq]
            exact ⟨rfl, hy⟩
      | entered henters heq =>
          obtain ⟨hnew, hnumber⟩ := hunder.fresh z hz henters
          obtain ⟨hwipe, hsizes⟩ := hrep.wipeToOn tickTime (names.near z)
          rw [Endpoint.record, Option.filter_some_pos henters]
          refine ⟨_, .near (.refl n) (.enter n f z hhead hz hnew), h.setNear ⟨⟨.empty, ?_, ?_⟩, ?_,
            h.near.width.trans ?_, congrArg (· + 1) h.near.epoch, ?_, h.near.read⟩ rfl ?_⟩
          · rw [heq]
            exact hwipe.congr rfl rfl rfl
          · have hrestart := hview.restart (.on z) z
            exact ⟨hrestart.pushed, hrestart.tail, hrestart.tx, hrestart.head, hrestart.payload,
              hrestart.rTail, hrestart.rHead, hrestart.vacant, hrestart.held⟩
          · rw [heq]
            exact ⟨rfl, rfl⟩
          · rw [heq]
            exact hsizes.sendLength.symm
          · exact hnumber.symm
          · rw [heq]
            exact hsizes

/-! ## The contents -/

/-- The oldest frame is done with. -/
theorem reaches_dropFrame {f : Frame} {rest : List Frame} (hn : n.inn = f :: rest) :
    Reaches stale n { n with inn := rest } := by
  refine .near (.refl n) (.lose n n.out rest (List.Sublist.refl _) ?_)
  rw [hn]
  exact List.sublist_cons_self _ _

theorem LinkSim.dropFrame (h : LinkSim start l n names) {frame : SkyRadioFrame}
    {frames : List SkyRadioFrame} {f : Frame} {rest : List Frame} (hl : l.inn = frame :: frames)
    (hn : n.inn = f :: rest) :
    LinkSim start { l with inn := frames } { n with inn := rest } names := by
  have hinn := h.inn
  rw [hl, hn, List.forall₂_cons] at hinn
  exact ⟨h.near, h.far, h.out, hinn.2, h.sizesNear, h.sizesFar, h.fitNear, h.fitFar⟩

/-- A stored payload in the queues and at the endpoint. -/
theorem ViewSim.take {v : VcView} {m : Node} {log peerLog : List Bytes}
    (h : ViewSim v m log peerLog) (i : Nat) {u : Nat} (advance : Nat) {p : Bytes}
    (hp : peerLog[u]? = some p) :
    ViewSim
      { v with
        rcvHead := v.rcvHead + advance
        held := Function.update v.held i (some p) } (m.take i u advance) log peerLog := by
  refine ⟨h.pushed, h.tail, h.tx, h.head, h.payload, h.rTail, congrArg (· + advance) h.rHead,
    fun j hj => ?_, fun j u' hj => ?_⟩
  · replace hj : Function.update m.held i (some u) j = none := hj
    by_cases hji : j = i
    · rw [hji, Function.update_self] at hj
      cases hj
    · rw [Function.update_of_ne hji] at hj
      exact (Function.update_of_ne hji _ _).trans (h.vacant j hj)
  · replace hj : Function.update m.held i (some u) j = some u' := hj
    by_cases hji : j = i
    · rw [hji, Function.update_self] at hj
      cases hj
      exact ⟨p, hp, by rw [hji]; exact Function.update_self _ _ _⟩
    · rw [Function.update_of_ne hji] at hj
      obtain ⟨q, hq, hv⟩ := h.held j u' hj
      exact ⟨q, hq, (Function.update_of_ne hji _ _).trans hv⟩

/-- The payload of the oldest frame is taken, and the frame is done with. -/
theorem LinkSim.takeFrame (h : LinkSim start l n names) {frame : SkyRadioFrame}
    {frames : List SkyRadioFrame} {f : Frame} {rest : List Frame} (hl : l.inn = frame :: frames)
    (hn : n.inn = f :: rest) {m : Node} (hkeeps : KeepsSession n.near m) {v : VcView}
    (hview : ViewSim v m l.near.pushed l.far.pushed)
    {vc' : SkyVirtualChannel w} (hcontrol : SameControl l.near.vc vc')
    (hsizes : SameSizes l.near.vc vc') {i u advance : Nat} {p : Bytes}
    (hp : l.far.pushed[u]? = some p)
    (hrep : VcRep vc' { v with
      rcvHead := v.rcvHead + advance, held := Function.update v.held i (some p) }) :
    LinkSim start { l with near := { l.near with vc := vc' }, inn := frames }
        { n with near := m.take i u advance, inn := rest } names ∧
      ∀ j, m.rTail ≤ j → j < m.rHead + advance →
        (Function.update m.held i (some u) j).isSome := by
  have hview' := hview.take i advance hp
  have hsim := h.setChannel hrep hview' hcontrol.1 hcontrol.3 hsizes
    ⟨hkeeps.mode, hkeeps.epoch, hkeeps.newest, hkeeps.width, hkeeps.reads⟩
  refine ⟨hsim.dropFrame hl hn, fun j hj hj' => ?_⟩
  rw [hview.rTail] at hj
  rw [hview.rHead] at hj'
  exact (hview'.held_isSome j).mpr (hrep.readable hj hj')

/-- Without a session a payload is taken at the head. -/
theorem LinkSim.contentsOff (h : LinkSim start l n names) {frame : SkyRadioFrame}
    {frames : List SkyRadioFrame} {f : Frame} {rest : List Frame} (hl : l.inn = frame :: frames)
    (hn : n.inn = f :: rest) {c : ArqContent w} (hc : ContentSim names.far l.far.pushed c f)
    {parsed : SkyParsedFrame} (hreads : parsed.Reads c) (now : Int)
    (hstate : l.near.vc.arqStateFlag = .off)
    (hfresh : ¬stale → 0 < parsed.payloadLen → ¬parsed.hdr.hasFlag skyFlagArqOn) :
    ∃ n', Reaches stale n n' ∧
      LinkSim start { l with
        near := { l.near with vc := processContents l.near.vc parsed now }, inn := frames } n'
        names ∧ n'.created = n.created := by
  obtain ⟨v, hrep, hview⟩ := h.near.view
  rw [processContents, hstate]
  dsimp only
  by_cases hpos : 0 < parsed.payloadLen
  · rw [if_pos hpos, hreads.payloadBytes]
    rw [hreads.payloadLen] at hpos
    obtain ⟨u, hu⟩ : ∃ u, f.data = some u := by
      cases hdata : f.data with
      | none => simp [hc.silent hdata] at hpos
      | some u => exact ⟨u, rfl⟩
    obtain ⟨p, hp, hpayload, hlen⟩ := hc.payload u hu
    have hfrom : f.stamp.mode = .off ∨ stale ∧ ∃ z, f.stamp.mode = .on z := by
      refine (hc.data u hu).imp_right fun hon => ⟨?_, hon⟩
      have hflag := hc.arqOn.mpr hon
      rw [← hreads.arqOn] at hflag
      by_contra hstale
      exact hfresh hstale (by rw [hreads.payloadLen]; exact hpos) hflag
    rw [hpayload, Option.getD_some]
    have hbound : p.length < 65536 := lt_of_le_of_lt hlen (by decide)
    obtain ⟨v', hrep', htaken, hcontrol, hsizes⟩ := hrep.pushRxPacketMonotonic hbound
    have hmode := h.near.mode.eq_off hstate
    cases htaken with
    | refused =>
        have hsim := h.setChannel hrep' hview hcontrol.1 hcontrol.3 hsizes (.refl n.near)
        exact ⟨_, reaches_dropFrame hn, hsim.dropFrame hl hn, rfl⟩
    | stored advance hd hfree =>
        obtain ⟨hsim, hready⟩ := h.takeFrame hl hn (.refl n.near) hview hcontrol hsizes hp hrep'
        have hvacant : n.near.held n.near.rHead = none := by
          rw [← Option.not_isSome_iff_eq_none, hview.held_isSome, hview.rHead]
          simp [show v.held v.rcvHead = none from hfree]
        have hrHead : v.rcvHead + 0 = n.near.rHead := hview.rHead.symm
        rw [hrHead] at hsim hready
        exact ⟨_, .near (.refl n)
          (.takeOff n f rest u advance hn hu hmode hfrom hvacant hready), hsim, rfl⟩
  · rw [if_neg hpos]
    exact ⟨_, reaches_dropFrame hn, h.dropFrame hl hn, rfl⟩

/-- The acknowledgement of a frame is exact. -/
theorem acknowledge_sim (hinv : Inv n) {f : Frame}
    {rest : List Frame} (hn : n.inn = f :: rest) {c : ArqContent w} {peerLog : List Bytes}
    (hc : ContentSim names.far peerLog c f) {z : Nat} (hmode : n.near.stamp.mode = .on z)
    {v : VcView} (hrep : VcRep l.near.vc v)
    (hview : ViewSim v n.near l.near.pushed l.far.pushed) :
    ∃ m : Node, Reaches stale n { n with near := m } ∧
      ViewSim (v.acked c.ctrl) m l.near.pushed l.far.pushed ∧
      m = { n.near with stamp := { n.near.stamp with tail := m.stamp.tail } } := by
  have hctrl := hc.ctrl
  cases hcs : c.ctrl with
  | none => exact ⟨n.near, .refl n, hview, rfl⟩
  | some s =>
      rw [hcs, Option.map_some, eq_comm, Option.map_eq_some_iff] at hctrl
      obtain ⟨k, hk, hs⟩ := hctrl
      have hmem : f ∈ n.inn := hn ▸ List.mem_cons_self
      have hhead : f ∈ n.inn.head? := by rw [hn, List.head?_cons, Option.mem_def]
      have hnewest := hinv.out.sender.wellFormed.session z (by rw [hmode, Mode.session_on])
      obtain ⟨y, hy, -, hwindow, -⟩ := hinv.out.acks.window f hmem k hk
      obtain rfl := hinv.inn.session_eq hmem hy hmode hnewest
      obtain ⟨hlo, hhi⟩ := hwindow (by rw [hmode, Mode.session_on])
      rw [hview.tail] at hlo
      rw [hview.tx] at hhi
      obtain ⟨-, htxHead, hroom, hlen⟩ := hrep.sendOrder
      have hdiff : (s.2 - serial 0 v.sendTail).toNat = k - v.sendTail := by
        rw [← hs]
        exact serial_sub 0 (by omega) (by omega)
      have hsum : v.sendTail + (k - v.sendTail) = k := by omega
      refine ⟨_, .near (.refl n) (.ack n f y k hhead hk hmode), ?_, rfl⟩
      rw [VcView.acked, hdiff, hsum, if_pos (by omega)]
      exact ⟨hview.pushed, rfl, hview.tx, hview.head, hview.payload, hview.rTail, hview.rHead,
        hview.vacant, hview.held⟩

/-- The sequence number of a payload gives its place in the window, and payloads from
behind the head are out of range. -/
theorem offset_exact {d r horizon : Nat} (width : Nat) (hfit : width + horizon ≤ 2 ^ w)
    (hahead : d < r + width) (hbehind : r < d + width)
    (hoffset : (serial (0 : BitVec w) d - serial 0 r).toNat ≤ horizon) :
    r + (serial (0 : BitVec w) d - serial 0 r).toNat = d := by
  rcases Nat.lt_or_ge d r with hlt | hge
  · rw [serial_sub_of_lt 0 hlt (by omega)] at hoffset
    omega
  · rw [serial_sub 0 hge (by omega)]
    omega

/-- In a session the acknowledgement counts, then the payload is taken at its place. -/
theorem LinkSim.contentsOn (h : LinkSim start l n names) (hinv : Inv n) {frame : SkyRadioFrame}
    {frames : List SkyRadioFrame} {f : Frame} {rest : List Frame} (hl : l.inn = frame :: frames)
    (hn : n.inn = f :: rest) {c : ArqContent w} (hc : ContentSim names.far l.far.pushed c f)
    {parsed : SkyParsedFrame} (hreads : parsed.Reads c) (now : Int)
    (hstate : l.near.vc.arqStateFlag = .on) :
    ∃ n', Reaches stale n n' ∧
      LinkSim start { l with
        near := { l.near with vc := processContents l.near.vc parsed now }, inn := frames } n'
        names ∧ n'.created = n.created := by
  obtain ⟨v, hrep, hview⟩ := h.near.view
  obtain ⟨z, hmode, -⟩ := h.near.mode.eq_on hstate
  have hlen : (c.payload.getD []).length < 65536 := by
    cases hdata : f.data with
    | none =>
        rw [hc.silent hdata]
        decide
    | some u =>
        obtain ⟨p, -, hp, hle⟩ := hc.payload u hdata
        rw [hp, Option.getD_some]
        exact lt_of_le_of_lt hle (by decide)
  obtain ⟨v', hrep', htaken, hcontrol, hsizes⟩ := hrep.processFrameOn hreads hlen now
  obtain ⟨m, hreach, hacked, hm⟩ := acknowledge_sim hinv hn hc hmode hrep hview
  have hinv' := hinv.reaches hreach
  have hmode' : m.stamp.mode = .on z := by
    rw [hm]
    exact hmode
  rw [processContents, hstate]
  dsimp only
  have hkeeps : KeepsSession n.near m := by
    rw [hm]
    exact ⟨rfl, rfl, rfl, rfl, rfl⟩
  rcases htaken with hsame | ⟨s, hseq, hsome, htaken⟩
  · rw [hsame] at hrep'
    exact ⟨_, hreach.trans (reaches_dropFrame hn),
      (h.setChannel hrep' hacked hcontrol.1 hcontrol.3 hsizes hkeeps).dropFrame hl hn, rfl⟩
  · cases htaken with
    | refused =>
        exact ⟨_, hreach.trans (reaches_dropFrame hn),
          (h.setChannel hrep' hacked hcontrol.1 hcontrol.3 hsizes hkeeps).dropFrame hl hn, rfl⟩
    | stored advance hd hfree =>
        obtain ⟨y, u, hy, hu, rfl⟩ := hc.sequence s hseq
        obtain ⟨p, hp, hpayload, -⟩ := hc.payload u hu
        rw [hpayload, Option.getD_some] at hrep'
        have hmem : f ∈ n.inn := hn ▸ List.mem_cons_self
        have hnewest := hinv'.out.sender.wellFormed.session z (by rw [hmode', Mode.session_on])
        obtain rfl := hinv'.inn.session_eq hmem hy hmode' hnewest
        have hframe := hinv'.inn.frames f hmem
        obtain ⟨hlo, hhi, -⟩ := hframe.data u hu
        have hmeets := hinv'.inn.meets f hmem
        obtain ⟨hbase, htail⟩ := hmeets.origin y hmode' (by rw [hy, Mode.session_on])
        have hbound := hmeets.head y hmode'
        have hwindow := hframe.wellFormed.window
        have hbaseLe := hframe.wellFormed.base_le
        have hwidth := h.far.width
        have hfit : n.far.width + l.near.vc.rcvRing.horizonWidth ≤ 2 ^ w := by
          have hpushed : l.far.pushed ≠ [] := by
            rintro hnil
            rw [hnil] at hp
            cases hp
          rw [hwidth, h.sizesFar.sendLength, h.sizesNear.horizonWidth]
          exact h.fitNear.resolve_left hpushed
        have hrHead := hacked.rHead
        have hplace := offset_exact (d := u - f.stamp.base) (r := (v.acked c.ctrl).rcvHead)
          n.far.width hfit (by simp only at *; omega) (by simp only at *; omega) hd
        rw [hplace] at hfree hrep'
        have hvacant : m.held (u - f.stamp.base) = none := by
          rw [← Option.not_isSome_iff_eq_none, hacked.held_isSome, hfree]
          simp
        obtain ⟨hsim, hready⟩ := h.takeFrame hl hn hkeeps hacked hcontrol hsizes hp hrep'
        refine ⟨_, .near hreach (.takeOn { n with near := m } f rest y (u - f.stamp.base) u
          advance hn hu hmode' ?_ hvacant ?_ ⟨y, hy⟩ hready), hsim, rfl⟩
        · simp only at *
          omega
        · simp only at *
          omega

/-! ## The whole frame -/

/-- The oldest frame is parsed, and says what it stands for. -/
theorem LinkSim.incoming (h : LinkSim start l n names) (h8 : 8 ∣ w) (hw : w ≤ 56)
    {frame : SkyRadioFrame} {frames : List SkyRadioFrame} (hl : l.inn = frame :: frames) :
    ∃ f rest parsed, ∃ c : ArqContent w, n.inn = f :: rest ∧ frame.parse w = .ok parsed ∧
      parsed.Reads c ∧ ContentSim names.far l.far.pushed c f := by
  have hinn := h.inn
  rw [hl] at hinn
  obtain ⟨f, rest, hf, -, hn⟩ := List.forall₂_cons_left_iff.mp hinn
  obtain ⟨tx, identity, others, channel, c, rfl, hcarries, hc⟩ := hf
  obtain ⟨parsed, hparse, hreads⟩ := hcarries.parse hw h8
  exact ⟨f, rest, parsed, c, hn, hparse, hreads, hc⟩

/-- A processed frame is a sequence of steps of the net. -/
theorem LinkSim.process (h : LinkSim start l n names) (hinv : Inv n) (h8 : 8 ∣ w) (hw : w ≤ 56)
    (tickTime now : Int) (hunder : ∀ f ∈ n.inn.head?, Understood l n names f)
    (hfresh : ¬stale → ∀ parsed ∈ l.incoming, ¬parsed.Stale l.near.vc) :
    ∃ n', Reaches stale n n' ∧ LinkSim start (l.step (.process tickTime now)) n' names ∧
      n'.created = n.created := by
  cases hl : l.inn with
  | nil => exact ⟨n, .refl n, by rw [Link.step, hl]; exact h, rfl⟩
  | cons frame frames =>
      obtain ⟨f, rest, parsed, c, hn, hparse, hreads, hc⟩ := h.incoming h8 hw hl
      have hincoming : parsed ∈ l.incoming := Link.incoming_eq hl hparse
      obtain ⟨m, hreach, hsim⟩ := h.handshake hn hc tickTime hreads
        (hunder f (by rw [hn, List.head?_cons, Option.mem_def]))
      have hinv' := hinv.reaches hreach
      obtain ⟨e, he⟩ : ∃ e, e = l.near.record l.sessions parsed.handshakeIdentifier
        (processHandshake tickTime l.near.vc parsed) := ⟨_, rfl⟩
      have hvc : e.vc = processHandshake tickTime l.near.vc parsed := by
        rw [he, Endpoint.record_vc]
      have hstep : l.step (.process tickTime now) =
          { l with near := { e with vc := processContents e.vc parsed now }, inn := frames } := by
        rw [hvc, he, Endpoint.record_setVc, ← skyVcProcessFrame_fst]
        simp only [Link.step, hl, Endpoint.process, hparse]
      rw [← he] at hsim
      rw [hstep]
      cases hstate : e.vc.arqStateFlag with
      | off =>
          obtain ⟨hoff, hnone⟩ := processHandshake_off (hvc ▸ hstate)
          obtain ⟨n', hreach', hsim', hcreated⟩ := hsim.contentsOff hl hn hc hreads now hstate
            fun hstale hpos hflag => hfresh hstale parsed hincoming ⟨hoff, hnone, hpos, hflag⟩
          exact ⟨n', hreach.trans hreach', hsim', hcreated⟩
      | inInit =>
          refine ⟨_, hreach.trans (reaches_dropFrame hn), ?_, rfl⟩
          simp only [processContents, hstate]
          exact hsim.dropFrame hl hn
      | on =>
          obtain ⟨n', hreach', hsim', hcreated⟩ :=
            hsim.contentsOn hinv' hl hn hc hreads now hstate
          exact ⟨n', hreach.trans hreach', hsim', hcreated⟩

end Process

end Skylink
