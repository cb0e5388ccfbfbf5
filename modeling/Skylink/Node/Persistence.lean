import Skylink.Node.Accounting
import Skylink.Node.Resynchronisation

/-!
# Stored sequence numbers

A created node begins with the sequence numbers zero. The program around it can store the
numbers and load them into the node that it creates after a restart. What was stored
between a frame and the next restart keeps its number from being used a second time.
-/

namespace Skylink

variable {w : Nat}

/-! ## Dump and load -/

/-- For each channel the number of `sequence_tx` and that of `sequence_rx`. -/
def skyHmacDumpSequences (hmac : SkyHMAC) : List UInt16 :=
  (List.finRange skyNumVirtualChannels).flatMap fun vc => [hmac.sequenceTx vc, hmac.sequenceRx vc]

def loadSequencesLoop : List (Fin skyNumVirtualChannels) → List UInt16 → SkyHMAC → Option SkyHMAC
  | [], _, hmac => some hmac
  | vc :: rest, tx :: rx :: sequences, hmac =>
      loadSequencesLoop rest sequences
        { hmac with
          sequenceTx := Function.update hmac.sequenceTx vc tx
          sequenceRx := Function.update hmac.sequenceRx vc rx }
  | _ :: _, _, _ => none

/-- `none` where the loop would read past the array. -/
def skyHmacLoadSequences (hmac : SkyHMAC) (sequences : List UInt16) : Option SkyHMAC :=
  loadSequencesLoop (List.finRange skyNumVirtualChannels) sequences hmac

/-- The loop sets the numbers of the channels that it comes to. -/
theorem loadSequencesLoop_dump (hmac : SkyHMAC) (channels : List (Fin skyNumVirtualChannels))
    (loaded : SkyHMAC) :
    loadSequencesLoop channels
        (channels.flatMap fun vc => [hmac.sequenceTx vc, hmac.sequenceRx vc]) loaded =
      some { loaded with
        sequenceTx := fun v => if v ∈ channels then hmac.sequenceTx v else loaded.sequenceTx v
        sequenceRx := fun v =>
          if v ∈ channels then hmac.sequenceRx v else loaded.sequenceRx v } := by
  induction channels generalizing loaded with
  | nil => simp [loadSequencesLoop]
  | cons vc channels ih =>
      have hset (numbers old : Fin skyNumVirtualChannels → UInt16) :
          (fun v => if v ∈ channels then numbers v else Function.update old vc (numbers vc) v) =
            fun v => if v ∈ vc :: channels then numbers v else old v := by
        funext v
        by_cases hv : v = vc
        case pos => simp [hv]
        case neg => simp [hv]
      calc loadSequencesLoop (vc :: channels) _ loaded
        _ = loadSequencesLoop channels _
            { loaded with
              sequenceTx := Function.update loaded.sequenceTx vc (hmac.sequenceTx vc)
              sequenceRx := Function.update loaded.sequenceRx vc (hmac.sequenceRx vc) } := rfl
        _ = _ := by
          refine (ih _).trans ?_
          rw [hset, hset]

/-- What was dumped is loaded again. -/
theorem load_dump (loaded hmac : SkyHMAC) :
    skyHmacLoadSequences loaded (skyHmacDumpSequences hmac) =
      some { loaded with sequenceTx := hmac.sequenceTx, sequenceRx := hmac.sequenceRx } := by
  rw [skyHmacLoadSequences, skyHmacDumpSequences, loadSequencesLoop_dump]
  simp only [List.mem_finRange, if_true]

/-! ## Restarts -/

/-- A node, and the numbers that its program stored last. -/
structure StoredNode (w : Nat) where
  node : SkyNode w
  stored : List UInt16

/-- A call to the node, or the program stores the numbers, or it is started again and loads
what was stored. -/
inductive StoredOp (w : Nat)
  | call (op : NodeOp w)
  | store
  | restart (config : SkyConfig)

namespace StoredNode

/-- A new node, and nothing but zeros are stored. -/
def create (config : SkyConfig) : Option (StoredNode w) :=
  (skyCreate config).map fun node => ⟨node, List.replicate (2 * skyNumVirtualChannels) 0⟩

/-- `none` where the node cannot be created again. -/
def step (H : KeyedHash) (s : StoredNode w) : StoredOp w → Option (StoredNode w)
  | .call op => some { s with node := s.node.step H op }
  | .store => some { s with stored := skyHmacDumpSequences s.node.hmac }
  | .restart config =>
      (skyCreate config).bind fun fresh =>
        (skyHmacLoadSequences fresh.hmac s.stored).map fun hmac =>
          { s with node := { fresh with hmac := hmac } }

def run (H : KeyedHash) : StoredNode w → List (StoredOp w) → Option (StoredNode w)
  | s, [] => some s
  | s, op :: ops => (s.step H op).bind fun s' => run H s' ops

/-- What the calls of a run add up to. -/
def total (H : KeyedHash) (amount : SkyNode w → NodeOp w → Nat) :
    StoredNode w → List (StoredOp w) → Nat
  | _, [] => 0
  | s, .call op :: ops =>
      amount s.node op + total H amount { s with node := s.node.step H op } ops
  | s, op :: ops => ((s.step H op).map fun s' => total H amount s' ops).getD 0

end StoredNode

/-- The numbers are stored before the program is started again. -/
def StoresFirst : List (StoredOp w) → Prop
  | [] => True
  | .call _ :: ops => StoresFirst ops
  | .store :: _ => True
  | .restart _ :: _ => False

/-- The channel asks for authentication and sequence numbers. -/
structure SkyConfig.ChecksReplay (config : SkyConfig) (v : Fin skyNumVirtualChannels)
    (jump : Int) : Prop where
  authentication : (config.vc v).hasFlag skyConfigFlagRequireAuthentication
  sequence : (config.vc v).hasFlag skyConfigFlagRequireSequence
  jump : config.hmac.maximumJump ≤ jump

/-! ## Numbers along a run -/

/-- The calls move a number of a node forward by some amount, and loading brings it back. -/
structure Counts (H : KeyedHash) (P : SkyNode w → Prop) (number : SkyHMAC → UInt16)
    (amount : SkyNode w → NodeOp w → Nat) : Prop where
  step : ∀ {node : SkyNode w}, P node → ∀ op,
    number (node.step H op).hmac = number node.hmac + UInt16.ofNat (amount node op)
  keeps : ∀ {node : SkyNode w}, P node → ∀ op, P (node.step H op)
  loaded : ∀ hmac fresh : SkyHMAC,
    number { fresh with sequenceTx := hmac.sequenceTx, sequenceRx := hmac.sequenceRx } = number hmac

/-- The configurations of the restarts make nodes of a kind. -/
def RestartsTo (P : SkyNode w → Prop) (ops : List (StoredOp w)) : Prop :=
  ∀ config, .restart config ∈ ops → ∀ node, skyCreate config = some node →
    ∀ hmac, P { node with hmac := hmac }

section Run

variable {H : KeyedHash} {P : SkyNode w → Prop} {number : SkyHMAC → UInt16}
  {amount : SkyNode w → NodeOp w → Nat}

theorem RestartsTo.head {op : StoredOp w} {ops : List (StoredOp w)}
    (h : RestartsTo P (op :: ops)) : RestartsTo P ops :=
  fun config hmem => h config (List.mem_cons_of_mem op hmem)

theorem Counts.next (hcounts : Counts H P number amount) {n : UInt16} {c : Nat}
    {node : SkyNode w} (hP : P node) (hnow : number node.hmac = n + UInt16.ofNat c)
    (op : NodeOp w) :
    number (node.step H op).hmac = n + UInt16.ofNat (c + amount node op) := by
  rw [hcounts.step hP, hnow, UInt16.ofNat_add, UInt16.add_assoc]

/-- What is loaded after the numbers were stored. -/
theorem Counts.stored (hcounts : Counts H P number amount) {hmac fresh loaded : SkyHMAC}
    (h : skyHmacLoadSequences fresh (skyHmacDumpSequences hmac) = some loaded) :
    number loaded = number hmac := by
  rw [load_dump, Option.some.injEq] at h
  rw [← h, hcounts.loaded]

theorem Counts.run_keeps (hcounts : Counts H P number amount) {s s' : StoredNode w}
    {ops : List (StoredOp w)} (hP : P s.node) (hops : RestartsTo P ops)
    (hrun : s.run H ops = some s') : P s'.node := by
  induction ops generalizing s with
  | nil =>
      cases hrun
      exact hP
  | cons op ops ih =>
      rw [StoredNode.run, Option.bind_eq_some_iff] at hrun
      obtain ⟨next, hstep, hrun⟩ := hrun
      refine ih ?_ hops.head hrun
      cases op with
      | call op =>
          cases hstep
          exact hcounts.keeps hP op
      | store =>
          cases hstep
          exact hP
      | restart config =>
          simp only [StoredNode.step, Option.bind_eq_some_iff, Option.map_eq_some_iff] at hstep
          obtain ⟨fresh, hcreate, hmac, -, rfl⟩ := hstep
          exact hops config (List.mem_cons_self ..) fresh hcreate hmac

/-- With a number stored that is not before `n`, no restart goes back before `n`. -/
theorem Counts.run_stored (hcounts : Counts H P number amount) {n : UInt16} {c f : Nat}
    {s s' : StoredNode w} {ops : List (StoredOp w)} (hP : P s.node) (hops : RestartsTo P ops)
    (hnow : number s.node.hmac = n + UInt16.ofNat c) (hle : f ≤ c)
    (hstored : ∀ fresh loaded, skyHmacLoadSequences fresh s.stored = some loaded →
      number loaded = n + UInt16.ofNat f)
    (hrun : s.run H ops = some s') :
    ∃ c', c' ≤ c + s.total H amount ops ∧ number s'.node.hmac = n + UInt16.ofNat c' := by
  induction ops generalizing s c f with
  | nil =>
      cases hrun
      exact ⟨c, Nat.le_add_right _ _, hnow⟩
  | cons op ops ih =>
      rw [StoredNode.run, Option.bind_eq_some_iff] at hrun
      obtain ⟨next, hstep, hrun⟩ := hrun
      cases op with
      | call op =>
          cases hstep
          obtain ⟨c', hle', hnumber⟩ := ih (s := { s with node := s.node.step H op })
            (hcounts.keeps hP op) hops.head (hcounts.next hP hnow op)
            (hle.trans (Nat.le_add_right _ _)) hstored hrun
          exact ⟨c', by rwa [Nat.add_assoc] at hle', hnumber⟩
      | store =>
          cases hstep
          exact ih (s := { s with stored := skyHmacDumpSequences s.node.hmac }) hP hops.head hnow
            le_rfl (fun _ _ hload => (hcounts.stored hload).trans hnow) hrun
      | restart config =>
          rw [StoredNode.total, hstep, Option.map_some, Option.getD_some]
          · simp only [StoredNode.step, Option.bind_eq_some_iff, Option.map_eq_some_iff] at hstep
            obtain ⟨fresh, hcreate, hmac, hload, rfl⟩ := hstep
            obtain ⟨c', hle', hnumber⟩ := ih (s := { s with node := { fresh with hmac := hmac } })
              (hops config (List.mem_cons_self ..) fresh hcreate hmac) hops.head
              (hstored _ _ hload) le_rfl hstored hrun
            exact ⟨c', by omega, hnumber⟩
          · intro op hop
            cases hop

/-- The numbers go on from `n` if they are stored before the next restart. -/
theorem Counts.run (hcounts : Counts H P number amount) {n : UInt16} {c : Nat}
    {s s' : StoredNode w} {ops : List (StoredOp w)} (hP : P s.node) (hops : RestartsTo P ops)
    (hnow : number s.node.hmac = n + UInt16.ofNat c) (hstores : StoresFirst ops)
    (hrun : s.run H ops = some s') :
    ∃ c', c' ≤ c + s.total H amount ops ∧ number s'.node.hmac = n + UInt16.ofNat c' := by
  induction ops generalizing s c with
  | nil =>
      cases hrun
      exact ⟨c, Nat.le_add_right _ _, hnow⟩
  | cons op ops ih =>
      cases op with
      | call op =>
          obtain ⟨c', hle, hnumber⟩ := ih (s := { s with node := s.node.step H op })
            (hcounts.keeps hP op) hops.head (hcounts.next hP hnow op) hstores hrun
          exact ⟨c', by rwa [Nat.add_assoc] at hle, hnumber⟩
      | store =>
          exact hcounts.run_stored (s := { s with stored := skyHmacDumpSequences s.node.hmac })
            hP hops.head hnow le_rfl (fun _ _ hload => (hcounts.stored hload).trans hnow) hrun
      | restart config => cases hstores

end Run

/-! ## What restarts keep -/

/-- Creating a channel takes no flag from its configuration. -/
theorem SkyVCConfig.hasFlag_normalise {config : SkyVCConfig} {flag : UInt8}
    (h : config.hasFlag flag) : config.normalise.hasFlag flag := by
  rw [SkyVCConfig.hasFlag, bne_iff_ne] at h ⊢
  rw [SkyVCConfig.normalise]
  dsimp only
  split
  · intro hzero
    rw [uint8_or_and, UInt8.or_eq_zero_iff] at hzero
    exact h hzero.1
  · exact h

theorem skyVcCreate_conf {config conf : SkyVCConfig} {vc : SkyVirtualChannel w}
    (h : skyVcCreate config = some (conf, vc)) : conf = config.normalise := by
  simp only [skyVcCreate, Option.bind_eq_bind, Option.bind_eq_some_iff, Option.some.injEq,
    Prod.mk.injEq] at h
  obtain ⟨-, -, -, -, rfl, -⟩ := h
  rfl

theorem SkyConfig.ChecksReplay.created {config : SkyConfig} {v : Fin skyNumVirtualChannels}
    {jump : Int} (h : config.ChecksReplay v jump) {node : SkyNode w}
    (hnode : skyCreate config = some node) : node.conf.ChecksReplay v jump := by
  have hchannel : node.conf.vc v = (config.vc v).normalise :=
    skyVcCreate_conf (skyCreate_channels hnode v)
  have hhmac : node.conf.hmac = config.hmac := by
    simp only [skyCreate, Option.bind_eq_bind, Option.bind_eq_some_iff, Option.some.injEq] at hnode
    obtain ⟨-, -, -, -, -, -, -, -, -, -, rfl⟩ := hnode
    rfl
  refine ⟨?_, ?_, ?_⟩
  · rw [hchannel]
    exact SkyVCConfig.hasFlag_normalise h.authentication
  · rw [hchannel]
    exact SkyVCConfig.hasFlag_normalise h.sequence
  · rw [hhmac]
    exact h.jump

section Numbers

variable (H : KeyedHash) (v : Fin skyNumVirtualChannels)

theorem counts_sequenceRx (jump : Int) :
    Counts H (fun node : SkyNode w => node.conf.ChecksReplay v jump)
      (fun hmac => hmac.sequenceRx v) (fun node op => node.advanceBy H v op) where
  step h op := step_sequenceRx H v h.authentication op
  keeps h op := by
    rw [step_conf]
    exact h
  loaded _ _ := rfl

theorem counts_sequenceTx :
    Counts H (fun _ : SkyNode w => True) (fun hmac => hmac.sequenceTx v)
      (fun node op => if node.SendsOn H v op then 1 else 0) where
  step {node} _ op := step_sequenceTx H v node op
  keeps _ _ := trivial
  loaded _ _ := rfl

end Numbers

/-! ## No number is used twice -/

theorem finishFrame_sequence (H : KeyedHash) (node : SkyNode w) (v : Fin skyNumVirtualChannels)
    (tx : SkyTransmitFrame) :
    skyNtoh16 (finishFrame H node v tx).2.hdr.frameSequence = node.hmac.sequenceTx v := by
  simp only [finishFrame, skyHmacExtendWithAuthentication]
  split_ifs
  · exact skyHton16_hton16 _
  · exact skyHton16_hton16 _
  · exact skyHton16_hton16 _

theorem craftFrame_sequence {H : KeyedHash} {node : SkyNode w} {v : Fin skyNumVirtualChannels}
    {now : Int} (hret : (craftFrame H node v now).2.2 = 1) :
    skyNtoh16 (craftFrame H node v now).2.1.hdr.frameSequence = node.hmac.sequenceTx v := by
  revert hret
  simp only [craftFrame]
  rw [skyTxExtensionEvalHmacReset_fst]
  split
  · rename_i hneg
    intro hret
    rw [show _ = (1 : SkyRet) from hret] at hneg
    exact absurd hneg (by decide)
  · intro _
    exact finishFrame_sequence H _ v _

/-- A frame with number `n` leaves the node on channel `v`. -/
def SkyNode.Sends (H : KeyedHash) (node : SkyNode w) (v : Fin skyNumVirtualChannels) (n : UInt16)
    (tick : Int) : Prop :=
  ∃ tx, (skyTx H tick node).2.1 = some tx ∧ tx.hdr.channel = v ∧
    skyNtoh16 tx.hdr.frameSequence = n

theorem SkyNode.Sends.spec {H : KeyedHash} {node : SkyNode w} {v : Fin skyNumVirtualChannels}
    {n : UInt16} {tick : Int} (h : node.Sends H v n tick) :
    node.SendsOn H v (.tx tick) ∧ node.hmac.sequenceTx v = n := by
  obtain ⟨tx, htx, rfl, rfl⟩ := h
  obtain ⟨u, -, hpicked, heq, hcraft⟩ := skyTx_crafted htx
  have hchannel := craftFrame_channel H (node.readyToSend tick) u tick
  have hsequence : skyNtoh16 tx.hdr.frameSequence = node.hmac.sequenceTx u := by
    have hret : (craftFrame H (node.readyToSend tick) u tick).2.2 = 1 := by rw [hcraft]
    have hcrafted := craftFrame_sequence hret
    rwa [hcraft] at hcrafted
  rw [hcraft] at hchannel
  have hchannel' : tx.hdr.channel = u := hchannel
  rw [hchannel', hsequence]
  exact ⟨⟨congrArg (fun out => out.2.2) heq, hpicked⟩, rfl⟩

/-- What the numbers of a channel guarantee along every run with restarts that begins with a
new node. -/
structure SafeRestarts (H : KeyedHash) (s : StoredNode w) (v : Fin skyNumVirtualChannels)
    (jump : Int) : Prop where
  /-- If the numbers were stored after a frame was accepted, the frame is not accepted again
  before the sequence has come around. -/
  replay : ∀ (before between : List (StoredOp w)) (tick : Int) (n : UInt16)
    (frame frame' : SkyRadioFrame) (s₁ s₂ s₃ : StoredNode w),
    (∀ config, .restart config ∈ before ++ between → config.ChecksReplay v jump) →
    s.run H before = some s₁ → s₁.node.AcceptsOn H v n frame →
    s₁.step H (.call (.rx tick frame)) = some s₂ → s₂.run H between = some s₃ →
    StoresFirst between → s₃.node.AcceptsOn H v n frame' →
    65535 - jump ≤ s₂.total H (fun node op => node.advanceBy H v op) between
  /-- If the numbers were stored after a frame was sent, no frame is sent under its number
  before all the others were used. -/
  reuse : ∀ (before between : List (StoredOp w)) (tick tick' : Int) (n : UInt16)
    (s₁ s₂ s₃ : StoredNode w),
    s.run H before = some s₁ → s₁.node.Sends H v n tick →
    s₁.step H (.call (.tx tick)) = some s₂ → s₂.run H between = some s₃ →
    StoresFirst between → s₃.node.Sends H v n tick' →
    65535 ≤ s₂.total H (fun node op => if node.SendsOn H v op then 1 else 0) between

/-- The number before the expected one is as far ahead as the numbers allow. -/
theorem le_of_sub_le {n : UInt16} {c : Nat} {jump : Int}
    (h : ((n - (n + 1 + UInt16.ofNat c)).toNat : Int) ≤ jump) : 65535 - jump ≤ c := by
  rcases Nat.lt_or_ge 65535 c with hfar | hnear
  · have hjump : 0 ≤ jump := le_trans (Int.natCast_nonneg _) h
    omega
  · rw [sub_succ_add n hnear] at h
    omega

theorem SkyNode.AcceptsOn.jump_le {H : KeyedHash} {node : SkyNode w}
    {v : Fin skyNumVirtualChannels} {n : UInt16} {frame : SkyRadioFrame} {jump : Int}
    (h : node.AcceptsOn H v n frame) (hconf : node.conf.ChecksReplay v jump) :
    ((n - node.hmac.sequenceRx v).toNat : Int) ≤ jump := by
  obtain ⟨hv, hn, haccepts⟩ := h
  obtain ⟨parsed, hreceived⟩ := exists_received H haccepts
  have hhdr := received_hdr _ _ hreceived
  have hchannel : parsed.hdr.channel = v := by rw [hhdr, hv]
  rw [← hchannel] at hconf ⊢
  have hpass := (accepts_iff H hreceived hconf.authentication).mp haccepts
  have hjump := (hpass.2.2.2 hconf.sequence).trans hconf.jump
  rw [hhdr] at hjump
  rw [hhdr, ← hn]
  exact hjump

/-- Stored numbers carry the protection from replays over every restart. -/
theorem safeRestarts (H : KeyedHash) {config : SkyConfig} {s : StoredNode w}
    (hs : StoredNode.create config = some s) {v : Fin skyNumVirtualChannels} {jump : Int}
    (hconfig : config.ChecksReplay v jump) : SafeRestarts H s v jump where
  replay before between tick n frame frame' s₁ s₂ s₃ hrestarts hbefore haccepts hstep hbetween
      hstores haccepts' := by
    rw [StoredNode.create, Option.map_eq_some_iff] at hs
    obtain ⟨node, hnode, rfl⟩ := hs
    have hcounts := counts_sequenceRx (w := w) H v jump
    have hto (ops : List (StoredOp w)) (hsub : ∀ op ∈ ops, op ∈ before ++ between) :
        RestartsTo (fun node : SkyNode w => node.conf.ChecksReplay v jump) ops := by
      intro config hmem fresh hfresh hmac
      show fresh.conf.ChecksReplay v jump
      exact (hrestarts config (hsub _ hmem)).created hfresh
    have hfirst : s₁.node.conf.ChecksReplay v jump :=
      hcounts.run_keeps (hconfig.created hnode)
        (hto before fun op => List.mem_append_left between) hbefore
    cases hstep
    have hexpected : (s₁.node.step H (.rx tick frame)).hmac.sequenceRx v =
        n + 1 + UInt16.ofNat 0 := by
      rw [step_accepted H v hfirst.authentication haccepts tick]
      exact (UInt16.add_zero _).symm
    have hsecond : (s₁.node.step H (.rx tick frame)).conf.ChecksReplay v jump :=
      hcounts.keeps hfirst _
    have hrestartsTo := hto between fun op => List.mem_append_right before
    obtain ⟨c, hle, hnumber⟩ := hcounts.run hsecond hrestartsTo hexpected hstores hbetween
    have hlast := hcounts.run_keeps hsecond hrestartsTo hbetween
    have hjump := haccepts'.jump_le hlast
    rw [hnumber] at hjump
    have hback := le_of_sub_le hjump
    omega
  reuse before between tick tick' n s₁ s₂ s₃ hbefore hsends hstep hbetween hstores hsends' := by
    have hcounts := counts_sequenceTx (w := w) H v
    obtain ⟨hfirst, hn⟩ := hsends.spec
    obtain ⟨-, hn'⟩ := hsends'.spec
    cases hstep
    have hnext : (s₁.node.step H (.tx tick)).hmac.sequenceTx v = n + 1 + UInt16.ofNat 0 := by
      rw [step_sequenceTx H v s₁.node (.tx tick), if_pos hfirst, hn]
      exact (UInt16.add_zero _).symm
    obtain ⟨c, hle, hnumber⟩ := hcounts.run trivial (fun _ _ _ _ _ => trivial) hnext hstores
      hbetween
    have hback : (65535 : Int) - 0 ≤ c := by
      refine le_of_sub_le (n := n) ?_
      rw [← hnumber, hn', UInt16.sub_self]
      exact le_rfl
    omega

/-- The frame is accepted, the numbers are stored or not, and the node is started again. -/
def exampleRestart (stores : List (StoredOp 8)) : List (StoredOp 8) :=
  .call (.rx 0 (authenticFrame (List.replicate 32 0))) :: stores ++ [.restart (exampleConfig 6 7)]

def exampleStored : StoredNode 8 := ⟨exampleNode 6 7, List.replicate 8 0⟩

theorem safeRestarts_example : SafeRestarts exampleHash exampleStored 1 24 := by
  have hcreate : StoredNode.create (exampleConfig 6 7) = some exampleStored := by
    rw [StoredNode.create, exampleNode_eq]
    rfl
  apply safeRestarts exampleHash hcreate
  exact ⟨by decide, by decide, by decide⟩

-- A restart without a store before it lets the frame in again.
example : ((exampleStored.run exampleHash (exampleRestart [])).map fun s =>
    s.node.accepts exampleHash (authenticFrame (List.replicate 32 0))) = some true := by
  decide +kernel

example : ((exampleStored.run exampleHash (exampleRestart [.store])).map fun s =>
    s.node.accepts exampleHash (authenticFrame (List.replicate 32 0))) = some false := by
  decide +kernel

end Skylink
