import Skylink.Phy.Pipeline

/-!
# The transmit buffer

`raw` has six bytes more than the longest plain frame, but 32 parity bytes and a header
of three bytes are added to it in place. Plain frames are always built inside of the
buffer; encoded ones stay inside only if the plain frame is short.
-/

namespace Skylink

variable {w : Nat}

/-- The code stays inside of `raw`, and its assertions pass. -/
def StaysInside : Option (SkyNode w × Option EncodedFrame × SkyRet) → Prop
  | none => False
  | some (_, none, _) => True
  | some (_, some encoded, _) => encoded.assertsHold = true

/-- `sky_tx_with_fec` and `sky_tx_with_golay` build, encode and shift the frame inside of
the buffer, and every assertion on the way passes. -/
def SkyNode.TransmitsInside (H : KeyedHash) (node : SkyNode w) (tick : Int) : Prop :=
  (macCanSend node.conf.mac node.mac tick = true → ∀ v, node.picked tick = some v →
    (craftFrame H (node.readyToSend tick) v tick).2.1.assertsHold = true ∧
      (craftFrame H (node.readyToSend tick) v tick).2.1.length ≤ rawLen) ∧
    StaysInside (skyTxWithFec H tick node) ∧ StaysInside (skyTxWithGolay H tick node)

/-- The frame that `sky_tx` is about to build, if any, leaves room for the parity bytes, the
header and one byte more. -/
def SkyNode.LeavesRoom (node : SkyNode w) (tick : Int) : Prop :=
  macCanSend node.conf.mac node.mac tick = true → ∀ v, node.picked tick = some v →
    ∀ n, (node.checkTimeouts tick).frameLength v tick
      (node.mac.framesSentInCurrentWindowPerVc v) = some n → n + rsParitys + 3 < rawLen

/-! ## A frame that is too long -/

theorem skyFecEncode_eq_none {frame : SkyRadioFrame} (hraw : frame.raw.length = rawLen)
    (hplain : frame.length ≤ skyFrameMaxLen) (hlong : rawLen < frame.length + rsParitys) :
    skyFecEncode frame = none := by
  have hparity := encodeRs8_length (frame.raw.take frame.length)
  have hstore : storeParity frame.raw frame.length (encodeRs8 (frame.raw.take frame.length)) =
      none := by
    rw [storeParity, if_neg (by omega)]
  rw [skyFecEncode, if_neg (show ¬rsMsglen < frame.length from not_lt.mpr hplain)]
  show (storeParity _ _ _).bind _ = none
  rw [hstore]
  rfl

section Sent

variable {H : KeyedHash} {tick : Int} {node : SkyNode w} {tx : SkyTransmitFrame}

/-- The parity bytes leave the buffer behind a frame that is too long. -/
theorem skyTxWithFec_eq_none (h : (skyTx H tick node).2.1 = some tx)
    (hplain : tx.length ≤ skyFrameMaxLen) (hlong : rawLen < tx.length + rsParitys) :
    skyTxWithFec H tick node = none := by
  obtain ⟨v, -, -, hskyTx, -⟩ := skyTx_crafted h
  have hraw := SkyTransmitFrame.frame_raw_length (hplain.trans (by decide))
  rw [skyTxWithFec, hskyTx]
  show (skyFecEncode tx.frame).bind _ = none
  rw [skyFecEncode_eq_none hraw hplain hlong]
  rfl

/-- What `sky_tx` returns is encoded inside of the buffer exactly if one byte stays free. -/
theorem staysInside_iff (h : (skyTx H tick node).2.1 = some tx)
    (hasserts : tx.assertsHold = true) (hplain : tx.length ≤ skyFrameMaxLen) :
    StaysInside (skyTxWithFec H tick node) ∧ StaysInside (skyTxWithGolay H tick node) ↔
      tx.length + rsParitys + 3 < rawLen := by
  rcases Nat.lt_or_ge rawLen (tx.length + rsParitys) with hlong | hfits
  · rw [skyTxWithFec_eq_none h hplain hlong]
    exact ⟨fun hinside => hinside.1.elim, fun hlt => by omega⟩
  · obtain ⟨encoded, hfec, hlength, hraw, -, hencoded⟩ := skyTxWithFec_eq h hfits
    rw [skyTxWithGolay_eq hfec, hfec]
    rcases Nat.lt_or_ge (tx.length + rsParitys + 3) rawLen with hlt | hge
    · obtain ⟨raw, hadd, -⟩ := addGolayHeader_eq hraw (by omega)
      refine iff_of_true ⟨hencoded.trans hasserts, ?_⟩ hlt
      rw [hadd]
      show (encoded.assertsHold && decide (encoded.frame.length + 3 ≤ rawLen)) = true
      rw [hencoded, hasserts, decide_eq_true (by omega)]
      rfl
    · refine iff_of_false (fun hinside => ?_) (not_lt.mpr hge)
      have hnone : addGolayHeader encoded = none :=
        addGolayHeader_eq_none (by rw [hlength, rsParitys]; omega) (by omega)
      rw [hnone] at hinside
      exact hinside.2

theorem SkyNode.not_transmitsInside_of_long (h : (skyTx H tick node).2.1 = some tx)
    (hplain : tx.length ≤ skyFrameMaxLen) (hlong : rawLen < tx.length + rsParitys) :
    ¬node.TransmitsInside H tick := by
  rintro ⟨-, hfec, -⟩
  rw [skyTxWithFec_eq_none h hplain hlong] at hfec
  exact hfec

end Sent

/-! ## Reachable states -/

/-- The window in which a frame is sent keeps its counters. -/
theorem readyToSend_frames {node : SkyNode w} {tick : Int}
    (hsend : macCanSend node.conf.mac node.mac tick = true) :
    (node.readyToSend tick).mac.framesSentInCurrentWindowPerVc =
      node.mac.framesSentInCurrentWindowPerVc := by
  have htrack (self : SkyNode w) (contentToSend : Bool) :
      (skyTxTrackTddState self true contentToSend tick).mac.framesSentInCurrentWindowPerVc =
        self.mac.framesSentInCurrentWindowPerVc := by
    simp [skyTxTrackTddState, apply_ite SkyMAC.framesSentInCurrentWindowPerVc, macShrinkWindow,
      macExpandWindow]
  have htracked := htrack (node.checkTimeouts tick) (node.picked tick).isSome
  rw [← hsend] at htracked
  exact htracked

theorem staysInside_of_none {H : KeyedHash} {tick : Int} {node : SkyNode w}
    (h : (skyTx H tick node).2.1 = none) :
    StaysInside (skyTxWithFec H tick node) ∧ StaysInside (skyTxWithGolay H tick node) := by
  have hfec : skyTxWithFec H tick node =
      some ((skyTx H tick node).1, none, (skyTx H tick node).2.2) := by
    rw [skyTxWithFec]
    split
    · rename_i heq
      rw [heq]
    · rename_i heq
      rw [heq] at h
      cases h
  refine ⟨by rw [hfec]; trivial, ?_⟩
  rw [skyTxWithGolay, hfec]
  trivial

theorem SkyNode.RingsHold.inside_iff (hw : ArqSequenceWidth w) (H : KeyedHash)
    {node : SkyNode w} (h : node.RingsHold) (hid : node.conf.identityLen ≤ skyMaxIdentityLen)
    (tick : Int) : node.TransmitsInside H tick ↔ node.LeavesRoom tick := by
  by_cases hdue : ∃ v, macCanSend node.conf.mac node.mac tick = true ∧ node.picked tick = some v
  · obtain ⟨v, hsend, hpicked⟩ := hdue
    have hready : (node.readyToSend tick).RingsHold := h.checkTimeouts tick
    have hidReady : (node.readyToSend tick).conf.identityLen ≤ skyMaxIdentityLen := hid
    obtain ⟨hasserts, hplain, hfails, hsent⟩ := craftFrame_length hw H hidReady hready v tick
    rw [readyToSend_frames hsend] at hfails hsent
    have hbuilt : (craftFrame H (node.readyToSend tick) v tick).2.1.length ≤ rawLen :=
      hplain.trans (by decide)
    have hskyTx := skyTx_eq H tick node
    rw [hsend, hpicked] at hskyTx
    dsimp only at hskyTx
    rw [SkyNode.TransmitsInside, and_iff_right fun _ u hu => by
      cases hpicked.symm.trans hu
      exact ⟨hasserts, hbuilt⟩]
    cases hlength : (node.readyToSend tick).frameLength v tick
        (node.mac.framesSentInCurrentWindowPerVc v) with
    | none =>
        have hret := hfails hlength
        refine iff_of_true (staysInside_of_none ?_) fun _ u hu n hn => ?_
        · rw [hskyTx]
          apply if_neg
          intro hone
          rw [hone] at hret
          exact absurd hret (by decide)
        · cases hpicked.symm.trans hu
          cases hlength.symm.trans hn
    | some n =>
        obtain ⟨hret, hlen⟩ := hsent n hlength
        have htx : (skyTx H tick node).2.1 =
            some (craftFrame H (node.readyToSend tick) v tick).2.1 := by
          rw [hskyTx]
          exact if_pos hret
        rw [staysInside_iff htx hasserts hplain, hlen]
        refine ⟨fun hlt _ u hu m hm => ?_, fun hroom => hroom hsend v hpicked n hlength⟩
        cases hpicked.symm.trans hu
        cases hlength.symm.trans hm
        exact hlt
  · push Not at hdue
    refine iff_of_true ⟨fun hsend v hpicked => absurd hpicked (hdue v hsend), ?_⟩
      fun hsend v hpicked => absurd hpicked (hdue v hsend)
    apply staysInside_of_none
    rw [skyTx_eq]
    split
    · rename_i v hsend hpicked
      exact absurd hpicked (hdue v hsend)
    · rfl

/-- A node that authenticates its frames and has a packet of full length to send. -/
def exampleLongOps : List (NodeOp 8) := [.channel 0 (.push (List.replicate skyPayloadMaxLen 5))]

end Skylink
