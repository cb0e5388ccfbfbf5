import Mathlib.Data.Int.ModEq
import Mathlib.Order.Bounds.Basic

/-!
# Windows of a cycle

Time is cut into cycles of equal length, and a window is open for the first ticks of
each. Windows of one cycle length are disjoint at all times if they are disjoint within
one cycle. On a clock that wraps, cycles are counted anew from each wrap.
-/

namespace Cycle

/-- The window that opens at `start` and then once in every cycle. -/
def Open (cycle length start time : Int) : Prop := (time - start) % cycle < length

instance decidableOpen (cycle length start time : Int) : Decidable (Open cycle length start time) :=
  inferInstanceAs (Decidable (_ < _))

variable {cycle length length' start start' time : Int}

theorem open_congr (h : start ≡ start' [ZMOD cycle]) :
    Open cycle length start time ↔ Open cycle length start' time := by
  rw [Open, Open, Int.ModEq.sub_left time h]

/-- A window that opens when the other has closed, and closes before the other opens
again, never meets it. -/
theorem not_open_both (hcycle : 0 < cycle) {offset : Int} (hafter : length ≤ offset)
    (hbefore : offset + length' ≤ cycle) (hopen : Open cycle length start time) :
    ¬Open cycle length' (start + offset) time := by
  have hphase : 0 ≤ (time - start) % cycle := Int.emod_nonneg _ hcycle.ne'
  rw [Open] at hopen
  rw [Open, not_lt]
  have hshift : (time - (start + offset)) % cycle =
      ((time - start) % cycle - offset + cycle) % cycle := by
    rw [Int.add_emod_right, Int.emod_sub_emod, sub_sub]
  rcases lt_or_ge length' 1 with hnone | hpos
  · exact le_trans (by omega) (Int.emod_nonneg _ hcycle.ne')
  · rw [hshift, Int.emod_eq_of_lt (by omega) (by omega)]
    omega

/-- The place in the cycle counted from an offset inside it. -/
theorem emod_sub_offset {u offset : Int} (hcycle : 0 < cycle) (hoffset : 0 ≤ offset)
    (hle : offset ≤ cycle) :
    (u - offset) % cycle =
      if offset ≤ u % cycle then u % cycle - offset else u % cycle - offset + cycle := by
  have hnonneg : 0 ≤ u % cycle := Int.emod_nonneg _ hcycle.ne'
  have hlt : u % cycle < cycle := Int.emod_lt_of_pos _ hcycle
  rw [← Int.emod_sub_emod]
  split_ifs with hbehind
  · exact Int.emod_eq_of_lt (by omega) (by omega)
  · rw [← Int.add_emod_right]
    exact Int.emod_eq_of_lt (by omega) (by omega)

/-! ## A clock that wraps -/

/-- The ticks since `start`, on a clock of `modulus` ticks. -/
def elapsed (modulus start time : Int) : Int := (time - start) % modulus

/-- The place in the cycle, counted from `start`. -/
def phase (modulus cycle start time : Int) : Int := elapsed modulus start time % cycle

section Clock

variable {modulus offset k : Int}

theorem elapsed_nonneg (hmodulus : 0 < modulus) : 0 ≤ elapsed modulus start time :=
  Int.emod_nonneg _ hmodulus.ne'

theorem elapsed_lt (hmodulus : 0 < modulus) : elapsed modulus start time < modulus :=
  Int.emod_lt_of_pos _ hmodulus

theorem phase_nonneg (hcycle : 0 < cycle) : 0 ≤ phase modulus cycle start time :=
  Int.emod_nonneg _ hcycle.ne'

theorem phase_lt (hcycle : 0 < cycle) : phase modulus cycle start time < cycle :=
  Int.emod_lt_of_pos _ hcycle

theorem elapsed_add (hmodulus : 0 < modulus) (hk : 0 ≤ k)
    (hlt : elapsed modulus start time + k < modulus) :
    elapsed modulus start (time + k) = elapsed modulus start time + k := by
  have hnonneg := @elapsed_nonneg start time modulus hmodulus
  have hsplit : time + k - start = time - start + k := by omega
  rw [elapsed, hsplit, ← Int.emod_add_emod]
  exact Int.emod_eq_of_lt (by rw [← elapsed]; omega) hlt

/-- When the clock wraps, the count starts anew. -/
theorem elapsed_wrap :
    elapsed modulus start (time + (modulus - elapsed modulus start time)) = 0 := by
  have hsplit : time + (modulus - elapsed modulus start time) - start =
      time - start - (time - start) % modulus + modulus := by
    rw [elapsed]
    omega
  rw [elapsed, hsplit, Int.add_emod_right, Int.sub_emod_emod, sub_self, Int.zero_emod]

/-- From a later start fewer ticks have passed, or the clock has wrapped since. -/
theorem elapsed_offset (hmodulus : 0 < modulus) (hoffset : 0 ≤ offset) (hle : offset ≤ modulus) :
    elapsed modulus (start + offset) time =
      if offset ≤ elapsed modulus start time then elapsed modulus start time - offset
      else elapsed modulus start time - offset + modulus := by
  have hnonneg := @elapsed_nonneg start time modulus hmodulus
  have hlt := @elapsed_lt start time modulus hmodulus
  have hshift : elapsed modulus (start + offset) time =
      (elapsed modulus start time - offset) % modulus := by
    rw [elapsed, elapsed, Int.emod_sub_emod, sub_sub]
  rw [hshift]
  split
  · exact Int.emod_eq_of_lt (by omega) (by omega)
  · rw [← Int.add_emod_right]
    exact Int.emod_eq_of_lt (by omega) (by omega)

/-- Within one cycle, and before the clock wraps, the phase is counted up. -/
theorem phase_add (hmodulus : 0 < modulus) (hk : 0 ≤ k)
    (hlt : elapsed modulus start time + k < modulus)
    (hcycle : phase modulus cycle start time + k < cycle) (hpos : 0 < cycle) :
    phase modulus cycle start (time + k) = phase modulus cycle start time + k := by
  have hnonneg := @phase_nonneg cycle start time modulus hpos
  rw [phase, elapsed_add hmodulus hk hlt, ← Int.emod_add_emod]
  exact Int.emod_eq_of_lt (by rw [← phase]; omega) hcycle

/-- At the end of a cycle the next one starts, if the clock does not wrap before. -/
theorem phase_next (hmodulus : 0 < modulus) (hpos : 0 < cycle)
    (hle : elapsed modulus start time + (cycle - phase modulus cycle start time) ≤ modulus) :
    phase modulus cycle start (time + (cycle - phase modulus cycle start time)) = 0 := by
  have hlt := @phase_lt cycle start time modulus hpos
  rcases hle.lt_or_eq with hbefore | hwrap
  · have hsplit : elapsed modulus start time + (cycle - phase modulus cycle start time) =
        elapsed modulus start time - elapsed modulus start time % cycle + cycle := by
      rw [phase]
      omega
    rw [phase, elapsed_add hmodulus (by omega) hbefore, hsplit, Int.add_emod_right,
      Int.sub_emod_emod, sub_self, Int.zero_emod]
  · have hk : cycle - phase modulus cycle start time = modulus - elapsed modulus start time := by
      omega
    rw [hk, phase, elapsed_wrap, Int.zero_emod]

/-- The time from which the window is open, if the clock does not wrap before. -/
def untilOpen (modulus cycle length start time : Int) : Int :=
  if phase modulus cycle start time < length then 0 else cycle - phase modulus cycle start time

/-- The window opens with the next cycle, or where the clock wraps before. -/
theorem isLeast_untilOpen_iff (hmodulus : 0 < modulus) (hpos : 0 < cycle)
    (hlength : 0 < length) :
    IsLeast {k | 0 ≤ k ∧ phase modulus cycle start (time + k) < length}
        (untilOpen modulus cycle length start time) ↔
      phase modulus cycle start time < length ∨
        elapsed modulus start time + (cycle - phase modulus cycle start time) ≤ modulus := by
  have hlt := @phase_lt cycle start time modulus hpos
  have hbefore := @elapsed_lt start time modulus hmodulus
  rw [untilOpen]
  by_cases hopen : phase modulus cycle start time < length
  · rw [if_pos hopen]
    refine iff_of_true ⟨⟨le_rfl, ?_⟩, fun k hk => hk.1⟩ (.inl hopen)
    rwa [add_zero]
  rw [if_neg hopen, or_iff_right hopen]
  constructor
  · intro hleast
    by_contra hwraps
    -- the window is open as soon as the clock has wrapped
    have hwrap : modulus - elapsed modulus start time ∈
        {k | 0 ≤ k ∧ phase modulus cycle start (time + k) < length} := by
      refine ⟨by omega, ?_⟩
      rw [phase, elapsed_wrap, Int.zero_emod]
      exact hlength
    have := hleast.2 hwrap
    omega
  · intro hnext
    refine ⟨⟨by omega, ?_⟩, ?_⟩
    · rw [phase_next hmodulus hpos hnext]
      exact hlength
    · rintro k ⟨hk, hkopen⟩
      by_contra hearly
      rw [phase_add hmodulus hk (by omega) (by omega) hpos] at hkopen
      omega

end Clock

end Cycle
