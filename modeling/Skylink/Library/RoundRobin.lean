import Mathlib.Data.List.Count

/-!
# Serving in turn

A pointer goes round `n` clients, one place for every turn, and a turn serves the first
client from the pointer on that asks for it. Whoever asks all the time is served once in
every `n` turns.
-/

namespace RoundRobin

variable {n : Nat}

/-- The clients that are served from a pointer on, as far as client `v` is concerned that asks
all the time: where the pointer is at it, it is served. -/
def Serves (v : Fin n) : Nat → List (Fin n) → Prop
  | _, [] => True
  | start, u :: served => (start % n = v → u = v) ∧ Serves v ((start + 1) % n) served

/-- The turns until the pointer is at client `v`. -/
def distance (v : Fin n) (start : Nat) : Nat := (v + (n - start % n)) % n

theorem distance_lt (v : Fin n) (start : Nat) : distance v start < n := Nat.mod_lt _ v.pos

theorem distance_eq (v : Fin n) (start : Nat) :
    distance v start = if start % n ≤ v then v - start % n else v + (n - start % n) := by
  have hv := v.isLt
  have hstart := Nat.mod_lt start v.pos
  rw [distance]
  split_ifs with hle
  · rw [Nat.mod_eq_sub_mod (by omega), Nat.mod_eq_of_lt (by omega)]
    omega
  · exact Nat.mod_eq_of_lt (by omega)

/-- A turn of another client brings the pointer nearer. -/
theorem distance_next {v : Fin n} {start : Nat} (h : start % n ≠ v) :
    distance v start = distance v ((start + 1) % n) + 1 := by
  have hv := v.isLt
  have hstart := Nat.mod_lt start v.pos
  have hnext : (start + 1) % n = if start % n + 1 = n then 0 else start % n + 1 := by
    rw [← Nat.mod_add_mod]
    split_ifs with hlast
    · rw [hlast, Nat.mod_self]
    · exact Nat.mod_eq_of_lt (by omega)
  rw [distance_eq, distance_eq, Nat.mod_mod, hnext]
  split_ifs <;> omega

/-- No more than `n - 1` turns pass between two turns of the client, or before its first. -/
theorem Serves.length_le {v : Fin n} {start : Nat} {served : List (Fin n)}
    (h : Serves v start served) :
    served.length ≤ n * served.count v + distance v start := by
  induction served generalizing start with
  | nil => exact Nat.zero_le _
  | cons u served ih =>
      obtain ⟨hturn, hrest⟩ := h
      have hle := ih hrest
      by_cases hu : u = v
      case pos =>
        have hlt := distance_lt v ((start + 1) % n)
        rw [hu, List.count_cons_self, List.length_cons, Nat.mul_succ]
        omega
      case neg =>
        have hnext := distance_next fun hstart => hu (hturn hstart)
        rw [List.count_cons_of_ne hu, List.length_cons, hnext]
        omega

end RoundRobin
