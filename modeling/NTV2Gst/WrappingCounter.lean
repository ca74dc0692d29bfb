import Mathlib.Data.Nat.Notation

/-!
# Rebuilding a count from a counter that wraps

A reader sees a count only modulo `m` and adds up the differences of the readings. Each
time the reading falls it adds the distance to the end of the range and the new reading;
`slack` is what it misses there. Readings are less than `m` true steps apart.
-/
namespace WrappingCounter

def advance (m slack last seen : ℕ) : ℕ :=
  if seen < last then m - slack - last + seen else seen - last

/-- What the reader has added up once the true count is `d`. -/
def rebuilt (m slack d : ℕ) : ℕ := d - slack * (d / m)

variable {m slack p d : ℕ}

theorem laps_cases (hm : 0 < m) (hp : p ≤ d) (hd : d - p < m) :
    d / m = p / m ∧ d % m = p % m + (d - p) ∨
      d / m = p / m + 1 ∧ d % m + m = p % m + (d - p) := by
  have hle : p / m ≤ d / m := Nat.div_le_div_right hp
  have hlt : d / m ≤ p / m + 1 := by
    calc d / m ≤ (p + m) / m := Nat.div_le_div_right (by omega)
      _ = p / m + 1 := Nat.add_div_right p hm
  have ep := Nat.div_add_mod p m
  have ed := Nat.div_add_mod d m
  by_cases h : d / m = p / m
  · left
    rw [h] at ed
    omega
  · right
    have h' : d / m = p / m + 1 := by omega
    rw [h', Nat.mul_succ] at ed
    omega

theorem missed_le (hs : slack ≤ 1) (n m : ℕ) : slack * (n / m) ≤ n := by
  calc slack * (n / m) ≤ 1 * (n / m) := Nat.mul_le_mul_right _ hs
    _ = n / m := Nat.one_mul _
    _ ≤ n := Nat.div_le_self n m

/-- A step of the reader keeps what it has added up equal to `rebuilt`. -/
theorem rebuilt_advance (hm : 0 < m) (hs : slack ≤ 1) (hp : p ≤ d) (hd : d - p < m) :
    rebuilt m slack p + advance m slack (p % m) (d % m) = rebuilt m slack d := by
  have hpm := Nat.mod_lt p hm
  have bp := missed_le hs p m
  have bd := missed_le hs d m
  unfold rebuilt advance
  rcases laps_cases hm hp hd with ⟨hq, hr⟩ | ⟨hq, hr⟩
  · rw [if_neg (by omega), hq]
    omega
  · rw [if_pos (by omega), hq, Nat.mul_add]
    rw [hq, Nat.mul_add] at bd
    omega

theorem rebuilt_eq_iff (hm : 0 < m) : rebuilt m 1 d = d ↔ d < m := by
  have hd := Nat.div_le_self d m
  unfold rebuilt
  rw [← Nat.div_eq_zero_iff_lt hm]
  omega

theorem reading_changed_iff (hm : 0 < m) (hp : p ≤ d) (hd : d - p < m) :
    d % m ≠ p % m ↔ d ≠ p := by
  have hpm := Nat.mod_lt p hm
  rcases laps_cases hm hp hd with ⟨-, hr⟩ | ⟨-, hr⟩ <;> omega

end WrappingCounter
