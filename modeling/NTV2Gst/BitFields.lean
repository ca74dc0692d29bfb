import Mathlib.Data.Nat.Notation
import Mathlib.Tactic.Common

/-!
# Fields of a machine word

A field is some bits of a word from an offset on. Reading and writing are given on whole
words, as a program does it with masks and shifts, and are compared bit by bit.
-/
namespace BitFields

structure Field where
  offset : ℕ
  width : ℕ
  deriving DecidableEq, Repr

variable {n : ℕ} {f g : Field}

def Field.Within (f : Field) (n : ℕ) : Prop := f.offset + f.width ≤ n

/-- The two fields have no bit in common. -/
def Field.Apart (f g : Field) : Prop :=
  f.offset + f.width ≤ g.offset ∨ g.offset + g.width ≤ f.offset

instance (f : Field) (n : ℕ) : Decidable (f.Within n) := inferInstanceAs (Decidable (_ ≤ _))

instance (f g : Field) : Decidable (f.Apart g) := inferInstanceAs (Decidable (_ ∨ _))

def Field.read (f : Field) (w : BitVec n) : BitVec f.width := w.extractLsb' f.offset f.width

def Field.mask (f : Field) (n : ℕ) : BitVec n := (BitVec.allOnes f.width).setWidth n <<< f.offset

def Field.write (f : Field) (v : BitVec f.width) (w : BitVec n) : BitVec n :=
  (w &&& ~~~ f.mask n) ||| v.setWidth n <<< f.offset

theorem read_bit (f : Field) (w : BitVec n) (i : ℕ) :
    (f.read w).getLsbD i = (decide (i < f.width) && w.getLsbD (f.offset + i)) := by
  simp [Field.read]

theorem mask_bit (f : Field) (n i : ℕ) :
    (f.mask n).getLsbD i =
      (decide (i < n) && decide (f.offset ≤ i) && decide (i < f.offset + f.width)) := by
  unfold Field.mask
  rw [BitVec.getLsbD_shiftLeft, BitVec.getLsbD_setWidth, BitVec.getLsbD_allOnes]
  by_cases hn : i < n <;> by_cases ho : f.offset ≤ i
  · have hsub : i - f.offset < n := by omega
    have hw : i - f.offset < f.width ↔ i < f.offset + f.width := by omega
    simp [hn, ho, hsub, hw]
  all_goals simp [hn, ho]

theorem write_bit (f : Field) (v : BitVec f.width) (w : BitVec n) (i : ℕ) :
    (f.write v w).getLsbD i =
      if f.offset ≤ i ∧ i < f.offset + f.width then decide (i < n) && v.getLsbD (i - f.offset)
      else w.getLsbD i := by
  unfold Field.write
  rw [BitVec.getLsbD_or, BitVec.getLsbD_and, BitVec.getLsbD_not, mask_bit, BitVec.getLsbD_shiftLeft,
    BitVec.getLsbD_setWidth]
  by_cases hn : i < n
  swap
  · simp [hn, BitVec.getLsbD_of_ge w i (Nat.le_of_not_lt hn)]
  have hsub : i - f.offset < n := Nat.lt_of_le_of_lt (Nat.sub_le i f.offset) hn
  by_cases ho : f.offset ≤ i
  · by_cases hw : i < f.offset + f.width
    · simp [hn, ho, hw, hsub, Nat.not_lt.mpr ho]
    · have hv : v.getLsbD (i - f.offset) = false := BitVec.getLsbD_of_ge _ _ (by omega)
      simp [hn, hw, hv]
  · simp [hn, ho, Nat.lt_of_not_le ho]

/-! ## Reading what was written -/

theorem read_write_same (h : f.Within n) (v : BitVec f.width) (w : BitVec n) :
    f.read (f.write v w) = v := by
  refine BitVec.eq_of_getLsbD_eq fun i hi => ?_
  have hn : f.offset + i < n := Nat.lt_of_lt_of_le (Nat.add_lt_add_left hi _) h
  rw [read_bit, write_bit, if_pos ⟨Nat.le_add_right _ _, Nat.add_lt_add_left hi _⟩,
    Nat.add_sub_cancel_left]
  simp [hi, hn]

theorem read_write_apart (h : f.Apart g) (v : BitVec f.width) (w : BitVec n) :
    g.read (f.write v w) = g.read w := by
  refine BitVec.eq_of_getLsbD_eq fun i hi => ?_
  have hout : ¬ (f.offset ≤ g.offset + i ∧ g.offset + i < f.offset + f.width) := by
    rcases h with h | h <;> omega
  rw [read_bit, read_bit, write_bit, if_neg hout]

theorem write_read_same (f : Field) (w : BitVec n) : f.write (f.read w) w = w := by
  refine BitVec.eq_of_getLsbD_eq fun i hi => ?_
  rw [write_bit]
  split
  case isTrue h =>
    have hi' : i - f.offset < f.width := by omega
    rw [read_bit, Nat.add_sub_cancel' h.1]
    simp [hi, hi']
  case isFalse => rfl

/-! ## Masks and shifts -/

theorem shift_mask (f : Field) (w : BitVec n) :
    (w >>> f.offset) &&& (BitVec.allOnes f.width).setWidth n = (f.read w).setWidth n := by
  refine BitVec.eq_of_getLsbD_eq fun i hi => ?_
  rw [BitVec.getLsbD_and, BitVec.getLsbD_ushiftRight, BitVec.getLsbD_setWidth,
    BitVec.getLsbD_setWidth, BitVec.getLsbD_allOnes, read_bit]
  simp [hi, Bool.and_comm]

theorem and_shift_left (w m : BitVec n) (k : ℕ) : w &&& m <<< k = ((w >>> k) &&& m) <<< k := by
  refine BitVec.eq_of_getLsbD_eq fun i hi => ?_
  rw [BitVec.getLsbD_and, BitVec.getLsbD_shiftLeft, BitVec.getLsbD_shiftLeft, BitVec.getLsbD_and,
    BitVec.getLsbD_ushiftRight]
  by_cases hk : i < k
  · simp [hk]
  · simp [hi, hk, Nat.add_sub_cancel' (Nat.le_of_not_lt hk)]

theorem shift_truncate (f : Field) (w : BitVec n) :
    (w >>> f.offset).setWidth f.width = f.read w := by
  refine BitVec.eq_of_getLsbD_eq fun i hi => ?_
  rw [BitVec.getLsbD_setWidth, BitVec.getLsbD_ushiftRight, read_bit]

theorem mask_shift (f : Field) (w : BitVec n) :
    (w &&& f.mask n) >>> f.offset = (f.read w).setWidth n := by
  refine BitVec.eq_of_getLsbD_eq fun i hi => ?_
  rw [BitVec.getLsbD_ushiftRight, BitVec.getLsbD_and, mask_bit, BitVec.getLsbD_setWidth, read_bit]
  by_cases hn : f.offset + i < n
  · simp [hi, hn, Bool.and_comm]
  · simp [BitVec.getLsbD_of_ge w _ (Nat.le_of_not_lt hn)]

theorem mask_low (f : Field) (h : f.offset = 0) (w : BitVec n) :
    w &&& f.mask n = (f.read w).setWidth n := by
  rw [← mask_shift f w, h, BitVec.ushiftRight_zero]

theorem set_width_read_to_nat (h : f.Within n) (w : BitVec n) :
    ((f.read w).setWidth n).toNat = (f.read w).toNat := by
  have hle : f.width ≤ n := Nat.le_trans (Nat.le_add_left _ _) h
  rw [BitVec.toNat_setWidth, Nat.mod_eq_of_lt]
  exact Nat.lt_of_lt_of_le (f.read w).isLt (Nat.pow_le_pow_right (by decide) hle)

end BitFields
