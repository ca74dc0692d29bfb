import Mathlib.Data.Nat.Notation
import Mathlib.Data.List.Basic

/-!
# Views of a block

A view is a range of a block that carries the proof that it lies inside. A cut selects a part
of what a view shows, or all of it from an offset on. Cutting a view shows the same as
cutting what it showed, so a view reached by any chain of cuts shows the cuts one after the
other.
-/
namespace SliceViews

variable {α : Type*}

/-! ## Slices and cuts -/

def slice (offset size : ℕ) (xs : List α) : List α := (xs.drop offset).take size

/-- Read a range of a block; there is nothing to read outside of it. -/
def readAt (xs : List α) (offset size : ℕ) : Option (List α) :=
  if offset + size ≤ xs.length then some (slice offset size xs) else none

structure Cut where
  offset : ℕ
  size : Option ℕ
  deriving DecidableEq, Repr

def Cut.length (c : Cut) (n : ℕ) : ℕ := c.size.getD (n - c.offset)

def Cut.Within (c : Cut) (n : ℕ) : Prop := c.offset + c.length n ≤ n

instance (c : Cut) (n : ℕ) : Decidable (c.Within n) := inferInstanceAs (Decidable (_ ≤ _))

def Cut.apply (c : Cut) (xs : List α) : List α := slice c.offset (c.length xs.length) xs

def cutAll (cs : List Cut) (xs : List α) : List α := cs.foldl (fun ys c => c.apply ys) xs

theorem cut_all_concat (cs : List Cut) (c : Cut) (xs : List α) :
    cutAll (cs ++ [c]) xs = c.apply (cutAll cs xs) := by
  simp [cutAll]

theorem slice_length {offset size : ℕ} {xs : List α} (h : offset + size ≤ xs.length) :
    (slice offset size xs).length = size := by
  simp only [slice, List.length_take, List.length_drop]
  omega

theorem slice_slice {offset size i n : ℕ} (xs : List α) (h : i + n ≤ size) :
    slice i n (slice offset size xs) = slice (offset + i) n xs := by
  simp only [slice, List.drop_take, List.drop_drop, List.take_take]
  rw [Nat.min_eq_left (by omega)]

theorem read_at_inside {offset size : ℕ} {xs : List α} (h : offset + size ≤ xs.length) :
    readAt xs offset size = some (slice offset size xs) := if_pos h

theorem read_at_length {offset size : ℕ} {xs ys : List α} (h : readAt xs offset size = some ys) :
    ys.length = size := by
  obtain ⟨hfit, h⟩ := Option.ite_none_right_eq_some.mp h
  obtain rfl := Option.some.inj h
  exact slice_length hfit

/-! ## Views -/

structure View (n : ℕ) where
  offset : ℕ
  size : ℕ
  inside : offset + size ≤ n

namespace View

variable {n : ℕ}

def seen (v : View n) (xs : List α) : List α := slice v.offset v.size xs

def cut (v : View n) (c : Cut) (h : c.Within v.size) : View n where
  offset := v.offset + c.offset
  size := c.length v.size
  inside := by
    have hc : c.offset + c.length v.size ≤ v.size := h
    have hv := v.inside
    omega

theorem seen_length (v : View n) {xs : List α} (h : xs.length = n) :
    (v.seen xs).length = v.size :=
  slice_length (h ▸ v.inside)

theorem read_seen (v : View n) {xs : List α} (h : xs.length = n) :
    readAt xs v.offset v.size = some (v.seen xs) :=
  read_at_inside (h ▸ v.inside)

theorem seen_cut (v : View n) {c : Cut} (hc : c.Within v.size) {xs : List α}
    (h : xs.length = n) : (v.cut c hc).seen xs = c.apply (v.seen xs) := by
  have hlen : (v.seen xs).length = v.size := v.seen_length h
  rw [Cut.apply, hlen]
  exact (slice_slice xs hc).symm

end View

end SliceViews
