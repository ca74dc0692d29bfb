import NTV2Gst.BitFields
import NTV2Gst.AjaVideoSetup

/-!
# The colours of a video payload identifier

`ACInputWorker` reads transfer characteristics, colorimetry and range of a frame off the
payload identifier of its first SDI link. The first byte names the standard, and with it
where the others are.
-/
namespace AjaVpid

open BitFields AjaVideoSetup

structure Colors where
  transferCharacteristics : ℕ
  colorimetry : ℕ
  fullRange : Bool
  deriving DecidableEq, Repr

def Colors.unknown : Colors := ⟨3, 3, false⟩

/-! ## As the worker decodes it -/

/-- ST 292-1, ST 425-1. -/
def st292 : List (BitVec 8) := [0x85, 0x8C]

/-- ST 372, ST 425-1, ST 425-3, ST 425-5, ST 425-6. -/
def st372 : List (BitVec 8) := [0x87, 0x8A, 0x95, 0x96, 0x98, 0x9A, 0x9B]

/-- ST 425, ST 2081 and ST 2082, with the colorimetry in adjacent bits. -/
def st2081 : List (BitVec 8) :=
  [0x88, 0x89, 0x94, 0x97, 0x99, 0xC0, 0xC2, 0xF3, 0xC4, 0xC5, 0xCE, 0xCF, 0xD0, 0xD1, 0xD2, 0xD3]

/-- ST 2036-3, ST 2036-4, ST 2081-10. -/
def st2036 : List (BitVec 8) := [0xA1, 0xA2, 0xA5, 0xA6, 0xC1]

def splitColorimetry (vpidA : BitVec 32) : ℕ :=
  let colorimetry := (vpidA >>> 12) &&& 0x09#32
  if colorimetry = 0x00#32 then 0
  else if colorimetry = 0x01#32 then 1
  else if colorimetry = 0x08#32 then 2
  else 3

def transferCharacteristics (vpidA : BitVec 32) : ℕ := ((vpidA >>> 20) &&& 0x03#32).toNat

def fullRange (vpidA : BitVec 32) : Bool := vpidA &&& 0x03#32 = 0x00 || vpidA &&& 0x03#32 = 0x03

/-- The switch on the first byte. The remaining bytes of the switch carry no information and
fall together with the unknown ones. -/
def currentColors (vpidA : BitVec 32) : Colors :=
  let identifier := (vpidA >>> 24).setWidth 8
  if identifier ∈ st292 then
    ⟨transferCharacteristics vpidA, splitColorimetry vpidA, vpidA &&& 0x02#32 = 0x02⟩
  else if identifier ∈ st372 then
    ⟨transferCharacteristics vpidA, splitColorimetry vpidA, fullRange vpidA⟩
  else if identifier ∈ st2081 then
    ⟨transferCharacteristics vpidA, ((vpidA >>> 12) &&& 0x03#32).toNat, fullRange vpidA⟩
  else if identifier ∈ st2036 then ⟨transferCharacteristics vpidA, 3, fullRange vpidA⟩
  else .unknown

/-- Only SDI has identifiers, `0` stands for none, and historical ones without the top bit
say nothing about colours. -/
def vpidColors (videoSource : NTV2InputSource) (vpidA : BitVec 32) : Colors :=
  if videoSource = .sdi1 ∧ vpidA ≠ 0 then
    if vpidA &&& 0x80000000 ≠ 0 then currentColors vpidA else .unknown
  else .unknown

/-! ## As the standards lay it out -/

abbrev identifier : Field := ⟨24, 8⟩
abbrev transfer : Field := ⟨20, 2⟩
abbrev colors : Field := ⟨12, 2⟩
abbrev lowColor : Field := ⟨12, 1⟩
abbrev highColor : Field := ⟨15, 1⟩
abbrev range : Field := ⟨0, 2⟩

inductive ColorBits where
  | apart | adjacent | fixed
  deriving DecidableEq, Repr

/-- Where a standard keeps the colorimetry, and the values of its last two bits that mean
full range. -/
structure Layout where
  colorBits : ColorBits
  full : List (BitVec 2)

def layout (standard : BitVec 8) : Option Layout :=
  if standard ∈ st292 then some ⟨.apart, [2, 3]⟩
  else if standard ∈ st372 then some ⟨.apart, [0, 3]⟩
  else if standard ∈ st2081 then some ⟨.adjacent, [0, 3]⟩
  else if standard ∈ st2036 then some ⟨.fixed, [0, 3]⟩
  else none

def ColorBits.write (bits : ColorBits) (c : BitVec 2) (w : BitVec 32) : BitVec 32 :=
  match bits with
  | .apart => lowColor.write (c.extractLsb' 0 1) (highColor.write (c.extractLsb' 1 1) w)
  | .adjacent => colors.write c w
  | .fixed => w

def ColorBits.value (bits : ColorBits) (c : BitVec 2) : ℕ :=
  match bits with
  | .apart | .adjacent => c.toNat
  | .fixed => 3

/-- What a sender puts into an identifier of a standard; `rest` has all other bits. -/
def writeVpid (standard : BitVec 8) (t c r : BitVec 2) (rest : BitVec 32) : BitVec 32 :=
  identifier.write standard (transfer.write t (range.write r
    (match layout standard with
      | some l => l.colorBits.write c rest
      | none => rest)))

def declared (standard : BitVec 8) (t c r : BitVec 2) : Colors :=
  match layout standard with
  | some l => ⟨t.toNat, l.colorBits.value c, decide (r ∈ l.full)⟩
  | none => .unknown

/-! ## The decoder in terms of the fields -/

def ColorBits.read (bits : ColorBits) (w : BitVec 32) : ℕ :=
  match bits with
  | .apart => (lowColor.read w).toNat + 2 * (highColor.read w).toNat
  | .adjacent => (colors.read w).toNat
  | .fixed => 3

theorem transfer_characteristics_eq (w : BitVec 32) :
    transferCharacteristics w = (transfer.read w).toNat :=
  (congrArg BitVec.toNat (shift_mask transfer w)).trans (set_width_read_to_nat (by decide) w)

theorem adjacent_eq (w : BitVec 32) : ((w >>> 12) &&& 0x03#32).toNat = (colors.read w).toNat :=
  (congrArg BitVec.toNat (shift_mask colors w)).trans (set_width_read_to_nat (by decide) w)

theorem split_bits (w : BitVec 32) :
    (w >>> 12) &&& 0x09#32 =
      (lowColor.read w).setWidth 32 ||| (highColor.read w).setWidth 32 <<< 3 := by
  rw [← shift_mask lowColor w, ← shift_mask highColor w,
    show (0x09#32) = 0x01#32 ||| 0x01#32 <<< 3 by decide, BitVec.and_or_distrib_left,
    and_shift_left, ← BitVec.shiftRight_add]
  rfl

theorem split_colorimetry_eq (w : BitVec 32) :
    splitColorimetry w = (lowColor.read w).toNat + 2 * (highColor.read w).toNat := by
  have value : ∀ l h : BitVec 1,
      (if l.setWidth 32 ||| h.setWidth 32 <<< 3 = 0x00#32 then 0
        else if l.setWidth 32 ||| h.setWidth 32 <<< 3 = 0x01#32 then 1
        else if l.setWidth 32 ||| h.setWidth 32 <<< 3 = 0x08#32 then 2
        else 3) = l.toNat + 2 * h.toNat := by
    decide
  simp only [splitColorimetry, split_bits]
  exact value (lowColor.read w) (highColor.read w)

theorem low_bits (w : BitVec 32) : w &&& 0x03#32 = (range.read w).setWidth 32 :=
  mask_low range rfl w

theorem full_range_eq (w : BitVec 32) : fullRange w = decide (range.read w ∈ [0, 3]) := by
  have value : ∀ r : BitVec 2,
      (decide (r.setWidth 32 = 0x00#32) || decide (r.setWidth 32 = 0x03#32)) =
        decide (r ∈ [(0 : BitVec 2), 3]) := by
    decide
  rw [fullRange, low_bits]
  exact value (range.read w)

theorem one_bit_range_eq (w : BitVec 32) :
    decide (w &&& 0x02#32 = 0x02) = decide (range.read w ∈ [2, 3]) := by
  have value : ∀ r : BitVec 2,
      decide (r.setWidth 32 &&& 0x02#32 = 0x02) = decide (r ∈ [(2 : BitVec 2), 3]) := by
    decide
  rw [show (0x02#32) = 0x03#32 &&& 0x02#32 by decide, ← BitVec.and_assoc, low_bits]
  exact value (range.read w)

theorem current_colors_eq (w : BitVec 32) :
    currentColors w = match layout (identifier.read w) with
      | some l => ⟨(transfer.read w).toNat, l.colorBits.read w, decide (range.read w ∈ l.full)⟩
      | none => .unknown := by
  have hid : (w >>> 24).setWidth 8 = identifier.read w := shift_truncate identifier w
  simp only [currentColors, layout, hid, transfer_characteristics_eq, split_colorimetry_eq,
    adjacent_eq, full_range_eq, one_bit_range_eq]
  split_ifs <;> rfl

/-- Every standard that says something about colours has the top bit. -/
theorem layout_top_bit {standard : BitVec 8} (h : (layout standard).isSome) :
    standard.getLsbD 7 = true := by
  have listed : ∀ b ∈ st292 ++ st372 ++ st2081 ++ st2036, b.getLsbD 7 = true := by decide
  refine listed standard ?_
  unfold layout at h
  split_ifs at h <;> simp_all

theorem vpid_colors_sdi (w : BitVec 32) : vpidColors .sdi1 w = currentColors w := by
  have unknown : w.getLsbD 31 = false → currentColors w = .unknown := by
    intro hbit
    have hid : (identifier.read w).getLsbD 7 = false := by
      rw [read_bit, show identifier.offset + 7 = 31 from rfl, hbit, Bool.and_false]
    rw [current_colors_eq]
    cases hl : layout (identifier.read w) with
    | none => rfl
    | some l =>
      have htop := layout_top_bit (Option.isSome_iff_exists.mpr ⟨l, hl⟩)
      rw [hid] at htop
      cases htop
  unfold vpidColors
  split
  case isFalse h =>
    have hw : w = 0 := by simpa using h
    exact (unknown (by rw [hw]; rfl)).symm
  case isTrue =>
    split
    case isTrue => rfl
    case isFalse h =>
      refine (unknown ?_).symm
      have hbit := congrArg (BitVec.getLsbD · 31) (not_not.mp h)
      simpa using hbit

/-! ## What a sender declares is what the worker reads -/

theorem color_bits_read_write (bits : ColorBits) (c : BitVec 2) (w : BitVec 32) :
    bits.read (bits.write c w) = bits.value c := by
  cases bits with
  | apart =>
    have value : ∀ c : BitVec 2, (c.extractLsb' 0 1).toNat + 2 * (c.extractLsb' 1 1).toNat =
        c.toNat := by
      decide
    simp only [ColorBits.read, ColorBits.write]
    rw [read_write_same (by decide), read_write_apart (by decide), read_write_same (by decide)]
    exact value c
  | adjacent =>
    simp only [ColorBits.read, ColorBits.write]
    rw [read_write_same (by decide)]
    rfl
  | fixed => rfl

theorem color_bits_read_apart (bits : ColorBits) {f : Field} (hl : f.Apart lowColor)
    (hh : f.Apart highColor) (hc : f.Apart colors) (v : BitVec f.width) (w : BitVec 32) :
    bits.read (f.write v w) = bits.read w := by
  cases bits <;> simp only [ColorBits.read, read_write_apart hl, read_write_apart hh,
    read_write_apart hc]

theorem color_bits_write_read (bits : ColorBits) (w : BitVec 32) :
    ∃ c, bits.write c w = w := by
  cases bits with
  | apart =>
    have parts : ∀ l h : BitVec 1, ∃ c : BitVec 2, c.extractLsb' 0 1 = l ∧
        c.extractLsb' 1 1 = h := by
      decide
    obtain ⟨c, hl, hh⟩ := parts (lowColor.read w) (highColor.read w)
    refine ⟨c, ?_⟩
    simp only [ColorBits.write]
    rw [hl, hh, write_read_same highColor w]
    exact write_read_same lowColor w
  | adjacent => exact ⟨colors.read w, write_read_same colors w⟩
  | fixed => exact ⟨0, rfl⟩

/-- The worker reads exactly what the standard lets a sender declare, whatever the other bits
are; and every word is one that some sender writes, so nothing else has any influence. -/
theorem vpid_round_trip :
    (∀ (standard : BitVec 8) (t c r : BitVec 2) (rest : BitVec 32),
      vpidColors .sdi1 (writeVpid standard t c r rest) = declared standard t c r) ∧
    ∀ w : BitVec 32, ∃ c,
      w = writeVpid (identifier.read w) (transfer.read w) c (range.read w) w := by
  constructor
  · intro standard t c r rest
    have hid : identifier.read (writeVpid standard t c r rest) = standard :=
      read_write_same (by decide) _ _
    have ht : transfer.read (writeVpid standard t c r rest) = t :=
      (read_write_apart (by decide) _ _).trans (read_write_same (by decide) _ _)
    have hr : range.read (writeVpid standard t c r rest) = r :=
      (read_write_apart (by decide) _ _).trans
        ((read_write_apart (by decide) _ _).trans (read_write_same (by decide) _ _))
    rw [vpid_colors_sdi, current_colors_eq, hid, ht, hr, declared]
    cases hl : layout standard with
    | none => rfl
    | some l =>
      have hc : l.colorBits.read (writeVpid standard t c r rest) = l.colorBits.value c := by
        simp only [writeVpid, hl]
        rw [color_bits_read_apart _ (by decide) (by decide) (by decide),
          color_bits_read_apart _ (by decide) (by decide) (by decide),
          color_bits_read_apart _ (by decide) (by decide) (by decide), color_bits_read_write]
      simp only [hc]
  · intro w
    cases hl : layout (identifier.read w) with
    | none =>
      refine ⟨0, ?_⟩
      simp only [writeVpid, hl]
      rw [write_read_same range w, write_read_same transfer w, write_read_same identifier w]
    | some l =>
      obtain ⟨c, hc⟩ := color_bits_write_read l.colorBits w
      refine ⟨c, ?_⟩
      simp only [writeVpid, hl, hc]
      rw [write_read_same range w, write_read_same transfer w, write_read_same identifier w]

end AjaVpid
