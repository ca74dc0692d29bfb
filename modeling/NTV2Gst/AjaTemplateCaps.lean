import Mathlib.Tactic.Common
import NTV2Gst.GstAjaModes

/-!
# The caps of the pad template

The template lists the structures of the modes without their colorimetry. With NVMM an RGBA
mode is listed a second time, with the memory feature on the copy. The loop over the table
keeps its own index into the caps to set that feature.
-/
namespace AjaTemplateCaps

open GstAjaModes

inductive GstValue where
  | string (s : String)
  | int (n : ℕ)
  | fraction (n d : ℕ)
  deriving DecidableEq, Repr

/-- A fraction is stored in lowest terms. -/
def GstValue.reduced (n d : ℕ) : GstValue := .fraction (n / n.gcd d) (d / n.gcd d)

abbrev Fields := List (String × GstValue)

def fields (s : GstStructure) : Fields :=
  [("format", .string s.format), ("width", .int s.width), ("height", .int s.height),
    ("framerate", .reduced s.fpsN s.fpsD), ("interlace-mode", .string s.interlaceMode),
    ("pixel-aspect-ratio", .reduced s.parN s.parD), ("colorimetry", .string s.colorimetry),
    ("chroma-site", .string s.chromaSite)] ++
  s.fieldOrder.toList.map fun order => ("field-order", .string order)

def removeField (s : Fields) (name : String) : Fields := s.filter (·.1 ≠ name)

/-- A structure in caps, with or without the feature `memory:NVMM`. -/
structure CapsEntry where
  content : Fields
  nvmm : Bool
  deriving DecidableEq, Repr

def appendStructure (caps : List CapsEntry) (s : Fields) : List CapsEntry := caps ++ [⟨s, false⟩]

/-- `gst_caps_set_features` with `memory:NVMM`. -/
def setFeatures (caps : List CapsEntry) (i : ℕ) : List CapsEntry :=
  caps.modify i fun entry => { entry with nvmm := true }

def bareStructure (mode : GstAjaMode) : Fields :=
  removeField (fields mode.structureRaw) "colorimetry"

def templateStep (enableNvmm : Bool) (table : List GstAjaMode) (r : List CapsEntry × ℕ) (i : ℕ) :
    List CapsEntry × ℕ :=
  match table[i]? with
  | none => r
  | some mode =>
    let caps := appendStructure r.1 (bareStructure mode)
    let numCaps := r.2 + 1
    if enableNvmm && mode.isRGBA then
      (setFeatures (appendStructure caps (bareStructure mode)) numCaps, numCaps + 1)
    else (caps, numCaps)

/-- The loop starts at index 1. -/
def templateCapsRaw (enableNvmm : Bool) (table : List GstAjaMode) : List CapsEntry :=
  ((List.range' 1 (table.length - 1)).foldl (templateStep enableNvmm table) ([], 0)).1

def modeCaps (mode : GstAjaMode) (isNvmm : Bool) : List CapsEntry :=
  [⟨fields (mode.capsRaw isNvmm).content, (mode.capsRaw isNvmm).nvmm⟩]

/-- `gst_caps_is_subset` on fixed values: every structure has all fields of some structure
with the same features. -/
def CapsSubset (caps superset : List CapsEntry) : Prop :=
  ∀ a ∈ caps, ∃ b ∈ superset, a.nvmm = b.nvmm ∧ ∀ field ∈ b.content, field ∈ a.content

instance (caps superset : List CapsEntry) : Decidable (CapsSubset caps superset) :=
  inferInstanceAs (Decidable (∀ a ∈ caps, ∃ b ∈ superset, _ ∧ ∀ field ∈ b.content, _))

/-! ## The loop -/

def modeEntries (enableNvmm : Bool) (mode : GstAjaMode) : List CapsEntry :=
  ⟨bareStructure mode, false⟩ ::
    if enableNvmm && mode.isRGBA then [⟨bareStructure mode, true⟩] else []

section Loop

variable {enableNvmm : Bool} {table : List GstAjaMode}

theorem set_features_last (caps : List CapsEntry) (s : Fields) :
    setFeatures (appendStructure caps s) caps.length = caps ++ [⟨s, true⟩] := by
  induction caps with
  | nil => rfl
  | cons entry caps ih =>
    simp only [setFeatures, appendStructure] at ih ⊢
    simp only [List.cons_append, List.length_cons, List.modify_succ_cons, ih]

/-- The running index is the number of caps, so the feature lands on the copy. -/
theorem template_step_eq {i : ℕ} {mode : GstAjaMode} (h : table[i]? = some mode)
    (caps : List CapsEntry) :
    templateStep enableNvmm table (caps, caps.length) i =
      (caps ++ modeEntries enableNvmm mode,
        (caps ++ modeEntries enableNvmm mode).length) := by
  have hlen : (appendStructure caps (bareStructure mode)).length = caps.length + 1 := by
    simp [appendStructure]
  have hlast := set_features_last (appendStructure caps (bareStructure mode)) (bareStructure mode)
  rw [hlen] at hlast
  simp only [templateStep, h, modeEntries, hlast]
  by_cases hn : (enableNvmm && mode.isRGBA) = true
  · simp [hn, appendStructure]
  · simp [hn, appendStructure]

theorem template_loop (enableNvmm : Bool) (table : List GstAjaMode) (n : ℕ)
    (h : n + 1 ≤ table.length) :
    (List.range' 1 n).foldl (templateStep enableNvmm table) ([], 0) =
      (((table.drop 1).take n).flatMap (modeEntries enableNvmm),
        (((table.drop 1).take n).flatMap (modeEntries enableNvmm)).length) := by
  induction n with
  | zero => rfl
  | succ n ih =>
    have hget : table[1 + n]? = some table[1 + n] := List.getElem?_eq_getElem (by omega)
    have htake : (table.drop 1).take (n + 1) = (table.drop 1).take n ++ [table[1 + n]] := by
      rw [List.take_add_one, List.getElem?_drop, hget, Option.toList_some]
    rw [List.range'_concat, List.foldl_append, ih (by omega), Nat.one_mul, List.foldl_cons,
      List.foldl_nil, template_step_eq hget, htake, List.flatMap_append, List.flatMap_singleton]

theorem template_eq (enableNvmm : Bool) (table : List GstAjaMode) :
    templateCapsRaw enableNvmm table = table.tail.flatMap (modeEntries enableNvmm) := by
  cases table with
  | nil => rfl
  | cons mode table =>
    have hloop := template_loop enableNvmm (mode :: table) table.length (by simp)
    simp only [List.drop_one, List.tail_cons, List.take_length] at hloop
    simp only [templateCapsRaw, List.length_cons, Nat.add_sub_cancel, hloop, List.tail_cons]

end Loop

/-! ## Coverage -/

theorem format_rgba_iff (mode : GstAjaMode) :
    mode.structureRaw.format = "RGBA" ↔ mode.isRGBA = true := by
  simp only [GstAjaMode.structureRaw]
  cases mode.isRGBA
  · by_cases hd : mode.bitDepth = 8 <;> simp [hd]
  · simp

theorem interlace_mode_iff (mode : GstAjaMode) :
    mode.structureRaw.interlaceMode = "interleaved" ↔ mode.isInterlaced = true := by
  cases h : mode.isInterlaced <;> simp [GstAjaMode.structureRaw, h]

theorem field_order_none {mode : GstAjaMode} (h : ¬ mode.isInterlaced = true) :
    mode.structureRaw.fieldOrder = none := if_neg h

theorem field_order_some {mode : GstAjaMode} (h : mode.isInterlaced = true) :
    ∃ order, mode.structureRaw.fieldOrder = some order := ⟨_, if_pos h⟩

/-- A structure of the template has the fields of a mode only if it is that mode's own. -/
theorem bare_subset_iff (a b : GstAjaMode) :
    (∀ field ∈ bareStructure b, field ∈ fields a.structureRaw) ↔
      bareStructure b = bareStructure a := by
  constructor
  · intro h
    have hmode : b.structureRaw.interlaceMode = a.structureRaw.interlaceMode := by
      simpa [fields] using h ("interlace-mode", .string b.structureRaw.interlaceMode)
        (by simp [bareStructure, removeField, fields])
    have horder : b.structureRaw.fieldOrder = a.structureRaw.fieldOrder := by
      by_cases hi : b.isInterlaced = true
      · have hi' : a.isInterlaced = true := by
          rw [← interlace_mode_iff, ← hmode, interlace_mode_iff]
          exact hi
        obtain ⟨order, ho⟩ := field_order_some hi
        obtain ⟨order', ho'⟩ := field_order_some hi'
        have hmem := h ("field-order", .string order)
          (by simp [bareStructure, removeField, fields, ho])
        rw [ho, ho']
        simpa [fields, ho'] using hmem
      · have hi' : ¬ a.isInterlaced = true := by
          rw [← interlace_mode_iff, ← hmode, interlace_mode_iff]
          exact hi
        rw [field_order_none hi, field_order_none hi']
    simpa [bareStructure, removeField, fields, horder] using h
  · intro h field hfield
    rw [h] at hfield
    exact (List.mem_filter.mp hfield).1

theorem rgba_of_bare {a b : GstAjaMode} (h : bareStructure b = bareStructure a) :
    b.isRGBA = a.isRGBA := by
  have hformat : b.structureRaw.format = a.structureRaw.format := by
    have hmem := (bare_subset_iff a b).mpr h ("format", .string b.structureRaw.format)
      (by simp [bareStructure, removeField, fields])
    simpa [fields] using hmem
  rw [Bool.eq_iff_iff, ← format_rgba_iff, ← format_rgba_iff, hformat]

section Coverage

variable {enableNvmm : Bool} {table : List GstAjaMode} {mode : GstAjaMode}

theorem mem_template_iff {entry : CapsEntry} :
    entry ∈ templateCapsRaw enableNvmm table ↔
      ∃ other ∈ table.tail, entry.content = bareStructure other ∧
        (entry.nvmm = true → enableNvmm = true ∧ other.isRGBA = true) := by
  obtain ⟨content, nvmm⟩ := entry
  rw [template_eq, List.mem_flatMap]
  refine exists_congr fun other => and_congr_right fun _ => ?_
  cases nvmm <;> simp [modeEntries, and_comm]

theorem mode_subset_iff (isNvmm : Bool) :
    CapsSubset (modeCaps mode isNvmm) (templateCapsRaw enableNvmm table) ↔
      ∃ other ∈ table.tail, bareStructure other = bareStructure mode ∧
        (isNvmm = true → enableNvmm = true ∧ mode.isRGBA = true) := by
  simp only [CapsSubset, modeCaps, List.forall_mem_singleton]
  constructor
  · rintro ⟨entry, hentry, hn, hsub⟩
    obtain ⟨other, hother, hcontent, hnvmm⟩ := mem_template_iff.mp hentry
    rw [hcontent] at hsub
    have heq := (bare_subset_iff mode other).mp hsub
    refine ⟨other, hother, heq, ?_⟩
    intro hisn
    rw [← rgba_of_bare heq]
    exact hnvmm (hn.symm.trans hisn)
  · rintro ⟨other, hother, heq, hnvmm⟩
    refine ⟨⟨bareStructure other, isNvmm⟩, ?_, rfl, (bare_subset_iff mode other).mpr heq⟩
    rw [mem_template_iff]
    refine ⟨other, hother, rfl, ?_⟩
    rw [rgba_of_bare heq]
    exact hnvmm

end Coverage

def fullTemplate (enableNvmm : Bool) (table : List GstAjaMode) : List CapsEntry :=
  table.flatMap (modeEntries enableNvmm)

structure Covered (enableNvmm : Bool) (table : List GstAjaMode) (mode : GstAjaMode) : Prop where
  system : CapsSubset (modeCaps mode false) (templateCapsRaw enableNvmm table)
  nvmm : enableNvmm = true → mode.isRGBA = true →
    CapsSubset (modeCaps mode true) (templateCapsRaw enableNvmm table)

theorem template_full_iff (enableNvmm : Bool) (table : List GstAjaMode) :
    templateCapsRaw enableNvmm table = fullTemplate enableNvmm table ↔ table = [] := by
  rw [template_eq, fullTemplate]
  cases table with
  | nil => simp
  | cons mode table =>
    simp only [List.tail_cons, List.flatMap_cons, reduceCtorEq, iff_false]
    intro h
    have hlen := congrArg List.length h
    have hpos : 0 < (modeEntries enableNvmm mode).length := by simp [modeEntries]
    rw [List.length_append] at hlen
    omega

theorem covered_iff (enableNvmm : Bool) (table : List GstAjaMode) (mode : GstAjaMode) :
    Covered enableNvmm table mode ↔
      ∃ other ∈ table.tail, bareStructure other = bareStructure mode := by
  constructor
  · intro h
    obtain ⟨other, hother, heq, -⟩ := (mode_subset_iff false).mp h.system
    exact ⟨other, hother, heq⟩
  · rintro ⟨other, hother, heq⟩
    constructor
    · exact (mode_subset_iff false).mpr ⟨other, hother, heq, by simp⟩
    · intro hn hr
      exact (mode_subset_iff true).mpr ⟨other, hother, heq, fun _ => ⟨hn, hr⟩⟩

/-- Only an empty table is listed in full. A mode is covered unless it is the first of the
table and no later mode has its structure. -/
theorem template_covers_iff (enableNvmm : Bool) (table : List GstAjaMode) :
    (templateCapsRaw enableNvmm table = fullTemplate enableNvmm table ↔ table = []) ∧
    ∀ e : Fin table.length, Covered enableNvmm table table[e] ↔
      0 < e.val ∨ ∃ other ∈ table.tail, bareStructure other = bareStructure table[e] := by
  refine ⟨template_full_iff enableNvmm table, ?_⟩
  intro e
  rw [covered_iff]
  constructor
  · exact Or.inr
  · rintro (hpos | hother)
    · refine ⟨table[e], ?_, rfl⟩
      cases table with
      | nil => exact e.elim0
      | cons first table =>
        obtain ⟨_ | i, hi⟩ := e
        · exact absurd hpos (by simp)
        · exact List.getElem_mem (by simpa using hi)
    · exact hother

/-- The template of the shipped table does not admit its first mode. -/
theorem first_mode_not_covered : ¬ ∀ enableNvmm table,
    templateCapsRaw enableNvmm table = fullTemplate enableNvmm table ∧
    ∀ mode ∈ table, Covered enableNvmm table mode := by
  intro h
  obtain ⟨other, hother, heq⟩ := (covered_iff false modesRaw _).mp
    ((h false modesRaw).2 (ntsc .format525_2398 720 486 8 yuv 24000 1001 true true)
      (List.mem_cons_self ..))
  have hne : ∀ other ∈ modesRaw.tail, bareStructure other ≠
      bareStructure (ntsc .format525_2398 720 486 8 yuv 24000 1001 true true) := by
    decide +kernel
  exact hne other hother heq

end AjaTemplateCaps
