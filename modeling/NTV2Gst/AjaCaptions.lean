import NTV2Gst.ResumedSearch
import NTV2Gst.AjaFrameCrop
import Mathlib.Data.Int.Notation
import Mathlib.Data.List.Induction

/-!
# Closed captions in the VANC lines

`extract_cc_from_vbi` searches the first 15 VANC lines for a CEA-708 packet, starting at the
line where it found the last one. The VBI parser is a parameter: the packets it returns from a
line before the end or an error.
-/
namespace AjaCaptions

open GstAjaModes AjaFrameCrop ResumedSearch

/-- The data are the `data_count` bytes in use. -/
structure GstVideoAncillary where
  did : UInt8
  sdidBlockNumber : UInt8
  data : List UInt8
  deriving DecidableEq, Repr

def GstVideoAncillary.did16 (anc : GstVideoAncillary) : UInt16 :=
  anc.did.toUInt16 <<< 8 ||| anc.sdidBlockNumber.toUInt16

def did16S334Eia708 : UInt16 := 0x6101

def GstVideoAncillary.isCdp (anc : GstVideoAncillary) : Bool := anc.did16 == did16S334Eia708

inductive GstVideoFormat where
  | uyvy | v210
  deriving DecidableEq, Repr

structure GstVideoVBIParser where
  format : GstVideoFormat
  pixelWidth : ℕ
  deriving DecidableEq, Repr

/-- The switch over the height: the bytes of a line and the parser for it. -/
def vbiParserNew (mode : GstAjaMode) : Option (ℕ × GstVideoVBIParser) :=
  if mode.height = 720 then
    if mode.bitDepth = 8 then some (1280 * 2, ⟨.uyvy, 1280⟩)
    else some (1296 * 16 / 6, ⟨.v210, 1280⟩)
  else if mode.height = 1080 then
    if mode.bitDepth = 8 then some (1920 * 2, ⟨.uyvy, 1920⟩)
    else some (1920 * 16 / 6, ⟨.v210, 1920⟩)
  else none

theorem mode_height {e : ℕ} {mode : GstAjaMode} (h : getModeRaw e = some mode) :
    (is720 mode.videoFormat = true → mode.height = 720) ∧
      (is1080 mode.videoFormat = true → mode.height = 1080) := by
  have htable : ∀ mode ∈ modesRaw, (is720 mode.videoFormat = true → mode.height = 720) ∧
      (is1080 mode.videoFormat = true → mode.height = 1080) := by decide +kernel
  exact htable mode (List.mem_of_getElem? h)

theorem linewidth_documented {raster : Raster} (hr : Documented raster) {e : ℕ}
    {mode : GstAjaMode} (h : getModeRaw e = some mode)
    (hvanc : containsVanc mode.videoFormat = true) (hyuv : mode.isRGBA = false) :
    (vbiParserNew mode).map (·.1) =
      some (raster.linePitch mode.videoFormat (pixelFormat mode.isRGBA mode.bitDepth)) := by
  obtain ⟨h720, h1080⟩ := mode_height h
  rcases Bool.or_eq_true_iff.mp hvanc with hf | hf
  · obtain ⟨h8, h10, -⟩ := hr.pitch_720 _ hf
    by_cases hd : mode.bitDepth = 8 <;>
      simp [vbiParserNew, pixelFormat, h720 hf, hyuv, hd, h8, h10]
  · obtain ⟨h8, h10, -⟩ := hr.pitch_1080 _ hf
    by_cases hd : mode.bitDepth = 8 <;>
      simp [vbiParserNew, pixelFormat, h1080 hf, hyuv, hd, h8, h10]

abbrev Parse := GstVideoVBIParser → List UInt8 → List GstVideoAncillary

def lineAncillary (parse : Parse) (parser : GstVideoVBIParser) (linewidth : ℕ)
    (ancillaryData : ℕ → UInt8) (pointer : ℕ) : List GstVideoAncillary :=
  parse parser ((List.range linewidth).map fun k => ancillaryData (pointer + k))

/-- The line and the packet of the search, and the pointers of all lines it has read. -/
structure Search where
  found : Option (ℕ × GstVideoAncillary)
  reads : List ℕ
  deriving DecidableEq, Repr

def searchLines (ancillaryAt : ℕ → List GstVideoAncillary) (linewidth : ℕ) :
    ℕ → ℕ → ℕ → Search
  | 0, _, _ => ⟨none, []⟩
  | remaining + 1, i, pointer =>
    match (ancillaryAt pointer).find? (·.isCdp) with
    | some anc => ⟨some (i, anc), [pointer]⟩
    | none =>
      let rest := searchLines ancillaryAt linewidth remaining (i + 1) (pointer + linewidth)
      { rest with reads := pointer :: rest.reads }

/-- The data of the caption metas added to the buffer, `last_cc_vbi_line` after the call and
the pointers of the lines read. -/
structure Extraction where
  captionMetas : List (List UInt8)
  lastCcVbiLine : ℤ
  reads : List ℕ
  deriving DecidableEq, Repr

/-- The sentinel starts from the first line. -/
def startLine (lastCcVbiLine : ℤ) : ℕ := if lastCcVbiLine = -1 then 0 else lastCcVbiLine.toNat

def extractCcFromVbi (parse : Parse) (lastCcVbiLine : ℤ) (mode : GstAjaMode)
    (ancillaryData : ℕ → UInt8) : Extraction :=
  match vbiParserNew mode with
  | none => ⟨[], lastCcVbiLine, []⟩
  | some (linewidth, parser) =>
    let i := startLine lastCcVbiLine
    let s := searchLines (lineAncillary parse parser linewidth ancillaryData) linewidth
      (15 - i) i (i * linewidth)
    match s.found with
    | some (line, anc) => ⟨[anc.data], line, s.reads⟩
    | none => ⟨[], -1, s.reads⟩

/-- A call from `create`, which resets the line first if it has set new caps. -/
structure Call where
  capsChanged : Bool
  mode : GstAjaMode
  ancillaryData : ℕ → UInt8

def Call.resumed (c : Call) (lastCcVbiLine : ℤ) : ℤ := if c.capsChanged then -1 else lastCcVbiLine

def Call.extract (parse : Parse) (lastCcVbiLine : ℤ) (c : Call) : Extraction :=
  extractCcFromVbi parse (c.resumed lastCcVbiLine) c.mode c.ancillaryData

structure GstAjaVideoSrc where
  lastCcVbiLine : ℤ
  foundAt : List ℕ
  deriving DecidableEq, Repr

def GstAjaVideoSrc.create (parse : Parse) (src : GstAjaVideoSrc) (c : Call) : GstAjaVideoSrc :=
  let x := c.extract parse src.lastCcVbiLine
  { lastCcVbiLine := x.lastCcVbiLine
    foundAt := if x.captionMetas = [] then src.foundAt
      else src.foundAt ++ [x.lastCcVbiLine.toNat] }

def after (parse : Parse) (calls : List Call) : GstAjaVideoSrc :=
  calls.foldl (GstAjaVideoSrc.create parse) ⟨0, []⟩

/-! ## What is promised -/

def Call.ancillary (parse : Parse) (c : Call) (line : ℕ) : List GstVideoAncillary :=
  match vbiParserNew c.mode with
  | none => []
  | some (linewidth, parser) =>
    lineAncillary parse parser linewidth c.ancillaryData (line * linewidth)

def Call.captionLine (parse : Parse) (c : Call) (line : ℕ) : Bool :=
  (c.ancillary parse line).any (·.isCdp)

/-- A supported mode, and captions in at least one of the first 15 lines. -/
structure Captioned (parse : Parse) (c : Call) : Prop where
  supported : (vbiParserNew c.mode).isSome
  lines : ∃ line < 15, c.captionLine parse line = true

structure ExtractsFirst (parse : Parse) (src : GstAjaVideoSrc) (c : Call) : Prop where
  behind : (c.extract parse src.lastCcVbiLine).captionMetas = [] →
    ∃ m, src.foundAt.getLast? = some m ∧
      ∀ line < 15, c.captionLine parse line = true → line < m
  first : ∀ data ∈ (c.extract parse src.lastCcVbiLine).captionMetas,
    (c.extract parse src.lastCcVbiLine).captionMetas = [data] ∧
      ∃ line < 15, startLine (c.resumed src.lastCcVbiLine) ≤ line ∧
        (∀ k, startLine (c.resumed src.lastCcVbiLine) ≤ k → k < line →
          c.captionLine parse k = false) ∧
        ((c.ancillary parse line).find? (·.isCdp)).map (·.data) = some data
  reads : ∀ pointer ∈ (c.extract parse src.lastCcVbiLine).reads,
    ∃ line < 15, ∃ linewidth parser,
      vbiParserNew c.mode = some (linewidth, parser) ∧ pointer = line * linewidth

structure MissesOneAtATime (parse : Parse) (earlier calls : List Call) : Prop where
  pairs : ∀ as bs c d, calls = as ++ c :: d :: bs →
    (c.extract parse (after parse (earlier ++ as)).lastCcVbiLine).captionMetas ≠ [] ∨
      (d.extract parse (after parse (earlier ++ as ++ [c])).lastCcVbiLine).captionMetas ≠ []
  each : ∀ as bs c, calls = as ++ c :: bs → ExtractsFirst parse (after parse (earlier ++ as)) c

section Search

variable (ancillaryAt : ℕ → List GstVideoAncillary) (linewidth : ℕ)

theorem search_lines_found (remaining i : ℕ) :
    (searchLines ancillaryAt linewidth remaining i (i * linewidth)).found =
      (firstFrom (fun line => (ancillaryAt (line * linewidth)).any (·.isCdp)) remaining i).bind
        fun line => ((ancillaryAt (line * linewidth)).find? (·.isCdp)).map fun anc =>
          (line, anc) := by
  induction remaining generalizing i with
  | zero => rfl
  | succ remaining ih =>
    cases hf : (ancillaryAt (i * linewidth)).find? (·.isCdp) with
    | some anc =>
      have hhit : (ancillaryAt (i * linewidth)).any (·.isCdp) = true :=
        List.any_eq_true.mpr ⟨anc, List.mem_of_find?_eq_some hf, List.find?_some hf⟩
      simp [searchLines, firstFrom, hf, hhit]
    | none =>
      have hmiss : (ancillaryAt (i * linewidth)).any (·.isCdp) = false :=
        List.any_eq_false.mpr (List.find?_eq_none.mp hf)
      have hrest := ih (i + 1)
      rw [Nat.add_one_mul] at hrest
      simp only [searchLines, firstFrom, hf, hmiss, hrest, Bool.false_eq_true, if_false]

theorem search_lines_reads {remaining i pointer : ℕ}
    (h : pointer ∈ (searchLines ancillaryAt linewidth remaining i (i * linewidth)).reads) :
    ∃ line, i ≤ line ∧ line < i + remaining ∧ pointer = line * linewidth := by
  induction remaining generalizing i with
  | zero => cases h
  | succ remaining ih =>
    cases hf : (ancillaryAt (i * linewidth)).find? (·.isCdp) with
    | some anc =>
      simp only [searchLines, hf, List.mem_singleton] at h
      exact ⟨i, Nat.le_refl _, by omega, h⟩
    | none =>
      simp only [searchLines, hf, List.mem_cons] at h
      rcases h with h | h
      · exact ⟨i, Nat.le_refl _, by omega, h⟩
      · rw [← Nat.add_one_mul] at h
        obtain ⟨line, hle, hlt, hp⟩ := ih h
        exact ⟨line, by omega, by omega, hp⟩

end Search

section Calls

variable {parse : Parse} {c d : Call} {src : GstAjaVideoSrc}

def resume (lastCcVbiLine : ℤ) : Option ℕ :=
  if lastCcVbiLine = -1 then none else some lastCcVbiLine.toNat

theorem start_line_resume (lastCcVbiLine : ℤ) :
    startLine lastCcVbiLine = (resume lastCcVbiLine).getD 0 := by
  unfold startLine resume
  split
  case isTrue => rfl
  case isFalse => rfl

theorem extract_cases (parse : Parse) (h : (vbiParserNew c.mode).isSome) (last : ℤ) :
    (next 15 (resume (c.resumed last)) (c.captionLine parse) = none ∧
      (c.extract parse last).captionMetas = [] ∧ (c.extract parse last).lastCcVbiLine = -1) ∨
    ∃ line anc, next 15 (resume (c.resumed last)) (c.captionLine parse) = some line ∧
      (c.ancillary parse line).find? (·.isCdp) = some anc ∧
      (c.extract parse last).captionMetas = [anc.data] ∧
      (c.extract parse last).lastCcVbiLine = line := by
  obtain ⟨⟨linewidth, parser⟩, hv⟩ := Option.isSome_iff_exists.mp h
  have hanc : ∀ line, c.ancillary parse line =
      lineAncillary parse parser linewidth c.ancillaryData (line * linewidth) := by
    intro line
    simp only [Call.ancillary, hv]
  have hfound := search_lines_found
    (lineAncillary parse parser linewidth c.ancillaryData) linewidth
    (15 - startLine (c.resumed last)) (startLine (c.resumed last))
  simp only [← hanc, start_line_resume] at hfound
  change _ = (next 15 (resume (c.resumed last)) (c.captionLine parse)).bind _ at hfound
  cases hn : next 15 (resume (c.resumed last)) (c.captionLine parse) with
  | none =>
    left
    rw [hn, Option.bind_none] at hfound
    simp [Call.extract, extractCcFromVbi, hv, start_line_resume, hfound]
  | some line =>
    right
    -- a line is hit by one of its packets
    obtain ⟨-, -, hhit, -⟩ := next_some hn
    rw [Call.captionLine, ← List.isSome_find?] at hhit
    obtain ⟨anc, hfind⟩ := Option.isSome_iff_exists.mp hhit
    rw [hn, Option.bind_some, hfind, Option.map_some] at hfound
    refine ⟨line, anc, rfl, hfind, ?_⟩
    simp [Call.extract, extractCcFromVbi, hv, start_line_resume, hfound]

theorem extract_reads {last : ℤ} {pointer : ℕ} (h : pointer ∈ (c.extract parse last).reads) :
    ∃ line < 15, ∃ linewidth parser,
      vbiParserNew c.mode = some (linewidth, parser) ∧ pointer = line * linewidth := by
  cases hv : vbiParserNew c.mode with
  | none => simp [Call.extract, extractCcFromVbi, hv] at h
  | some v =>
    obtain ⟨linewidth, parser⟩ := v
    have hreads : (c.extract parse last).reads =
        (searchLines (lineAncillary parse parser linewidth c.ancillaryData) linewidth
          (15 - startLine (c.resumed last)) (startLine (c.resumed last))
          (startLine (c.resumed last) * linewidth)).reads := by
      simp only [Call.extract, extractCcFromVbi, hv]
      split
      case h_1 => rfl
      case h_2 => rfl
    rw [hreads] at h
    obtain ⟨line, hle, hlt, hp⟩ := search_lines_reads _ _ h
    exact ⟨line, by omega, linewidth, parser, rfl, hp⟩

def Remembers (src : GstAjaVideoSrc) : Prop := Resumes (resume src.lastCcVbiLine) src.foundAt

theorem resume_coe (line : ℕ) : resume line = some line := by
  simp [resume]

theorem resumed_remembers (h : Remembers src) (c : Call) :
    Resumes (resume (c.resumed src.lastCcVbiLine)) src.foundAt := by
  unfold Call.resumed
  split
  case isTrue => exact Or.inl rfl
  case isFalse => exact h

theorem create_remembers (parse : Parse) (c : Call) (h : Remembers src) :
    Remembers (src.create parse c) := by
  cases hv : vbiParserNew c.mode with
  | none =>
    have hx : c.extract parse src.lastCcVbiLine = ⟨[], c.resumed src.lastCcVbiLine, []⟩ := by
      simp only [Call.extract, extractCcFromVbi, hv]
    simpa [Remembers, GstAjaVideoSrc.create, hx] using resumed_remembers h c
  | some v =>
    have hnext := resumes_next 15 (c.captionLine parse)
      (resume (c.resumed src.lastCcVbiLine)) src.foundAt
    have hs : (vbiParserNew c.mode).isSome := by rw [hv]; rfl
    rcases extract_cases parse hs src.lastCcVbiLine with
      ⟨hn, hm, hl⟩ | ⟨line, anc, hn, -, hm, hl⟩
    · exact Or.inl (by simp [GstAjaVideoSrc.create, hl, resume])
    · rw [hn] at hnext
      simpa [Remembers, GstAjaVideoSrc.create, hm, hl, resume_coe] using hnext

theorem after_remembers (parse : Parse) (calls : List Call) : Remembers (after parse calls) := by
  induction calls using List.reverseRecOn with
  | nil => exact Or.inl rfl
  | append_singleton calls c ih =>
    rw [after, List.foldl_append]
    exact create_remembers parse c ih

theorem found_after_miss (hc : Captioned parse c) (hd : Captioned parse d)
    (h : (c.extract parse src.lastCcVbiLine).captionMetas = []) :
    (d.extract parse (src.create parse c).lastCcVbiLine).captionMetas ≠ [] := by
  rcases extract_cases parse hc.supported src.lastCcVbiLine with
    ⟨-, -, hl⟩ | ⟨line, anc, -, -, hm, -⟩
  · have hstart : resume (d.resumed (src.create parse c).lastCcVbiLine) = none := by
      simp [GstAjaVideoSrc.create, hl, Call.resumed, resume]
    have hsome := found_from_start hd.lines
    rcases extract_cases parse hd.supported (src.create parse c).lastCcVbiLine with
      ⟨hn, -, -⟩ | ⟨line, anc, -, -, hm, -⟩
    · rw [hstart] at hn
      rw [hn] at hsome
      cases hsome
    · simp [hm]
  · simp [hm] at h

theorem extracts_first (hr : Remembers src) (hc : Captioned parse c) :
    ExtractsFirst parse src c where
  behind hmiss := by
    rcases extract_cases parse hc.supported src.lastCcVbiLine with
      ⟨hn, -, -⟩ | ⟨line, anc, -, -, hm, -⟩
    · exact missed_behind (resumed_remembers hr c) hn hc.lines
    · simp [hm] at hmiss
  first data hdata := by
    rcases extract_cases parse hc.supported src.lastCcVbiLine with
      ⟨-, hm, -⟩ | ⟨line, anc, hn, hfind, hm, -⟩
    · simp [hm] at hdata
    · rw [hm, List.mem_singleton] at hdata
      obtain ⟨hle, hlt, -, hbefore⟩ := next_some hn
      rw [← start_line_resume] at hle hbefore
      rw [hm, hdata]
      exact ⟨rfl, line, hlt, hle, hbefore, by rw [hfind]; rfl⟩
  reads pointer hp := extract_reads hp

end Calls

/-- Captions are missed in at most one frame at a time. -/
theorem captions_missed_one_at_a_time (parse : Parse) (earlier calls : List Call)
    (h : ∀ c ∈ calls, Captioned parse c) : MissesOneAtATime parse earlier calls where
  pairs as bs c d hcalls := by
    have hc : Captioned parse c := h c (by simp [hcalls])
    have hd : Captioned parse d := h d (by simp [hcalls])
    have hafter : after parse (earlier ++ as ++ [c]) =
        (after parse (earlier ++ as)).create parse c := by
      rw [after, List.foldl_append]
      rfl
    rw [hafter, or_iff_not_imp_left, not_not]
    exact found_after_miss hc hd
  each as bs c hcalls :=
    extracts_first (after_remembers parse (earlier ++ as)) (h c (by simp [hcalls]))

def parseLuma : Parse := fun parser bytes =>
  match parser.format, bytes with
  | .uyvy, _ :: 0x00 :: _ :: 0xff :: _ :: 0xff ::
      _ :: did :: _ :: sdid :: _ :: _ :: _ :: byte :: _ => [⟨did, sdid, [byte]⟩]
  | _, _ => []

def cdpIn (line : ℕ) : Call where
  capsChanged := false
  mode := hd .format1080p_2500 1920 1080 8 yuv 25 1 false true
  ancillaryData pointer :=
    if pointer < line * 3840 then 0
    else match pointer - line * 3840 with
      | 3 | 5 => 0xff
      | 7 => 0x61
      | 9 | 11 => 0x01
      | 13 => 0x96
      | _ => 0

theorem captions_missed_once : MissesOneAtATime parseLuma [cdpIn 5] [cdpIn 2, cdpIn 2] := by
  have hc : Captioned parseLuma (cdpIn 2) := ⟨rfl, 2, by decide, by decide +kernel⟩
  exact captions_missed_one_at_a_time parseLuma [cdpIn 5] [cdpIn 2, cdpIn 2] (by simp [hc])

example : (after parseLuma [cdpIn 5, cdpIn 2, cdpIn 2]).foundAt = [5, 2] := by decide +kernel

end AjaCaptions
