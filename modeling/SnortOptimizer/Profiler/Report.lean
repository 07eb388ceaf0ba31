import SnortOptimizer.Profiler.MetricLine
import SnortOptimizer.Rules.Store

/-!
# Reports (`sql/profiler/parser.go`)

`Parse` goes through Snort's output line by line. It keeps the titles that a counter stands under:
the section, the module, and a title that the next line of dashes may turn into a section. From the
first line of a profile table on, lines are rows of that table.

How the rows of the two tables are read is a parameter here: no counter depends on it.
-/

namespace SnortOptimizer.Profiler

open Text
open Rules (byteLength dropCR)

/-! ## Lines -/

/-- `strings.HasPrefix`. -/
def beginsWith (front line : String) : Bool := front.toList.isPrefixOf line.toList

def isSeparator (line : String) : Bool := trim ['-'] line.toList = []

def shouldIgnoreLine (line : String) : Bool :=
  beginsWith "Loading " line || beginsWith "Finished " line || beginsWith "Commencing " line ||
    beginsWith "++ " line || beginsWith "-- " line || beginsWith "o\")~" line ||
    beginsWith "Snort++" line

/-- The titles that open a section wherever they stand. -/
def isStatistics (line : String) : Bool :=
  beginsWith "Packet Statistics" line || beginsWith "Module Statistics" line

/-- The first line of a profile table. -/
def startsTable (line : String) : Bool :=
  beginsWith "module profile " line || beginsWith "rule profile " line

/-- The sections of the profile tables. -/
def isTable (name : String) : Bool := name = "module profile" || name = "rule profile"

/-! ## Parsing -/

section Parse

variable {M R : Type} (parseModule : String → Option M) (parseRule : String → Option R)
  (runID : Int) (source : String)

/-- The variables of `Parse`. -/
structure ParseState (M R : Type) where
  section_ : String
  module_ : String
  pendingTitle : String
  metrics : List ProfilerMetric
  rules : List R
  modules : List M

def ParseState.start : ParseState M R :=
  { section_ := "", module_ := "", pendingTitle := "", metrics := [], rules := [], modules := [] }

def ParseState.enterTable (s : ParseState M R) (name : String) : ParseState M R :=
  { s with section_ := name, module_ := "", pendingTitle := "" }

/-- The body of the loop for a line that belongs to no table. -/
def ParseState.readOther (s : ParseState M R) (raw : String) : ParseState M R :=
  let line := trimSpace raw
  if isSeparator line then
    if s.pendingTitle ≠ "" then
      { s with section_ := s.pendingTitle, module_ := "", pendingTitle := "" }
    else s
  else
    match parseMetricLine raw runID source s.section_ s.module_ with
    | some metric => { s with metrics := s.metrics ++ [metric], pendingTitle := "" }
    | none =>
        if shouldIgnoreLine line then { s with pendingTitle := "" }
        else if s.section_ = "" ∨ isStatistics line = true then { s with pendingTitle := line }
        else { s with module_ := line }

/-- The body of the loop. -/
def ParseState.read (s : ParseState M R) (raw : String) : ParseState M R :=
  let line := trimSpace raw
  if line = "" then s
  else if beginsWith "module profile " line then s.enterTable "module profile"
  else if beginsWith "rule profile " line then s.enterTable "rule profile"
  else if s.section_ = "module profile" then
    { s with modules := s.modules ++ (parseModule raw).toList }
  else if s.section_ = "rule profile" then { s with rules := s.rules ++ (parseRule raw).toList }
  else s.readOther runID source raw

def ParseState.readAll (s : ParseState M R) (raws : List String) : ParseState M R :=
  raws.foldl (ParseState.read parseModule parseRule runID source) s

/-- The buffer given to `bufio.Scanner`: it stops with an error at the first line this long. -/
def maxTokenSize : Nat := 2 * 1024 * 1024

def rawLines (text : String) : List (List Char) := splitLines '\n' text.toList

/-- The lines of a text as the scanner hands them out, as long as they are not too long. -/
def reportLines (text : String) : List String :=
  (rawLines text).map fun line => String.ofList (dropCR line)

/-- How many lines the scanner hands out. -/
def scanned (text : String) : Nat :=
  ((rawLines text).takeWhile fun line => byteLength line < maxTokenSize).length

/-- `Parse`: what it has read, and whether `scanner.Err()` is nil. -/
def parse (sourceFile text : String) : ParseState M R × Bool :=
  let source := String.ofList (Path.base sourceFile.toList)
  (ParseState.start.readAll parseModule parseRule runID source
    ((reportLines text).take (scanned text)), scanned text = (rawLines text).length)

end Parse

/-! ## The lines of a block -/

/-- The line is one of counters. -/
def IsCounter (raw : String) : Prop := ∃ c : CounterText, raw.toList = c.text

theorem isCounter_iff {raw : String} : IsCounter raw ↔ (metricLine raw.toList).isSome = true := by
  rw [Option.isSome_iff_exists]
  constructor
  · rintro ⟨c, hc⟩
    exact ⟨c.captures, by rw [hc, metricLine_text]⟩
  · rintro ⟨captures, h⟩
    obtain ⟨c, hc, -⟩ := metricLine_eq_some_iff.mp h
    exact ⟨c, hc⟩

instance isCounterDecidable (raw : String) : Decidable (IsCounter raw) :=
  decidable_of_iff _ isCounter_iff.symm

/-- A line of dashes. -/
structure DashLine where
  raw : String
  shown : trimSpace raw ≠ ""
  dashes : isSeparator (trimSpace raw) = true

/-- A line of other text: no counter, no dashes, and not the first one of a table. -/
structure TextLine where
  raw : String
  noCounter : ¬ IsCounter raw
  noDashes : trimSpace raw ≠ "" → isSeparator (trimSpace raw) = false
  noTable : startsTable (trimSpace raw) = false

/-- The text without the white space around it. -/
def TextLine.name (t : TextLine) : String := trimSpace t.raw

structure Title extends TextLine where
  shown : trimSpace raw ≠ ""
  noticed : shouldIgnoreLine (trimSpace raw) = false

inductive BodyLine where
  | counter (c : CounterText) (noTable : startsTable (trimSpace (String.ofList c.text)) = false)
  | text (t : TextLine)

def BodyLine.raw : BodyLine → String
  | .counter c _ => String.ofList c.text
  | .text t => t.raw

/-- A line of dashes, a title, and lines below it. -/
structure Block where
  dashes : DashLine
  title : Title
  body : List BodyLine

def Block.lines (b : Block) : List String :=
  b.dashes.raw :: b.title.raw :: b.body.map BodyLine.raw

/-! ## What a line does -/

theorem mem_trimSpace {s : String} {c : Char} (h : c ∈ s.toList) (hc : isSpace c = false) :
    c ∈ (trimSpace s).toList := by
  have hdrop : ∀ cs : List Char, c ∈ cs → c ∈ cs.dropWhile isSpace := by
    intro cs hmem
    rw [← List.takeWhile_append_dropWhile (p := isSpace) (l := cs)] at hmem
    rcases List.mem_append.mp hmem with hspace | hrest
    · rw [List.mem_takeWhile_imp hspace] at hc
      cases hc
    · exact hrest
  rw [trimSpace, String.toList_ofList, List.mem_reverse]
  exact hdrop _ (List.mem_reverse.mpr (hdrop _ h))

theorem isSeparator_iff {line : String} : isSeparator line = true ↔ ∀ c ∈ line.toList, c = '-' := by
  rw [isSeparator, decide_eq_true_eq, trim, List.reverse_eq_nil_iff, List.dropWhile_eq_nil_iff]
  constructor
  · intro h c hc
    by_contra hne
    have hmem : c ∈ line.toList.dropWhile (· ∈ ['-']) := by
      rw [← List.takeWhile_append_dropWhile (p := (· ∈ ['-'])) (l := line.toList)] at hc
      rcases List.mem_append.mp hc with hdash | hrest
      · exact absurd (by simpa using List.mem_takeWhile_imp hdash) hne
      · exact hrest
    exact hne (by simpa using h c (List.mem_reverse.mpr hmem))
  · intro h c hc
    have hmem := List.dropWhile_subset _ (List.mem_reverse.mp hc)
    simpa using h c hmem

/-- A text that begins with another has its first character. -/
theorem beginsWith_head {front line : String} {c : Char} (hfront : front.toList.head? = some c)
    (h : beginsWith front line = true) : line.toList.head? = some c := by
  obtain ⟨rest, hrest⟩ := List.isPrefixOf_iff_prefix.mp h
  rw [← hrest, List.head?_append, hfront]
  rfl

theorem DashLine.noTable (d : DashLine) : startsTable (trimSpace d.raw) = false := by
  by_contra h
  simp only [startsTable, Bool.not_eq_false, Bool.or_eq_true] at h
  have hdash := isSeparator_iff.mp d.dashes
  rcases h with h | h
  · have hhead := beginsWith_head rfl h
    exact absurd (hdash _ (List.mem_of_head? hhead)) (by decide)
  · have hhead := beginsWith_head rfl h
    exact absurd (hdash _ (List.mem_of_head? hhead)) (by decide)

/-- A counter line has a colon, so it is neither blank nor a line of dashes. -/
theorem CounterText.shown (c : CounterText) :
    trimSpace (String.ofList c.text) ≠ "" ∧
      isSeparator (trimSpace (String.ofList c.text)) = false := by
  have hcolon : ':' ∈ (trimSpace (String.ofList c.text)).toList := by
    apply mem_trimSpace
    · simp [CounterText.text]
    · decide
  constructor
  · intro h
    rw [h] at hcolon
    cases hcolon
  · by_contra h
    exact absurd (isSeparator_iff.mp (by simpa using h) _ hcolon) (by decide)

section Read

variable {M R : Type} {parseModule : String → Option M} {parseRule : String → Option R}
  {runID : Int} {source : String} {s : ParseState M R}

theorem readAll_nil : s.readAll parseModule parseRule runID source [] = s := rfl

theorem readAll_cons (raw : String) (raws : List String) :
    s.readAll parseModule parseRule runID source (raw :: raws) =
      (s.read parseModule parseRule runID source raw).readAll parseModule parseRule runID source
        raws := rfl

theorem readAll_append (raws raws' : List String) :
    s.readAll parseModule parseRule runID source (raws ++ raws') =
      (s.readAll parseModule parseRule runID source raws).readAll parseModule parseRule runID source
        raws' := List.foldl_append

/-- Once in a table, there is no way out and no counter. -/
theorem read_in_table (h : isTable s.section_ = true) (raw : String) :
    (s.read parseModule parseRule runID source raw).metrics = s.metrics ∧
      isTable (s.read parseModule parseRule runID source raw).section_ = true := by
  by_cases hnil : trimSpace raw = ""
  · simp only [ParseState.read, if_pos hnil]
    exact ⟨trivial, h⟩
  by_cases hmodules : beginsWith "module profile " (trimSpace raw) = true
  · simp only [ParseState.read, if_neg hnil, if_pos hmodules]
    exact ⟨rfl, rfl⟩
  by_cases hrules : beginsWith "rule profile " (trimSpace raw) = true
  · simp only [ParseState.read, if_neg hnil, if_neg hmodules, if_pos hrules]
    exact ⟨rfl, rfl⟩
  by_cases hsection : s.section_ = "module profile"
  · simp only [ParseState.read, if_neg hnil, if_neg hmodules, if_neg hrules, if_pos hsection]
    exact ⟨trivial, h⟩
  · have hrule : s.section_ = "rule profile" := by simpa [isTable, hsection] using h
    simp only [ParseState.read, if_neg hnil, if_neg hmodules, if_neg hrules, if_neg hsection,
      if_pos hrule]
    exact ⟨trivial, h⟩

/-- The first line of a table. -/
theorem read_startsTable {raw : String} (h : startsTable (trimSpace raw) = true) :
    (s.read parseModule parseRule runID source raw).metrics = s.metrics ∧
      isTable (s.read parseModule parseRule runID source raw).section_ = true := by
  have hshown : trimSpace raw ≠ "" := by
    intro hnil
    rw [hnil] at h
    revert h
    decide
  simp only [startsTable, Bool.or_eq_true] at h
  by_cases hmodules : beginsWith "module profile " (trimSpace raw) = true
  · simp only [ParseState.read, if_neg hshown, if_pos hmodules]
    exact ⟨rfl, rfl⟩
  · simp only [ParseState.read, if_neg hshown, if_neg hmodules, if_pos (h.resolve_left hmodules)]
    exact ⟨rfl, rfl⟩

/-- Lines before the tables. -/
theorem read_of_noTable (hopen : isTable s.section_ = false) {raw : String}
    (h : startsTable (trimSpace raw) = false) :
    s.read parseModule parseRule runID source raw =
      if trimSpace raw = "" then s else s.readOther runID source raw := by
  simp only [startsTable, Bool.or_eq_false_iff] at h
  simp only [isTable, Bool.or_eq_false_iff, decide_eq_false_iff_not] at hopen
  unfold ParseState.read
  simp [h.1, h.2, hopen.1, hopen.2]

theorem read_dashes (hopen : isTable s.section_ = false) (d : DashLine) :
    s.read parseModule parseRule runID source d.raw =
      if s.pendingTitle ≠ "" then
        { s with section_ := s.pendingTitle, module_ := "", pendingTitle := "" }
      else s := by
  rw [read_of_noTable hopen d.noTable, if_neg d.shown, ParseState.readOther, if_pos d.dashes]

theorem read_text (hopen : isTable s.section_ = false) (t : TextLine) :
    s.read parseModule parseRule runID source t.raw =
      if t.name = "" then s
      else if shouldIgnoreLine t.name then { s with pendingTitle := "" }
      else if s.section_ = "" ∨ isStatistics t.name = true then { s with pendingTitle := t.name }
      else { s with module_ := t.name } := by
  have hname : trimSpace t.raw = t.name := rfl
  have hdashes := t.noDashes
  rw [read_of_noTable hopen t.noTable, hname]
  rw [hname] at hdashes
  by_cases hnil : t.name = ""
  · rw [if_pos hnil, if_pos hnil]
  · rw [if_neg hnil, if_neg hnil]
    unfold ParseState.readOther
    simp only [hname, hdashes hnil, parseMetricLine_eq_none t.noCounter, Bool.false_eq_true,
      if_false]

theorem read_counter (hopen : isTable s.section_ = false) {c : CounterText}
    (hfits : c.number.Fits) (hnoTable : startsTable (trimSpace (String.ofList c.text)) = false) :
    ∃ metric : ProfilerMetric,
      metric.entry = c.entry (trimSpace s.section_) (trimSpace s.module_) ∧
      s.read parseModule parseRule runID source (String.ofList c.text) =
        { s with metrics := s.metrics ++ [metric], pendingTitle := "" } := by
  have hparse := parseMetricLine_of_text (c := c) String.toList_ofList runID source s.section_
    s.module_
  rw [if_pos hfits] at hparse
  obtain ⟨metric, hmetric, hentry⟩ := Option.map_eq_some_iff.mp hparse
  refine ⟨metric, hentry, ?_⟩
  rw [read_of_noTable hopen hnoTable, if_neg c.shown.1]
  unfold ParseState.readOther
  simp only [c.shown.2, hmetric, Bool.false_eq_true, if_false]

end Read

end SnortOptimizer.Profiler
