import SnortOptimizer.Profiler.Report

/-!
# Blocks of counters (`sql/profiler/parser.go`)

Snort prints its counters in blocks: a line of dashes, a title, and the counters below it. A block
of which there is nothing but the title is the heading of the blocks that follow. A counter belongs
to its block, and to the nearest heading above.

`Parse` sees this from single lines. It takes the first text that stands last in its block for
a heading, later on only titles that begin with `Packet Statistics` or `Module Statistics`, and any
other text for the title of a block. This module follows its variables from block to block
(`Follows.block`) and says when the counters of one block are filed as they should be
(`filedUnder_inner_iff`).
-/

namespace SnortOptimizer.Profiler

open Text

/-! ## Where counters belong -/

def BodyLine.entry (section_ module_ : String) : BodyLine → Option Entry
  | .counter c _ => some (c.entry section_ module_)
  | .text _ => none

/-- The counters of blocks that stand under a heading, each with the title of its block and the
nearest heading. A block without body lines is a heading. -/
def entries (heading : String) : List Block → List Entry
  | [] => []
  | b :: blocks =>
      b.body.filterMap (BodyLine.entry heading b.title.name) ++
        entries (if b.body.isEmpty then b.title.name else heading) blocks

/-! ## Which lines are taken for titles -/

/-- A text that is taken for the title of a block where a section is open. -/
def BodyLine.plain : BodyLine → Option String
  | .counter _ _ => none
  | .text t =>
      if t.name = "" ∨ shouldIgnoreLine t.name = true ∨ isStatistics t.name = true then none
      else some t.name

/-- A text that the next line of dashes opens a section with: any text if there is no section yet,
else one that begins with `Packet Statistics` or `Module Statistics`. A counter and an ignored line
take it back. -/
def pend (opened : Bool) (pending : Option String) : BodyLine → Option String
  | .counter _ _ => none
  | .text t =>
      if t.name = "" then pending
      else if shouldIgnoreLine t.name then none
      else if opened = false ∨ isStatistics t.name = true then some t.name
      else pending

/-- The lines of a block below the dashes. -/
def Block.inner (b : Block) : List BodyLine := .text b.title.toTextLine :: b.body

/-- The text a block leaves for the next line of dashes. -/
def Block.left (opened : Bool) (b : Block) : Option String := b.inner.foldl (pend opened) none

/-- The lines that open sections, in their order. -/
def openers (blocks : List Block) : List String :=
  blocks.foldl (fun lines b => lines ++ (b.left (!lines.isEmpty)).toList) []

/-- The title of the last heading. -/
def heading (blocks : List Block) : Option String :=
  (blocks.filter (·.body.isEmpty)).getLast?.map (·.title.name)

def Block.HasCounter (b : Block) : Prop := ∃ c h, BodyLine.counter c h ∈ b.body

/-- **The counters of a block are filed under its titles.** The title is not one that opens
a section; no other text between it and a counter is taken for a title; and the last line above that
opens a section reads as the last heading, where none of them reads as the name of a table. -/
structure Block.Filed (before : List Block) (b : Block) : Prop where
  title : isStatistics b.title.name = false
  body : ∀ front c h back, b.body = front ++ .counter c h :: back →
    ∀ line, (front.filterMap BodyLine.plain).getLast? = some line → line = b.title.name
  opened : ∃ name, heading before = some name ∧ (openers before).getLast? = some name
  outside : ∀ line ∈ openers before, isTable line = false

/-! ## The texts that open sections -/

theorem openers_concat (blocks : List Block) (b : Block) :
    openers (blocks ++ [b]) =
      openers blocks ++ (b.left (!(openers blocks).isEmpty)).toList := by
  rw [openers, List.foldl_append]
  rfl

theorem heading_concat (blocks : List Block) (b : Block) :
    heading (blocks ++ [b]) = if b.body.isEmpty then some b.title.name else heading blocks := by
  rw [heading, List.filter_append]
  cases hbody : b.body.isEmpty with
  | true => simp [hbody]
  | false => simp [hbody, heading]

/-- Later blocks do not change what has been opened. -/
theorem openers_subset (blocks more : List Block) :
    ∀ line ∈ openers blocks, line ∈ openers (blocks ++ more) := by
  intro line hline
  induction more using List.reverseRecOn with
  | nil => rwa [List.append_nil]
  | append_singleton more b ih =>
      rw [← List.append_assoc, openers_concat]
      exact List.mem_append_left _ ih

/-- A text that is shown, without white space around it. -/
def IsName (x : String) : Prop := x ≠ "" ∧ trimSpace x = x

theorem pend_isName {opened : Bool} {pending : Option String} {l : BodyLine}
    (h : ∀ x, pending = some x → IsName x) : ∀ x, pend opened pending l = some x → IsName x := by
  intro x hx
  cases l with
  | counter c hc => cases hx
  | text t =>
      simp only [pend] at hx
      split at hx
      · exact h x hx
      · next hshown =>
          split at hx
          · cases hx
          · split at hx
            · cases hx
              exact ⟨hshown, trimSpace_trimSpace t.raw⟩
            · exact h x hx

theorem left_isName {opened : Bool} {b : Block} {x : String} (h : b.left opened = some x) :
    IsName x := by
  have hall : ∀ (ls : List BodyLine) (pending : Option String),
      (∀ x, pending = some x → IsName x) →
      ∀ x, ls.foldl (pend opened) pending = some x → IsName x := by
    intro ls
    induction ls with
    | nil => exact fun _ h => h
    | cons l ls ih => exact fun pending h => ih _ (pend_isName h)
  exact hall b.inner none (by simp) x h

theorem openers_isName (blocks : List Block) : ∀ line ∈ openers blocks, IsName line := by
  induction blocks using List.reverseRecOn with
  | nil => simp [openers]
  | append_singleton blocks b ih =>
      intro line hline
      rw [openers_concat] at hline
      rcases List.mem_append.mp hline with hold | hnew
      · exact ih line hold
      · exact left_isName (Option.mem_toList.mp hnew)

/-- The section that is open behind some blocks, empty if there is none. -/
def openSection (blocks : List Block) : String := (openers blocks).getLast?.getD ""

theorem openSection_eq_iff {blocks : List Block} :
    openSection blocks = "" ↔ openers blocks = [] := by
  rw [openSection]
  cases hlast : (openers blocks).getLast? with
  | none => simpa using hlast
  | some line =>
      have hmem := List.mem_of_getLast? hlast
      refine iff_of_false (openers_isName blocks line hmem).1 fun hnil => ?_
      rw [hnil] at hmem
      cases hmem

theorem trimSpace_openSection (blocks : List Block) :
    trimSpace (openSection blocks) = openSection blocks := by
  rw [openSection]
  cases hlast : (openers blocks).getLast? with
  | none => decide
  | some line => exact (openers_isName blocks line (List.mem_of_getLast? hlast)).2

theorem openSection_concat (blocks : List Block) (b : Block) :
    openSection (blocks ++ [b]) =
      (b.left (!(openers blocks).isEmpty)).getD (openSection blocks) := by
  rw [openSection, openers_concat]
  cases b.left (!(openers blocks).isEmpty) with
  | none => simp [openSection]
  | some line => simp

/-! ## Reading a block -/

def asPending (title : String) : Option String := if title = "" then none else some title

/-- The title that counters stand under behind some lines of a block. -/
def moduleAfter (section_ module_ : String) (ls : List BodyLine) : String :=
  if section_ = "" then module_ else (ls.filterMap BodyLine.plain).getLast?.getD module_

/-- What is recorded of some lines of a block. -/
def filedUnder (section_ : String) : String → List BodyLine → List Entry
  | _, [] => []
  | module_, .counter c _ :: ls => c.entry section_ module_ :: filedUnder section_ module_ ls
  | module_, .text t :: ls => filedUnder section_ (moduleAfter section_ module_ [.text t]) ls

theorem moduleAfter_cons (section_ module_ : String) (l : BodyLine) (ls : List BodyLine) :
    moduleAfter section_ module_ (l :: ls) =
      moduleAfter section_ (moduleAfter section_ module_ [l]) ls := by
  by_cases hnone : section_ = ""
  · simp [moduleAfter, hnone]
  · simp only [moduleAfter, if_neg hnone]
    cases hplain : l.plain with
    | none => simp [hplain]
    | some name => simp [hplain, List.getLast?_cons]

theorem filedUnder_cons (section_ module_ : String) (l : BodyLine) (ls : List BodyLine) :
    filedUnder section_ module_ (l :: ls) =
      filedUnder section_ module_ [l] ++
        filedUnder section_ (moduleAfter section_ module_ [l]) ls := by
  cases l with
  | counter c h =>
      have hsame : moduleAfter section_ module_ [.counter c h] = module_ := by
        simp [moduleAfter, BodyLine.plain]
      rw [hsame]
      rfl
  | text t => rfl

theorem plain_eq_some {l : BodyLine} {name : String} (h : l.plain = some name) :
    name ≠ "" ∧ trimSpace name = name ∧ isStatistics name = false := by
  cases l with
  | counter c hc => cases h
  | text t =>
      simp only [BodyLine.plain] at h
      split at h
      · cases h
      · next hplain =>
          cases h
          refine ⟨fun hblank => hplain (.inl hblank), trimSpace_trimSpace t.raw, ?_⟩
          by_contra hstatistics
          exact hplain (.inr (.inr (by simpa using hstatistics)))

/-- The module is the one from before, or a text that is taken for a title. -/
theorem moduleAfter_cases (section_ module_ : String) (ls : List BodyLine) :
    moduleAfter section_ module_ ls = module_ ∨
      ∃ l ∈ ls, l.plain = some (moduleAfter section_ module_ ls) := by
  unfold moduleAfter
  split
  · exact .inl rfl
  · cases hlast : (ls.filterMap BodyLine.plain).getLast? with
    | none => exact .inl rfl
    | some name => exact .inr (List.mem_filterMap.mp (List.mem_of_getLast? hlast))

theorem CounterText.entry_inj {c : CounterText} {section_ section' module_ module' : String} :
    c.entry section_ module_ = c.entry section' module' ↔
      section_ = section' ∧ module_ = module' := by
  simp [CounterText.entry, and_comm]

/-- **When lines are filed as they should be**: each counter is, if the section is the one it
belongs to and the last title before it is that of its block. -/
theorem filedUnder_eq_iff (section_ module_ section' module' : String) (ls : List BodyLine) :
    filedUnder section_ module_ ls = ls.filterMap (BodyLine.entry section' module') ↔
      ∀ front c h back, ls = front ++ .counter c h :: back →
        section_ = section' ∧ moduleAfter section_ module_ front = module' := by
  induction ls generalizing module_ with
  | nil => simp [filedUnder]
  | cons l ls ih =>
      -- a counter of the rest is one behind the first line
      have hrest : (∀ front c h back, ls = front ++ .counter c h :: back →
            section_ = section' ∧
              moduleAfter section_ (moduleAfter section_ module_ [l]) front = module') ↔
          ∀ front c h back, l :: ls = (l :: front) ++ .counter c h :: back →
            section_ = section' ∧ moduleAfter section_ module_ (l :: front) = module' := by
        constructor
        · intro h front c hc back heq
          rw [moduleAfter_cons]
          exact h front c hc back (List.cons.inj heq).2
        · intro h front c hc back heq
          rw [← moduleAfter_cons]
          exact h front c hc back (by rw [heq]; rfl)
      cases l with
      | text t =>
          rw [filedUnder, List.filterMap_cons, BodyLine.entry, ih, hrest]
          constructor
          · intro h front c hc back heq
            cases front with
            | nil => cases heq
            | cons l' front =>
                obtain ⟨rfl, -⟩ := List.cons.inj heq
                exact h front c hc back heq
          · intro h front c hc back heq
            exact h (.text t :: front) c hc back heq
      | counter c hc =>
          have hsame : moduleAfter section_ module_ [.counter c hc] = module_ := by
            simp [moduleAfter, BodyLine.plain]
          rw [hsame] at hrest
          have hnil : moduleAfter section_ module_ [] = module_ := by simp [moduleAfter]
          rw [filedUnder, List.filterMap_cons, BodyLine.entry, List.cons.injEq,
            CounterText.entry_inj, ih, hrest]
          constructor
          · rintro ⟨hfirst, h⟩ front c' hc' back heq
            cases front with
            | nil =>
                rw [hnil]
                exact hfirst
            | cons l' front =>
                obtain ⟨rfl, -⟩ := List.cons.inj heq
                exact h front c' hc' back heq
          · intro h
            refine ⟨?_, fun front c' hc' back heq => h (.counter c hc :: front) c' hc' back heq⟩
            have hfirst := h [] c hc ls rfl
            rwa [hnil] at hfirst

theorem length_filedUnder (section_ module_ section' module' : String) (ls : List BodyLine) :
    (filedUnder section_ module_ ls).length =
      (ls.filterMap (BodyLine.entry section' module')).length := by
  induction ls generalizing module_ with
  | nil => rfl
  | cons l ls ih =>
      cases l with
      | counter c hc => simp [filedUnder, BodyLine.entry, ih]
      | text t =>
          rw [filedUnder, ih]
          rfl

theorem filterMap_entry_eq_nil_iff {section_ module_ : String} {b : Block} :
    b.body.filterMap (BodyLine.entry section_ module_) = [] ↔ ¬ b.HasCounter := by
  rw [List.filterMap_eq_nil_iff]
  constructor
  · rintro h ⟨c, hc, hmem⟩
    cases h _ hmem
  · intro h l hmem
    cases l with
    | counter c hc => exact absurd ⟨c, hc, hmem⟩ h
    | text t => rfl

theorem entries_eq_nil_iff {heading : String} {blocks : List Block} :
    entries heading blocks = [] ↔ ∀ b ∈ blocks, ¬ b.HasCounter := by
  induction blocks generalizing heading with
  | nil => simp [entries]
  | cons b blocks ih =>
      rw [entries, List.append_eq_nil_iff, filterMap_entry_eq_nil_iff, ih, List.forall_mem_cons]

/-- The title of a block is taken for one where a section is open, unless it opens another. -/
theorem Title.plain (t : Title) :
    (BodyLine.text t.toTextLine).plain =
      if isStatistics t.name = true then none else some t.name := by
  have hshown : t.name ≠ "" := t.shown
  have hnoticed : shouldIgnoreLine t.name = false := t.noticed
  simp [BodyLine.plain, hshown, hnoticed]

/-- **When a block is filed under its titles.** -/
theorem filedUnder_inner_iff {before : List Block} {b : Block} {module_ : String}
    (hplain : isStatistics module_ = false) (hunopened : openSection before = "" → module_ = "")
    (houtside : ∀ line ∈ openers before, isTable line = false) :
    filedUnder (openSection before) module_ b.inner =
        b.body.filterMap (BodyLine.entry ((heading before).getD "") b.title.name) ↔
      (b.HasCounter → b.Filed before) := by
  have hshown : b.title.name ≠ "" := b.title.shown
  have hinner : b.body.filterMap (BodyLine.entry ((heading before).getD "") b.title.name) =
      b.inner.filterMap (BodyLine.entry ((heading before).getD "") b.title.name) := rfl
  rw [hinner, filedUnder_eq_iff]
  constructor
  · intro h ⟨c, hc, hmem⟩
    have hbody : ∀ front c hc back, b.body = front ++ .counter c hc :: back →
        openSection before = (heading before).getD "" ∧
          moduleAfter (openSection before) module_ (.text b.title.toTextLine :: front) =
            b.title.name := by
      intro front c hc back heq
      exact h (.text b.title.toTextLine :: front) c hc back (by rw [Block.inner, heq]; rfl)
    obtain ⟨front, back, heq⟩ := List.append_of_mem hmem
    obtain ⟨hsection, hmodule⟩ := hbody front c hc back heq
    -- without a section there is no module, and no module begins like one that opens a section
    have hopened : openSection before ≠ "" := by
      intro hnone
      rw [moduleAfter, if_pos hnone, hunopened hnone] at hmodule
      exact hshown hmodule.symm
    have htitle : isStatistics b.title.name = false := by
      rcases moduleAfter_cases (openSection before) module_ (.text b.title.toTextLine :: front) with
        hsame | ⟨l, -, hl⟩
      · rw [← hmodule, hsame]
        exact hplain
      · rw [hmodule] at hl
        exact (plain_eq_some hl).2.2
    refine ⟨htitle, ?_, ?_, houtside⟩
    · intro front c hc back heq line hline
      have hmodule := (hbody front c hc back heq).2
      rw [moduleAfter, if_neg hopened, List.filterMap_cons, Title.plain, htitle] at hmodule
      simpa [List.getLast?_cons, hline] using hmodule
    · cases hlast : (openers before).getLast? with
      | none => exact absurd (by rw [openSection, hlast]; rfl) hopened
      | some name =>
          have hname : openSection before = name := by rw [openSection, hlast]; rfl
          cases hheading : heading before with
          | none =>
              rw [hheading] at hsection
              exact absurd hsection hopened
          | some name' =>
              rw [hheading, hname] at hsection
              exact ⟨name', rfl, congrArg some hsection⟩
  · intro h front c hc back heq
    cases front with
    | nil => cases heq
    | cons l front =>
        obtain ⟨rfl, hback⟩ := List.cons.inj heq
        have hback : b.body = front ++ .counter c hc :: back := hback
        obtain ⟨htitle, hbody, ⟨name, hheading, hlast⟩, -⟩ :=
          h ⟨c, hc, by rw [hback]; simp⟩
        have hname : openSection before = name := by rw [openSection, hlast]; rfl
        have hopened : openSection before ≠ "" := by
          rw [hname]
          exact (openers_isName before name (List.mem_of_getLast? hlast)).1
        refine ⟨by rw [hname, hheading]; rfl, ?_⟩
        rw [moduleAfter, if_neg hopened, List.filterMap_cons, Title.plain, htitle]
        cases hline : (front.filterMap BodyLine.plain).getLast? with
        | none => simp [List.getLast?_cons, hline]
        | some line =>
            simpa [List.getLast?_cons, hline] using hbody front c hc back hback line hline

section Read

variable {M R : Type} {parseModule : String → Option M} {parseRule : String → Option R}
  {runID : Int} {source : String} {s : ParseState M R}

/-- What has been recorded. -/
def ParseState.entries (s : ParseState M R) : List Entry := s.metrics.map ProfilerMetric.entry

/-- What becomes of the variables in some lines of a block. -/
structure ReadsBody (s s' : ParseState M R) (ls : List BodyLine) : Prop where
  section_ : s'.section_ = s.section_
  module_ : s'.module_ = moduleAfter s.section_ s.module_ ls
  pending : asPending s'.pendingTitle =
    ls.foldl (pend (s.section_ ≠ "")) (asPending s.pendingTitle)
  entries : s'.entries = s.entries ++ filedUnder s.section_ s.module_ ls

/-- **A line of a block**, for the variables. -/
theorem readsBody_text (hopen : isTable s.section_ = false) (t : TextLine) :
    ReadsBody s (s.read parseModule parseRule runID source t.raw) [.text t] := by
  rw [read_text hopen t]
  by_cases hblank : t.name = ""
  · rw [if_pos hblank]
    refine ⟨rfl, ?_, ?_, ?_⟩
    · simp [moduleAfter, BodyLine.plain, hblank]
    · simp [pend, hblank]
    · simp [filedUnder]
  rw [if_neg hblank]
  by_cases hignored : shouldIgnoreLine t.name = true
  · rw [if_pos hignored]
    refine ⟨rfl, ?_, ?_, ?_⟩
    · simp [moduleAfter, BodyLine.plain, hignored]
    · simp [pend, hblank, hignored, asPending]
    · simp [filedUnder, ParseState.entries]
  rw [if_neg hignored]
  by_cases hopens : s.section_ = "" ∨ isStatistics t.name = true
  · rw [if_pos hopens]
    refine ⟨rfl, ?_, ?_, ?_⟩
    · rcases hopens with hnone | hstatistics
      · simp [moduleAfter, hnone]
      · simp [moduleAfter, BodyLine.plain, hstatistics]
    · simp [pend, hblank, hignored, hopens, asPending]
    · simp [filedUnder, ParseState.entries]
  · rw [if_neg hopens]
    obtain ⟨hsome, hplain⟩ := not_or.mp hopens
    refine ⟨rfl, ?_, ?_, ?_⟩
    · simp [moduleAfter, BodyLine.plain, hsome, hblank, hignored, hplain]
    · simp [pend, hblank, hignored, hsome, hplain]
    · simp [filedUnder, ParseState.entries]

theorem readsBody_counter (hopen : isTable s.section_ = false)
    (hsection : trimSpace s.section_ = s.section_) (hmodule : trimSpace s.module_ = s.module_)
    {c : CounterText} (hfits : c.number.Fits)
    (hnoTable : startsTable (trimSpace (String.ofList c.text)) = false) :
    ReadsBody s (s.read parseModule parseRule runID source (String.ofList c.text))
      [.counter c hnoTable] := by
  obtain ⟨metric, hentry, hread⟩ :=
    @read_counter M R parseModule parseRule runID source s hopen c hfits hnoTable
  rw [hread]
  refine ⟨rfl, ?_, rfl, ?_⟩
  · simp [moduleAfter, BodyLine.plain]
  · simp [ParseState.entries, filedUnder, hentry, hsection, hmodule]

theorem ReadsBody.cons {t u : ParseState M R} {l : BodyLine} {ls : List BodyLine}
    (h : ReadsBody s t [l]) (h' : ReadsBody t u ls) : ReadsBody s u (l :: ls) := by
  constructor
  · rw [h'.section_, h.section_]
  · rw [h'.module_, h.section_, h.module_]
    exact (moduleAfter_cons _ _ l ls).symm
  · rw [h'.pending, h.section_, h.pending]
    rfl
  · rw [h'.entries, h.entries, h.section_, h.module_, filedUnder_cons _ _ l ls, List.append_assoc]

/-- **The lines of a block below the dashes**, where no table has begun. -/
theorem readsBody (hopen : isTable s.section_ = false)
    (hsection : trimSpace s.section_ = s.section_) (hmodule : trimSpace s.module_ = s.module_)
    {ls : List BodyLine} (hfits : ∀ c h, BodyLine.counter c h ∈ ls → c.number.Fits) :
    ReadsBody s (s.readAll parseModule parseRule runID source (ls.map BodyLine.raw)) ls := by
  induction ls generalizing s with
  | nil =>
      rw [List.map_nil, readAll_nil]
      refine ⟨rfl, ?_, rfl, ?_⟩
      · simp [moduleAfter]
      · simp [filedUnder]
  | cons l ls ih =>
      rw [List.map_cons, readAll_cons]
      have hone : ReadsBody s (s.read parseModule parseRule runID source l.raw) [l] := by
        cases l with
        | counter c h =>
            exact readsBody_counter hopen hsection hmodule (hfits c h List.mem_cons_self) h
        | text t => exact readsBody_text hopen t
      refine hone.cons (ih ?_ ?_ ?_ fun c h hmem => hfits c h (List.mem_cons_of_mem _ hmem))
      · rw [hone.section_]
        exact hopen
      · rw [hone.section_]
        exact hsection
      · rcases moduleAfter_cases s.section_ s.module_ [l] with hsame | ⟨l', -, hplain⟩
        · rw [hone.module_, hsame]
          exact hmodule
        · rw [hone.module_]
          exact (plain_eq_some hplain).2.1

/-- **What `Parse` remembers of the blocks it has read**, where no table has begun: the section that
the next line of dashes leaves open. -/
structure Follows (before : List Block) (s : ParseState M R) : Prop where
  opened : (asPending s.pendingTitle).getD s.section_ = openSection before
  outside : isTable s.section_ = false
  module_ : trimSpace s.module_ = s.module_ ∧ isStatistics s.module_ = false
  unopened : s.section_ = "" → s.module_ = ""

theorem trimSpace_nil : trimSpace "" = "" := by decide

theorem isStatistics_nil : isStatistics "" = false := by decide

theorem follows_start : Follows [] (ParseState.start : ParseState M R) where
  opened := rfl
  outside := rfl
  module_ := ⟨trimSpace_nil, isStatistics_nil⟩
  unopened _ := rfl

/-- What a line of dashes does: it opens the section. -/
structure Opens (before : List Block) (s t : ParseState M R) : Prop where
  section_ : t.section_ = openSection before
  pending : t.pendingTitle = ""
  entries : t.entries = s.entries
  module_ : trimSpace t.module_ = t.module_ ∧ isStatistics t.module_ = false
  unopened : openSection before = "" → t.module_ = ""

theorem Follows.dashes {before : List Block} (h : Follows before s) (d : DashLine) :
    Opens before s (s.read parseModule parseRule runID source d.raw) := by
  rw [read_dashes h.outside]
  have hopened := h.opened
  by_cases hpending : s.pendingTitle = ""
  · have hsection : s.section_ = openSection before := by simpa [asPending, hpending] using hopened
    rw [if_neg (by simp [hpending])]
    refine ⟨hsection, hpending, rfl, h.module_, fun hnone => h.unopened ?_⟩
    rw [hsection]
    exact hnone
  · have hsection : s.pendingTitle = openSection before := by
      simpa [asPending, hpending] using hopened
    rw [if_pos hpending]
    exact ⟨hsection, rfl, rfl, ⟨trimSpace_nil, isStatistics_nil⟩, fun _ => rfl⟩

theorem readAll_block (b : Block) :
    s.readAll parseModule parseRule runID source b.lines =
      (s.read parseModule parseRule runID source b.dashes.raw).readAll parseModule parseRule runID
        source (b.inner.map BodyLine.raw) := by
  rw [Block.lines, readAll_cons, Block.inner, List.map_cons, BodyLine.raw]

/-- **One block**: what is recorded of it, and what is remembered. -/
theorem Follows.block {before : List Block} (h : Follows before s)
    (htable : isTable (openSection before) = false) {b : Block}
    (hfits : ∀ c hc, BodyLine.counter c hc ∈ b.body → c.number.Fits) :
    Follows (before ++ [b]) (s.readAll parseModule parseRule runID source b.lines) ∧
    ∃ module_, isStatistics module_ = false ∧ (openSection before = "" → module_ = "") ∧
      (s.readAll parseModule parseRule runID source b.lines).entries =
        s.entries ++ filedUnder (openSection before) module_ b.inner := by
  rw [readAll_block]
  obtain ⟨hsection, hpending, hentries, ⟨htrim, hplain⟩, hunopened⟩ :=
    @Follows.dashes M R parseModule parseRule runID source s before h b.dashes
  generalize s.read parseModule parseRule runID source b.dashes.raw = t at *
  have hfits' : ∀ c hc, BodyLine.counter c hc ∈ b.inner → c.number.Fits := by
    intro c hc hmem
    rcases List.mem_cons.mp hmem with heq | hmem
    · cases heq
    · exact hfits c hc hmem
  have hread := @readsBody M R parseModule parseRule runID source t (by rw [hsection]; exact htable)
    (by rw [hsection]; exact trimSpace_openSection before) htrim b.inner hfits'
  generalize t.readAll parseModule parseRule runID source (b.inner.map BodyLine.raw) = u at *
  refine ⟨⟨?_, ?_, ?_, ?_⟩, t.module_, hplain, hunopened, ?_⟩
  · have hflag : decide (openSection before ≠ "") = !(openers before).isEmpty := by
      rw [Bool.eq_iff_iff]
      simp [openSection_eq_iff]
    rw [hread.pending, hread.section_, hsection, hpending, openSection_concat, ← hflag]
    rfl
  · rw [hread.section_, hsection]
    exact htable
  · rw [hread.module_]
    rcases moduleAfter_cases t.section_ t.module_ b.inner with hsame | ⟨l, -, hl⟩
    · rw [hsame]
      exact ⟨htrim, hplain⟩
    · exact (plain_eq_some hl).2
  · rw [hread.section_, hread.module_, hsection]
    intro hnone
    rw [moduleAfter, if_pos hnone]
    exact hunopened hnone
  · rw [hread.entries, hentries, hsection]

theorem readAll_in_table {s : ParseState M R} (h : isTable s.section_ = true) (raws : List String) :
    (s.readAll parseModule parseRule runID source raws).entries = s.entries := by
  induction raws generalizing s with
  | nil => rfl
  | cons raw raws ih =>
      obtain ⟨hmetrics, hsection⟩ := @read_in_table M R parseModule parseRule runID source s h raw
      rw [readAll_cons, ih hsection, ParseState.entries, hmetrics, ParseState.entries]

/-- A section with the name of a table is never left. -/
theorem Follows.stuck {before : List Block} (h : Follows before s)
    (htable : isTable (openSection before) = true) (blocks : List Block) :
    (s.readAll parseModule parseRule runID source (blocks.flatMap Block.lines)).entries =
      s.entries := by
  cases blocks with
  | nil => rfl
  | cons b blocks =>
      have hopens := @Follows.dashes M R parseModule parseRule runID source s before h b.dashes
      have htable' : isTable (s.read parseModule parseRule runID source b.dashes.raw).section_ =
          true := by
        rw [hopens.section_]
        exact htable
      rw [List.flatMap_cons, Block.lines, List.cons_append, readAll_cons, readAll_in_table htable',
        hopens.entries]

end Read

end SnortOptimizer.Profiler
