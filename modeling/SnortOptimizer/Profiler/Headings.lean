import SnortOptimizer.Profiler.Blocks

/-!
# Counters and their headings (`sql/profiler/parser.go`)

`keepsHeadings_iff` says for which reports every counter is recorded once, with the title of its
block and the nearest heading. The report Snort prints is not one of them (`timing_misfiled`).
-/

namespace SnortOptimizer.Profiler

open Text

/-! ## What a report says -/

/-- A report: blocks, and then the profile tables, if any. -/
structure Report where
  text : String
  blocks : List Block
  tables : List String
  layout : reportLines text = blocks.flatMap Block.lines ++ tables
  begins : ∀ line, tables.head? = some line → startsTable (trimSpace line) = true

section

variable {M R : Type} (parseModule : String → Option M) (parseRule : String → Option R)
  (runID : Int) (sourceFile : String)

/-- **The counters keep their headings**: every counter is recorded once, in order, with its name
and value, the title of its block and the nearest heading. -/
def KeepsHeadings (r : Report) : Prop :=
  (parse parseModule parseRule runID sourceFile r.text).1.metrics.map ProfilerMetric.entry =
    entries "" r.blocks

end

/-- **When the counters keep their headings**: a double holds their numbers, none of them stands
behind a line that is too long, and each block of counters is filed under its titles. -/
structure Orderly (r : Report) : Prop where
  fits : ∀ b ∈ r.blocks, ∀ c h, BodyLine.counter c h ∈ b.body → c.number.Fits
  handedOut : ∀ line ∈ (r.blocks.flatMap Block.lines).drop (scanned r.text), ¬ IsCounter line
  filed : ∀ before b after, r.blocks = before ++ b :: after → b.HasCounter → b.Filed before

section Read

variable {M R : Type} {parseModule : String → Option M} {parseRule : String → Option R}
  {runID : Int} {source : String} {s : ParseState M R}

/-! ## How many counters are recorded -/

/-- The line is recorded, under whatever titles. -/
def recordable (raw : String) : Bool :=
  ((metricLine raw.toList).bind fun captures => parseFloat captures.number).isSome

theorem parseMetricLine_isSome (raw : String) (runID : Int) (source section_ module_ : String) :
    (parseMetricLine raw runID source section_ module_).isSome = recordable raw := by
  rw [parseMetricLine, recordable]
  cases metricLine raw.toList with
  | none => rfl
  | some captures => simp

/-- A line adds one counter at most, and only if it can be recorded. -/
theorem read_entries (s : ParseState M R) (raw : String) :
    ∃ new, (s.read parseModule parseRule runID source raw).entries = s.entries ++ new ∧
      new.length ≤ if recordable raw then 1 else 0 := by
  have hsame : ∀ t : ParseState M R, t.metrics = s.metrics →
      ∃ new, t.entries = s.entries ++ new ∧ new.length ≤ if recordable raw then 1 else 0 := by
    intro t ht
    exact ⟨[], by rw [ParseState.entries, ht, List.append_nil, ParseState.entries], Nat.zero_le _⟩
  by_cases htable : isTable s.section_ = true
  · exact hsame _ (read_in_table htable raw).1
  by_cases hstarts : startsTable (trimSpace raw) = true
  · exact hsame _ (read_startsTable hstarts).1
  rw [read_of_noTable (by simpa using htable) (by simpa using hstarts)]
  split
  · exact hsame _ rfl
  unfold ParseState.readOther
  dsimp only
  split
  · split
    · exact hsame _ rfl
    · exact hsame _ rfl
  · have hrecordable := parseMetricLine_isSome raw runID source s.section_ s.module_
    split
    · next metric hmetric =>
        rw [hmetric] at hrecordable
        refine ⟨[metric.entry], by simp [ParseState.entries], ?_⟩
        rw [← hrecordable]
        exact Nat.le_refl 1
    · split
      · exact hsame _ rfl
      · split
        · exact hsame _ rfl
        · exact hsame _ rfl

theorem readAll_entries (s : ParseState M R) (raws : List String) :
    ∃ new, (s.readAll parseModule parseRule runID source raws).entries = s.entries ++ new ∧
      new.length ≤ raws.countP recordable := by
  induction raws generalizing s with
  | nil => exact ⟨[], (List.append_nil _).symm, Nat.le_refl 0⟩
  | cons raw raws ih =>
      obtain ⟨first, hfirst, hone⟩ :=
        @read_entries M R parseModule parseRule runID source s raw
      obtain ⟨new, hnew, hle⟩ := ih (s.read parseModule parseRule runID source raw)
      refine ⟨first ++ new, ?_, ?_⟩
      · rw [readAll_cons, hnew, hfirst, List.append_assoc]
      · rw [List.length_append, List.countP_cons]
        omega

theorem isCounter_of_recordable {raw : String} (h : recordable raw = true) : IsCounter raw := by
  rw [isCounter_iff]
  rw [recordable] at h
  cases hline : metricLine raw.toList with
  | none =>
      rw [hline] at h
      cases h
  | some captures => rfl

theorem recordable_counter (c : CounterText) :
    recordable (String.ofList c.text) = true ↔ c.number.Fits := by
  have hparse := parseMetricLine_of_text (c := c) String.toList_ofList 0 "" "" ""
  rw [← parseMetricLine_isSome _ 0 "" "" "", ← Option.isSome_map (f := ProfilerMetric.entry),
    hparse]
  split
  · next hfits => exact iff_of_true rfl hfits
  · next hfits => exact iff_of_false (by simp) hfits

theorem isCounter_counter (c : CounterText) : IsCounter (String.ofList c.text) :=
  ⟨c, String.toList_ofList⟩

theorem DashLine.noCounter (d : DashLine) : ¬ IsCounter d.raw := by
  rintro ⟨c, hc⟩
  have hshown := c.shown.2
  rw [← hc, String.ofList_toList, d.dashes] at hshown
  cases hshown

theorem length_entries (heading : String) (blocks : List Block) :
    (entries heading blocks).length = (blocks.flatMap Block.lines).countP (IsCounter ·) := by
  have hbody : ∀ (section_ module_ : String) (ls : List BodyLine),
      (ls.filterMap (BodyLine.entry section_ module_)).length =
        (ls.map BodyLine.raw).countP (IsCounter ·) := by
    intro section_ module_ ls
    induction ls with
    | nil => rfl
    | cons l ls ih =>
        rw [List.map_cons, List.countP_cons, ← ih]
        cases l with
        | counter c h =>
            rw [BodyLine.raw, if_pos (decide_eq_true (isCounter_counter c))]
            rfl
        | text t =>
            rw [BodyLine.raw, if_neg (by simpa using t.noCounter)]
            rfl
  induction blocks generalizing heading with
  | nil => rfl
  | cons b blocks ih =>
      rw [entries, List.length_append, hbody, ih, List.flatMap_cons, List.countP_append,
        Block.lines, List.countP_cons_of_neg (by simpa using b.dashes.noCounter),
        List.countP_cons_of_neg (by simpa using b.title.noCounter)]

theorem countP_recordable_le (raws : List String) :
    raws.countP recordable ≤ raws.countP (IsCounter ·) :=
  List.countP_mono_left fun _ _ hraw => decide_eq_true (isCounter_of_recordable hraw)

/-- If as many counters are recorded as there are, a double holds each of them. -/
theorem fits_of_countP_le {blocks : List Block}
    (h : (blocks.flatMap Block.lines).countP (IsCounter ·) ≤
      (blocks.flatMap Block.lines).countP recordable) :
    ∀ b ∈ blocks, ∀ c hc, BodyLine.counter c hc ∈ b.body → c.number.Fits := by
  intro b hb c hc hmem
  have hline : String.ofList c.text ∈ blocks.flatMap Block.lines :=
    List.mem_flatMap.mpr ⟨b, hb, List.mem_cons_of_mem _ (List.mem_cons_of_mem _
      (List.mem_map.mpr ⟨_, hmem, rfl⟩))⟩
  obtain ⟨front, back, heq⟩ := List.append_of_mem hline
  rw [heq, List.countP_append, List.countP_append, List.countP_cons, List.countP_cons,
    if_pos (decide_eq_true (isCounter_counter c))] at h
  rw [← recordable_counter]
  by_contra hlost
  rw [if_neg hlost] at h
  have hfront := countP_recordable_le front
  have hback := countP_recordable_le back
  omega

/-- If no counter is lost, each is one that a double holds, and each is handed out. -/
theorem recorded_of_keeps {blocks : List Block} {n : Nat}
    (h : ((ParseState.start : ParseState M R).readAll parseModule parseRule runID source
      ((blocks.flatMap Block.lines).take n)).entries = entries "" blocks) :
    (blocks.flatMap Block.lines).countP (IsCounter ·) ≤
        (blocks.flatMap Block.lines).countP recordable ∧
      ∀ line ∈ (blocks.flatMap Block.lines).drop n, ¬ IsCounter line := by
  set lines := blocks.flatMap Block.lines with hlines
  obtain ⟨new, hnew, hle⟩ := @readAll_entries M R parseModule parseRule runID source .start
    (lines.take n)
  have hall : lines.countP (IsCounter ·) = new.length := by
    rw [hlines, ← length_entries "", ← h, hnew]
    rfl
  have htake : (lines.take n).countP recordable ≤ (lines.take n).countP (IsCounter ·) :=
    countP_recordable_le _
  have hsplit : lines.countP (IsCounter ·) =
      (lines.take n).countP (IsCounter ·) + (lines.drop n).countP (IsCounter ·) := by
    rw [← List.countP_append, List.take_append_drop]
  constructor
  · have hsublist : (lines.take n).countP recordable ≤ lines.countP recordable :=
      (List.take_sublist n lines).countP_le
    omega
  · have hnone : (lines.drop n).countP (IsCounter ·) = 0 := by omega
    intro line hline
    simpa using List.countP_eq_zero.mp hnone line hline

/-- Lines without counters may as well be read. -/
theorem readAll_take_entries {lines : List String} {n : Nat}
    (h : ∀ line ∈ lines.drop n, ¬ IsCounter line) :
    (s.readAll parseModule parseRule runID source (lines.take n)).entries =
      (s.readAll parseModule parseRule runID source lines).entries := by
  obtain ⟨new, hnew, hle⟩ := @readAll_entries M R parseModule parseRule runID source
    (s.readAll parseModule parseRule runID source (lines.take n)) (lines.drop n)
  have hnone : (lines.drop n).countP recordable = 0 :=
    List.countP_eq_zero.mpr fun line hline hraw => h line hline (isCounter_of_recordable hraw)
  have hnil : new = [] := List.eq_nil_of_length_eq_zero (by omega)
  rw [← readAll_append, List.take_append_drop, hnil, List.append_nil] at hnew
  exact hnew.symm

/-- The tables add no counter. -/
theorem readAll_tables {tables : List String}
    (h : ∀ line, tables.head? = some line → startsTable (trimSpace line) = true) (n : Nat) :
    (s.readAll parseModule parseRule runID source (tables.take n)).entries = s.entries := by
  cases tables with
  | nil =>
      rw [List.take_nil]
      rfl
  | cons line tables =>
      cases n with
      | zero => rfl
      | succ n =>
          obtain ⟨hmetrics, htable⟩ :=
            @read_startsTable M R parseModule parseRule runID source s line (h line rfl)
          rw [List.take_succ_cons, readAll_cons, readAll_in_table htable, ParseState.entries,
            hmetrics, ParseState.entries]

/-! ## When the counters of blocks are filed -/

theorem isTable_openSection {blocks : List Block}
    (h : ∀ line ∈ openers blocks, isTable line = false) : isTable (openSection blocks) = false := by
  rw [openSection]
  cases hlast : (openers blocks).getLast? with
  | none => decide
  | some line => exact h line (List.mem_of_getLast? hlast)

/-- Behind a section with the name of a table nothing is recorded, and nothing is filed. -/
theorem Follows.stuck_iff {before rest : List Block} (h : Follows before s) {line : String}
    (hlast : (openers before).getLast? = some line) (htable : isTable line = true) :
    (s.readAll parseModule parseRule runID source (rest.flatMap Block.lines)).entries =
        s.entries ++ entries ((heading before).getD "") rest ↔
      ∀ mid b after, rest = mid ++ b :: after → b.HasCounter → b.Filed (before ++ mid) := by
  have hopen : openSection before = line := by rw [openSection, hlast]; rfl
  rw [h.stuck (by rw [hopen]; exact htable), List.self_eq_append_right, entries_eq_nil_iff]
  constructor
  · rintro hnone mid b after rfl hcounter
    exact absurd hcounter (hnone b (by simp))
  · intro hfiled b hmem hcounter
    obtain ⟨mid, after, heq⟩ := List.append_of_mem hmem
    have hout := (hfiled mid b after heq hcounter).outside line
      (openers_subset before mid line (List.mem_of_getLast? hlast))
    rw [htable] at hout
    cases hout

theorem forall_blocks_cons {P : List Block → Block → Prop} {b : Block} {rest : List Block} :
    (∀ mid b' after, b :: rest = mid ++ b' :: after → P mid b') ↔
      P [] b ∧ ∀ mid b' after, rest = mid ++ b' :: after → P (b :: mid) b' := by
  constructor
  · intro h
    refine ⟨h [] b rest rfl, fun mid b' after heq => h (b :: mid) b' after ?_⟩
    rw [heq]
    rfl
  · rintro ⟨hfirst, hrest⟩ mid b' after heq
    cases mid with
    | nil =>
        cases heq
        exact hfirst
    | cons b'' mid =>
        obtain ⟨rfl, hback⟩ := List.cons.inj heq
        exact hrest mid b' after hback

/-- **Blocks keep their headings exactly if they are filed under their titles**, behind whatever
blocks. -/
theorem Follows.keeps_iff {before rest : List Block} (h : Follows before s)
    (houtside : ∀ line ∈ openers before, isTable line = false)
    (hfits : ∀ b ∈ rest, ∀ c hc, BodyLine.counter c hc ∈ b.body → c.number.Fits) :
    (s.readAll parseModule parseRule runID source (rest.flatMap Block.lines)).entries =
        s.entries ++ entries ((heading before).getD "") rest ↔
      ∀ mid b after, rest = mid ++ b :: after → b.HasCounter → b.Filed (before ++ mid) := by
  induction rest generalizing before s with
  | nil => simp [ParseState.readAll, entries]
  | cons b rest ih =>
      obtain ⟨hnext, module_, hplain, hunopened, hblock⟩ :=
        @Follows.block M R parseModule parseRule runID source s before h
          (isTable_openSection houtside) b (hfits b List.mem_cons_self)
      obtain ⟨new, hnew, -⟩ := @readAll_entries M R parseModule parseRule runID source
        (s.readAll parseModule parseRule runID source b.lines) (rest.flatMap Block.lines)
      have hlength := length_filedUnder (openSection before) module_ ((heading before).getD "")
        b.title.name b.inner
      have hsplit : (s.readAll parseModule parseRule runID source
            ((b :: rest).flatMap Block.lines)).entries =
            s.entries ++ entries ((heading before).getD "") (b :: rest) ↔
          (b.HasCounter → b.Filed before) ∧
            ((s.readAll parseModule parseRule runID source b.lines).readAll parseModule parseRule
                runID source (rest.flatMap Block.lines)).entries =
              (s.readAll parseModule parseRule runID source b.lines).entries ++
                entries ((heading (before ++ [b])).getD "") rest := by
        have hhead : (if b.body.isEmpty then b.title.name else (heading before).getD "") =
            (heading (before ++ [b])).getD "" := by
          rw [heading_concat]
          split <;> rfl
        rw [List.flatMap_cons, readAll_append, hnew, List.append_cancel_left_eq, hblock,
          List.append_assoc, List.append_cancel_left_eq, entries, hhead,
          ← filedUnder_inner_iff hplain hunopened houtside]
        constructor
        · exact fun heq => List.append_inj heq hlength
        · intro hparts
          rw [hparts.1, hparts.2]
      rw [hsplit, forall_blocks_cons, List.append_nil]
      refine and_congr_right fun _ => ?_
      have hfits' : ∀ b' ∈ rest, ∀ c hc, BodyLine.counter c hc ∈ b'.body → c.number.Fits :=
        fun b' hmem => hfits b' (List.mem_cons_of_mem _ hmem)
      -- the block may open a section, and that may have the name of a table
      suffices hrest : ((s.readAll parseModule parseRule runID source b.lines).readAll parseModule
            parseRule runID source (rest.flatMap Block.lines)).entries =
            (s.readAll parseModule parseRule runID source b.lines).entries ++
              entries ((heading (before ++ [b])).getD "") rest ↔
          ∀ mid b' after, rest = mid ++ b' :: after → b'.HasCounter →
            b'.Filed ((before ++ [b]) ++ mid) by
        rw [hrest]
        simp
      cases hleft : b.left (!(openers before).isEmpty) with
      | none =>
          refine ih hnext ?_ hfits'
          rw [openers_concat, hleft]
          simpa using houtside
      | some line =>
          cases htable : isTable line with
          | false =>
              refine ih hnext ?_ hfits'
              rw [openers_concat, hleft]
              intro line' hmem
              rcases List.mem_append.mp hmem with hold | hnew
              · exact houtside line' hold
              · rw [List.mem_singleton.mp hnew]
                exact htable
          | true => exact hnext.stuck_iff (by rw [openers_concat, hleft]; simp) htable

end Read

section

variable {M R : Type} (parseModule : String → Option M) (parseRule : String → Option R)
  (runID : Int) (sourceFile : String)

/-- The counters that are recorded are those of the lines that are handed out. -/
theorem parse_entries (r : Report) :
    (parse parseModule parseRule runID sourceFile r.text).1.entries =
      ((ParseState.start : ParseState M R).readAll parseModule parseRule runID
        (String.ofList (Path.base sourceFile.toList))
        ((r.blocks.flatMap Block.lines).take (scanned r.text))).entries := by
  rw [parse, r.layout, List.take_append, readAll_append]
  exact readAll_tables r.begins _

/-- **When the counters of a report keep their headings.** -/
theorem keepsHeadings_iff (r : Report) :
    KeepsHeadings parseModule parseRule runID sourceFile r ↔ Orderly r := by
  have hkeeps : KeepsHeadings parseModule parseRule runID sourceFile r ↔
      ((ParseState.start : ParseState M R).readAll parseModule parseRule runID
        (String.ofList (Path.base sourceFile.toList))
        ((r.blocks.flatMap Block.lines).take (scanned r.text))).entries = entries "" r.blocks := by
    rw [← parse_entries]
    rfl
  rw [hkeeps]
  constructor
  · intro h
    have hrecorded := recorded_of_keeps h
    have hfits := fits_of_countP_le hrecorded.1
    have hfiled := ((readAll_take_entries hrecorded.2).symm.trans h)
    exact ⟨hfits, hrecorded.2, (follows_start.keeps_iff (by simp [openers]) hfits).mp hfiled⟩
  · intro h
    rw [readAll_take_entries h.handedOut]
    exact (follows_start.keeps_iff (by simp [openers]) h.fits).mpr h.filed

end

/-! ## The end of a report

The last blocks Snort prints, below `Summary Statistics`. The running time is no number, and the
heading begins with neither of the two texts that open a section.
-/

/-- The text can be the title of a block. -/
def IsTitle (raw : String) : Prop :=
  ¬ IsCounter raw ∧ isSeparator (trimSpace raw) = false ∧ startsTable (trimSpace raw) = false ∧
    trimSpace raw ≠ "" ∧ shouldIgnoreLine (trimSpace raw) = false

instance isTitleDecidable (raw : String) : Decidable (IsTitle raw) :=
  inferInstanceAs (Decidable (_ ∧ _))

def Title.of (raw : String) (h : IsTitle raw) : Title :=
  { raw, noCounter := h.1, noDashes := fun _ => h.2.1, noTable := h.2.2.1, shown := h.2.2.2.1
    noticed := h.2.2.2.2 }

/-- The texts can be a name and the digits before and behind the point. -/
def IsCounterOf (name whole fraction : String) : Prop :=
  name.toList ≠ [] ∧ ':' ∉ name.toList ∧ whole.toList ≠ [] ∧
    (whole.toList ++ fraction.toList).all Char.isDigit = true

instance isCounterOfDecidable (name whole fraction : String) :
    Decidable (IsCounterOf name whole fraction) := inferInstanceAs (Decidable (_ ∧ _))

/-- `name: number`. -/
def CounterText.of (name whole fraction : String) (h : IsCounterOf name whole fraction) :
    CounterText where
  name := name.toList
  lead := [' ']
  number :=
    { sign := [], whole := whole.toList, fraction := fraction.toList
      sign_mem := List.mem_cons_self, whole_ne := h.2.2.1, digits := List.all_eq_true.mp h.2.2.2 }
  gap := []
  percent := none
  space := []
  unit := []
  trail := []
  name_ne := h.1
  name_colon := h.2.1
  blank := List.all_eq_true.mp rfl
  alpha := List.all_eq_true.mp rfl

theorem timing_texts :
    (trimSpace "--------------------------------------------------" ≠ "" ∧
      isSeparator (trimSpace "--------------------------------------------------") = true) ∧
    (IsTitle "Module Statistics" ∧ IsTitle "wizard" ∧ IsTitle "Summary Statistics" ∧
      IsTitle "timing" ∧ IsTitle "                  runtime: 00:05:53") ∧
    IsCounterOf "                tcp_scans" "205631" "" ∧
    IsCounterOf "                  seconds" "353" "822278" := by
  decide +kernel

def dashes : DashLine :=
  ⟨"--------------------------------------------------", timing_texts.1.1, timing_texts.1.2⟩

def tcpScans : CounterText := .of "                tcp_scans" "205631" "" timing_texts.2.2.1

def seconds : CounterText := .of "                  seconds" "353" "822278" timing_texts.2.2.2

theorem timing_noTable : startsTable (trimSpace (String.ofList tcpScans.text)) = false ∧
    startsTable (trimSpace (String.ofList seconds.text)) = false := by
  decide +kernel

def timingBlocks : List Block :=
  [{ dashes, title := .of "Module Statistics" timing_texts.2.1.1, body := [] },
   { dashes, title := .of "wizard" timing_texts.2.1.2.1
     body := [.counter tcpScans timing_noTable.1] },
   { dashes, title := .of "Summary Statistics" timing_texts.2.1.2.2.1, body := [] },
   { dashes, title := .of "timing" timing_texts.2.1.2.2.2.1
     body :=
       [.text (Title.of "                  runtime: 00:05:53" timing_texts.2.1.2.2.2.2).toTextLine,
        .counter seconds timing_noTable.2] }]

def timingLines : List String :=
  ["--------------------------------------------------", "Module Statistics",
   "--------------------------------------------------", "wizard",
   "                tcp_scans: 205631",
   "--------------------------------------------------", "Summary Statistics",
   "--------------------------------------------------", "timing",
   "                  runtime: 00:05:53",
   "                  seconds: 353.822278"]

def timingText : String :=
  String.ofList (timingLines.flatMap fun line => line.toList ++ ['\n'])

theorem timing_rawLines : rawLines timingText = timingLines.map String.toList := by
  rw [rawLines, timingText, String.toList_ofList]
  decide +kernel

theorem timing_layout : reportLines timingText = timingBlocks.flatMap Block.lines ++ [] := by
  rw [reportLines, timing_rawLines]
  decide +kernel

theorem no_tables : ∀ line, ([] : List String).head? = some line →
    startsTable (trimSpace line) = true := by
  simp

def timingReport : Report :=
  { text := timingText, blocks := timingBlocks, tables := [], layout := timing_layout
    begins := no_tables }

/-- What is recorded of the report. -/
def timingEntries : List Entry :=
  [{ name := "tcp_scans", value := 205631, module_ := "wizard", section_ := "Module Statistics" },
   { name := "seconds", value := 353822278 / 1000000, module_ := "runtime: 00:05:53"
     section_ := "Module Statistics" }]

/-- The seconds of the timing block are filed under the running time, and in the section before. -/
theorem timing_misfiled :
    (parse (fun _ => (none : Option Unit)) (fun _ => (none : Option Unit)) 1 "tmp/time.txt"
        timingReport.text).1.entries = timingEntries ∧
    ¬ KeepsHeadings (fun _ => (none : Option Unit)) (fun _ => (none : Option Unit)) 1
      "tmp/time.txt" timingReport := by
  have hscanned : scanned timingText = 11 := by
    rw [scanned, timing_rawLines]
    decide +kernel
  have hentries : (parse (fun _ => (none : Option Unit)) (fun _ => (none : Option Unit)) 1
      "tmp/time.txt" timingReport.text).1.entries = timingEntries := by
    unfold parse
    simp only [timingReport, timing_layout, hscanned]
    decide +kernel
  refine ⟨hentries, fun hkeeps => ?_⟩
  have hwrong : timingEntries = entries "" timingBlocks := hentries.symm.trans hkeeps
  revert hwrong
  decide +kernel

end SnortOptimizer.Profiler
