import SnortOptimizer.Analyser.Rules
import SnortOptimizer.Sql.Lexer

/-!
# Insert scripts (`sql/alerts/store.go`, `sql/rules/store.go`, `sql/profiler/store.go`)

The stores write a batch of records as one script, `BEGIN`, an `INSERT` for each record and
`COMMIT`, in which strings are put between quotes by `db.Quote` and everything is formatted by
position. The strings come from the network and from rule files. `insertBatch_scripts` says that
the script reads as what was meant, whatever the strings are.

A character stands for a code point or for a single byte: beyond ASCII the reader treats all of
them alike.
-/

namespace SnortOptimizer.Sql

open Analyser Text

/-! ## Formatting -/

/-- A `float64` as `%g` writes it. -/
inductive FloatText
  | nan
  | inf (negative : Bool)
  | finite (negative : Bool) (whole : Nat) (fraction : List (Fin 10))
      (exponent : Option (Bool × Nat))

def fractionText (fraction : List (Fin 10)) : List Char :=
  if fraction = [] then [] else '.' :: fraction.map fun d => Nat.digitChar d.val

/-- An exponent has a sign and at least two digits. -/
def exponentText : Option (Bool × Nat) → List Char
  | none => []
  | some (negative, n) =>
      'e' :: (if negative then '-' else '+') ::
        (if n < 10 then '0' :: (toString n).toList else (toString n).toList)

/-- The text of a number without its sign. -/
def magnitudeText (whole : Nat) (fraction : List (Fin 10)) (exponent : Option (Bool × Nat)) :
    List Char :=
  (toString whole).toList ++ (fractionText fraction ++ exponentText exponent)

def FloatText.text : FloatText → List Char
  | .nan => "NaN".toList
  | .inf negative => if negative then "-Inf".toList else "+Inf".toList
  | .finite negative whole fraction exponent =>
      if negative then '-' :: magnitudeText whole fraction exponent
      else magnitudeText whole fraction exponent

/-- An argument of `Fprintf`. -/
inductive Arg
  | int (n : Int)
  | str (s : List Char)
  | float (x : FloatText)

/-- The verb that is meant for an argument. -/
def Arg.verb : Arg → Char
  | .int _ => 'd'
  | .str _ => 's'
  | .float _ => 'g'

def Arg.typeName : Arg → String
  | .int _ => "int64"
  | .str _ => "string"
  | .float _ => "float64"

def Arg.text : Arg → List Char
  | .int n => (toString n).toList
  | .str s => s
  | .float x => x.text

/-- What is written for a verb, with a complaint if the argument is not of its type. -/
def Arg.format (verb : Char) (a : Arg) : List Char :=
  if a.verb = verb then a.text
  else ['%', '!', verb, '('] ++ a.typeName.toList ++ '=' :: a.text ++ [')']

/-- What is written for arguments that are left over. -/
def extraArgs (args : List Arg) : List Char :=
  if args.isEmpty then []
  else
    "%!(EXTRA ".toList ++
      [',', ' '].intercalate (args.map fun a => a.typeName.toList ++ '=' :: a.text) ++ [')']

def noVerb : List Char := "%!(NOVERB)".toList

def missing : List Char := "(MISSING)".toList

/-- The rest of a format, at a verb or not. -/
def fprintfFrom : Bool → List Char → List Arg → List Char
  | false, [], args => extraArgs args
  | true, [], args => noVerb ++ extraArgs args
  | false, c :: format, args =>
      if c = '%' then fprintfFrom true format args else c :: fprintfFrom false format args
  | true, c :: format, [] => ['%', '!', c] ++ missing ++ fprintfFrom false format []
  | true, c :: format, a :: args => a.format c ++ fprintfFrom false format args

/-- `Fprintf`, with verbs of one letter. -/
def fprintf (format : List Char) (args : List Arg) : List Char := fprintfFrom false format args

/-- `db.Quote`. -/
def quote (value : String) : List Char := '\'' :: doubled value.toList ++ ['\'']

/-! ## The stores -/

/-- The fields of `config.Config` that the stores write. -/
structure Config where
  runID : Int
  alertPath : String

/-- `types.Alert`, as far as it is stored. -/
structure Alert where
  timestamp : String
  pktNum : Int
  proto : String
  pktGen : String
  pktLen : Int
  dir : String
  srcAP : String
  dstAP : String
  gid : Int
  sid : Int
  rev : Int
  rule : String
  action : String
  rawJSON : String
  createdAt : String

/-- `types.ProfilerMetric`. -/
structure ProfilerMetric where
  runID : Int
  section_ : String
  module_ : String
  metric : String
  value : FloatText
  percent : FloatText
  unit : String
  rawLine : String
  sourceFile : String
  createdAt : String

/-- `BEGIN`, a statement for each record, and `COMMIT`; there is no script for no records. -/
def batchScript {α : Type} (line : α → List Char) (batch : List α) : Option (List Char) :=
  if batch.isEmpty then none
  else some ("BEGIN;\n".toList ++ batch.flatMap line ++ "COMMIT;\n".toList)

/-- The text of a statement up to its values. -/
def insertText (command : List String) (table : String) (columns : List String) : List Char :=
  (command ++ ["INTO", table]).flatMap (fun w => w.toList ++ [' ']) ++ '(' ::
    ([',', ' '].intercalate (columns.map String.toList) ++ [')'] ++ "\nVALUES (".toList)

/-- The format of a statement. -/
def insertFormat (command : List String) (table : String) (columns verbs : List String) :
    List Char :=
  insertText command table columns ++
    [',', ' '].intercalate (verbs.map String.toList) ++ ");\n".toList

def alertColumns : List String :=
  ["run_id", "timestamp", "pkt_num", "proto", "pkt_gen", "pkt_len", "dir", "src_ap", "dst_ap",
    "gid", "sid", "rev", "rule", "action", "raw_json", "source_file", "created_at"]

def alertFormat : List Char :=
  insertFormat ["INSERT"] "alerts" alertColumns
    ["%d", "%s", "%d", "%s", "%s", "%d", "%s", "%s", "%s", "%d", "%d", "%d", "%s", "%s", "%s",
      "%s", "%s"]

def alertLine (cfg : Config) (now : String) (a : Alert) : List Char :=
  let createdAt := if a.createdAt = "" then now else a.createdAt
  fprintf alertFormat
    [.int cfg.runID, .str (quote a.timestamp), .int a.pktNum, .str (quote a.proto),
      .str (quote a.pktGen), .int a.pktLen, .str (quote a.dir), .str (quote a.srcAP),
      .str (quote a.dstAP), .int a.gid, .int a.sid, .int a.rev, .str (quote a.rule),
      .str (quote a.action), .str (quote a.rawJSON), .str (quote cfg.alertPath),
      .str (quote createdAt)]

/-- The script of `alerts.InsertBatch`. -/
def alertScript (cfg : Config) (now : String) (batch : List Alert) : Option (List Char) :=
  batchScript (alertLine cfg now) batch

def ruleColumns : List String :=
  ["run_id", "sid", "gid", "rev", "action", "proto", "src_net", "src_port", "direction",
    "dst_net", "dst_port", "msg", "classtype", "enabled", "source_file", "raw_text", "created_at"]

def ruleFormat : List Char :=
  insertFormat ["INSERT", "OR", "IGNORE"] "rules" ruleColumns
    ["%d", "%d", "%d", "%d", "%s", "%s", "%s", "%s", "%s", "%s", "%s", "%s", "%s", "%d", "%s",
      "%s", "%s"]

def ruleLine (cfg : Config) (now : String) (r : Rule) : List Char :=
  let enabled := if r.enabled then 1 else 0
  fprintf ruleFormat
    [.int cfg.runID, .int r.sid, .int r.gid, .int r.rev, .str (quote r.action),
      .str (quote r.proto), .str (quote r.srcNet), .str (quote r.srcPort), .str (quote r.direction),
      .str (quote r.dstNet), .str (quote r.dstPort), .str (quote r.msg), .str (quote r.classtype),
      .int enabled, .str (quote r.sourceFile), .str (quote r.rawText), .str (quote now)]

/-- The script of `rules.InsertBatch`. -/
def ruleScript (cfg : Config) (now : String) (records : List Rule) : Option (List Char) :=
  batchScript (ruleLine cfg now) records

def metricColumns : List String :=
  ["run_id", "section", "module", "metric", "value", "percent", "unit", "raw_line",
    "source_file", "created_at"]

def metricFormat : List Char :=
  insertFormat ["INSERT"] "profiler_metrics" metricColumns
    ["%d", "%s", "%s", "%s", "%g", "%g", "%s", "%s", "%s", "%s"]

def effectiveRunID (cfg : Config) (runID : Int) : Int := if runID ≠ 0 then runID else cfg.runID

def metricLine (cfg : Config) (now : String) (m : ProfilerMetric) : List Char :=
  let createdAt := if m.createdAt = "" then now else m.createdAt
  fprintf metricFormat
    [.int (effectiveRunID cfg m.runID), .str (quote m.section_), .str (quote m.module_),
      .str (quote m.metric), .float m.value, .float m.percent, .str (quote m.unit),
      .str (quote m.rawLine), .str (quote m.sourceFile), .str (quote createdAt)]

/-- The script of `profiler.InsertBatch`. -/
def metricScript (cfg : Config) (now : String) (metrics : List ProfilerMetric) :
    Option (List Char) :=
  batchScript (metricLine cfg now) metrics

/-! ## What a script is to say -/

inductive Value
  | int (n : Int)
  | str (s : String)
  | float (x : FloatText)

/-- The value as it is handed to `Fprintf`. -/
def Value.arg : Value → Arg
  | .int n => .int n
  | .str s => .str (quote s)
  | .float x => .float x

def intTokens : Int → List Token
  | .ofNat n => [.number (toString n).toList]
  | .negSucc n => [.sign '-', .number (toString (n + 1)).toList]

def FloatText.tokens : FloatText → List Token
  | .nan => [.word "NaN".toList]
  | .inf negative => [.sign (if negative then '-' else '+'), .word "Inf".toList]
  | .finite negative whole fraction exponent =>
      (if negative then [.sign '-'] else []) ++ [.number (magnitudeText whole fraction exponent)]

def Value.tokens : Value → List Token
  | .int n => intTokens n
  | .str s => [.string s.toList]
  | .float x => x.tokens

/-- An `INSERT` statement: the values of the columns, by position. -/
structure Insert where
  command : List String
  table : String
  columns : List String
  values : List Value

def word (s : String) : Token := .word s.toList

/-- The tokens in front of the values. -/
def Insert.head (i : Insert) : List Token :=
  (i.command ++ ["INTO", i.table]).map word ++ .sign '(' ::
    (commaTokens (i.columns.map fun c => [word c]) ++ [.sign ')'] ++ [word "VALUES", .sign '('])

def Insert.tokens (i : Insert) : List Token :=
  i.head ++ commaTokens (i.values.map Value.tokens) ++ [.sign ')']

def Value.string? : Value → Option String
  | .str s => some s
  | _ => none

/-- The strings among the values. -/
def Insert.strings (i : Insert) : List String := i.values.filterMap Value.string?

def alertInsert (cfg : Config) (now : String) (a : Alert) : Insert where
  command := ["INSERT"]
  table := "alerts"
  columns := alertColumns
  values := [.int cfg.runID, .str a.timestamp, .int a.pktNum, .str a.proto, .str a.pktGen,
    .int a.pktLen, .str a.dir, .str a.srcAP, .str a.dstAP, .int a.gid, .int a.sid, .int a.rev,
    .str a.rule, .str a.action, .str a.rawJSON, .str cfg.alertPath,
    .str (if a.createdAt = "" then now else a.createdAt)]

def ruleInsert (cfg : Config) (now : String) (r : Rule) : Insert where
  command := ["INSERT", "OR", "IGNORE"]
  table := "rules"
  columns := ruleColumns
  values := [.int cfg.runID, .int r.sid, .int r.gid, .int r.rev, .str r.action, .str r.proto,
    .str r.srcNet, .str r.srcPort, .str r.direction, .str r.dstNet, .str r.dstPort, .str r.msg,
    .str r.classtype, .int (if r.enabled then 1 else 0), .str r.sourceFile, .str r.rawText,
    .str now]

def metricInsert (cfg : Config) (now : String) (m : ProfilerMetric) : Insert where
  command := ["INSERT"]
  table := "profiler_metrics"
  columns := metricColumns
  values := [.int (effectiveRunID cfg m.runID), .str m.section_, .str m.module_, .str m.metric,
    .float m.value, .float m.percent, .str m.unit, .str m.rawLine, .str m.sourceFile,
    .str (if m.createdAt = "" then now else m.createdAt)]

/-! ## Values -/

theorem numberText_toString (n : Nat) : NumberText (toString n).toList := by
  have h := @numberText_append (toString n).toList [] (toString_nat_ne_nil n)
    (fun c => isDigit_of_mem_toString) (by rw [List.append_nil]; rfl)
  rwa [List.append_nil] at h

theorem readsValue_int (n : Int) : ReadsValue (toString n).toList (intTokens n) := by
  cases n with
  | ofNat k => exact (numberText_toString k).readsValue
  | negSucc k =>
      rw [toString_negSucc]
      exact (numberText_toString (k + 1)).readsValue_neg

theorem run_fractionText (fraction : List (Fin 10)) (before : List Char) :
    run (.number before) (fractionText fraction) =
      ([], .number (before ++ fractionText fraction)) := by
  apply run_number
  intro c hc
  unfold fractionText at hc
  split at hc
  · cases hc
  · rcases List.mem_cons.mp hc with rfl | hc
    · exact .inr rfl
    · obtain ⟨d, _, rfl⟩ := List.mem_map.mp hc
      exact .inl (by simp [isIdChar])

theorem run_exponentText (exponent : Option (Bool × Nat)) (before : List Char) :
    run (.number before) (exponentText exponent) =
      ([], .number (before ++ exponentText exponent)) := by
  cases exponent with
  | none => rw [exponentText, List.append_nil]; rfl
  | some e =>
      apply run_number_exponent
      · cases e.1 <;> simp
      · intro c hc
        split at hc
        · rcases List.mem_cons.mp hc with rfl | hc
          · rfl
          · exact isDigit_of_mem_toString hc
        · exact isDigit_of_mem_toString hc

theorem numberText_magnitude (whole : Nat) (fraction : List (Fin 10))
    (exponent : Option (Bool × Nat)) : NumberText (magnitudeText whole fraction exponent) := by
  apply numberText_append (toString_nat_ne_nil whole) fun c => isDigit_of_mem_toString
  have hrun := run_trans (run_fractionText fraction (toString whole).toList)
    (run_exponentText exponent _)
  rwa [List.append_assoc] at hrun

theorem readsValue_float (x : FloatText) : ReadsValue x.text x.tokens := by
  cases x with
  | nan => rintro c (rfl | rfl) <;> decide +kernel
  | inf negative => cases negative <;> rintro c (rfl | rfl) <;> decide +kernel
  | finite negative whole fraction exponent =>
      cases negative with
      | false => exact (numberText_magnitude whole fraction exponent).readsValue
      | true => exact (numberText_magnitude whole fraction exponent).readsValue_neg

/-- The text ends at a NUL, so there may be none in a string. -/
def Value.NoNul : Value → Prop
  | .str s => '\x00' ∉ s.toList
  | _ => True

/-- **A value reads as itself.** -/
theorem readsValue_arg {v : Value} (h : v.NoNul) : ReadsValue v.arg.text v.tokens := by
  cases v with
  | int n => exact readsValue_int n
  | str s => exact readsValue_literal h
  | float x => exact readsValue_float x

/-! ## A statement -/

theorem fprintf_text {text : List Char} (h : '%' ∉ text) (format : List Char) (args : List Arg) :
    fprintf (text ++ format) args = text ++ fprintf format args := by
  induction text with
  | nil => rfl
  | cons c cs ih =>
      rw [List.mem_cons, not_or] at h
      rw [List.cons_append, fprintf, fprintfFrom, if_neg (Ne.symm h.1)]
      exact congrArg (c :: ·) (ih h.2)

theorem fprintf_verb (a : Arg) (format : List Char) (args : List Arg) :
    fprintf ('%' :: a.verb :: format) (a :: args) = a.text ++ fprintf format args := by
  rw [fprintf, fprintfFrom, if_pos rfl, fprintfFrom, Arg.format, if_pos rfl]
  rfl

/-- Verbs with commas in between are replaced by the arguments they are meant for. -/
theorem fprintf_verbs {tail : List Char} (htail : '%' ∉ tail) (args : List Arg) :
    fprintf ([',', ' '].intercalate (args.map fun a => ['%', a.verb]) ++ tail) args =
      [',', ' '].intercalate (args.map Arg.text) ++ tail := by
  have hend : fprintf tail [] = tail := by
    have hnil : fprintf [] [] = [] := rfl
    have h := fprintf_text htail [] []
    rwa [hnil, List.append_nil] at h
  induction args with
  | nil => exact hend
  | cons a args ih =>
      cases args with
      | nil =>
          simp only [List.map_cons, List.map_nil, List.intercalate_singleton]
          exact (fprintf_verb a tail []).trans (congrArg (a.text ++ ·) hend)
      | cons b args =>
          simp only [List.map_cons, List.intercalate_cons_cons, List.append_assoc] at ih ⊢
          rw [← ih]
          refine (fprintf_verb a _ (b :: args)).trans (congrArg (a.text ++ ·) ?_)
          have hsep : '%' ∉ [',', ' '] := by decide
          exact fprintf_text hsep _ _

theorem notMem_of_isWord {w : List Char} (h : isWord w = true) : '%' ∉ w := by
  cases w with
  | nil => exact List.not_mem_nil
  | cons c cs =>
      rw [isWord, Bool.and_eq_true, List.all_eq_true] at h
      intro hmem
      have hc : isIdChar '%' = true := by
        rcases List.mem_cons.mp hmem with rfl | hmem
        · exact isIdChar_of_isAlpha h.1
        · exact h.2 _ hmem
      cases hc

/-- The words of a statement are keywords and names. -/
structure Insert.Plain (i : Insert) : Prop where
  command : ∀ w ∈ i.command ++ ["INTO", i.table], isWord w.toList = true
  columns : ∀ w ∈ i.columns, isWord w.toList = true
  some_column : i.columns ≠ []
  some_value : i.values ≠ []

theorem reads_insertText {i : Insert} (h : i.Plain) :
    Reads (insertText i.command i.table i.columns) i.head := by
  have hcommand : Reads ((i.command ++ ["INTO", i.table]).flatMap fun w => w.toList ++ [' '])
      ((i.command ++ ["INTO", i.table]).map word) := by
    rw [List.map_eq_flatMap]
    exact Reads.flatMap fun w hw => reads_word_space (h.command w hw)
  have hopen : Reads ['('] [.sign '('] := rfl
  have hcolumns : Reads ([',', ' '].intercalate (i.columns.map String.toList) ++ [')'])
      (commaTokens (i.columns.map fun c => [word c]) ++ [.sign ')']) :=
    reads_commas h.some_column fun w hw => readsValue_word (h.columns w hw)
  have hvalues : Reads "\nVALUES (".toList [word "VALUES", .sign '('] := by decide +kernel
  exact hcommand.append (hopen.append (hcolumns.append hvalues))

theorem notMem_intercalate {α : Type} {c : α} {sep : List α} {lists : List (List α)}
    (hsep : c ∉ sep) (h : ∀ l ∈ lists, c ∉ l) : c ∉ sep.intercalate lists := by
  induction lists with
  | nil => exact List.not_mem_nil
  | cons l lists ih =>
      rw [List.forall_mem_cons] at h
      cases lists with
      | nil => simpa using h.1
      | cons l' lists =>
          rw [List.intercalate_cons_cons, List.mem_append, List.mem_append]
          exact not_or.mpr ⟨not_or.mpr ⟨h.1, hsep⟩, ih h.2⟩

theorem notMem_insertText {i : Insert} (h : i.Plain) :
    '%' ∉ insertText i.command i.table i.columns := by
  have hcommand : '%' ∉ (i.command ++ ["INTO", i.table]).flatMap fun w => w.toList ++ [' '] := by
    intro hmem
    obtain ⟨w, hw, hmem⟩ := List.mem_flatMap.mp hmem
    rcases List.mem_append.mp hmem with hmem | hmem
    · exact notMem_of_isWord (h.command w hw) hmem
    · exact absurd hmem (by decide)
  have hcolumns : '%' ∉ [',', ' '].intercalate (i.columns.map String.toList) := by
    apply notMem_intercalate (by decide)
    intro l hl
    obtain ⟨w, hw, rfl⟩ := List.mem_map.mp hl
    exact notMem_of_isWord (h.columns w hw)
  have hvalues : '%' ∉ "\nVALUES (".toList := by decide +kernel
  rw [insertText, List.mem_append, List.mem_cons, List.mem_append, List.mem_append]
  rintro (hmem | hmem | (hmem | hmem) | hmem)
  · exact hcommand hmem
  · cases hmem
  · exact hcolumns hmem
  · exact absurd hmem (by decide)
  · exact hvalues hmem

/-- A format that has a verb for each value. -/
theorem fprintf_insertFormat {i : Insert} (h : i.Plain) {verbs : List String}
    (hverbs : verbs.map String.toList = (i.values.map Value.arg).map fun a => ['%', a.verb]) :
    fprintf (insertFormat i.command i.table i.columns verbs) (i.values.map Value.arg) =
      insertText i.command i.table i.columns ++
        ([',', ' '].intercalate ((i.values.map Value.arg).map Arg.text) ++ ");\n".toList) := by
  have htail : '%' ∉ ");\n".toList := by decide +kernel
  rw [insertFormat, hverbs, List.append_assoc, fprintf_text (notMem_insertText h),
    fprintf_verbs htail]

/-- **A statement reads as the insert it was made from.** -/
theorem reads_insert {i : Insert} (h : i.Plain) (hnul : ∀ v ∈ i.values, v.NoNul)
    {verbs : List String}
    (hverbs : verbs.map String.toList = (i.values.map Value.arg).map fun a => ['%', a.verb]) :
    Reads (fprintf (insertFormat i.command i.table i.columns verbs) (i.values.map Value.arg))
      (i.tokens ++ [.sign ';']) := by
  have hvalues := reads_commas h.some_value fun v hv => readsValue_arg (hnul v hv)
  have hend : Reads ";\n".toList [.sign ';'] := by decide +kernel
  have hread := (reads_insertText h).append (hvalues.append hend)
  rw [fprintf_insertFormat h hverbs, List.map_map, Insert.tokens, List.append_assoc,
    List.append_assoc]
  rw [List.append_assoc, List.append_assoc] at hread
  exact hread

/-! ## A script -/

theorem notMem_tokens (v : Value) : Token.sign ';' ∉ v.tokens := by
  cases v with
  | int n => cases n <;> simp [Value.tokens, intTokens]
  | str s => simp [Value.tokens]
  | float x =>
      cases x with
      | nan => simp [Value.tokens, FloatText.tokens]
      | inf negative => cases negative <;> simp [Value.tokens, FloatText.tokens]
      | finite negative _ _ _ => cases negative <;> simp [Value.tokens, FloatText.tokens]

@[simp] theorem word_ne_sign (w : String) (c : Char) : word w ≠ .sign c := nofun

@[simp] theorem sign_ne_word (w : String) (c : Char) : .sign c ≠ word w := nofun

theorem notMem_insert_tokens (i : Insert) : Token.sign ';' ∉ i.tokens := by
  have hcolumns : Token.sign ';' ∉ commaTokens (i.columns.map fun c => [word c]) := by
    apply notMem_intercalate (by decide)
    intro l hl
    obtain ⟨c, _, rfl⟩ := List.mem_map.mp hl
    simp
  have hvalues : Token.sign ';' ∉ commaTokens (i.values.map Value.tokens) := by
    apply notMem_intercalate (by decide)
    intro l hl
    obtain ⟨v, _, rfl⟩ := List.mem_map.mp hl
    exact notMem_tokens v
  simp [Insert.tokens, Insert.head, hcolumns, hvalues]

theorem stringsOf_append (ts us : List Token) :
    stringsOf (ts ++ us) = stringsOf ts ++ stringsOf us :=
  List.filterMap_append

theorem stringsOf_commaTokens (lists : List (List Token)) :
    stringsOf (commaTokens lists) = lists.flatMap stringsOf := by
  induction lists with
  | nil => rfl
  | cons l lists ih =>
      cases lists with
      | nil => simp [commaTokens]
      | cons l' lists =>
          rw [commaTokens, List.intercalate_cons_cons, stringsOf_append, stringsOf_append]
          rw [commaTokens] at ih
          rw [ih, List.flatMap_cons]
          simp [stringsOf]

theorem stringsOf_words (words : List String) : stringsOf (words.map word) = [] := by
  rw [stringsOf, List.filterMap_map, List.filterMap_eq_nil_iff]
  exact fun _ _ => rfl

theorem stringsOf_tokens (v : Value) : stringsOf v.tokens = v.string?.toList := by
  cases v with
  | int n => cases n <;> rfl
  | str s => simp [Value.tokens, stringsOf, Value.string?]
  | float x =>
      cases x with
      | nan => rfl
      | inf negative => rfl
      | finite negative _ _ _ => cases negative <;> rfl

/-- **The literals of a statement** are its strings. -/
theorem stringsOf_insert (i : Insert) : stringsOf i.tokens = i.strings := by
  have hcolumns : stringsOf (commaTokens (i.columns.map fun c => [word c])) = [] := by
    rw [stringsOf_commaTokens, List.flatMap_map, List.flatMap_eq_nil_iff]
    exact fun _ _ => rfl
  have hhead : stringsOf i.head = [] := by
    rw [Insert.head, stringsOf_append, stringsOf_words, List.nil_append]
    show stringsOf (_ ++ [Token.sign ')'] ++ _) = []
    rw [stringsOf_append, stringsOf_append, hcolumns]
    rfl
  have hvalues : stringsOf (commaTokens (i.values.map Value.tokens)) = i.strings := by
    rw [stringsOf_commaTokens, List.flatMap_map, Insert.strings, List.filterMap_eq_flatMap_toList]
    exact List.flatMap_congr fun v _ => stringsOf_tokens v
  rw [Insert.tokens, stringsOf_append, stringsOf_append, hhead, hvalues]
  exact List.append_nil _

/-- The script is one transaction with one statement for each insert, and the literals of the
statements are the strings. -/
structure Carries (script : List Char) (inserts : List Insert) : Prop where
  statements_eq :
    statements script = [word "BEGIN"] :: (inserts.map Insert.tokens ++ [[word "COMMIT"]])
  insert_only : ∀ i ∈ inserts, i.tokens.head? = some (word "INSERT")
  strings_eq : (inserts.map fun i => stringsOf i.tokens) = inserts.map Insert.strings

theorem batchScript_carries {α : Type} {line : α → List Char} {insert : α → Insert} {batch : List α}
    (hne : batch ≠ []) (hline : ∀ a ∈ batch, Reads (line a) ((insert a).tokens ++ [.sign ';']))
    (hinsert : ∀ a, (insert a).tokens.head? = some (word "INSERT")) :
    ∃ script, batchScript line batch = some script ∧ Carries script (batch.map insert) := by
  have hbegin : Reads "BEGIN;\n".toList ([word "BEGIN"] ++ [.sign ';']) := by decide +kernel
  have hcommit : Reads "COMMIT;\n".toList ([word "COMMIT"] ++ [.sign ';']) := by decide +kernel
  have hread := (hbegin.append (Reads.flatMap hline)).append hcommit
  refine ⟨_, if_neg (by simpa using hne), ?_, ?_, ?_⟩
  · apply Reads.statements
    · simpa [List.flatMap_map] using hread
    · intro stmt hstmt
      rw [List.mem_cons, List.mem_append, List.mem_singleton, List.map_map, List.mem_map] at hstmt
      rcases hstmt with rfl | ⟨a, _, rfl⟩ | rfl
      · simp
      · exact notMem_insert_tokens (insert a)
      · simp
  · intro i hi
    obtain ⟨a, _, rfl⟩ := List.mem_map.mp hi
    exact hinsert a
  · apply List.map_congr_left
    exact fun i _ => stringsOf_insert i

/-! ## The three stores -/

theorem Insert.plain_of_all {i : Insert}
    (h : ((i.command ++ ["INTO", i.table] ++ i.columns).all fun w => isWord w.toList) = true)
    (hcolumn : i.columns ≠ []) (hvalue : i.values ≠ []) : i.Plain := by
  rw [List.all_append, Bool.and_eq_true, List.all_eq_true, List.all_eq_true] at h
  exact ⟨h.1, h.2, hcolumn, hvalue⟩

theorem reads_alertLine {cfg : Config} {now : String} {a : Alert}
    (h : ∀ v ∈ (alertInsert cfg now a).values, v.NoNul) :
    Reads (alertLine cfg now a) ((alertInsert cfg now a).tokens ++ [.sign ';']) := by
  have hwords : ((["INSERT"] ++ ["INTO", "alerts"] ++ alertColumns).all fun w =>
      isWord w.toList) = true := by
    decide +kernel
  exact reads_insert (Insert.plain_of_all hwords (List.cons_ne_nil _ _) (List.cons_ne_nil _ _)) h
    rfl

theorem reads_ruleLine {cfg : Config} {now : String} {r : Rule}
    (h : ∀ v ∈ (ruleInsert cfg now r).values, v.NoNul) :
    Reads (ruleLine cfg now r) ((ruleInsert cfg now r).tokens ++ [.sign ';']) := by
  have hwords : ((["INSERT", "OR", "IGNORE"] ++ ["INTO", "rules"] ++ ruleColumns).all fun w =>
      isWord w.toList) = true := by
    decide +kernel
  exact reads_insert (Insert.plain_of_all hwords (List.cons_ne_nil _ _) (List.cons_ne_nil _ _)) h
    rfl

theorem reads_metricLine {cfg : Config} {now : String} {m : ProfilerMetric}
    (h : ∀ v ∈ (metricInsert cfg now m).values, v.NoNul) :
    Reads (metricLine cfg now m) ((metricInsert cfg now m).tokens ++ [.sign ';']) := by
  have hwords : ((["INSERT"] ++ ["INTO", "profiler_metrics"] ++ metricColumns).all fun w =>
      isWord w.toList) = true := by
    decide +kernel
  exact reads_insert (Insert.plain_of_all hwords (List.cons_ne_nil _ _) (List.cons_ne_nil _ _)) h
    rfl

/-- There is a script unless there is nothing to insert, and it carries the inserts. -/
def Written (inserts : List Insert) : Option (List Char) → Prop
  | none => inserts = []
  | some script => inserts ≠ [] ∧ Carries script inserts

theorem batchScript_written {α : Type} {line : α → List Char} {insert : α → Insert}
    {batch : List α}
    (hline : ∀ a ∈ batch, Reads (line a) ((insert a).tokens ++ [.sign ';']))
    (hinsert : ∀ a, (insert a).tokens.head? = some (word "INSERT")) :
    Written (batch.map insert) (batchScript line batch) := by
  cases batch with
  | nil => rfl
  | cons a batch =>
      obtain ⟨script, hscript, hcarries⟩ :=
        batchScript_carries (List.cons_ne_nil a batch) hline hinsert
      rw [hscript]
      exact ⟨List.cons_ne_nil _ _, hcarries⟩

/-- **Scripts carry their data and nothing else.** Whatever the strings of the alerts, rules or
metrics are, as long as there is no NUL in them, the script of a batch reads as one transaction with
one `INSERT` for each record, and the literals are the strings. -/
theorem insertBatch_scripts (cfg : Config) (now : String) :
    (∀ batch : List Alert, (∀ a ∈ batch, ∀ v ∈ (alertInsert cfg now a).values, v.NoNul) →
      Written (batch.map (alertInsert cfg now)) (alertScript cfg now batch)) ∧
    (∀ records : List Rule, (∀ r ∈ records, ∀ v ∈ (ruleInsert cfg now r).values, v.NoNul) →
      Written (records.map (ruleInsert cfg now)) (ruleScript cfg now records)) ∧
    ∀ metrics : List ProfilerMetric,
      (∀ m ∈ metrics, ∀ v ∈ (metricInsert cfg now m).values, v.NoNul) →
        Written (metrics.map (metricInsert cfg now)) (metricScript cfg now metrics) := by
  refine ⟨fun batch h => ?_, fun records h => ?_, fun metrics h => ?_⟩
  · exact batchScript_written (fun a ha => reads_alertLine (h a ha)) fun _ => rfl
  · exact batchScript_written (fun r hr => reads_ruleLine (h r hr)) fun _ => rfl
  · exact batchScript_written (fun m hm => reads_metricLine (h m hm)) fun _ => rfl

/-- An alert that tries to get out of its literals. -/
def evilAlert : Alert where
  timestamp := "' , ); --"
  pktNum := -1
  proto := "''"
  pktGen := ""
  pktLen := 0
  dir := "/*"
  srcAP := "'; DROP TABLE alerts; --"
  dstAP := "*/"
  gid := 1
  sid := 2
  rev := 3
  rule := "1:2:3"
  action := "alert"
  rawJSON := "\"'\n"
  createdAt := ""

theorem evilAlert_script : ∃ script, alertScript ⟨7, "a'b"⟩ "now" [evilAlert] = some script ∧
    (statements script).length = 3 ∧
    (statements script).flatMap stringsOf = ["' , ); --", "''", "", "/*",
      "'; DROP TABLE alerts; --", "*/", "1:2:3", "alert", "\"'\n", "a'b", "now"] := by
  have hnul : ∀ a ∈ [evilAlert], ∀ v ∈ (alertInsert ⟨7, "a'b"⟩ "now" a).values, v.NoNul := by
    simp [evilAlert, alertInsert, Value.NoNul]
  have hwritten := (insertBatch_scripts ⟨7, "a'b"⟩ "now").1 [evilAlert] hnul
  cases hscript : alertScript ⟨7, "a'b"⟩ "now" [evilAlert] with
  | none =>
      rw [hscript] at hwritten
      cases hwritten
  | some script =>
      rw [hscript] at hwritten
      have hstatements := hwritten.2.statements_eq
      refine ⟨script, rfl, ?_, ?_⟩
      · rw [hstatements]
        rfl
      · rw [hstatements]
        exact congrArg (· ++ []) (stringsOf_insert (alertInsert ⟨7, "a'b"⟩ "now" evilAlert))

end SnortOptimizer.Sql
