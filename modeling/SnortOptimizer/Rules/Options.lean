import SnortOptimizer.Rules.Parser

/-!
# Rules and their options

A rule is written as a header and, in parentheses, options `name: value;`, where a value is made of
plain text and of quoted strings in which a backslash escapes the next character. A rule that is
switched off has one `#` before it. `RuleLine` is such a line in its parts, and has as fields what
makes it well formed: a `sid` is a number, a `msg` is a string.

A search for an option does not follow this structure: it stops at the first place that reads like
the option, and that may lie inside a string of an option that stands before. `lookAlike` is what is
found in front of the option (or anywhere, if there is no such option), and `find_eq_lookAlike`
says that it is all that can come before the option itself.
-/

namespace SnortOptimizer.Rules

open Analyser Text

/-! ## Options -/

/-- A character of a quoted string. -/
inductive QuotedChar
  | plain (c : Char)
  | escaped (c : Char)

def QuotedChar.Valid : QuotedChar → Prop
  | .plain c => c ≠ '"' ∧ c ≠ '\\'
  | .escaped c => c ≠ '\n'

def QuotedChar.text : QuotedChar → List Char
  | .plain c => [c]
  | .escaped c => ['\\', c]

def bodyText (body : List QuotedChar) : List Char := body.flatMap QuotedChar.text

inductive Piece
  | plain (text : List Char)
  | quoted (body : List QuotedChar)

def Piece.Valid : Piece → Prop
  | .plain text => ';' ∉ text ∧ '"' ∉ text
  | .quoted body => ∀ c ∈ body, c.Valid

def Piece.text : Piece → List Char
  | .plain text => text
  | .quoted body => '"' :: (bodyText body ++ ['"'])

def Blank (cs : List Char) : Prop := ∀ c ∈ cs, reSpace c = true

/-- The value of an option. Numbers and strings that are all there is to it are kept apart. -/
inductive OptionValue
  | absent
  | number (before digits after : List Char)
  | string (before : List Char) (body : List QuotedChar) (after : List Char)
  | mixed (pieces : List Piece)

def OptionValue.Valid : OptionValue → Prop
  | .absent => True
  | .number before digits after =>
      Blank before ∧ (digits ≠ [] ∧ ∀ c ∈ digits, c.isDigit = true) ∧ Blank after
  | .string before body after => Blank before ∧ (∀ c ∈ body, c.Valid) ∧ Blank after
  | .mixed pieces => ∀ p ∈ pieces, p.Valid

def OptionValue.text : OptionValue → List Char
  | .absent => []
  | .number before digits after => ':' :: (before ++ (digits ++ after))
  | .string before body after => ':' :: (before ++ ('"' :: (bodyText body ++ '"' :: after)))
  | .mixed pieces => ':' :: pieces.flatMap Piece.text

def numberOptions : List (List Char) := ["sid".toList, "gid".toList, "rev".toList]

/-- What the options that identify a rule look like. -/
def OptionValue.Suits (name : List Char) : OptionValue → Prop
  | .number _ digits _ =>
      name ≠ "msg".toList ∧ name ≠ "classtype".toList ∧
        (name ∈ numberOptions → digitsValue digits < 2 ^ 63)
  | .string _ _ _ => name ∉ numberOptions ∧ name ≠ "classtype".toList
  | .mixed pieces =>
      name ∉ numberOptions ∧ name ≠ "msg".toList ∧
        (name = "classtype".toList → ∃ text, pieces = [.plain text] ∧ text ≠ [])
  | .absent => name ∉ numberOptions ∧ name ≠ "msg".toList ∧ name ≠ "classtype".toList

structure RuleOption where
  lead : List Char
  name : List Char
  gap : List Char
  value : OptionValue
  lead_blank : Blank lead
  name_ne_nil : name ≠ []
  name_solid : ∀ c ∈ name, isSpace c = false ∧ c ≠ ':' ∧ c ≠ ';' ∧ c ≠ '"'
  gap_blank : Blank gap
  value_valid : value.Valid
  value_suits : value.Suits name

theorem blank_nil : Blank [] := fun _ hc => absurd hc List.not_mem_nil

theorem blank_of_all {cs : List Char} (h : cs.all reSpace = true) : Blank cs :=
  List.all_eq_true.mp h

/-- The check that makes a text the name of an option. -/
theorem solid_of_all {name : List Char}
    (h : (name.all fun c => !isSpace c && c != ':' && c != ';' && c != '"') = true) :
    ∀ c ∈ name, isSpace c = false ∧ c ≠ ':' ∧ c ≠ ';' ∧ c ≠ '"' := by
  intro c hc
  have hall := List.all_eq_true.mp h c hc
  simpa [and_assoc] using hall

/-- An option from its name on. -/
def RuleOption.body (o : RuleOption) : List Char := o.name ++ (o.gap ++ (o.value.text ++ [';']))

def RuleOption.text (o : RuleOption) : List Char := o.lead ++ o.body

def optionsText (options : List RuleOption) : List Char := options.flatMap RuleOption.text

/-- A rule in one line, with what stands behind a `#` if it is switched off. -/
structure RuleLine where
  lead : List Char
  hash : Option (List Char)
  header : List Char
  options : List RuleOption
  tail : List Char
  trail : List Char
  lead_space : ∀ c ∈ lead, isSpace c = true
  hash_space : ∀ gap, hash = some gap → ∀ c ∈ gap, isSpace c = true
  header_head : ∀ c, header.head? = some c → isSpace c = false ∧ c ≠ '#'
  header_open : '(' ∉ header
  tail_blank : Blank tail
  trail_space : ∀ c ∈ trail, isSpace c = true

/-- ` sid:` with the given digits. -/
def sidOption (digits : List Char) (h : digits ≠ [] ∧ ∀ c ∈ digits, c.isDigit = true)
    (hlt : digitsValue digits < 2 ^ 63) : RuleOption where
  lead := [' ']
  name := "sid".toList
  gap := []
  value := .number [] digits []
  lead_blank := blank_of_all (by decide)
  name_ne_nil := by decide
  name_solid := solid_of_all (by decide)
  gap_blank := blank_nil
  value_valid := ⟨blank_nil, h, blank_nil⟩
  value_suits := ⟨by decide, by decide, fun _ => hlt⟩

/-- An enabled rule for any TCP traffic. -/
def anyTraffic (options : List RuleOption) : RuleLine where
  lead := []
  hash := none
  header := "alert tcp any any -> any any ".toList
  options := options
  tail := []
  trail := []
  lead_space := by simp
  hash_space := by simp
  header_head := by
    intro c hc
    cases hc
    decide
  header_open := by decide
  tail_blank := blank_nil
  trail_space := by simp

namespace RuleLine

variable (line : RuleLine)

/-- What stands between the parentheses. -/
def inner : List Char := optionsText line.options ++ line.tail

def raw : List Char := line.header ++ '(' :: (line.inner ++ [')'])

def text : String :=
  String.ofList (line.lead ++
    ((match line.hash with
      | none => line.raw
      | some gap => '#' :: (gap ++ line.raw)) ++ line.trail))

def enabled : Bool := line.hash.isNone

/-! ### The identity of a rule, by its options -/

/-- The first option of a name. -/
def option? (name : String) : Option RuleOption := line.options.find? (·.name = name.toList)

def digits? (name : String) : Option (List Char) :=
  match (line.option? name).map RuleOption.value with
  | some (.number _ digits _) => some digits
  | _ => none

def number? (name : String) : Option Int :=
  (line.digits? name).map fun digits => (digitsValue digits : Int)

def msgBody? : Option (List QuotedChar) :=
  match (line.option? "msg").map RuleOption.value with
  | some (.string _ body _) => some body
  | _ => none

def classtypeText? : Option (List Char) :=
  match (line.option? "classtype").map RuleOption.value with
  | some (.mixed [.plain text]) => some text
  | _ => none

/-- An escaped quote stands for a quote. The other escapes are kept as they are written. -/
def unquote : QuotedChar → List Char
  | .plain c => [c]
  | .escaped c => if c = '"' then ['"'] else ['\\', c]

def sid : Option Int := line.number? "sid"

def gid : Int := (line.number? "gid").getD 1

def rev : Int := (line.number? "rev").getD 0

def msg : String :=
  match line.msgBody? with
  | none => ""
  | some body => trimSpace (String.ofList (body.flatMap unquote))

def classtype : String :=
  match line.classtypeText? with
  | none => ""
  | some text => trimSpace (String.ofList text)

end RuleLine

/-! ## Places that read like an option -/

/-- The text in front of the first option of a name, and from its name on. -/
def RuleLine.split (line : RuleLine) (name : String) : List Char × List Char :=
  match line.options.dropWhile (·.name ≠ name.toList) with
  | [] => (line.inner, [])
  | o :: later =>
      (optionsText (line.options.takeWhile (·.name ≠ name.toList)) ++ o.lead,
        o.body ++ (optionsText later ++ line.tail))

/-- The first place in front of an option that reads like the option. -/
def RuleLine.lookAlike {α : Type} (line : RuleLine) (name : String)
    (match_ : List Char → Option α) : Option α :=
  findBefore match_ (line.split name).2 false (line.split name).1

/-! ## Finding an option -/

theorem dropWhile_blank {gap : List Char} (h : Blank gap) (rest : List Char) :
    (gap ++ rest).dropWhile reSpace = rest.dropWhile reSpace :=
  List.dropWhile_append_of_pos h

theorem matchName_body (name : List Char) {gap : List Char} (h : Blank gap) (rest : List Char) :
    matchName name (name ++ (gap ++ ':' :: rest)) = some rest := by
  have hfront : name.isPrefixOf (name ++ (gap ++ ':' :: rest)) = true := by
    rw [List.isPrefixOf_iff_prefix]
    exact List.prefix_append _ _
  rw [matchName, if_pos hfront, List.drop_left, dropWhile_blank h]
  rfl

theorem endsOption_blank {gap : List Char} (h : Blank gap) (rest : List Char) :
    endsOption (gap ++ ';' :: rest) = true := by
  rw [endsOption, dropWhile_blank h]
  rfl

theorem reSpace_of_isDigit {c : Char} (h : c.isDigit = true) : reSpace c = false := by
  by_contra hspace
  have := isSpace_of_reSpace (Bool.not_eq_false _ ▸ hspace)
  rw [isSpace_of_isDigit h] at this
  cases this

/-- A number option reads as its number. -/
theorem matchNumber_body (name : List Char) {gap before digits after : List Char} (hgap : Blank gap)
    (hvalue : (OptionValue.number before digits after).Valid) (rest : List Char) :
    matchNumber name (name ++ (gap ++ ((OptionValue.number before digits after).text ++
      ';' :: rest))) = some digits := by
  obtain ⟨hbefore, ⟨hne, hdigits⟩, hafter⟩ := hvalue
  have hstart : (digits ++ (after ++ ';' :: rest)).dropWhile reSpace =
      digits ++ (after ++ ';' :: rest) := by
    apply dropWhile_of_head
    intro c hc
    obtain ⟨d, ds, rfl⟩ := List.exists_cons_of_ne_nil hne
    cases hc
    exact reSpace_of_isDigit (hdigits c List.mem_cons_self)
  -- the number ends where blanks or the semicolon begin
  have hstop : ∀ c, (after ++ ';' :: rest).head? = some c → ¬ c.isDigit = true := by
    intro c hc hdigit
    cases after with
    | nil =>
        cases hc
        cases hdigit
    | cons d ds =>
        cases hc
        have hblank := hafter c List.mem_cons_self
        rw [reSpace_of_isDigit hdigit] at hblank
        cases hblank
  have htake : (digits ++ (after ++ ';' :: rest)).takeWhile Char.isDigit = digits := by
    rw [List.takeWhile_append_of_pos hdigits]
    cases hrest : after ++ ';' :: rest with
    | nil => rw [List.takeWhile_nil, List.append_nil]
    | cons c cs =>
        rw [hrest] at hstop
        rw [List.takeWhile_cons_of_neg (hstop c rfl), List.append_nil]
  have hdrop :
      (digits ++ (after ++ ';' :: rest)).dropWhile Char.isDigit = after ++ ';' :: rest := by
    rw [List.dropWhile_append_of_pos hdigits]
    apply dropWhile_of_head
    intro c hc
    exact Bool.eq_false_iff.mpr (hstop c hc)
  have htext : (OptionValue.number before digits after).text ++ ';' :: rest =
      ':' :: (before ++ (digits ++ (after ++ ';' :: rest))) := by
    simp [OptionValue.text]
  rw [htext, matchNumber, matchName_body name hgap, Option.bind_some]
  simp only [dropWhile_blank hbefore, hstart, htake, hdrop, endsOption_blank hafter]
  rw [if_pos ⟨hne, trivial⟩]

theorem quotedBody_text {body : List QuotedChar} (h : ∀ c ∈ body, c.Valid) (rest : List Char) :
    quotedBody (bodyText body ++ '"' :: rest) = some (bodyText body, rest) := by
  induction body with
  | nil => rfl
  | cons c body ih =>
      obtain ⟨hc, hbody⟩ := List.forall_mem_cons.mp h
      have hrest := ih hbody
      cases c with
      | plain c =>
          show quotedBody (c :: (bodyText body ++ '"' :: rest)) = some (c :: bodyText body, rest)
          rw [quotedBody, hrest]
          · rfl
          · exact hc.1
          · exact fun d ds heq _ => hc.2 heq
          · exact fun heq _ => hc.2 heq
      | escaped c =>
          show quotedBody ('\\' :: c :: (bodyText body ++ '"' :: rest)) =
            some ('\\' :: c :: bodyText body, rest)
          rw [quotedBody, if_neg hc, hrest]
          rfl

theorem matchMsg_body {gap before after : List Char} {body : List QuotedChar} (hgap : Blank gap)
    (hvalue : (OptionValue.string before body after).Valid) (rest : List Char) :
    matchMsg ("msg".toList ++ (gap ++ ((OptionValue.string before body after).text ++
      ';' :: rest))) = some (bodyText body) := by
  obtain ⟨hbefore, hbody, hafter⟩ := hvalue
  have htext : (OptionValue.string before body after).text ++ ';' :: rest =
      ':' :: (before ++ '"' :: (bodyText body ++ '"' :: (after ++ ';' :: rest))) := by
    simp [OptionValue.text]
  rw [htext, matchMsg, matchName_body _ hgap, Option.bind_some, dropWhile_blank hbefore]
  show ((quotedBody (bodyText body ++ '"' :: (after ++ ';' :: rest))).bind fun x =>
    if endsOption x.2 then some x.1 else none) = _
  rw [quotedBody_text hbody, Option.bind_some, if_pos (endsOption_blank hafter rest)]

/-- The class of a rule as `ParseLine` finds it: without the blanks before it. -/
def classtypeFound (text : List Char) : List Char :=
  if text.dropWhile reSpace = [] then text.drop (text.length - 1) else text.dropWhile reSpace

theorem matchClasstype_body {gap text : List Char} (hgap : Blank gap) (hsemi : ';' ∉ text)
    (hne : text ≠ []) (rest : List Char) :
    matchClasstype ("classtype".toList ++ (gap ++ ((OptionValue.mixed [.plain text]).text ++
      ';' :: rest))) = some (classtypeFound text) := by
  have hvalue : (OptionValue.mixed [.plain text]).text ++ ';' :: rest =
      ':' :: (text ++ ';' :: rest) := by
    simp [OptionValue.text, Piece.text]
  have htake : (text ++ ';' :: rest).takeWhile (· ≠ ';') = text := by
    rw [List.takeWhile_append_of_pos]
    · simp
    · intro c hc
      exact decide_eq_true fun heq => hsemi (heq ▸ hc)
  rw [hvalue, matchClasstype, matchName_body _ hgap, Option.bind_some]
  simp only [htake]
  rw [if_neg]
  · rfl
  · rintro (hnil | hmem)
    · exact hne hnil
    · exact hmem (List.mem_append_right _ List.mem_cons_self)

/-- Every option ends where a word can begin. -/
theorem endsInWord_blank {front lead : List Char} (hlead : Blank lead)
    (hfront : endsInWord false front = false) : endsInWord false (front ++ lead) = false := by
  cases hlast : lead.getLast? with
  | none =>
      rw [List.getLast?_eq_none_iff.mp hlast, List.append_nil]
      exact hfront
  | some c =>
      rw [endsInWord, List.getLast?_append, hlast]
      show isWordChar c = false
      have hblank := hlead c (List.mem_of_getLast? hlast)
      simp only [reSpace, Bool.or_eq_true, decide_eq_true_eq] at hblank
      rcases hblank with (((rfl | rfl) | rfl) | rfl) | rfl <;> decide

theorem endsInWord_optionsText (options : List RuleOption) :
    endsInWord false (optionsText options) = false := by
  cases options using List.reverseRecOn with
  | nil => rfl
  | append_singleton options o =>
      have htext : optionsText (options ++ [o]) =
          (optionsText options ++ (o.lead ++ (o.name ++ (o.gap ++ o.value.text)))) ++ [';'] := by
        simp [optionsText, RuleOption.text, RuleOption.body]
      rw [htext, endsInWord, List.getLast?_append]
      rfl

theorem option?_eq_head? (line : RuleLine) (name : String) :
    line.option? name = (line.options.dropWhile (·.name ≠ name.toList)).head? := by
  rw [RuleLine.option?]
  induction line.options with
  | nil => rfl
  | cons o options ih =>
      by_cases hname : o.name = name.toList
      · rw [List.find?_cons_of_pos (by simpa using hname),
          List.dropWhile_cons_of_neg (by simpa using hname)]
        rfl
      · rw [List.find?_cons_of_neg (by simpa using hname),
          List.dropWhile_cons_of_pos (by simpa using hname), ih]

/-- **What the search finds**: a place in front of the option that reads like it, or else the
option. -/
theorem find_eq_lookAlike {α : Type} {match_ : List Char → Option α} (line : RuleLine)
    (name : String) {own : Option α} (hnone : line.option? name = none → own = none)
    (hsome : ∀ o, line.option? name = some o → ∀ rest, match_ (o.body ++ rest) = own)
    (hown : ∀ o, line.option? name = some o → own ≠ none) :
    find match_ line.inner = (line.lookAlike name match_).or own := by
  have hoption := option?_eq_head? line name
  unfold RuleLine.lookAlike RuleLine.split
  cases hsplit : line.options.dropWhile (·.name ≠ name.toList) with
  | nil =>
      rw [hsplit] at hoption
      have happend := findFrom_append match_ false line.inner []
      rw [List.append_nil] at happend
      rw [hnone hoption, find, happend]
      rfl
  | cons o later =>
      rw [hsplit] at hoption
      let front := optionsText (line.options.takeWhile (·.name ≠ name.toList)) ++ o.lead
      let rest := o.body ++ (optionsText later ++ line.tail)
      have hinner : line.inner = front ++ rest := by
        have hall := List.takeWhile_append_dropWhile (p := fun o : RuleOption =>
          decide (o.name ≠ name.toList)) (l := line.options)
        rw [hsplit] at hall
        rw [RuleLine.inner, ← hall]
        simp [optionsText, RuleOption.text, front, rest]
      have hword : endsInWord false front = false :=
        endsInWord_blank o.lead_blank (endsInWord_optionsText _)
      obtain ⟨a, ha⟩ := Option.ne_none_iff_exists'.mp (hown o hoption)
      have hmatch : match_ rest = some a := by
        rw [← ha]
        exact hsome o hoption _
      have hne : rest ≠ [] := by
        obtain ⟨c, cs, hname⟩ := List.exists_cons_of_ne_nil o.name_ne_nil
        simp [rest, RuleOption.body, hname]
      rw [find, hinner, findFrom_append, hword, findFrom_of_match hne hmatch, ha]

end SnortOptimizer.Rules
