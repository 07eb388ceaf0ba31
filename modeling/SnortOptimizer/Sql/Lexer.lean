import SnortOptimizer.Text.Basic
import SnortOptimizer.Text.Lines

/-!
# The tokens of SQL text

A reader of SQL text as SQLite reads it, one character at a time. In a string literal a quote is
written twice; everything else, also what looks like the end of a statement or the start of a
comment, is part of the literal. The text ends at its first NUL.

Pieces of text that leave the reader between two tokens can be read one after the other
(`Reads.append`), which is how a long script is taken apart. Operators of two characters come as
two signs, a blob literal as a word and a string.
-/

namespace SnortOptimizer.Sql

open Text (reSpace)

inductive Token
  | word (text : List Char)
  | number (text : List Char)
  | string (value : List Char)
  | name (text : List Char)        -- in double quotes, backquotes or brackets
  | sign (c : Char)
  | illegal
  deriving DecidableEq

/-- Where the reader stands, with what it has read of a token. -/
inductive Mode
  | blank
  | word (text : List Char)
  | number (text : List Char)
  | string (value : List Char)
  | stringQuote (value : List Char)
  | name (close : Char) (text : List Char)
  | nameClose (close : Char) (text : List Char)
  | dash
  | slash
  | lineComment
  | blockComment
  | blockStar
  | ended
  deriving DecidableEq

def isIdStart (c : Char) : Bool := c.isAlpha || c = '_' || 128 ≤ c.toNat

def isIdChar (c : Char) : Bool := isIdStart c || c.isDigit || c = '$'

/-- A sign belongs to a number right behind the letter of its exponent. -/
def continuesNumber (text : List Char) (c : Char) : Bool :=
  isIdChar c || c = '.' ||
    ((c = '+' || c = '-') && (text.getLast? = some 'e' || text.getLast? = some 'E'))

/-- A character between two tokens. -/
def first (c : Char) : List Token × Mode :=
  if c = '\x00' then ([], .ended)
  else if reSpace c then ([], .blank)
  else if c = '\'' then ([], .string [])
  else if c = '"' ∨ c = '\x60' then ([], .name c [])
  else if c = '[' then ([], .name ']' [])
  else if c = '-' then ([], .dash)
  else if c = '/' then ([], .slash)
  else if c.isDigit then ([], .number [c])
  else if isIdStart c then ([], .word [c])
  else ([.sign c], .blank)

/-- The character ends a token and is not part of it. -/
def endToken (token : Token) (c : Char) : List Token × Mode := (token :: (first c).1, (first c).2)

/-- One character: the tokens that are complete with it, and where the reader stands then. -/
def step : Mode → Char → List Token × Mode
  | .blank, c => first c
  | .word text, c =>
      if isIdChar c then ([], .word (text ++ [c])) else endToken (.word text) c
  | .number text, c =>
      if continuesNumber text c then ([], .number (text ++ [c])) else endToken (.number text) c
  | .string value, c =>
      if c = '\'' then ([], .stringQuote value)
      else if c = '\x00' then ([.illegal], .ended)
      else ([], .string (value ++ [c]))
  | .stringQuote value, c =>
      if c = '\'' then ([], .string (value ++ [c])) else endToken (.string value) c
  | .name close text, c =>
      if c = close then ([], .nameClose close text)
      else if c = '\x00' then ([.illegal], .ended)
      else ([], .name close (text ++ [c]))
  | .nameClose close text, c =>
      if c = close ∧ close ≠ ']' then ([], .name close (text ++ [c]))
      else endToken (.name text) c
  | .dash, c => if c = '-' then ([], .lineComment) else endToken (.sign '-') c
  | .slash, c => if c = '*' then ([], .blockComment) else endToken (.sign '/') c
  | .lineComment, c =>
      if c = '\n' then ([], .blank) else if c = '\x00' then ([], .ended) else ([], .lineComment)
  | .blockComment, c =>
      if c = '*' then ([], .blockStar) else if c = '\x00' then ([], .ended) else ([], .blockComment)
  | .blockStar, c =>
      if c = '/' then ([], .blank)
      else if c = '*' then ([], .blockStar)
      else if c = '\x00' then ([], .ended)
      else ([], .blockComment)
  | .ended, _ => ([], .ended)

/-- What the end of the text makes of a token. -/
def finish : Mode → List Token
  | .word text => [.word text]
  | .number text => [.number text]
  | .string _ => [.illegal]
  | .stringQuote value => [.string value]
  | .name _ _ => [.illegal]
  | .nameClose _ text => [.name text]
  | .dash => [.sign '-']
  | .slash => [.sign '/']
  | .blank | .lineComment | .blockComment | .blockStar | .ended => []

def run (m : Mode) : List Char → List Token × Mode
  | [] => ([], m)
  | c :: cs => ((step m c).1 ++ (run (step m c).2 cs).1, (run (step m c).2 cs).2)

/-- The tokens of a text. -/
def lex (text : List Char) : List Token := (run .blank text).1 ++ finish (run .blank text).2

/-- The tokens of each statement, without the semicolon that ends it. -/
def statements (text : List Char) : List (List Token) := Text.splitLines (.sign ';') (lex text)

/-- The values of the string literals among some tokens. -/
def stringsOf (tokens : List Token) : List String :=
  tokens.filterMap fun
    | .string value => some (String.ofList value)
    | _ => none

/-! ## Reading piece by piece -/

theorem run_append (m : Mode) (xs ys : List Char) :
    run m (xs ++ ys) =
      ((run m xs).1 ++ (run (run m xs).2 ys).1, (run (run m xs).2 ys).2) := by
  induction xs generalizing m with
  | nil => rfl
  | cons c cs ih => rw [List.cons_append, run, run, ih, List.append_assoc]

theorem run_trans {m m' m'' : Mode} {xs ys : List Char} {ts us : List Token}
    (hx : run m xs = (ts, m')) (hy : run m' ys = (us, m'')) :
    run m (xs ++ ys) = (ts ++ us, m'') := by
  rw [run_append, hx, hy]

/-- A text that reads as some tokens and ends between two. -/
def Reads (text : List Char) (tokens : List Token) : Prop := run .blank text = (tokens, .blank)

instance (text : List Char) (tokens : List Token) : Decidable (Reads text tokens) :=
  inferInstanceAs (Decidable (_ = _))

theorem Reads.append {xs ys : List Char} {ts us : List Token} (hx : Reads xs ts)
    (hy : Reads ys us) : Reads (xs ++ ys) (ts ++ us) :=
  run_trans hx hy

theorem Reads.flatMap {α : Type} {text : α → List Char} {tokens : α → List Token} {xs : List α}
    (h : ∀ x ∈ xs, Reads (text x) (tokens x)) : Reads (xs.flatMap text) (xs.flatMap tokens) := by
  induction xs with
  | nil => rfl
  | cons x xs ih =>
      rw [List.forall_mem_cons] at h
      rw [List.flatMap_cons, List.flatMap_cons]
      exact h.1.append (ih h.2)

/-- Statements that are written one after the other. -/
theorem Reads.statements {text : List Char} {stmts : List (List Token)}
    (h : Reads text (stmts.flatMap (· ++ [.sign ';'])))
    (hstmts : ∀ stmt ∈ stmts, Token.sign ';' ∉ stmt) : statements text = stmts := by
  rw [Sql.statements, lex, h, finish, List.append_nil]
  exact Text.splitLines_flatMap hstmts

/-- A text that reads as some tokens if a comma or a closing parenthesis stands behind it. -/
def ReadsValue (text : List Char) (tokens : List Token) : Prop :=
  ∀ c, c = ',' ∨ c = ')' → Reads (text ++ [c]) (tokens ++ [.sign c])

/-- What the reader makes of a text decides whether it is a value. -/
theorem readsValue_of_run {text : List Char} {tokens : List Token} {m : Mode} {token : Token}
    (h : run .blank text = (tokens, m))
    (hm : ∀ c, c = ',' ∨ c = ')' → step m c = ([token, .sign c], .blank)) :
    ReadsValue text (tokens ++ [token]) := by
  intro c hc
  have hend : run m [c] = ([token, .sign c], .blank) := by
    rw [run, hm c hc]
    rfl
  rw [Reads, run_trans h hend, List.append_assoc]
  rfl

/-- Lists of tokens with commas in between. -/
def commaTokens (lists : List (List Token)) : List Token := [Token.sign ','].intercalate lists

/-- Values with commas in between and a closing parenthesis behind them. -/
theorem reads_commas {α : Type} {text : α → List Char} {tokens : α → List Token} {xs : List α}
    (hne : xs ≠ []) (h : ∀ x ∈ xs, ReadsValue (text x) (tokens x)) :
    Reads ([',', ' '].intercalate (xs.map text) ++ [')'])
      (commaTokens (xs.map tokens) ++ [.sign ')']) := by
  induction xs with
  | nil => exact absurd rfl hne
  | cons x xs ih =>
      rw [List.forall_mem_cons] at h
      cases xs with
      | nil => simpa [commaTokens] using h.1 ')' (.inr rfl)
      | cons y xs =>
          have hspace : Reads [' '] [] := rfl
          have hread := ((h.1 ',' (.inl rfl)).append hspace).append
            (ih (List.cons_ne_nil y xs) h.2)
          simp only [List.map_cons, List.intercalate_cons_cons, commaTokens] at hread ⊢
          simpa using hread

/-! ## Words -/

/-- A keyword or a name. -/
def isWord : List Char → Bool
  | [] => false
  | c :: cs => c.isAlpha && cs.all isIdChar

theorem isIdChar_of_isAlpha {c : Char} (h : c.isAlpha = true) : isIdChar c = true := by
  simp [isIdChar, isIdStart, h]

theorem first_alpha {c : Char} (hc : c.isAlpha = true) : first c = ([], .word [c]) := by
  have hne (d : Char) (hd : d.isAlpha = false) : c ≠ d := by
    intro h
    rw [h, hd] at hc
    cases hc
  have hspace : reSpace c = false := by
    simp [reSpace, hne ' ' rfl, hne '\t' rfl, hne '\n' rfl, hne '\x0c' rfl, hne '\r' rfl]
  have hdigit : c.isDigit = false := by
    have halpha : c.isAlpha = (decide (c.val ≥ 'A'.val ∧ c.val ≤ 'Z'.val) ||
        decide (c.val ≥ 'a'.val) && decide (c.val ≤ 'z'.val)) := rfl
    rw [Bool.eq_false_iff]
    intro hdigit
    simp only [halpha, Char.isDigit, Bool.or_eq_true, Bool.and_eq_true, decide_eq_true_eq,
      UInt32.le_iff_toNat_le] at hc hdigit
    have hA : 'A'.val.toNat = 65 := rfl
    have ha : 'a'.val.toNat = 97 := rfl
    have h9 : '9'.val.toNat = 57 := rfl
    omega
  simp [first, hspace, hne '\x00' rfl, hne '\'' rfl, hne '"' rfl, hne '\x60' rfl, hne '[' rfl,
    hne '-' rfl, hne '/' rfl, hdigit, isIdStart, hc]

theorem run_word {text : List Char} (h : ∀ c ∈ text, isIdChar c = true) (before : List Char) :
    run (.word before) text = ([], .word (before ++ text)) := by
  induction text generalizing before with
  | nil => rw [List.append_nil]; rfl
  | cons c cs ih =>
      rw [List.forall_mem_cons] at h
      rw [run, step, if_pos h.1, ih h.2, List.append_assoc]
      rfl

theorem run_isWord {w : List Char} (h : isWord w = true) : run .blank w = ([], .word w) := by
  cases w with
  | nil => cases h
  | cons c cs =>
      rw [isWord, Bool.and_eq_true, List.all_eq_true] at h
      rw [run, step, first_alpha h.1]
      exact run_word h.2 [c]

theorem readsValue_word {w : List Char} (h : isWord w = true) : ReadsValue w [.word w] := by
  refine @readsValue_of_run _ [] (.word w) _ (run_isWord h) ?_
  rintro c (rfl | rfl) <;> rfl

theorem reads_word_space {w : List Char} (h : isWord w = true) : Reads (w ++ [' ']) [.word w] :=
  run_trans (run_isWord h) rfl

/-! ## Literals -/

/-- Doubling the quotes of a text, as within a literal. -/
def doubled (text : List Char) : List Char :=
  text.flatMap fun c => if c = '\'' then ['\'', '\''] else [c]

theorem run_doubled {text : List Char} (h : '\x00' ∉ text) (value : List Char) :
    run (.string value) (doubled text) = ([], .string (value ++ text)) := by
  induction text generalizing value with
  | nil => rw [List.append_nil]; rfl
  | cons c cs ih =>
      rw [List.mem_cons, not_or] at h
      have hc : run (.string value) (if c = '\'' then ['\'', '\''] else [c]) =
          ([], .string (value ++ [c])) := by
        split
        · next hquote => rw [hquote]; rfl
        · next hquote => simp [run, step, hquote, Ne.symm h.1]
      have hrest := run_trans hc (ih h.2 (value ++ [c]))
      rw [List.append_assoc] at hrest
      exact hrest

/-- **A literal reads as its value**, whatever the value is. -/
theorem readsValue_literal {text : List Char} (h : '\x00' ∉ text) :
    ReadsValue ('\'' :: doubled text ++ ['\'']) [.string text] := by
  refine @readsValue_of_run _ [] (.stringQuote text) _ ?_ ?_
  · have hopen : run .blank ['\''] = ([], .string []) := rfl
    have hclose : run (.string text) ['\''] = ([], .stringQuote text) := rfl
    exact run_trans (run_trans hopen (run_doubled h [])) hclose
  · rintro c (rfl | rfl) <;> rfl

/-! ## Numbers -/

theorem first_digit {d : Char} (hd : d.isDigit = true) : first d = ([], .number [d]) := by
  have hne (c : Char) (hc : c.isDigit = false) : d ≠ c := by
    intro h
    rw [h, hc] at hd
    cases hd
  have hspace : reSpace d = false := by
    simp [reSpace, hne ' ' rfl, hne '\t' rfl, hne '\n' rfl, hne '\x0c' rfl, hne '\r' rfl]
  simp [first, hspace, hne '\x00' rfl, hne '\'' rfl, hne '"' rfl, hne '\x60' rfl, hne '[' rfl,
    hne '-' rfl, hne '/' rfl, hd]

theorem run_number {text : List Char} (h : ∀ c ∈ text, isIdChar c = true ∨ c = '.')
    (before : List Char) : run (.number before) text = ([], .number (before ++ text)) := by
  induction text generalizing before with
  | nil => rw [List.append_nil]; rfl
  | cons c cs ih =>
      rw [List.forall_mem_cons] at h
      have hc : continuesNumber before c = true := by
        rcases h.1 with hc | hc <;> simp [continuesNumber, hc]
      rw [run, step, if_pos hc, ih h.2, List.append_assoc]
      rfl

theorem run_number_digits {digits : List Char} (h : ∀ c ∈ digits, c.isDigit = true)
    (before : List Char) : run (.number before) digits = ([], .number (before ++ digits)) := by
  apply run_number
  intro c hc
  exact .inl (by simp [isIdChar, h c hc])

theorem step_number_end {text : List Char} {c : Char} (hc : c = ',' ∨ c = ')') :
    step (.number text) c = ([.number text, .sign c], .blank) := by
  have hno : continuesNumber text c = false := by
    rcases hc with rfl | rfl <;> simp [continuesNumber, isIdChar, isIdStart]
  rw [step, hno]
  rcases hc with rfl | rfl <;> rfl

/-- A text that the reader takes for one number: a digit, and what continues it. -/
def NumberText (text : List Char) : Prop :=
  ∃ d ds, text = d :: ds ∧ d.isDigit = true ∧ run (.number [d]) ds = ([], .number text)

theorem NumberText.readsValue {text : List Char} (h : NumberText text) :
    ReadsValue text [.number text] := by
  obtain ⟨d, ds, rfl, hd, hrun⟩ := h
  refine @readsValue_of_run _ [] (.number (d :: ds)) _ ?_ fun c hc => step_number_end hc
  rw [run, step, first_digit hd]
  exact hrun

/-- A sign right in front of a number is a token of its own. -/
theorem NumberText.readsValue_neg {text : List Char} (h : NumberText text) :
    ReadsValue ('-' :: text) [.sign '-', .number text] := by
  obtain ⟨d, ds, rfl, hd, hrun⟩ := h
  refine @readsValue_of_run _ [.sign '-'] (.number (d :: ds)) _ ?_ fun c hc => step_number_end hc
  have hne : d ≠ '-' := by
    intro h
    rw [h] at hd
    cases hd
  have hdash : step .dash d = ([.sign '-'], .number [d]) := by
    rw [step, if_neg hne, endToken, first_digit hd]
  show run .dash (d :: ds) = _
  rw [run, hdash, hrun]
  rfl

/-- Digits with something behind them that continues a number. -/
theorem numberText_append {digits tail : List Char} (hne : digits ≠ [])
    (hdigits : ∀ c ∈ digits, c.isDigit = true)
    (htail : run (.number digits) tail = ([], .number (digits ++ tail))) :
    NumberText (digits ++ tail) := by
  obtain ⟨d, ds, rfl⟩ := List.exists_cons_of_ne_nil hne
  rw [List.forall_mem_cons] at hdigits
  exact ⟨d, ds ++ tail, rfl, hdigits.1, run_trans (run_number_digits hdigits.2 [d]) htail⟩

/-- An exponent continues a number. -/
theorem run_number_exponent {c : Char} (hc : c = '+' ∨ c = '-') {digits : List Char}
    (hdigits : ∀ c ∈ digits, c.isDigit = true) (before : List Char) :
    run (.number before) ('e' :: c :: digits) = ([], .number (before ++ 'e' :: c :: digits)) := by
  have hletter : run (.number before) ['e'] = ([], .number (before ++ ['e'])) :=
    run_number (by simp [isIdChar, isIdStart]) before
  have hsign : run (.number (before ++ ['e'])) [c] = ([], .number (before ++ ['e'] ++ [c])) := by
    have hcont : continuesNumber (before ++ ['e']) c = true := by
      rcases hc with rfl | rfl <;> simp [continuesNumber]
    rw [run, step, if_pos hcont]
    rfl
  have hrun := run_trans (run_trans hletter hsign) (run_number_digits hdigits _)
  simpa using hrun

end SnortOptimizer.Sql
