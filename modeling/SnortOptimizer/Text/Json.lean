import SnortOptimizer.Text.Basic
import Mathlib.Data.List.TakeWhile

/-!
# JSON texts (`encoding/json`)

How Go takes a JSON text apart and puts it into a structure. The bytes are decoded first, which
makes no difference: every sign that matters is a single byte, and what is not UTF-8 becomes the
replacement character in a string and is an error elsewhere. The reader goes through the text one
character at a time, as the one for SQL does, and the parser through the tokens, with a stack of the
arrays and objects that are open.

Pieces of text that leave the reader between two tokens can be read one after the other
(`Reads.append`). `decode_object` says that an object written member by member reads as itself.
-/

namespace SnortOptimizer.Json

open Text

/-! ## Bytes -/

/-- `utf8.RuneError`. -/
def replacement : Char := Char.ofNat 0xFFFD

/-- The number of bytes a character has by its first one, 0 if it cannot be a first one. -/
def runeWidth (b : Nat) : Nat :=
  if b < 0x80 then 1
  else if 0xC2 ≤ b ∧ b ≤ 0xDF then 2
  else if 0xE0 ≤ b ∧ b ≤ 0xEF then 3
  else if 0xF0 ≤ b ∧ b ≤ 0xF4 then 4
  else 0

/-- What may follow the first byte. -/
def secondRange (b : Nat) : Nat × Nat :=
  if b = 0xE0 then (0xA0, 0xBF)
  else if b = 0xED then (0x80, 0x9F)
  else if b = 0xF0 then (0x90, 0xBF)
  else if b = 0xF4 then (0x80, 0x8F)
  else (0x80, 0xBF)

def tailsOk (b : Nat) : List Nat → Bool
  | [] => true
  | second :: more =>
      decide ((secondRange b).1 ≤ second ∧ second ≤ (secondRange b).2) &&
        more.all fun t => decide (0x80 ≤ t ∧ t ≤ 0xBF)

/-- `utf8.DecodeRune`: a character and the number of its bytes. -/
def decodeRune (b : UInt8) (rest : Bytes) : Char × Nat :=
  let width := runeWidth b.toNat
  let tails := (rest.take (width - 1)).map UInt8.toNat
  if width = 0 ∨ tails.length ≠ width - 1 ∨ tailsOk b.toNat tails = false then (replacement, 1)
  else if width = 1 then (Char.ofNat b.toNat, 1)
  else (Char.ofNat (tails.foldl (fun n t => n * 64 + t % 64) (b.toNat % 2 ^ (7 - width))), width)

/-- The characters of a text; each one has a byte, so its length is enough fuel. -/
def decodeTextFrom : Nat → Bytes → List Char
  | 0, _ => []
  | _ + 1, [] => []
  | fuel + 1, b :: rest =>
      let (c, width) := decodeRune b rest
      c :: decodeTextFrom fuel ((b :: rest).drop width)

def decodeText (s : Bytes) : List Char := decodeTextFrom s.length s

/-- The bytes of an ASCII text. -/
def asciiBytes (text : List Char) : Bytes := text.map fun c => UInt8.ofNat c.toNat

/-! ## Tokens -/

inductive Token
  | sign (c : Char)
  | string (value : List Char)
  | number (text : List Char)
  | word (text : List Char)
  | illegal
  deriving DecidableEq

/-- A piece of a string: a character, or sixteen bits that are written as four digits. -/
inductive Piece
  | char (c : Char)
  | unit (u : Nat)
  deriving DecidableEq

/-- Where the reader stands, with what it has read of a token. -/
inductive Mode
  | blank
  | number (text : List Char)
  | word (text : List Char)
  | string (pieces : List Piece)
  | escape (pieces : List Piece)
  | unit (pieces : List Piece) (digits : List Nat)
  deriving DecidableEq

/-- Half of a pair stands for no character. -/
def unitChar (u : Nat) : Char := if 0xD800 ≤ u ∧ u < 0xE000 then replacement else Char.ofNat u

/-- The characters of a string; two halves of a pair are one character. -/
def joinPieces : List Piece → List Char
  | [] => []
  | .char c :: ps => c :: joinPieces ps
  | .unit u :: .unit v :: ps =>
      if (0xD800 ≤ u ∧ u < 0xDC00) ∧ 0xDC00 ≤ v ∧ v < 0xE000 then
        Char.ofNat (0x10000 + (u - 0xD800) * 0x400 + (v - 0xDC00)) :: joinPieces ps
      else unitChar u :: joinPieces (.unit v :: ps)
  | .unit u :: ps => unitChar u :: joinPieces ps

def isBlank (c : Char) : Bool := c = ' ' || c = '\t' || c = '\r' || c = '\n'

def isSign (c : Char) : Bool := c ∈ ['\x7b', '\x7d', '[', ']', ':', ',']

def continuesNumber (c : Char) : Bool := c.isDigit || c ∈ ['+', '-', '.', 'e', 'E']

/-- What a character behind a backslash stands for. -/
def escaped : Char → Option Char
  | '"' => some '"'
  | '\\' => some '\\'
  | '/' => some '/'
  | 'b' => some '\x08'
  | 'f' => some '\x0c'
  | 'n' => some '\n'
  | 'r' => some '\r'
  | 't' => some '\t'
  | _ => none

def hexDigit (c : Char) : Option Nat :=
  if c.isDigit then some (c.toNat - '0'.toNat)
  else if 'a' ≤ c ∧ c ≤ 'f' then some (c.toNat - 'a'.toNat + 10)
  else if 'A' ≤ c ∧ c ≤ 'F' then some (c.toNat - 'A'.toNat + 10)
  else none

/-- A character between two tokens. -/
def first (c : Char) : List Token × Mode :=
  if isBlank c then ([], .blank)
  else if c = '"' then ([], .string [])
  else if c = '-' ∨ c.isDigit then ([], .number [c])
  else if c.isAlpha then ([], .word [c])
  else if isSign c then ([.sign c], .blank)
  else ([.illegal], .blank)

/-- The character ends a token and is not part of it. -/
def endToken (token : Token) (c : Char) : List Token × Mode := (token :: (first c).1, (first c).2)

/-- One character: the tokens that are complete with it, and where the reader stands then. -/
def step : Mode → Char → List Token × Mode
  | .blank, c => first c
  | .number text, c =>
      if continuesNumber c then ([], .number (text ++ [c])) else endToken (.number text) c
  | .word text, c => if c.isAlpha then ([], .word (text ++ [c])) else endToken (.word text) c
  | .string pieces, c =>
      if c = '"' then ([.string (joinPieces pieces)], .blank)
      else if c = '\\' then ([], .escape pieces)
      else if c.toNat < 0x20 then ([.illegal], .blank)
      else ([], .string (pieces ++ [.char c]))
  | .escape pieces, c =>
      if c = 'u' then ([], .unit pieces [])
      else
        match escaped c with
        | some d => ([], .string (pieces ++ [.char d]))
        | none => ([.illegal], .blank)
  | .unit pieces digits, c =>
      match hexDigit c with
      | none => ([.illegal], .blank)
      | some d =>
          if digits.length < 3 then ([], .unit pieces (digits ++ [d]))
          else ([], .string (pieces ++ [.unit ((digits ++ [d]).foldl (fun n d => n * 16 + d) 0)]))

/-- What the end of the text makes of a token. -/
def finish : Mode → List Token
  | .blank => []
  | .number text => [.number text]
  | .word text => [.word text]
  | .string _ | .escape _ | .unit _ _ => [.illegal]

def run (m : Mode) : List Char → List Token × Mode
  | [] => ([], m)
  | c :: cs => ((step m c).1 ++ (run (step m c).2 cs).1, (run (step m c).2 cs).2)

def lex (text : List Char) : List Token := (run .blank text).1 ++ finish (run .blank text).2

/-! ## Values -/

inductive Value
  | null
  | bool (b : Bool)
  | number (text : List Char)
  | string (text : List Char)
  | array (items : List Value)
  | object (members : List (List Char × Value))

def exponentOk : List Char → Bool
  | [] => true
  | c :: cs =>
      let digits := match cs with
        | '+' :: ds | '-' :: ds => ds
        | ds => ds
      (c = 'e' || c = 'E') && !digits.isEmpty && digits.all Char.isDigit

def fractionOk : List Char → Bool
  | '.' :: cs => !(cs.takeWhile Char.isDigit).isEmpty && exponentOk (cs.dropWhile Char.isDigit)
  | cs => exponentOk cs

/-- The grammar of numbers: no zeros in front, digits on both sides of a point. -/
def isNumber (text : List Char) : Bool :=
  let body := if text.head? = some '-' then text.tail else text
  let whole := body.takeWhile Char.isDigit
  !whole.isEmpty && (whole.head? ≠ some '0' || whole.length = 1) &&
    fractionOk (body.dropWhile Char.isDigit)

/-- The value a single token stands for. -/
def Token.scalar? : Token → Option Value
  | .string value => some (.string value)
  | .number text => if isNumber text then some (.number text) else none
  | .word text =>
      if text = "true".toList then some (.bool true)
      else if text = "false".toList then some (.bool false)
      else if text = "null".toList then some .null
      else none
  | .sign _ | .illegal => none

/-- An array or an object that is open, the latter with the key that was read last. -/
inductive Frame
  | array (items : List Value)
  | object (members : List (List Char × Value)) (key : List Char)

/-- What may come next. -/
inductive State
  | value (stack : List Frame)
  | firstItem (stack : List Frame)
  | firstKey (stack : List Frame)
  | key (stack : List Frame)
  | colon (stack : List Frame)
  | more (stack : List Frame)
  | done (v : Value)

def maxNestingDepth : Nat := 10000

def push (next : List Frame → State) (frame : Frame) (stack : List Frame) : Option State :=
  if stack.length < maxNestingDepth then some (next (frame :: stack)) else none

def endValue : List Frame → Value → State
  | [], v => .done v
  | .array items :: stack, v => .more (.array (items ++ [v]) :: stack)
  | .object members key :: stack, v => .more (.object (members ++ [(key, v)]) key :: stack)

def startValue (stack : List Frame) (t : Token) : Option State :=
  if t = .sign '\x7b' then push .firstKey (.object [] []) stack
  else if t = .sign '[' then push .firstItem (.array []) stack
  else t.scalar?.map (endValue stack)

def closeFrame (t : Token) : List Frame → Option State
  | .array items :: stack =>
      if t = .sign ']' then some (endValue stack (.array items)) else none
  | .object members _ :: stack =>
      if t = .sign '\x7d' then some (endValue stack (.object members)) else none
  | [] => none

def readKey : List Frame → Token → Option State
  | .object members _ :: stack, .string key => some (.colon (.object members key :: stack))
  | _, _ => none

def afterComma : List Frame → Option State
  | .array items :: stack => some (.value (.array items :: stack))
  | .object members key :: stack => some (.key (.object members key :: stack))
  | [] => none

def parseStep : State → Token → Option State
  | .value stack, t => startValue stack t
  | .firstItem stack, t => if t = .sign ']' then closeFrame t stack else startValue stack t
  | .firstKey stack, t => if t = .sign '\x7d' then closeFrame t stack else readKey stack t
  | .key stack, t => readKey stack t
  | .colon stack, t => if t = .sign ':' then some (.value stack) else none
  | .more stack, t => if t = .sign ',' then afterComma stack else closeFrame t stack
  | .done _, _ => none

def State.result : State → Option Value
  | .done v => some v
  | _ => none

def parse (tokens : List Token) : Option Value := do
  let s ← tokens.foldlM parseStep (.value [])
  s.result

/-- The value of a text. -/
def decode (text : List Char) : Option Value := parse (lex text)

/-! ## Structures -/

/-- What a field of a structure holds, and how it is set. -/
inductive Target (σ : Type)
  | string (set : σ → String → σ)
  | int64 (set : σ → Int → σ)

/-- One character of `foldName`, up to characters that are the same as no letter of ASCII. -/
def foldChar (c : Char) : Char :=
  if c = Char.ofNat 0x17F then 'S' else if c = Char.ofNat 0x212A then 'K' else c.toUpper

/-- The field a key belongs to: the one of that name, or else the first that has the name up to
case. -/
def findField {σ : Type} (fields : List (String × Target σ)) (key : List Char) :
    Option (Target σ) :=
  match fields.find? fun f => f.1.toList = key with
  | some f => some f.2
  | none =>
      (fields.find? fun f => f.1.toList.map foldChar = key.map foldChar).map Prod.snd

/-- A value for a field; `null` leaves it as it is. -/
def Target.store {σ : Type} (s : σ) : Target σ → Value → Option σ
  | _, .null => some s
  | .string set, .string text => some (set s (String.ofList text))
  | .int64 set, .number text => (atoi text).map (set s)
  | _, _ => none

def storeMember {σ : Type} (fields : List (String × Target σ)) (s : σ)
    (member : List Char × Value) : Option σ :=
  match findField fields member.1 with
  | none => some s
  | some target => target.store s member.2

/-- `json.Unmarshal` into a structure of strings and integers. -/
def unmarshal {σ : Type} (fields : List (String × Target σ)) (zero : σ) (text : List Char) :
    Option σ :=
  match decode text with
  | some .null => some zero
  | some (.object members) => members.foldlM (storeMember fields) zero
  | _ => none

/-! ## Bytes of a text -/

theorem decodeRune_ascii {c : Char} (hc : c.toNat < 128) (rest : Bytes) :
    decodeRune (UInt8.ofNat c.toNat) rest = (c, 1) := by
  have hbyte : (UInt8.ofNat c.toNat).toNat = c.toNat := by
    rw [UInt8.toNat_ofNat']
    exact Nat.mod_eq_of_lt (by omega)
  have hwidth : runeWidth c.toNat = 1 := if_pos hc
  rw [decodeRune, hbyte, hwidth]
  simp [tailsOk, Char.ofNat_toNat]

theorem decodeText_asciiBytes {text : List Char} (h : ∀ c ∈ text, c.toNat < 128) :
    decodeText (asciiBytes text) = text := by
  induction text with
  | nil => rfl
  | cons c cs ih =>
      rw [List.forall_mem_cons] at h
      have htail : decodeTextFrom (asciiBytes cs).length (asciiBytes cs) = cs := ih h.2
      show decodeTextFrom ((asciiBytes cs).length + 1) (UInt8.ofNat c.toNat :: asciiBytes cs) = _
      rw [decodeTextFrom, decodeRune_ascii h.1]
      exact congrArg (c :: ·) htail

/-! ## Reading piece by piece -/

theorem run_append (m : Mode) (xs ys : List Char) :
    run m (xs ++ ys) =
      ((run m xs).1 ++ (run (run m xs).2 ys).1, (run (run m xs).2 ys).2) := by
  induction xs generalizing m with
  | nil => rfl
  | cons c cs ih => rw [List.cons_append, run, run, ih, List.append_assoc]

/-- A text that reads as some tokens, whatever comes behind it. -/
def Reads (text : List Char) (tokens : List Token) : Prop := run .blank text = (tokens, .blank)

theorem Reads.run_append {text : List Char} {tokens : List Token} (h : Reads text tokens)
    (rest : List Char) :
    run .blank (text ++ rest) = (tokens ++ (run .blank rest).1, (run .blank rest).2) := by
  rw [Json.run_append, h]

theorem Reads.append {xs ys : List Char} {ts us : List Token} (hx : Reads xs ts)
    (hy : Reads ys us) : Reads (xs ++ ys) (ts ++ us) := by
  rw [Reads, hx.run_append, hy]

/-- A text that reads as a token where a comma or a blank comes behind it. -/
def ReadsValue (text : List Char) (token : Token) : Prop :=
  ∀ c rest, c = ',' ∨ c = ' ' →
    run .blank (text ++ c :: rest) =
      (token :: (run .blank (c :: rest)).1, (run .blank (c :: rest)).2)

theorem Reads.readsValue {text : List Char} {token : Token} (h : Reads text [token]) :
    ReadsValue text token := by
  intro c rest _
  exact h.run_append (c :: rest)

/-! ## Strings -/

/-- A text between quotes, with a backslash before each quote and backslash. -/
def quoted (text : List Char) : List Char :=
  '"' :: (text.flatMap (fun c => if c = '"' ∨ c = '\\' then ['\\', c] else [c]) ++ ['"'])

theorem run_escaped {text : List Char} (h : ∀ c ∈ text, 0x20 ≤ c.toNat) (pieces : List Piece) :
    run (.string pieces) (text.flatMap fun c => if c = '"' ∨ c = '\\' then ['\\', c] else [c]) =
      ([], .string (pieces ++ text.map .char)) := by
  induction text generalizing pieces with
  | nil => simp [run]
  | cons c cs ih =>
      rw [List.forall_mem_cons] at h
      have hone : run (.string pieces) (if c = '"' ∨ c = '\\' then ['\\', c] else [c]) =
          ([], .string (pieces ++ [.char c])) := by
        by_cases hc : c = '"' ∨ c = '\\'
        · rw [if_pos hc]
          rcases hc with rfl | rfl <;> rfl
        · rw [if_neg hc]
          rw [not_or] at hc
          simp only [run, step, if_neg hc.1, if_neg hc.2, if_neg (Nat.not_lt.mpr h.1)]
          rfl
      rw [List.flatMap_cons, run_append, hone, ih h.2, List.map_cons, List.append_assoc]
      rfl

theorem joinPieces_char (text : List Char) : joinPieces (text.map .char) = text := by
  induction text with
  | nil => rfl
  | cons c cs ih => exact congrArg (c :: ·) ih

theorem reads_quoted {text : List Char} (h : ∀ c ∈ text, 0x20 ≤ c.toNat) :
    Reads (quoted text) [.string text] := by
  have hquote : first '"' = ([], .string []) := by decide
  rw [Reads, quoted, run, step, hquote, List.nil_append, run_append, run_escaped h]
  show ([] ++ [Token.string (joinPieces ([] ++ text.map .char))], Mode.blank) = _
  rw [List.nil_append, List.nil_append, joinPieces_char]

/-! ## Numbers -/

theorem first_digit {c : Char} (hc : c.isDigit = true) : first c = ([], .number [c]) := by
  have hrange : 48 ≤ c.toNat ∧ c.toNat ≤ 57 := by
    simpa [Char.isDigit, UInt32.le_iff_toNat_le] using hc
  have hne : ∀ d : Char, d.toNat < 48 → c ≠ d := by
    rintro d hd rfl
    omega
  have hblank : isBlank c = false := by
    simp [isBlank, hne ' ' (by decide), hne '\t' (by decide), hne '\r' (by decide),
      hne '\n' (by decide)]
  rw [first, hblank, if_neg Bool.false_ne_true, if_neg (hne '"' (by decide)), if_pos (.inr hc)]

theorem run_number {digits : List Char} (h : ∀ c ∈ digits, c.isDigit = true) (text : List Char) :
    run (.number text) digits = ([], .number (text ++ digits)) := by
  induction digits generalizing text with
  | nil => rw [List.append_nil]; rfl
  | cons c cs ih =>
      rw [List.forall_mem_cons] at h
      have hc : continuesNumber c = true := by rw [continuesNumber, h.1, Bool.true_or]
      rw [run, step, if_pos hc, ih h.2, List.append_assoc]
      rfl

/-- A numeral ends where no digit follows. -/
theorem readsValue_digits {digits : List Char} (hne : digits ≠ [])
    (h : ∀ c ∈ digits, c.isDigit = true) : ReadsValue digits (.number digits) := by
  intro c rest hc
  cases digits with
  | nil => exact absurd rfl hne
  | cons d ds =>
      rw [List.forall_mem_cons] at h
      have hrun : run .blank (d :: ds) = ([], .number (d :: ds)) := by
        rw [run, step, first_digit h.1, run_number h.2]
        rfl
      have hend : continuesNumber c = false := by rcases hc with rfl | rfl <;> decide
      rw [run_append, hrun, run, step, hend]
      rfl

/-- A numeral has no zeros in front. -/
theorem head_toDigits (n : Nat) (h : (Nat.toDigits 10 n).head? = some '0') : n = 0 := by
  induction n using Nat.strong_induction_on with
  | _ n ih =>
      by_cases hn : n < 10
      · rw [Nat.toDigits_of_lt_base hn] at h
        exact Nat.digitChar_eq_zero.mp (Option.some.inj h)
      · rw [Nat.toDigits_of_base_le (by decide) (Nat.not_lt.mp hn), List.head?_append_of_ne_nil]
          at h
        · have := ih (n / 10) (by omega) h
          omega
        · exact Nat.toDigits_ne_nil

theorem isNumber_toString (n : Nat) : isNumber (toString n).toList = true := by
  have hdigits : ∀ c ∈ (toString n).toList, c.isDigit = true :=
    fun c hc => isDigit_of_mem_toString hc
  have hminus : (toString n).toList.head? ≠ some '-' := by
    intro hhead
    exact absurd (hdigits '-' (List.mem_of_head? hhead)) (by decide)
  have hnil : (toString n).toList.isEmpty = false := by
    rw [List.isEmpty_eq_false_iff]
    exact toString_nat_ne_nil n
  have hzero : (toString n).toList.head? ≠ some '0' ∨ (toString n).toList.length = 1 := by
    by_cases hn : n = 0
    · rw [hn]
      exact .inr rfl
    · rw [Nat.toString_eq_ofList_toDigits, String.toList_ofList]
      exact .inl fun hhead => hn (head_toDigits n hhead)
  have htake : (toString n).toList.takeWhile Char.isDigit = (toString n).toList :=
    List.takeWhile_eq_self_iff.mpr hdigits
  have hdrop : (toString n).toList.dropWhile Char.isDigit = [] :=
    List.dropWhile_eq_nil_iff.mpr hdigits
  simp only [isNumber, if_neg hminus, htake, hdrop, hnil]
  simpa [fractionOk, exponentOk] using hzero

/-! ## Objects -/

/-- A member of an object, with its value as it is written. -/
def memberText (label text : List Char) : List Char :=
  ' ' :: '"' :: (label ++ ('"' :: ' ' :: ':' :: ' ' :: text))

def memberTokens (label : List Char) (token : Token) : List Token :=
  [.string label, .sign ':', token]

/-- A label needs no backslashes. -/
def isLabel (label : List Char) : Bool :=
  label.all fun c => c ≠ '"' && c ≠ '\\' && decide (0x20 ≤ c.toNat)

theorem quoted_of_isLabel {label : List Char} (h : isLabel label = true) :
    quoted label = '"' :: (label ++ ['"']) := by
  have hplain : label.flatMap (fun c => if c = '"' ∨ c = '\\' then ['\\', c] else [c]) = label := by
    induction label with
    | nil => rfl
    | cons c cs ih =>
        rw [isLabel, List.all_cons, Bool.and_eq_true] at h
        have hc : ¬ (c = '"' ∨ c = '\\') := by
          have := h.1
          simp only [ne_eq, decide_not, Bool.and_eq_true, Bool.not_eq_true', decide_eq_false_iff_not,
            decide_eq_true_eq] at this
          exact not_or.mpr this.1
        rw [List.flatMap_cons, if_neg hc, ih h.2]
        rfl
  rw [quoted, hplain]

theorem run_memberText {label text : List Char} {token : Token} (hlabel : isLabel label = true)
    (htext : ReadsValue text token) {c : Char} (hc : c = ',' ∨ c = ' ') (rest : List Char) :
    run .blank (memberText label text ++ c :: rest) =
      (memberTokens label token ++ (run .blank (c :: rest)).1, (run .blank (c :: rest)).2) := by
  have hchars : ∀ c ∈ label, 0x20 ≤ c.toNat := by
    intro c hmem
    have := List.all_eq_true.mp hlabel c hmem
    simp only [Bool.and_eq_true, decide_eq_true_eq] at this
    exact this.2
  have hsplit : memberText label text ++ c :: rest =
      ([' '] ++ (quoted label ++ [' ', ':', ' '])) ++ (text ++ c :: rest) := by
    rw [quoted_of_isLabel hlabel]
    simp [memberText]
  have hspace : Reads [' '] [] := rfl
  have hcolon : Reads [' ', ':', ' '] [.sign ':'] := by unfold Reads; decide
  have hfront : Reads ([' '] ++ (quoted label ++ [' ', ':', ' '])) [.string label, .sign ':'] :=
    hspace.append ((reads_quoted hchars).append hcolon)
  rw [hsplit, hfront.run_append, htext c rest hc]
  rfl

/-- The members of an object with a comma before each, and its end. -/
theorem run_members {α : Type} {label text : α → List Char} {token : α → Token} {xs : List α}
    (hlabel : ∀ x ∈ xs, isLabel (label x) = true)
    (htext : ∀ x ∈ xs, ReadsValue (text x) (token x)) :
    ∃ c rest, (c = ',' ∨ c = ' ') ∧
      xs.flatMap (fun x => ',' :: memberText (label x) (text x)) ++ [' ', '\x7d'] = c :: rest ∧
      run .blank (c :: rest) =
        (xs.flatMap (fun x => .sign ',' :: memberTokens (label x) (token x)) ++ [.sign '\x7d'],
          .blank) := by
  induction xs with
  | nil => exact ⟨' ', ['\x7d'], .inr rfl, rfl, rfl⟩
  | cons x xs ih =>
      rw [List.forall_mem_cons] at hlabel htext
      obtain ⟨c, rest, hc, heq, hrun⟩ := ih hlabel.2 htext.2
      refine ⟨',', memberText (label x) (text x) ++ c :: rest, .inl rfl, ?_, ?_⟩
      · rw [List.flatMap_cons, List.append_assoc, heq]
        rfl
      · have hcomma : first ',' = ([.sign ','], .blank) := by decide
        rw [run, step, hcomma, run_memberText hlabel.1 htext.1 hc, hrun, List.flatMap_cons,
          List.append_assoc]
        rfl

/-- The parser at a key: the member is added to the object that is open. -/
theorem parse_member {stack : List Frame} {members : List (List Char × Value)} {key : List Char}
    {label : List Char} {token : Token} {v : Value} (hv : token.scalar? = some v)
    (tokens : List Token) :
    (memberTokens label token ++ tokens).foldlM parseStep (.key (.object members key :: stack)) =
      tokens.foldlM parseStep (.more (.object (members ++ [(label, v)]) label :: stack)) := by
  have hsign : ∀ c, token ≠ .sign c := by
    rintro c rfl
    cases hv
  have hvalue : parseStep (.value (.object members label :: stack)) token =
      some (.more (.object (members ++ [(label, v)]) label :: stack)) := by
    rw [parseStep, startValue, if_neg (hsign _), if_neg (hsign _), hv]
    rfl
  simp only [memberTokens, List.cons_append, List.nil_append, List.foldlM_cons, parseStep, readKey,
    if_true, Option.bind_eq_bind, Option.bind_some] at hvalue ⊢
  rw [hvalue, Option.bind_some]

theorem parse_members {α : Type} {label : α → List Char} {token : α → Token} {v : α → Value}
    {xs : List α} (hv : ∀ x ∈ xs, (token x).scalar? = some (v x))
    (members : List (List Char × Value)) (key : List Char) :
    (xs.flatMap (fun x => Token.sign ',' :: memberTokens (label x) (token x)) ++
        [Token.sign '\x7d']).foldlM parseStep (.more [.object members key]) =
      some (.done (.object (members ++ xs.map fun x => (label x, v x)))) := by
  induction xs generalizing members key with
  | nil =>
      rw [List.map_nil, List.append_nil]
      rfl
  | cons x xs ih =>
      rw [List.forall_mem_cons] at hv
      have hcomma : parseStep (.more [.object members key]) (.sign ',') =
          some (.key [.object members key]) := by
        rw [parseStep, if_pos rfl]
        rfl
      rw [List.flatMap_cons, List.cons_append, List.cons_append, List.foldlM_cons, hcomma]
      show List.foldlM parseStep _ _ = _
      rw [List.append_assoc, parse_member hv.1, ih hv.2, List.map_cons, List.append_assoc]
      rfl

/-- A value that is written as a string or as a numeral. -/
inductive Scalar
  | string (text : List Char)
  | nat (n : Nat)

def Scalar.text : Scalar → List Char
  | .string text => quoted text
  | .nat n => (toString n).toList

def Scalar.value : Scalar → Value
  | .string text => .string text
  | .nat n => .number (toString n).toList

def Scalar.token : Scalar → Token
  | .string text => .string text
  | .nat n => .number (toString n).toList

/-- Control characters cannot be written. -/
def Scalar.Printable : Scalar → Prop
  | .string text => ∀ c ∈ text, 0x20 ≤ c.toNat
  | .nat _ => True

theorem Scalar.readsValue {x : Scalar} (h : x.Printable) : ReadsValue x.text x.token := by
  cases x with
  | string text => exact (reads_quoted h).readsValue
  | nat n => exact readsValue_digits (toString_nat_ne_nil n) fun c => isDigit_of_mem_toString

theorem Scalar.scalar?_token (x : Scalar) : x.token.scalar? = some x.value := by
  cases x with
  | string text => rfl
  | nat n => exact if_pos (isNumber_toString n)

/-- An object as it is written: its first member, and the others with a comma before each. -/
def objectText (m : String × Scalar) (ms : List (String × Scalar)) : List Char :=
  '\x7b' :: (memberText m.1.toList m.2.text ++
    (ms.flatMap (fun m => ',' :: memberText m.1.toList m.2.text) ++ [' ', '\x7d']))

/-- **An object reads as itself.** -/
theorem decode_object {m : String × Scalar} {ms : List (String × Scalar)}
    (hlabel : ∀ x ∈ m :: ms, isLabel x.1.toList = true) (hvalue : ∀ x ∈ m :: ms, x.2.Printable) :
    decode (objectText m ms) = some (.object ((m :: ms).map fun x => (x.1.toList, x.2.value))) := by
  rw [List.forall_mem_cons] at hlabel hvalue
  obtain ⟨c, rest, hc, heq, hrun⟩ :=
    run_members hlabel.2 fun x hx => Scalar.readsValue (hvalue.2 x hx)
  have hopen : first '\x7b' = ([.sign '\x7b'], .blank) := by decide
  have hlex : lex (objectText m ms) =
      .sign '\x7b' :: (memberTokens m.1.toList m.2.token ++
        (ms.flatMap (fun x => .sign ',' :: memberTokens x.1.toList x.2.token) ++ [.sign '\x7d'])) := by
    rw [lex, objectText, heq, run, step, hopen,
      run_memberText hlabel.1 (Scalar.readsValue hvalue.1) hc, hrun, finish]
    simp
  have hstart : parseStep (.value []) (.sign '\x7b') = some (.firstKey [.object [] []]) := by
    rw [parseStep, startValue, if_pos rfl, push, if_pos (by decide)]
  -- the first key may also be the end of the object
  have hkey : ∀ tokens : List Token,
      (memberTokens m.1.toList m.2.token ++ tokens).foldlM parseStep (.firstKey [.object [] []]) =
        (memberTokens m.1.toList m.2.token ++ tokens).foldlM parseStep (.key [.object [] []]) :=
    fun tokens => rfl
  rw [decode, hlex, parse, List.foldlM_cons, hstart]
  show Option.bind (List.foldlM parseStep _ _) _ = _
  rw [hkey, parse_member m.2.scalar?_token, parse_members fun x _ => x.2.scalar?_token]
  rfl

/-! ## The characters and the length of an object -/

/-- The characters of ASCII that take up room on a line. -/
def isVisible (c : Char) : Bool := decide (0x20 ≤ c.toNat ∧ c.toNat < 0x7f)

theorem visible_quoted {text : List Char} (h : ∀ c ∈ text, isVisible c = true) :
    ∀ c ∈ quoted text, isVisible c = true := by
  intro c hc
  rw [quoted, List.mem_cons, List.mem_append, List.mem_singleton] at hc
  rcases hc with rfl | hc | rfl
  · decide
  · obtain ⟨d, hd, hc⟩ := List.mem_flatMap.mp hc
    split at hc
    · simp only [List.mem_cons, List.not_mem_nil, or_false] at hc
      rcases hc with rfl | rfl
      · decide
      · exact h _ hd
    · rw [List.mem_singleton.mp hc]
      exact h d hd
  · decide

theorem isVisible_of_isDigit {c : Char} (hc : c.isDigit = true) : isVisible c = true := by
  have hrange : 48 ≤ c.toNat ∧ c.toNat ≤ 57 := by
    simpa [Char.isDigit, UInt32.le_iff_toNat_le] using hc
  rw [isVisible, decide_eq_true_eq]
  omega

def Scalar.Visible : Scalar → Prop
  | .string text => ∀ c ∈ text, isVisible c = true
  | .nat _ => True

theorem Scalar.Visible.printable {x : Scalar} (h : x.Visible) : x.Printable := by
  cases x with
  | string text =>
      intro c hc
      exact (of_decide_eq_true (h c hc)).1
  | nat n => trivial

theorem Scalar.Visible.text {x : Scalar} (h : x.Visible) : ∀ c ∈ x.text, isVisible c = true := by
  cases x with
  | string text => exact visible_quoted h
  | nat n => exact fun c hc => isVisible_of_isDigit (isDigit_of_mem_toString hc)

theorem visible_memberText {label text : List Char} (hlabel : ∀ c ∈ label, isVisible c = true)
    (htext : ∀ c ∈ text, isVisible c = true) : ∀ c ∈ memberText label text, isVisible c = true := by
  intro c hc
  simp only [memberText, List.mem_cons, List.mem_append] at hc
  rcases hc with rfl | rfl | hc | rfl | rfl | rfl | rfl | hc
  · decide
  · decide
  · exact hlabel c hc
  · decide
  · decide
  · decide
  · decide
  · exact htext c hc

theorem visible_objectText {m : String × Scalar} {ms : List (String × Scalar)}
    (h : ∀ x ∈ m :: ms, (∀ c ∈ x.1.toList, isVisible c = true) ∧ x.2.Visible) :
    ∀ c ∈ objectText m ms, isVisible c = true := by
  have hmember : ∀ x ∈ m :: ms, ∀ c ∈ memberText x.1.toList x.2.text, isVisible c = true :=
    fun x hx => visible_memberText (h x hx).1 (h x hx).2.text
  rw [List.forall_mem_cons] at hmember
  intro c hc
  simp only [objectText, List.mem_cons, List.mem_append, List.mem_flatMap, List.not_mem_nil,
    or_false] at hc
  rcases hc with rfl | hc | ⟨x, hx, rfl | hc⟩ | rfl | rfl
  · decide
  · exact hmember.1 c hc
  · decide
  · exact hmember.2 x hx c hc
  · decide
  · decide

theorem length_quoted_le (text : List Char) : (quoted text).length ≤ 2 * text.length + 2 := by
  have hbody : (text.flatMap fun c => if c = '"' ∨ c = '\\' then ['\\', c] else [c]).length ≤
      2 * text.length := by
    induction text with
    | nil => exact Nat.le_refl _
    | cons c cs ih =>
        rw [List.flatMap_cons, List.length_append, List.length_cons]
        split <;> simp only [List.length_cons, List.length_nil] <;> omega
  rw [quoted, List.length_cons, List.length_append, List.length_singleton]
  omega

/-- An object whose labels and values are short. -/
theorem length_objectText_le {m : String × Scalar} {ms : List (String × Scalar)} {k : Nat}
    (h : ∀ x ∈ m :: ms, x.1.toList.length + x.2.text.length ≤ k) :
    (objectText m ms).length ≤ 3 + (ms.length + 1) * (k + 7) := by
  have hmember : ∀ x : String × Scalar,
      (memberText x.1.toList x.2.text).length = x.1.toList.length + x.2.text.length + 6 := by
    intro x
    simp only [memberText, List.length_cons, List.length_append]
    omega
  rw [List.forall_mem_cons] at h
  have hothers : (ms.flatMap fun x => ',' :: memberText x.1.toList x.2.text).length ≤
      ms.length * (k + 7) := by
    obtain ⟨-, h⟩ := h
    induction ms with
    | nil => exact Nat.le_of_eq (Nat.zero_mul _).symm
    | cons x xs ih =>
        rw [List.forall_mem_cons] at h
        have hx := hmember x
        have hk := h.1
        have hrest := ih h.2
        rw [List.flatMap_cons, List.length_append, List.length_cons, List.length_cons,
          Nat.succ_mul]
        omega
  have hm := hmember m
  have hk := h.1
  simp only [objectText, List.length_cons, List.length_append, List.length_nil]
  rw [Nat.succ_mul]
  omega

end SnortOptimizer.Json
