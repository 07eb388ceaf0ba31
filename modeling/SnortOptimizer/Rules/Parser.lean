import SnortOptimizer.Analyser.Rules
import SnortOptimizer.Text.Columns
import SnortOptimizer.Text.Search

/-!
# Reading rules (`sql/rules/parser.go`)

`ParseLine` cuts a line at its first opening and its last closing parenthesis. What stands before is
the header; in between, the five options that are of interest are looked for with one regular
expression each, and the first place where it matches is taken, whether or not an option stands
there.

None of the expressions has to go back: at a given place there is at most one way to match, but for
the blanks of a `classtype` that has nothing else.
-/

namespace SnortOptimizer.Rules

open Analyser Text

/-! ## The regular expressions -/

/-- `name\s*:`, and what stands behind it. -/
def matchName (name : List Char) (s : List Char) : Option (List Char) :=
  if name.isPrefixOf s then
    match (s.drop name.length).dropWhile reSpace with
    | ':' :: rest => some rest
    | _ => none
  else none

/-- `\s*;` stands next. -/
def endsOption (s : List Char) : Bool := (s.dropWhile reSpace).head? = some ';'

/-- `name\s*:\s*(\d+)\s*;` -/
def matchNumber (name : List Char) (s : List Char) : Option (List Char) :=
  (matchName name s).bind fun rest =>
    let rest := rest.dropWhile reSpace
    let digits := rest.takeWhile Char.isDigit
    if digits ≠ [] ∧ endsOption (rest.dropWhile Char.isDigit) then some digits else none

/-- `((?:\\.|[^"\\])*)"`, and what stands behind it. -/
def quotedBody : List Char → Option (List Char × List Char)
  | [] => none
  | '"' :: rest => some ([], rest)
  | '\\' :: c :: rest =>
      if c = '\n' then none
      else (quotedBody rest).map fun (body, after) => ('\\' :: c :: body, after)
  | ['\\'] => none
  | c :: rest => (quotedBody rest).map fun (body, after) => (c :: body, after)

/-- `msg\s*:\s*"((?:\\.|[^"\\])*)"\s*;` -/
def matchMsg (s : List Char) : Option (List Char) :=
  (matchName "msg".toList s).bind fun rest =>
    match rest.dropWhile reSpace with
    | '"' :: rest => (quotedBody rest).bind fun (body, after) =>
        if endsOption after then some body else none
    | _ => none

/-- `classtype\s*:\s*([^;]+)\s*;` -/
def matchClasstype (s : List Char) : Option (List Char) :=
  (matchName "classtype".toList s).bind fun rest =>
    let value := rest.takeWhile (· ≠ ';')
    if value = [] ∨ ';' ∉ rest then none
    else
      let text := value.dropWhile reSpace
      some (if text = [] then value.drop (value.length - 1) else text)

/-- `FindStringSubmatch` with one of these behind `\b`. -/
def find {α : Type} (match_ : List Char → Option α) (options : List Char) : Option α :=
  findFrom match_ false options

/-! ## Values -/

def digitsValue (digits : List Char) : Nat := Nat.ofDigitChars 10 digits 0

/-- `strconv.ParseInt` on digits, and whether there is no error. -/
def parseInt64 (digits : List Char) : Int × Bool :=
  if digitsValue digits < 2 ^ 63 then (digitsValue digits, true) else (2 ^ 63 - 1, false)

def optionalInt (found : Option (List Char)) : Int × Bool :=
  match found with
  | none => (0, false)
  | some digits => parseInt64 digits

def requiredInt (found : Option (List Char)) (name : String) : Except String Int :=
  match optionalInt found with
  | (value, true) => .ok value
  | (_, false) => .error ("missing " ++ name)

/-- `strings.ReplaceAll` of an escaped quote by a quote. -/
def replaceQuotes : List Char → List Char
  | '\\' :: '"' :: cs => '"' :: replaceQuotes cs
  | c :: cs => c :: replaceQuotes cs
  | [] => []

def optionalString (found : Option (List Char)) : String :=
  match found with
  | none => ""
  | some text => trimSpace (String.ofList (replaceQuotes text))

/-! ## A line -/

def ruleActions : List String := ["alert", "block", "drop", "log", "pass", "reject", "sdrop"]

def isRuleAction (raw : List Char) : Bool :=
  match fields raw with
  | [] => false
  | first :: _ => String.ofList first ∈ ruleActions

/-- What `ParseLine` reads of the options. -/
structure ReadOptions where
  sid : Except String Int
  gid : Int
  rev : Int
  msg : String
  classtype : String

def readOptions (options : List Char) : ReadOptions :=
  { sid := requiredInt (find (matchNumber "sid".toList) options) "sid"
    gid :=
      match optionalInt (find (matchNumber "gid".toList) options) with
      | (value, true) => value
      | (_, false) => 1
    rev := (optionalInt (find (matchNumber "rev".toList) options)).1
    msg := optionalString (find matchMsg options)
    classtype := optionalString (find matchClasstype options) }

/-- The header words behind the protocol, if the header is a full one. -/
def fiveTuple : List (List Char) → String × String × String × String × String
  | srcNet :: srcPort :: direction :: dstNet :: dstPort :: _ =>
      (String.ofList srcNet, String.ofList srcPort, String.ofList direction, String.ofList dstNet,
        String.ofList dstPort)
  | _ => ("", "", "", "", "")

/-- A line without its leading `#`, taken apart. -/
structure RawParts where
  action : List Char
  proto : List Char
  tuple : List (List Char)
  options : List Char

def splitRaw (raw : List Char) : Except String RawParts :=
  if raw = [] ∨ raw.head? = some '#' ∨ isRuleAction raw = false then .error "comment"
  else
    match raw.dropWhile (· ≠ '(') with
    | [] => .error "missing rule options"
    | _ :: rest =>
        match splitLast ')' rest with
        | none => .error "missing rule options"
        | some (options, _) =>
            match fields (raw.takeWhile (· ≠ '(')) with
            | action :: proto :: tuple =>
                .ok { action := action, proto := proto, tuple := tuple, options := options }
            | _ => .error "invalid rule header"

/-- `ParseLine` on what is left without a leading `#`. -/
def parseRaw (enabled : Bool) (raw : List Char) (sourceFile : String) : Except String Rule := do
  let parts ← splitRaw raw
  let values := readOptions parts.options
  let sid ← values.sid
  let (srcNet, srcPort, direction, dstNet, dstPort) := fiveTuple parts.tuple
  return { sid := sid, gid := values.gid, rev := values.rev
           action := String.ofList parts.action, proto := String.ofList parts.proto
           srcNet := srcNet, srcPort := srcPort, direction := direction
           dstNet := dstNet, dstPort := dstPort
           msg := values.msg, classtype := values.classtype, enabled := enabled
           sourceFile := sourceFile, rawText := String.ofList raw }

def parseLine (line sourceFile : String) : Except String Rule :=
  let raw := (trimSpace line).toList
  if raw = [] then .error "empty rule"
  else
    match raw with
    | '#' :: rest => parseRaw false (trimSpace (String.ofList rest)).toList sourceFile
    | _ => parseRaw true raw sourceFile

/-! ## The raw text of a rule -/

theorem splitRaw_eq_ok {raw : List Char} {parts : RawParts} (h : splitRaw raw = .ok parts) :
    raw ≠ [] ∧ raw.head? ≠ some '#' := by
  unfold splitRaw at h
  split at h
  · cases h
  · next hcomment =>
      rw [not_or, not_or] at hcomment
      exact ⟨hcomment.1, hcomment.2.1⟩

/-- What `parseRaw` takes over as it is. -/
theorem parseRaw_eq_ok {enabled : Bool} {raw : List Char} {sourceFile : String} {r : Rule}
    (h : parseRaw enabled raw sourceFile = .ok r) :
    raw ≠ [] ∧ raw.head? ≠ some '#' ∧ r.rawText = String.ofList raw ∧
      ∀ enabled' sourceFile', parseRaw enabled' raw sourceFile' =
        .ok { r with enabled := enabled', sourceFile := sourceFile' } := by
  obtain ⟨parts, hparts, h⟩ := bind_eq_ok.mp h
  obtain ⟨sid, hsid, h⟩ := bind_eq_ok.mp h
  cases h
  obtain ⟨hne, hhash⟩ := splitRaw_eq_ok hparts
  refine ⟨hne, hhash, rfl, fun enabled' sourceFile' => ?_⟩
  simp only [parseRaw, hparts, hsid, bind, Except.bind]
  rfl

/-- **The raw text is a rule of its own**: read again it gives the same rule, switched on. -/
theorem parseLine_rawText {line sourceFile : String} {r : Rule}
    (h : parseLine line sourceFile = .ok r) :
    r.rawText ≠ "" ∧ trimSpace r.rawText = r.rawText ∧ r.rawText.toList.Sublist line.toList ∧
      ∀ sourceFile', parseLine r.rawText sourceFile' =
        .ok { r with enabled := true, sourceFile := sourceFile' } := by
  -- the raw text is trimmed, and comes from the line
  have hraw : ∃ enabled text, (String.ofList (trimSpace text).toList = trimSpace text ∧
      (trimSpace text).toList.Sublist line.toList) ∧
      parseRaw enabled (trimSpace text).toList sourceFile = .ok r := by
    unfold parseLine at h
    dsimp only at h
    split at h
    · cases h
    · split at h
      · next rest hrest =>
          refine ⟨false, _, ⟨String.ofList_toList, ?_⟩, h⟩
          have hsub := trimSpace_sublist (String.ofList rest)
          rw [String.toList_ofList] at hsub
          exact (hsub.trans (hrest ▸ List.sublist_cons_self _ rest)).trans (trimSpace_sublist line)
      · exact ⟨true, line, ⟨String.ofList_toList, trimSpace_sublist line⟩, h⟩
  obtain ⟨enabled, text, ⟨hlist, hsub⟩, hparse⟩ := hraw
  obtain ⟨hne, hhash, htext, hagain⟩ := parseRaw_eq_ok hparse
  rw [hlist] at htext
  refine ⟨?_, by rw [htext, trimSpace_trimSpace], htext ▸ hsub, ?_⟩
  · intro hnil
    rw [htext] at hnil
    exact hne (by rw [hnil]; rfl)
  intro sourceFile'
  rw [← hagain true sourceFile', htext]
  unfold parseLine
  dsimp only
  rw [trimSpace_trimSpace, if_neg hne]
  split
  · next rest hrest =>
      rw [hrest] at hhash
      exact absurd rfl hhash
  · rfl

end SnortOptimizer.Rules
