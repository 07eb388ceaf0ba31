import SnortOptimizer.Text.Basic

/-!
# Searching for a word

A regular expression that begins with a word is looked for from left to right: at every place where
a word can begin, whether the rest of the text starts with a match. What is found first depends on
everything that stands before, and a match that begins there may reach beyond it. `findFrom_append`
takes a search apart at any place of the text.

The matcher is a parameter: it is given the text from the place on.
-/

namespace SnortOptimizer.Text

/-- `\w` of the regular expressions of Go. -/
def isWordChar (c : Char) : Bool :=
  c.isDigit || ('a' ≤ c && c ≤ 'z') || ('A' ≤ c && c ≤ 'Z') || c = '_'

variable {α : Type} (match_ : List Char → Option α)

/-- The first match at a place where a word can begin, given whether a word stands before. -/
def findFrom : Bool → List Char → Option α
  | _, [] => none
  | inWord, c :: cs =>
      (if inWord then none else match_ (c :: cs)).or (findFrom (isWordChar c) cs)

/-- The first match that begins in the front part of a text. -/
def findBefore (rest : List Char) : Bool → List Char → Option α
  | _, [] => none
  | inWord, c :: cs =>
      (if inWord then none else match_ (c :: cs ++ rest)).or (findBefore rest (isWordChar c) cs)

/-- Whether a text leaves off inside a word. -/
def endsInWord (inWord : Bool) (cs : List Char) : Bool := (cs.getLast?.map isWordChar).getD inWord

variable {match_}

theorem endsInWord_cons (inWord : Bool) (c : Char) (cs : List Char) :
    endsInWord inWord (c :: cs) = endsInWord (isWordChar c) cs := by
  cases cs with
  | nil => rfl
  | cons d ds =>
      rw [endsInWord, List.getLast?_cons_cons, endsInWord]
      obtain ⟨e, he⟩ : ∃ e, (d :: ds).getLast? = some e :=
        ⟨_, List.getLast?_eq_some_getLast (List.cons_ne_nil d ds)⟩
      rw [he]
      rfl

/-- **A search in two parts**: a match that begins in the front part, or else one in the rest. -/
theorem findFrom_append (match_ : List Char → Option α) (inWord : Bool) (front rest : List Char) :
    findFrom match_ inWord (front ++ rest) = (findBefore match_ rest inWord front).or
      (findFrom match_ (endsInWord inWord front) rest) := by
  induction front generalizing inWord with
  | nil => rfl
  | cons c cs ih =>
      rw [List.cons_append, findFrom, findBefore, ih, endsInWord_cons, Option.or_assoc]
      rfl

/-- A match at the very place. -/
theorem findFrom_of_match {cs : List Char} {a : α} (hne : cs ≠ []) (h : match_ cs = some a) :
    findFrom match_ false cs = some a := by
  cases cs with
  | nil => exact absurd rfl hne
  | cons c cs =>
      rw [findFrom, h]
      rfl

end SnortOptimizer.Text
