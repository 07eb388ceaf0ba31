import Mathlib.Algebra.Group.Int.Defs
import Mathlib.Algebra.Group.Nat.Defs
import Mathlib.Data.List.Basic

/-!
# Text

The string functions of the Go standard library that several parts of the program share. A string
is a sequence of Unicode characters, except where the program reads raw bytes from a file.
-/

namespace SnortOptimizer.Text

/-- `unicode.IsSpace`: the characters of Unicode's `White_Space` property. -/
def isSpace (c : Char) : Bool :=
  let n := c.toNat
  (9 ≤ n && n ≤ 13) || n == 0x20 || n == 0x85 || n == 0xA0 || n == 0x1680
    || (0x2000 ≤ n && n ≤ 0x200a) || n == 0x2028 || n == 0x2029 || n == 0x202f || n == 0x205f
    || n == 0x3000

/-- `\s` of the regular expressions. SQL has the same characters between its words. -/
def reSpace (c : Char) : Bool := c = ' ' || c = '\t' || c = '\n' || c = '\x0c' || c = '\r'

theorem isSpace_of_reSpace {c : Char} (h : reSpace c = true) : isSpace c = true := by
  simp only [reSpace, Bool.or_eq_true, decide_eq_true_eq] at h
  rcases h with (((rfl | rfl) | rfl) | rfl) | rfl <;> decide

/-- `strings.Contains`. -/
def containsText (sub : List Char) : List Char → Bool
  | [] => sub.isEmpty
  | c :: cs => sub.isPrefixOf (c :: cs) || containsText sub cs

/-- `strings.TrimSpace`. -/
def trimSpace (s : String) : String :=
  String.ofList ((s.toList.dropWhile isSpace).reverse.dropWhile isSpace).reverse

/-- `strings.ToUpper`, given what `unicode.ToUpper` does to one character. -/
def mapUpper (upper : Char → Char) (s : String) : String := String.ofList (s.toList.map upper)

/-- `strings.Trim` with a set of characters. -/
def trim (cutset : List Char) (s : List Char) : List Char :=
  ((s.dropWhile (· ∈ cutset)).reverse.dropWhile (· ∈ cutset)).reverse

/-- `strings.Replace` of the first occurrence of a character. -/
def replaceFirst (old new : Char) : List Char → List Char
  | [] => []
  | c :: cs => if c = old then new :: cs else c :: replaceFirst old new cs

/-- What stands before and after the last occurrence of a character. -/
def splitLast (sep : Char) (s : List Char) : Option (List Char × List Char) :=
  let after := s.reverse.takeWhile (· ≠ sep)
  match s.reverse.dropWhile (· ≠ sep) with
  | [] => none
  | _ :: before => some (before.reverse, after.reverse)

/-- `strconv.Atoi`: an optional sign and decimal digits, within the range of an `int64`. -/
def atoi (s : List Char) : Option Int :=
  let digits := match s with
    | '-' :: cs | '+' :: cs => cs
    | cs => cs
  if digits = [] ∨ digits.any (!·.isDigit) then none
  else
    let n : Int := digits.foldl (fun n c => 10 * n + (c.toNat - '0'.toNat : Nat)) 0
    let v := if s.head? = some '-' then -n else n
    if -2 ^ 63 ≤ v ∧ v < 2 ^ 63 then some v else none

abbrev Bytes := List UInt8

/-- The UTF-8 encodings of the characters `isSpace` accepts. -/
def spaceEncodings : List Bytes :=
  [[9], [10], [11], [12], [13], [32], [0xC2, 0x85], [0xC2, 0xA0], [0xE1, 0x9A, 0x80],
    [0xE2, 0x80, 0x80], [0xE2, 0x80, 0x81], [0xE2, 0x80, 0x82], [0xE2, 0x80, 0x83],
    [0xE2, 0x80, 0x84], [0xE2, 0x80, 0x85], [0xE2, 0x80, 0x86], [0xE2, 0x80, 0x87],
    [0xE2, 0x80, 0x88], [0xE2, 0x80, 0x89], [0xE2, 0x80, 0x8A], [0xE2, 0x80, 0xA8],
    [0xE2, 0x80, 0xA9], [0xE2, 0x80, 0xAF], [0xE2, 0x81, 0x9F], [0xE3, 0x80, 0x80]]

/-- Take encodings off the front for as long as one of them is there. Each one has a byte, so the
length of the text is enough fuel. -/
def trimLeftBytes (encodings : List Bytes) : Nat → Bytes → Bytes
  | 0, s => s
  | fuel + 1, s =>
      match encodings.find? (·.isPrefixOf s) with
      | none => s
      | some e => trimLeftBytes encodings fuel (s.drop e.length)

/-- `strings.TrimSpace` on a string of arbitrary bytes. -/
def trimSpaceBytes (s : Bytes) : Bytes :=
  let t := trimLeftBytes spaceEncodings s.length s
  (trimLeftBytes (spaceEncodings.map List.reverse) t.length t.reverse).reverse

/-! ## Taking texts apart -/

theorem dropWhile_of_head {p : Char → Bool} {cs : List Char}
    (h : ∀ c, cs.head? = some c → p c = false) : cs.dropWhile p = cs := by
  cases cs with
  | nil => rfl
  | cons c cs =>
      have hc := h c rfl
      exact List.dropWhile_cons_of_neg (by simp [hc])

theorem isSpace_of_isDigit {c : Char} (h : c.isDigit = true) : isSpace c = false := by
  have hrange : 48 ≤ c.toNat ∧ c.toNat ≤ 57 := by
    simpa [Char.isDigit, UInt32.le_iff_toNat_le] using h
  simp only [isSpace, Bool.or_eq_false_iff, Bool.and_eq_false_iff, decide_eq_false_iff_not,
    beq_eq_false_iff_ne]
  omega

/-- A text without space at its ends. -/
theorem trimSpace_of_ends {cs : List Char} (hhead : ∀ c, cs.head? = some c → isSpace c = false)
    (hlast : ∀ c, cs.getLast? = some c → isSpace c = false) :
    trimSpace (String.ofList cs) = String.ofList cs := by
  rw [trimSpace, String.toList_ofList, dropWhile_of_head hhead, dropWhile_of_head,
    List.reverse_reverse]
  rwa [List.head?_reverse]

theorem trimSpace_of_forall {s : String} (h : ∀ c ∈ s.toList, isSpace c = false) :
    trimSpace s = s := by
  have hlist := trimSpace_of_ends (fun c hc => h c (List.mem_of_head? hc))
    fun c hc => h c (List.mem_of_getLast? hc)
  rwa [String.ofList_toList] at hlist

theorem isSpace_head_dropWhile {cs : List Char} {c : Char}
    (h : (cs.dropWhile isSpace).head? = some c) : isSpace c = false := by
  have hhead := List.head?_dropWhile_not isSpace cs
  rw [h] at hhead
  exact hhead

/-- What is trimmed has no space at its ends. -/
theorem trimSpace_ends (s : String) :
    (∀ c, (trimSpace s).toList.head? = some c → isSpace c = false) ∧
      ∀ c, (trimSpace s).toList.getLast? = some c → isSpace c = false := by
  rw [trimSpace, String.toList_ofList]
  constructor
  · intro c hc
    -- the front is a front of what is left of the text
    have hfront : ((s.toList.dropWhile isSpace).reverse.dropWhile isSpace).reverse <+:
        s.toList.dropWhile isSpace := by
      rw [← List.reverse_suffix, List.reverse_reverse]
      exact List.dropWhile_suffix _
    obtain ⟨rest, hrest⟩ := hfront
    have hhead : (s.toList.dropWhile isSpace).head? = some c := by
      rw [← hrest, List.head?_append, hc]
      rfl
    exact isSpace_head_dropWhile hhead
  · intro c hc
    rw [List.getLast?_reverse] at hc
    exact isSpace_head_dropWhile hc

theorem trimSpace_trimSpace (s : String) : trimSpace (trimSpace s) = trimSpace s := by
  have hlist := trimSpace_of_ends (trimSpace_ends s).1 (trimSpace_ends s).2
  rwa [String.ofList_toList] at hlist

theorem trimSpace_sublist (s : String) : (trimSpace s).toList.Sublist s.toList := by
  rw [trimSpace, String.toList_ofList]
  have hback : ((s.toList.dropWhile isSpace).reverse.dropWhile isSpace).reverse.Sublist
      (s.toList.dropWhile isSpace) := by
    rw [← List.reverse_sublist, List.reverse_reverse]
    exact List.dropWhile_sublist _
  exact hback.trans (List.dropWhile_sublist _)

/-- Space around a text that has none at its ends. -/
theorem trimSpace_between {lead cs trail : List Char} (hlead : ∀ c ∈ lead, isSpace c = true)
    (htrail : ∀ c ∈ trail, isSpace c = true) (hhead : ∀ c, cs.head? = some c → isSpace c = false)
    (hlast : ∀ c, cs.getLast? = some c → isSpace c = false) (hne : cs ≠ []) :
    trimSpace (String.ofList (lead ++ (cs ++ trail))) = String.ofList cs := by
  have hfront : (lead ++ (cs ++ trail)).dropWhile isSpace = cs ++ trail := by
    rw [List.dropWhile_append_of_pos hlead]
    apply dropWhile_of_head
    obtain ⟨d, ds, rfl⟩ := List.exists_cons_of_ne_nil hne
    exact hhead
  have hback : (cs ++ trail).reverse.dropWhile isSpace = cs.reverse := by
    rw [List.reverse_append, List.dropWhile_append_of_pos]
    · apply dropWhile_of_head
      rwa [List.head?_reverse]
    · exact fun c hc => htrail c (List.mem_reverse.mp hc)
  rw [trimSpace, String.toList_ofList, hfront, hback, List.reverse_reverse]

theorem trim_of_forall {cutset cs : List Char} (h : ∀ c ∈ cs, c ∉ cutset) :
    trim cutset cs = cs := by
  have hkeep : ∀ l : List Char, (∀ c ∈ l, c ∉ cutset) → l.dropWhile (· ∈ cutset) = l := by
    intro l hl
    apply dropWhile_of_head
    intro c hc
    simpa using hl c (List.mem_of_head? hc)
  rw [trim, hkeep cs h, hkeep, List.reverse_reverse]
  intro c hc
  exact h c (List.mem_reverse.mp hc)

theorem splitLast_append {sep : Char} {before after : List Char} (h : sep ∉ after) :
    splitLast sep (before ++ sep :: after) = some (before, after) := by
  have hall : ∀ c ∈ after.reverse, decide (c ≠ sep) = true := by
    intro c hc
    have hne : c ≠ sep := fun heq => h (heq ▸ List.mem_reverse.mp hc)
    simpa using hne
  have hreverse : (before ++ sep :: after).reverse = after.reverse ++ sep :: before.reverse := by
    simp
  have htake : (after.reverse ++ sep :: before.reverse).takeWhile (· ≠ sep) = after.reverse := by
    rw [List.takeWhile_append_of_pos hall]
    simp
  have hdrop : (after.reverse ++ sep :: before.reverse).dropWhile (· ≠ sep) =
      sep :: before.reverse := by
    rw [List.dropWhile_append_of_pos hall]
    simp
  simp only [splitLast, hreverse, htake, hdrop, List.reverse_reverse]

theorem replaceFirst_append {old new : Char} {before after : List Char} (h : old ∉ before) :
    replaceFirst old new (before ++ old :: after) = before ++ new :: after := by
  induction before with
  | nil => simp [replaceFirst]
  | cons c before ih =>
      rw [List.mem_cons, not_or] at h
      rw [List.cons_append, replaceFirst, if_neg (Ne.symm h.1), ih h.2, List.cons_append]

/-! ## Numerals

The decimal text of a number determines it, and has no character but digits and a minus sign; so a
separator between two numerals can always be found again. -/

theorem toString_negSucc (m : Nat) :
    (toString (Int.negSucc m)).toList = '-' :: (toString (m + 1)).toList := by
  show ("-" ++ Nat.repr (m + 1)).toList = _
  rw [String.toList_append]
  rfl

theorem isDigit_of_mem_toString {n : Nat} {c : Char} (h : c ∈ (toString n).toList) :
    c.isDigit = true :=
  Nat.isDigit_of_mem_toDigits (by decide) (by decide) (Nat.toList_repr ▸ h)

theorem notMem_toString_int (n : Int) {c : Char} (hd : c.isDigit = false) (hm : c ≠ '-') :
    c ∉ (toString n).toList := by
  have hnat (k : Nat) : c ∉ (toString k).toList := by
    intro h
    rw [isDigit_of_mem_toString h] at hd
    cases hd
  cases n with
  | ofNat k => exact hnat k
  | negSucc k =>
      rw [toString_negSucc, List.mem_cons, not_or]
      exact ⟨hm, hnat (k + 1)⟩

theorem toString_nat_inj {m n : Nat} (h : (toString m).toList = (toString n).toList) : m = n := by
  have hdigits : Nat.toDigits 10 m = Nat.toDigits 10 n := by
    rw [← Nat.toList_repr, ← Nat.toList_repr]
    exact h
  rw [← Nat.ofDigitChars_ten_toDigits (n := m), hdigits, Nat.ofDigitChars_ten_toDigits]

theorem toString_int_inj {m n : Int} (h : toString m = toString n) : m = n := by
  have hlist := congrArg String.toList h
  have hminus (k : Nat) : '-' ∉ (toString k).toList := fun hmem =>
    absurd (isDigit_of_mem_toString hmem) (by decide)
  cases m with
  | ofNat k =>
      cases n with
      | ofNat l => exact congrArg Int.ofNat (toString_nat_inj hlist)
      | negSucc l =>
          rw [toString_negSucc] at hlist
          exact absurd (hlist ▸ List.mem_cons_self) (hminus k)
  | negSucc k =>
      rw [toString_negSucc] at hlist
      cases n with
      | ofNat l => exact absurd (hlist ▸ List.mem_cons_self) (hminus l)
      | negSucc l =>
          rw [toString_negSucc] at hlist
          have := toString_nat_inj (List.cons.inj hlist).2
          rw [Nat.succ.inj this]

theorem toString_nat_ne_nil (n : Nat) : (toString n).toList ≠ [] := by
  rw [Nat.toString_eq_ofList_toDigits, String.toList_ofList]
  exact Nat.toDigits_ne_nil

/-- The loop of `atoi` reads a numeral back. -/
theorem foldl_digits (n : Nat) :
    (toString n).toList.foldl (fun (a : Int) c => 10 * a + (c.toNat - '0'.toNat : Nat)) 0 = n := by
  have hcast : ∀ (cs : List Char) (a : Nat),
      cs.foldl (fun (a : Int) c => 10 * a + (c.toNat - '0'.toNat : Nat)) (a : Int) =
        (Nat.ofDigitChars 10 cs a : Nat) := by
    intro cs
    induction cs with
    | nil => exact fun a => rfl
    | cons c cs ih =>
        intro a
        rw [List.foldl_cons, Nat.ofDigitChars_cons, ← ih]
        congr 1
  have hzero := hcast (toString n).toList 0
  rw [Nat.toString_eq_ofList_toDigits, String.toList_ofList, Nat.ofDigitChars_ten_toDigits] at hzero
  rw [Nat.toString_eq_ofList_toDigits, String.toList_ofList]
  exact hzero

/-- A numeral passes the check of `atoi`. -/
theorem toString_digits (n : Nat) :
    ¬ ((toString n).toList = [] ∨ (toString n).toList.any (!·.isDigit) = true) := by
  rintro (hnil | hany)
  · exact toString_nat_ne_nil n hnil
  · obtain ⟨c, hc, hdigit⟩ := List.any_eq_true.mp hany
    simp [isDigit_of_mem_toString hc] at hdigit

/-- A numeral does not begin with a sign. -/
theorem head_toString {n : Nat} {c : Char} (h : (toString n).toList.head? = some c) :
    c ≠ '-' ∧ c ≠ '+' := by
  have hdigit : c.isDigit = true := isDigit_of_mem_toString (List.mem_of_head? h)
  constructor <;> rintro rfl <;> exact absurd hdigit (by decide)

/-- `atoi` reads back every number that fits into 64 bits. -/
theorem atoi_toString {v : Int} (hv : -2 ^ 63 ≤ v ∧ v < 2 ^ 63) :
    atoi (toString v).toList = some v := by
  cases v with
  | ofNat n =>
      have hlist : (toString (Int.ofNat n)).toList = (toString n).toList := rfl
      have hsign : ¬ (toString n).toList.head? = some '-' := fun h => (head_toString h).1 rfl
      rw [hlist, atoi]
      · simp only [if_neg (toString_digits n), foldl_digits, if_neg hsign]
        exact if_pos hv
      · exact fun cs hcs => (head_toString (congrArg List.head? hcs)).1 rfl
      · exact fun cs hcs => (head_toString (congrArg List.head? hcs)).2 rfl
  | negSucc n =>
      rw [toString_negSucc, atoi]
      simp only [if_neg (toString_digits (n + 1)), foldl_digits, List.head?_cons]
      exact if_pos hv

theorem atoi_toString_nat {n : Nat} (h : n < 2 ^ 63) :
    atoi (toString n).toList = some (n : Int) := by
  have hlist : (toString (n : Int)).toList = (toString n).toList := rfl
  rw [← hlist]
  exact atoi_toString ⟨by omega, by omega⟩

/-- A numeral that does not fit into 64 bits is an error. -/
theorem atoi_toString_eq_none {n : Nat} (h : 2 ^ 63 ≤ n) : atoi (toString n).toList = none := by
  have hsign : ¬ (toString n).toList.head? = some '-' := fun h => (head_toString h).1 rfl
  rw [atoi]
  · simp only [if_neg (toString_digits n), foldl_digits, if_neg hsign]
    exact if_neg (by omega)
  · exact fun cs hcs => (head_toString (congrArg List.head? hcs)).1 rfl
  · exact fun cs hcs => (head_toString (congrArg List.head? hcs)).2 rfl

/-- Two texts joined by a separator that is not in the part before it. -/
theorem append_sep_inj {sep : Char} {a a' b b' : List Char} (ha : sep ∉ a) (ha' : sep ∉ a')
    (h : a ++ sep :: b = a' ++ sep :: b') : a = a' ∧ b = b' := by
  induction a generalizing a' with
  | nil =>
      cases a' with
      | nil => exact ⟨rfl, (List.cons.inj h).2⟩
      | cons c cs => exact absurd ((List.cons.inj h).1 ▸ List.mem_cons_self) ha'
  | cons c cs ih =>
      cases a' with
      | nil => exact absurd ((List.cons.inj h).1 ▸ List.mem_cons_self) ha
      | cons c' cs' =>
          obtain ⟨hc, hrest⟩ := List.cons.inj h
          rw [List.mem_cons, not_or] at ha ha'
          obtain ⟨hcs, hb⟩ := ih ha.2 ha'.2 hrest
          exact ⟨by rw [hc, hcs], hb⟩

end SnortOptimizer.Text
