import SnortOptimizer.Analyser.SafeStrategies
import SnortOptimizer.Rules.Options
import SnortOptimizer.Text.Lines

/-!
# Flowbits options and how they are read (`analyser/safe/orphan_flowbits.go`)

`FlowbitsCheck` is the value of a `flowbits` option as Snort reads it: an operation, and bits that
are taken together (`&`) or one for another (`|`). `parseFlowbits` does not take a rule apart into
its options. It cuts the lower-cased text at every semicolon (`values_append`) and reads what stands
behind `flowbits:` in a piece.

An option always ends with a semicolon, so a rule is read option by option (`scanned_raw`), and a
`flowbits` option without anything in its way is read as its value (`scanned_legible`).
-/

namespace SnortOptimizer.Analyser

open Text Rules

/-! ## Flowbits options -/

inductive FlowbitsOp
  | set
  | toggle
  | unset
  | isset
  | isnotset
  | noalert
  deriving DecidableEq

def FlowbitsOp.word : FlowbitsOp → String
  | .set => "set"
  | .toggle => "toggle"
  | .unset => "unset"
  | .isset => "isset"
  | .isnotset => "isnotset"
  | .noalert => "noalert"

def flowbitBlanks : List Char := [' ', '\t', '\n', '\r']

/-- A bit of an option, with the blanks around it. -/
structure FlowBit where
  lead : List Char
  name : List Char
  trail : List Char
  lead_blank : ∀ c ∈ lead, c ∈ flowbitBlanks
  name_ne_nil : name ≠ []
  name_solid : ∀ c ∈ name, isSpace c = false ∧ c ∉ [',', ';', '"', '&', '|']
  trail_blank : ∀ c ∈ trail, c ∈ flowbitBlanks

def FlowBit.text (b : FlowBit) : List Char := b.lead ++ (b.name ++ b.trail)

/-- The value of an option, as Snort reads it. Bits are set all or not at all, and only a test may
ask for any of its bits. -/
structure FlowbitsCheck where
  lead : List Char
  op : FlowbitsOp
  trail : List Char
  bits : List FlowBit
  orBits : Bool
  lead_blank : ∀ c ∈ lead, c ∈ flowbitBlanks
  trail_blank : ∀ c ∈ trail, c ∈ flowbitBlanks
  bits_nil_iff : bits = [] ↔ op = .noalert
  orBits_test : orBits = true → op = .isset ∨ op = .isnotset

/-- Bits with what stands between them. -/
def bitsText (sep : Char) : List FlowBit → List Char
  | [] => []
  | [b] => b.text
  | b :: bits => b.text ++ sep :: bitsText sep bits

namespace FlowbitsCheck

def names (c : FlowbitsCheck) : List (List Char) := c.bits.map FlowBit.name

def text (c : FlowbitsCheck) : List Char :=
  c.lead ++ (c.op.word.toList ++ (c.trail ++
    match c.bits with
    | [] => []
    | bits => ',' :: bitsText (if c.orBits then '|' else '&') bits))

end FlowbitsCheck

def IsFlowbits (o : RuleOption) : Prop := o.name = "flowbits".toList

instance (o : RuleOption) : Decidable (IsFlowbits o) := inferInstanceAs (Decidable (_ = _))

/-- A rule whose `flowbits` options are in order. -/
structure FlowbitsLine extends RuleLine where
  check : RuleOption → FlowbitsCheck
  check_text : ∀ o ∈ options, IsFlowbits o → o.value = .mixed [.plain (check o).text]
  header_solid : ';' ∉ header

def FlowbitsLine.checks (line : FlowbitsLine) : List FlowbitsCheck :=
  (line.options.filter fun o => IsFlowbits o).map line.check

/-! ## What is read -/

/-- The values in a text, with as much fuel as it takes. -/
def values (pattern : List Char) (s : List Char) : List (List Char) :=
  optionValues pattern s.length s

/-- The texts that are taken for the values of `flowbits` options. -/
def scanned (lower : Char → Char) (text : List Char) : List (List Char) :=
  values "flowbits:".toList (text.map lower)

def valueOp (value : List Char) : String := trimSpace (String.ofList (value.takeWhile (· ≠ ',')))

def valueNames (value : List Char) : List String := flowbitNames (value.dropWhile (· ≠ ',')).tail

/-- What a bit is called once it has been read. -/
def bitNames (lower : Char → Char) (name : List Char) : List String := flowbitNames (name.map lower)

def requiredBy (value : List Char) : List String :=
  if valueOp value = "isset" then valueNames value else []

def providedBy (value : List Char) : List String :=
  if valueOp value = "set" ∨ valueOp value = "toggle" then valueNames value else []

/-- Options with what stands before them up to the last semicolon. -/
def frontedOptions (line : RuleLine) : List (List Char × RuleOption) :=
  match line.options with
  | [] => []
  | o :: options => (line.header ++ ['('], o) :: options.map fun o => ([], o)

/-- The option is a `flowbits` option and is read as one: nothing stands between its name and the
colon, or before it, that could be taken for it. -/
def ReadAsFlowbits (lower : Char → Char) (front : List Char) (o : RuleOption) : Prop :=
  IsFlowbits o ∧ afterFirst "flowbits:".toList
    ((front ++ (o.lead ++ (o.name ++ (o.gap ++ [':'])))).map lower) = some []

/-! ## Cutting a text at its semicolons -/

section Cutting

variable {pattern : List Char}

theorem afterFirst_cons_eq_none {c : Char} {cs : List Char}
    (h : afterFirst pattern (c :: cs) = none) :
    ¬ pattern <+: c :: cs ∧ afterFirst pattern cs = none := by
  rw [afterFirst] at h
  split at h
  · cases h
  · next hno =>
      rw [List.isPrefixOf_iff_prefix] at hno
      exact ⟨hno, h⟩

theorem afterFirst_suffix (hne : pattern ≠ []) {s rest : List Char}
    (h : afterFirst pattern s = some rest) : pattern ++ rest <:+ s := by
  induction s with
  | nil =>
      rw [afterFirst, if_neg hne] at h
      cases h
  | cons c cs ih =>
      rw [afterFirst] at h
      split at h
      · next hfront =>
          cases h
          obtain ⟨after, hafter⟩ := List.isPrefixOf_iff_prefix.mp hfront
          rw [← hafter, List.drop_left]
      · exact (ih h).trans (List.suffix_cons c cs)

/-- What is found in the front part of a text is found first. -/
theorem afterFirst_append (hne : pattern ≠ []) {s rest : List Char}
    (h : afterFirst pattern s = some rest) (t : List Char) :
    afterFirst pattern (s ++ t) = some (rest ++ t) := by
  induction s with
  | nil =>
      rw [afterFirst, if_neg hne] at h
      cases h
  | cons c cs ih =>
      rw [List.cons_append, afterFirst]
      rw [afterFirst] at h
      split at h
      · next hfront =>
          cases h
          rw [List.isPrefixOf_iff_prefix] at hfront
          have hlonger : pattern <+: c :: (cs ++ t) := hfront.trans (List.prefix_append (c :: cs) t)
          rw [if_pos (List.isPrefixOf_iff_prefix.mpr hlonger), ← List.cons_append,
            List.drop_append_of_le_length hfront.length_le]
      · next hno =>
          -- there is room for the pattern further on, so it does not reach beyond the front part
          have hlength := (afterFirst_suffix hne h).length_le
          rw [List.length_append] at hlength
          rw [if_neg, ih h]
          intro hfront
          apply hno
          rw [List.isPrefixOf_iff_prefix] at hfront ⊢
          apply List.prefix_of_prefix_length_le hfront (List.prefix_append (c :: cs) t)
          rw [List.length_cons]
          omega

/-- What is not found in a piece is looked for behind its semicolon. -/
theorem afterFirst_piece (hne : pattern ≠ []) (hsemi : ';' ∉ pattern) {piece : List Char}
    (h : afterFirst pattern piece = none) (rest : List Char) :
    afterFirst pattern (piece ++ ';' :: rest) = afterFirst pattern rest := by
  -- a pattern that reaches beyond a piece has a semicolon
  have hno : ∀ cs : List Char, ¬ pattern <+: cs → ¬ pattern <+: cs ++ ';' :: rest := by
    intro cs hcs hfront
    rcases Nat.lt_or_ge cs.length pattern.length with hlt | hle
    · have hpiece : cs ++ [';'] <+: pattern := by
        apply List.prefix_of_prefix_length_le _ hfront
        · rw [List.length_append, List.length_singleton]
          omega
        · exact ⟨rest, by simp⟩
      exact hsemi (hpiece.subset (List.mem_append_right _ List.mem_cons_self))
    · exact hcs (List.prefix_of_prefix_length_le hfront (List.prefix_append _ _) hle)
  induction piece with
  | nil =>
      have hstart : ¬ pattern <+: [] := fun hnil => hne (List.prefix_nil.mp hnil)
      have hfirst := hno [] hstart
      rw [List.nil_append] at hfirst ⊢
      rw [afterFirst, if_neg fun hp => hfirst (List.isPrefixOf_iff_prefix.mp hp)]
  | cons c cs ih =>
      obtain ⟨hstart, htail⟩ := afterFirst_cons_eq_none h
      have hfirst := hno (c :: cs) hstart
      rw [List.cons_append] at hfirst ⊢
      rw [afterFirst, if_neg fun hp => hfirst (List.isPrefixOf_iff_prefix.mp hp), ih htail]

theorem optionValues_congr {s t : List Char} (h : afterFirst pattern s = afterFirst pattern t)
    (fuel : Nat) : optionValues pattern fuel s = optionValues pattern fuel t := by
  cases fuel with
  | zero => rfl
  | succ fuel => rw [optionValues, optionValues, h]

/-- **One piece** has one value or none. -/
theorem values_piece (hne : pattern ≠ []) (hsemi : ';' ∉ pattern) {piece : List Char}
    (hpiece : ';' ∉ piece) (rest : List Char) :
    values pattern (piece ++ ';' :: rest) =
      (afterFirst pattern piece).toList ++ values pattern rest := by
  have hfuel : rest.length ≤ (piece ++ ';' :: rest).length := by
    rw [List.length_append, List.length_cons]
    omega
  cases hfound : afterFirst pattern piece with
  | none =>
      rw [values, optionValues_congr (afterFirst_piece hne hsemi hfound rest)]
      exact optionValues_of_le pattern hfuel (Nat.le_refl _) hne
  | some value =>
      have hvalue : ∀ c ∈ value, decide (c ≠ ';') = true := by
        intro c hc
        have hmem := (afterFirst_suffix hne hfound).subset (List.mem_append_right pattern hc)
        exact decide_eq_true fun heq => hpiece (heq ▸ hmem)
      obtain ⟨fuel, hlength⟩ : ∃ fuel, (piece ++ ';' :: rest).length = fuel + 1 :=
        ⟨piece.length + rest.length, by rw [List.length_append, List.length_cons]; omega⟩
      have hle : rest.length ≤ fuel := by
        rw [List.length_append, List.length_cons] at hlength
        omega
      have hmem : ';' ∈ value ++ ';' :: rest := List.mem_append_right _ List.mem_cons_self
      rw [values, hlength, optionValues, afterFirst_append hne hfound]
      simp only [if_pos hmem]
      rw [List.takeWhile_append_of_pos hvalue, List.dropWhile_append_of_pos hvalue]
      simp only [List.takeWhile_cons, List.dropWhile_cons, ne_eq, not_true_eq_false, decide_false,
        Bool.false_eq_true, if_false, List.append_nil, List.tail_cons]
      rw [optionValues_of_le pattern hle (Nat.le_refl _) hne]
      rfl

theorem values_of_notMem (hne : pattern ≠ []) {s : List Char} (h : ';' ∉ s) :
    values pattern s = [] := by
  unfold values
  cases hlength : s.length with
  | zero => rfl
  | succ fuel =>
      rw [optionValues]
      cases hfound : afterFirst pattern s with
      | none => rfl
      | some rest =>
          have hrest : ';' ∉ rest := fun hmem =>
            h ((afterFirst_suffix hne hfound).subset (List.mem_append_right _ hmem))
          simp only [if_neg hrest]

/-- **A text can be cut behind any semicolon.** -/
theorem values_append (hne : pattern ≠ []) (hsemi : ';' ∉ pattern) {xs : List Char}
    (h : EndsLine ';' xs) (ys : List Char) :
    values pattern (xs ++ ys) = values pattern xs ++ values pattern ys := by
  -- induction on the length, a piece at a time
  obtain ⟨n, hn⟩ : ∃ n, xs.length ≤ n := ⟨_, Nat.le_refl _⟩
  induction n generalizing xs with
  | zero =>
      rw [List.length_eq_zero_iff.mp (Nat.le_zero.mp hn)]
      rfl
  | succ n ih =>
      obtain rfl | ⟨zs, rfl⟩ := h
      · rfl
      · obtain ⟨piece, rest, hsplit, hpiece⟩ := List.eq_append_cons_of_mem
          (List.mem_append_right zs (List.mem_cons_self (a := ';') (l := [])))
        have hrest : EndsLine ';' rest := by
          cases rest using List.reverseRecOn with
          | nil => exact .inl rfl
          | append_singleton rest c =>
              have hlast := congrArg List.getLast? hsplit
              rw [List.getLast?_append, ← List.cons_append, ← List.append_assoc,
                List.getLast?_append] at hlast
              cases hlast
              exact .inr ⟨rest, rfl⟩
        have hlength : rest.length ≤ n := by
          have hall := congrArg List.length hsplit
          rw [hall, List.length_append, List.length_cons] at hn
          omega
        rw [hsplit, List.append_assoc, List.cons_append, values_piece hne hsemi hpiece,
          values_piece hne hsemi hpiece, ih hrest hlength, List.append_assoc]

theorem values_flatMap {α : Type} (hne : pattern ≠ []) (hsemi : ';' ∉ pattern)
    {f : α → List Char} {xs : List α} (h : ∀ x ∈ xs, EndsLine ';' (f x)) (ys : List Char) :
    values pattern (xs.flatMap f ++ ys) =
      xs.flatMap (fun x => values pattern (f x)) ++ values pattern ys := by
  induction xs with
  | nil => rfl
  | cons x xs ih =>
      rw [List.forall_mem_cons] at h
      rw [List.flatMap_cons, List.append_assoc, values_append hne hsemi h.1, ih h.2,
        List.flatMap_cons, List.append_assoc]

end Cutting

/-- What is known of `unicode.ToLower` on ASCII: it changes capital letters only, and what it does
not leave alone becomes a letter. -/
structure LowersAscii (lower : Char → Char) : Prop where
  keeps : ∀ c, c.toNat < 128 → ¬ ('A' ≤ c ∧ c ≤ 'Z') → lower c = c
  letters : ∀ c, (lower c).toNat < 128 → ¬ ('a' ≤ lower c ∧ lower c ≤ 'z') → lower c = c

/-! ## The pieces of a rule -/

section Pieces

variable {lower : Char → Char} (hlower : LowersAscii lower)
include hlower

theorem lower_eq_iff {sep : Char} (hascii : sep.toNat < 128) (hcapital : ¬ ('A' ≤ sep ∧ sep ≤ 'Z'))
    (hletter : ¬ ('a' ≤ sep ∧ sep ≤ 'z')) (c : Char) : lower c = sep ↔ c = sep := by
  constructor
  · rintro rfl
    exact (hlower.letters c hascii hletter).symm
  · rintro rfl
    exact hlower.keeps c hascii hcapital

theorem mem_map_lower_semi {text : List Char} : ';' ∈ text.map lower ↔ ';' ∈ text := by
  have hsemi : ∀ c, lower c = ';' ↔ c = ';' :=
    lower_eq_iff hlower (by decide) (by decide) (by decide)
  rw [List.mem_map]
  constructor
  · rintro ⟨c, hc, heq⟩
    rwa [(hsemi c).mp heq] at hc
  · exact fun h => ⟨';', h, (hsemi ';').mpr rfl⟩

theorem endsLine_text (front : List Char) (o : RuleOption) :
    EndsLine ';' ((front ++ o.text).map lower) := by
  refine .inr ⟨(front ++ (o.lead ++ (o.name ++ (o.gap ++ o.value.text)))).map lower, ?_⟩
  have hsemi : lower ';' = ';' := hlower.keeps ';' (by decide) (by decide)
  simp [RuleOption.text, RuleOption.body, hsemi]

/-- **A rule is read option by option.** -/
theorem scanned_raw (line : FlowbitsLine) :
    scanned lower line.raw = (frontedOptions line.toRuleLine).flatMap fun x =>
      scanned lower (x.1 ++ x.2.text) := by
  have hne : "flowbits:".toList ≠ [] := by decide
  have hsemi : ';' ∉ "flowbits:".toList := by decide
  have htail : ';' ∉ line.tail := by
    intro hmem
    exact absurd (line.tail_blank ';' hmem) (by decide)
  have hend : values "flowbits:".toList ((line.tail ++ [')']).map lower) = [] := by
    apply values_of_notMem hne
    rw [mem_map_lower_semi hlower]
    simp [htail]
  unfold frontedOptions
  cases hoptions : line.options with
  | nil =>
      apply values_of_notMem hne
      rw [mem_map_lower_semi hlower]
      simp [RuleLine.raw, RuleLine.inner, hoptions, optionsText, line.header_solid, htail]
  | cons o options =>
      have hraw : line.raw = ((line.header ++ ['(']) ++ o.text) ++
          (options.flatMap RuleOption.text ++ (line.tail ++ [')'])) := by
        simp [RuleLine.raw, RuleLine.inner, hoptions, optionsText]
      have hlater : ∀ o ∈ options, EndsLine ';' (o.text.map lower) := fun o _ =>
        endsLine_text hlower [] o
      have hrest : values "flowbits:".toList
          ((options.flatMap RuleOption.text ++ (line.tail ++ [')'])).map lower) =
            options.flatMap fun o => scanned lower o.text := by
        rw [List.map_append, List.map_flatMap, values_flatMap hne hsemi hlater, hend,
          List.append_nil]
        rfl
      rw [scanned, hraw, List.map_append, values_append hne hsemi (endsLine_text hlower _ o), hrest]
      show _ = scanned lower _ ++ (options.map fun o => ([], o)).flatMap _
      rw [List.flatMap_map]
      rfl

end Pieces

/-! ## Reading a value -/

theorem mem_foldl_appendUnique {names : List String} {init : List String} {name : String} :
    name ∈ names.foldl appendUniqueString init ↔ name ∈ init ∨ name ∈ names := by
  induction names generalizing init with
  | nil => simp
  | cons first names ih =>
      rw [List.foldl_cons, ih, appendUniqueString]
      split
      · next hmem =>
          rw [List.mem_cons]
          constructor
          · rintro (h | h)
            · exact .inl h
            · exact .inr (.inr h)
          · rintro (h | rfl | h)
            · exact .inl h
            · exact .inl hmem
            · exact .inr h
      · rw [List.mem_append, List.mem_singleton, List.mem_cons, or_assoc]

/-- What a rule provides and requires, as a fold over the values in it. -/
theorem mem_parseFlowbits {lower : Char → Char} {raw : String} {name : String} :
    (name ∈ (parseFlowbits lower raw).1 ↔
      ∃ value ∈ scanned lower raw.toList, name ∈ providedBy value) ∧
    (name ∈ (parseFlowbits lower raw).2 ↔
      ∃ value ∈ scanned lower raw.toList, name ∈ requiredBy value) := by
  let step : List String × List String → List Char → List String × List String :=
    fun bits value =>
      if valueOp value = "set" ∨ valueOp value = "toggle" then
        ((valueNames value).foldl appendUniqueString bits.1, bits.2)
      else if valueOp value = "isset" then
        (bits.1, (valueNames value).foldl appendUniqueString bits.2)
      else bits
  have hstep : ∀ bits value,
      (name ∈ (step bits value).1 ↔ name ∈ bits.1 ∨ name ∈ providedBy value) ∧
      (name ∈ (step bits value).2 ↔ name ∈ bits.2 ∨ name ∈ requiredBy value) := by
    intro bits value
    simp only [step, providedBy, requiredBy]
    by_cases hset : valueOp value = "set" ∨ valueOp value = "toggle"
    · have htest : valueOp value ≠ "isset" := by
        rcases hset with h | h <;> rw [h] <;> decide
      simp [hset, htest, mem_foldl_appendUnique]
    · by_cases htest : valueOp value = "isset"
      · simp [htest, mem_foldl_appendUnique]
      · simp [hset, htest]
  have hfold : ∀ (vs : List (List Char)) (bits : List String × List String),
      (name ∈ (vs.foldl step bits).1 ↔ name ∈ bits.1 ∨ ∃ value ∈ vs, name ∈ providedBy value) ∧
      (name ∈ (vs.foldl step bits).2 ↔ name ∈ bits.2 ∨ ∃ value ∈ vs, name ∈ requiredBy value) := by
    intro vs
    induction vs with
    | nil => simp
    | cons value vs ih =>
        intro bits
        rw [List.foldl_cons, (ih _).1, (ih _).2, (hstep bits value).1, (hstep bits value).2]
        simp [or_assoc]
  have hparse : parseFlowbits lower raw = (scanned lower raw.toList).foldl step ([], []) := rfl
  rw [hparse]
  simpa using hfold (scanned lower raw.toList) ([], [])

/-! ### Names -/

section Names

variable {separators : List Char}

theorem namesBetween_append {sep : Char} (h : sep ∈ separators) (xs ys : List Char) :
    namesBetween separators (xs ++ sep :: ys) =
      namesBetween separators xs ++ namesBetween separators ys := by
  rw [namesBetween, List.splitOnP_append_cons (p := fun c => decide (c ∈ separators)) _ _
    (decide_eq_true h)]
  simp [namesBetween]

theorem namesBetween_nil : namesBetween separators [] = [] := rfl

theorem namesBetween_lead {blank : List Char} (h : ∀ c ∈ blank, c ∈ separators) (xs : List Char) :
    namesBetween separators (blank ++ xs) = namesBetween separators xs := by
  induction blank with
  | nil => rfl
  | cons c blank ih =>
      rw [List.forall_mem_cons] at h
      have hfirst := namesBetween_append h.1 [] (blank ++ xs)
      rw [List.nil_append, namesBetween_nil, List.nil_append, ih h.2] at hfirst
      exact hfirst

theorem namesBetween_trail {blank : List Char} (h : ∀ c ∈ blank, c ∈ separators) (xs : List Char) :
    namesBetween separators (xs ++ blank) = namesBetween separators xs := by
  cases blank with
  | nil => rw [List.append_nil]
  | cons c blank =>
      rw [List.forall_mem_cons] at h
      have hblank := namesBetween_lead h.2 []
      rw [List.append_nil, namesBetween_nil] at hblank
      rw [namesBetween_append h.1, hblank, List.append_nil]

end Names

theorem isSpace_flowbitBlanks {c : Char} (h : c ∈ flowbitBlanks) : isSpace c = true := by
  simp only [flowbitBlanks, List.mem_cons, List.not_mem_nil, or_false] at h
  rcases h with rfl | rfl | rfl | rfl <;> decide

section Values

variable {lower : Char → Char} (hlower : LowersAscii lower)
include hlower

theorem map_lower_blank {blank : List Char} (h : ∀ c ∈ blank, c ∈ flowbitBlanks) :
    blank.map lower = blank := by
  refine (List.map_congr_left fun c hc => ?_).trans (List.map_id blank)
  have hmem := h c hc
  simp only [flowbitBlanks, List.mem_cons, List.not_mem_nil, or_false] at hmem
  rcases hmem with rfl | rfl | rfl | rfl <;> exact hlower.keeps _ (by decide) (by decide)

theorem map_lower_word (op : FlowbitsOp) : op.word.toList.map lower = op.word.toList := by
  have hletters : (op.word.toList.all fun c => c.toNat < 128 && !('A' ≤ c && c ≤ 'Z')) = true := by
    cases op <;> decide
  refine (List.map_congr_left fun c hc => ?_).trans (List.map_id _)
  have hletter := List.all_eq_true.mp hletters c hc
  simp only [Bool.and_eq_true, decide_eq_true_eq, Bool.not_eq_true', Bool.and_eq_false_iff,
    decide_eq_false_iff_not] at hletter
  apply hlower.keeps c hletter.1
  rintro ⟨hge, hle⟩
  exact hletter.2.elim (fun h => h hge) fun h => h hle

theorem bitNames_text (b : FlowBit) :
    flowbitNames (b.text.map lower) = bitNames lower b.name := by
  have hblank : ∀ c ∈ flowbitBlanks,
      c ∈ [',', '&', '|', '!', '(', ')', ' ', '\t', '\n', '\r'] := fun c hc =>
    List.mem_append_right [',', '&', '|', '!', '(', ')'] hc
  rw [FlowBit.text, List.map_append, List.map_append, map_lower_blank hlower b.lead_blank,
    map_lower_blank hlower b.trail_blank, flowbitNames,
    namesBetween_lead fun c hc => hblank c (b.lead_blank c hc),
    namesBetween_trail fun c hc => hblank c (b.trail_blank c hc)]
  rfl

theorem flowbitNames_bitsText (orBits : Bool) (bits : List FlowBit) :
    flowbitNames ((bitsText (if orBits then '|' else '&') bits).map lower) =
      bits.flatMap fun b => bitNames lower b.name := by
  have hsep : lower (if orBits then '|' else '&') = if orBits then '|' else '&' := by
    cases orBits <;> exact hlower.keeps _ (by decide) (by decide)
  have hmem : (if orBits then '|' else '&') ∈
      [',', '&', '|', '!', '(', ')', ' ', '\t', '\n', '\r'] := by
    cases orBits <;> decide
  induction bits with
  | nil => rfl
  | cons b bits ih =>
      cases bits with
      | nil =>
          rw [bitsText, bitNames_text hlower]
          simp
      | cons next bits =>
          rw [bitsText, List.map_append, List.map_cons, hsep, flowbitNames,
            namesBetween_append hmem, List.flatMap_cons, ← ih, ← bitNames_text hlower]
          · rfl
          · exact List.cons_ne_nil _ _

/-- A value is read as what it is. -/
theorem read_check (c : FlowbitsCheck) :
    valueOp (c.text.map lower) = c.op.word ∧
      valueNames (c.text.map lower) = c.names.flatMap (bitNames lower) := by
  let args : List Char := match c.bits with
    | [] => []
    | bits => ',' :: bitsText (if c.orBits then '|' else '&') bits
  let opText := c.lead ++ (c.op.word.toList ++ c.trail)
  have htext : c.text.map lower = opText ++ args.map lower := by
    have happend : c.text = opText ++ args := by
      simp [FlowbitsCheck.text, opText, args]
    rw [happend, List.map_append]
    congr 1
    simp only [opText, List.map_append, map_lower_blank hlower c.lead_blank,
      map_lower_blank hlower c.trail_blank, map_lower_word hlower]
  have hword : (c.op.word.toList.all fun d => d ≠ ',' && !isSpace d) = true := by
    cases c.op <;> decide
  have hop : ∀ d ∈ opText, decide (d ≠ ',') = true := by
    intro d hd
    rcases List.mem_append.mp hd with hd | hd
    · exact decide_eq_true fun heq => absurd (c.lead_blank d hd) (by rw [heq]; decide)
    · rcases List.mem_append.mp hd with hd | hd
      · exact (Bool.and_eq_true_iff.mp (List.all_eq_true.mp hword d hd)).1
      · exact decide_eq_true fun heq => absurd (c.trail_blank d hd) (by rw [heq]; decide)
  have hcomma : lower ',' = ',' := hlower.keeps ',' (by decide) (by decide)
  have hargs : (args.map lower).takeWhile (· ≠ ',') = [] ∧
      flowbitNames ((args.map lower).dropWhile (· ≠ ',')).tail =
        c.names.flatMap (bitNames lower) := by
    have hnames := flowbitNames_bitsText hlower c.orBits c.bits
    have hflat : c.names.flatMap (bitNames lower) =
        c.bits.flatMap fun b => bitNames lower b.name := by
      rw [FlowbitsCheck.names, List.flatMap_map]
    rw [hflat, ← hnames]
    simp only [args]
    cases c.bits with
    | nil => exact ⟨rfl, rfl⟩
    | cons b bits =>
        rw [List.map_cons, hcomma]
        exact ⟨rfl, rfl⟩
  constructor
  · rw [valueOp, htext, List.takeWhile_append_of_pos hop, hargs.1, List.append_nil]
    have hne : c.op.word.toList ≠ [] := by
      cases c.op <;> decide
    have hsolid : ∀ d ∈ c.op.word.toList, isSpace d = false := by
      intro d hd
      simpa using (Bool.and_eq_true_iff.mp (List.all_eq_true.mp hword d hd)).2
    have htrim := trimSpace_between
      (fun d hd => isSpace_flowbitBlanks (c.lead_blank d hd))
      (fun d hd => isSpace_flowbitBlanks (c.trail_blank d hd))
      (fun d hd => hsolid d (List.mem_of_head? hd))
      (fun d hd => hsolid d (List.mem_of_getLast? hd)) hne
    rw [htrim, String.ofList_toList]
  · rw [valueNames, htext, List.dropWhile_append_of_pos hop]
    exact hargs.2

theorem requiredBy_check (c : FlowbitsCheck) :
    requiredBy (c.text.map lower) =
      if c.op = .isset then c.names.flatMap (bitNames lower) else [] := by
  have hop : c.op.word = "isset" ↔ c.op = .isset := by
    cases c.op <;> decide
  rw [requiredBy, (read_check hlower c).1, (read_check hlower c).2]
  simp only [hop]

theorem providedBy_check (c : FlowbitsCheck) :
    providedBy (c.text.map lower) =
      if c.op = .set ∨ c.op = .toggle then c.names.flatMap (bitNames lower) else [] := by
  have hop : (c.op.word = "set" ∨ c.op.word = "toggle") ↔ c.op = .set ∨ c.op = .toggle := by
    cases c.op <;> decide
  rw [providedBy, (read_check hlower c).1, (read_check hlower c).2]
  simp only [hop]

/-- A legible option is read as its value. -/
theorem scanned_legible {line : FlowbitsLine} {front : List Char} {o : RuleOption}
    (ho : o ∈ line.options) (hfront : ';' ∉ front) (h : ReadAsFlowbits lower front o) :
    scanned lower (front ++ o.text) = [(line.check o).text.map lower] := by
  have hne : "flowbits:".toList ≠ [] := by decide
  have hvalue := line.check_text o ho h.1
  have hvalid := o.value_valid
  rw [hvalue] at hvalid
  have hsemi : ';' ∉ (line.check o).text := (hvalid (.plain _) List.mem_cons_self).1
  let before := front ++ (o.lead ++ (o.name ++ (o.gap ++ [':'])))
  have htext : (front ++ o.text).map lower =
      (before ++ (line.check o).text).map lower ++ ';' :: [] := by
    have hlast : lower ';' = ';' := hlower.keeps ';' (by decide) (by decide)
    simp [before, RuleOption.text, RuleOption.body, hvalue, OptionValue.text, Piece.text, hlast]
  have hpiece : ';' ∉ (before ++ (line.check o).text).map lower := by
    have hblank : ∀ gap, Blank gap → ';' ∉ gap := fun gap hgap hmem =>
      absurd (hgap ';' hmem) (by decide)
    rw [mem_map_lower_semi hlower]
    simp only [before, List.mem_append, not_or, List.mem_singleton]
    refine ⟨⟨hfront, hblank _ o.lead_blank, ?_, hblank _ o.gap_blank, by decide⟩, hsemi⟩
    exact fun hmem => (o.name_solid ';' hmem).2.2.1 rfl
  have hfound : afterFirst "flowbits:".toList ((before ++ (line.check o).text).map lower) =
      some ((line.check o).text.map lower) := by
    rw [List.map_append, afterFirst_append hne h.2]
    rfl
  rw [scanned, htext, values_piece hne (by decide) hpiece, hfound]
  rfl

end Values

end SnortOptimizer.Analyser
