import SnortOptimizer.Rules.Options
import Mathlib.Data.List.TakeWhile

/-!
# The identity of a rule

The `sid` and `gid` of a rule are its name for everything the optimiser does: alerts are counted by
them, and rules are switched off by them. `ReadsOwn` says that `ParseLine` takes them, the revision,
the message and the class from the options of the rule that have these names.

It takes each from the first place that reads like the option. `parseLine_readsOwn_iff` says that
the places in front of the options decide: the rule is known by its own options exactly when none of
them reads like an option with another value.
-/

namespace SnortOptimizer.Rules

open Analyser Text

/-- **The rule is known by its own options**, and one without a `sid` is not read at all. -/
def ReadsOwn (line : RuleLine) (sourceFile : String) : Prop :=
  match line.sid with
  | none => ∃ e, parseLine line.text sourceFile = .error e
  | some sid => ∃ r, parseLine line.text sourceFile = .ok r ∧ r.sid = sid ∧ r.gid = line.gid ∧
      r.rev = line.rev ∧ r.msg = line.msg ∧ r.classtype = line.classtype ∧
      r.enabled = line.enabled

/-- `ParseLine` takes the line for a rule. -/
def RuleLine.HeaderRead (line : RuleLine) : Prop :=
  isRuleAction line.raw = true ∧ 2 ≤ (fields line.header).length

/-- What a place that reads like a number option comes to, with what a number out of range is. -/
def numberOr (outOfRange : Int) (digits : List Char) : Int :=
  if digitsValue digits < 2 ^ 63 then digitsValue digits else outOfRange

/-- Nothing in front of the `sid` reads like one, or the first that does is the same number. Where
there is no `sid`, a number that is out of range is none either. -/
def RuleLine.SidClear (line : RuleLine) : Prop :=
  ∀ digits, line.lookAlike "sid" (matchNumber "sid".toList) = some digits →
    (if digitsValue digits < 2 ^ 63 then some (digitsValue digits : Int) else none) = line.sid

/-- The same for the other options, and what they default to. -/
structure RuleLine.Clear (line : RuleLine) : Prop where
  sid : line.SidClear
  gid : ∀ digits, line.lookAlike "gid" (matchNumber "gid".toList) = some digits →
    numberOr 1 digits = line.gid
  rev : ∀ digits, line.lookAlike "rev" (matchNumber "rev".toList) = some digits →
    numberOr (2 ^ 63 - 1) digits = line.rev
  msg : ∀ body, line.lookAlike "msg" matchMsg = some body →
    trimSpace (String.ofList (replaceQuotes body)) = line.msg
  classtype : ∀ text, line.lookAlike "classtype" matchClasstype = some text →
    trimSpace (String.ofList (replaceQuotes text)) = line.classtype

/-- The line is taken for a rule, and nothing in front of an option is taken for the option. Where
there is no `sid` it is enough that the line is not taken for a rule. -/
def RuleLine.Undisturbed (line : RuleLine) : Prop :=
  match line.sid with
  | none => ¬ line.HeaderRead ∨ line.SidClear
  | some _ => line.HeaderRead ∧ line.Clear

/-! ## Reading the options -/

theorem RuleOption.body_append (o : RuleOption) (rest : List Char) :
    o.body ++ rest = o.name ++ (o.gap ++ (o.value.text ++ ';' :: rest)) := by
  simp [RuleOption.body]

theorem name_of_option? {line : RuleLine} {name : String} {o : RuleOption}
    (h : line.option? name = some o) : o.name = name.toList := by
  rw [RuleLine.option?] at h
  simpa using List.find?_some h

/-- An option that is a number has one. -/
theorem number_of_option? {line : RuleLine} {name : String} {o : RuleOption}
    (hname : name.toList ∈ numberOptions) (h : line.option? name = some o) :
    ∃ before digits after, o.value = .number before digits after ∧
      line.digits? name = some digits ∧ digitsValue digits < 2 ^ 63 := by
  have hsuits := o.value_suits
  rw [name_of_option? h] at hsuits
  rw [RuleLine.digits?, h, Option.map_some]
  cases hvalue : o.value with
  | number before digits after =>
      rw [hvalue] at hsuits
      exact ⟨before, digits, after, rfl, rfl, hsuits.2.2 hname⟩
  | absent =>
      rw [hvalue] at hsuits
      exact absurd hname hsuits.1
  | string before body after =>
      rw [hvalue] at hsuits
      exact absurd hname hsuits.1
  | mixed pieces =>
      rw [hvalue] at hsuits
      exact absurd hname hsuits.1

theorem digits?_of_none {line : RuleLine} {name : String} (h : line.option? name = none) :
    line.digits? name = none := by
  rw [RuleLine.digits?, h]
  rfl

theorem digits?_lt {line : RuleLine} {name : String} {digits : List Char}
    (hname : name.toList ∈ numberOptions) (h : line.digits? name = some digits) :
    digitsValue digits < 2 ^ 63 := by
  cases hoption : line.option? name with
  | none =>
      rw [digits?_of_none hoption] at h
      cases h
  | some o =>
      obtain ⟨_, digits', _, _, hdigits, hlt⟩ := number_of_option? hname hoption
      rw [hdigits] at h
      cases h
      exact hlt

theorem find_number (line : RuleLine) {name : String} (hname : name.toList ∈ numberOptions) :
    find (matchNumber name.toList) line.inner =
      (line.lookAlike name (matchNumber name.toList)).or (line.digits? name) := by
  apply find_eq_lookAlike line name digits?_of_none
  · intro o ho rest
    obtain ⟨before, digits, after, hvalue, hdigits, _⟩ := number_of_option? hname ho
    have hvalid := o.value_valid
    rw [hvalue] at hvalid
    rw [RuleOption.body_append, name_of_option? ho, hvalue, hdigits]
    exact matchNumber_body name.toList o.gap_blank hvalid rest
  · intro o ho
    obtain ⟨_, digits, _, _, hdigits, _⟩ := number_of_option? hname ho
    rw [hdigits]
    exact Option.some_ne_none digits

theorem find_msg (line : RuleLine) :
    find matchMsg line.inner = (line.lookAlike "msg" matchMsg).or (line.msgBody?.map bodyText) := by
  have hstring : ∀ o, line.option? "msg" = some o → ∃ before body after,
      o.value = .string before body after ∧ line.msgBody? = some body := by
    intro o ho
    have hsuits := o.value_suits
    rw [name_of_option? ho] at hsuits
    rw [RuleLine.msgBody?, ho, Option.map_some]
    cases hvalue : o.value with
    | string before body after => exact ⟨before, body, after, rfl, rfl⟩
    | number before digits after =>
        rw [hvalue] at hsuits
        exact absurd rfl hsuits.1
    | absent =>
        rw [hvalue] at hsuits
        exact absurd rfl hsuits.2.1
    | mixed pieces =>
        rw [hvalue] at hsuits
        exact absurd rfl hsuits.2.1
  apply find_eq_lookAlike line "msg"
  · intro hnone
    rw [RuleLine.msgBody?, hnone]
    rfl
  · intro o ho rest
    obtain ⟨before, body, after, hvalue, hbody⟩ := hstring o ho
    have hvalid := o.value_valid
    rw [hvalue] at hvalid
    rw [RuleOption.body_append, name_of_option? ho, hvalue, hbody]
    exact matchMsg_body o.gap_blank hvalid rest
  · intro o ho
    obtain ⟨_, body, _, _, hbody⟩ := hstring o ho
    rw [hbody]
    exact Option.some_ne_none (bodyText body)

theorem classtype_of_option? {line : RuleLine} {o : RuleOption}
    (h : line.option? "classtype" = some o) : ∃ text, o.value = .mixed [.plain text] ∧ text ≠ [] ∧
      ';' ∉ text ∧ '"' ∉ text ∧ line.classtypeText? = some text := by
  have hsuits := o.value_suits
  have hvalid := o.value_valid
  rw [name_of_option? h] at hsuits
  rw [RuleLine.classtypeText?, h, Option.map_some]
  cases hvalue : o.value with
  | mixed pieces =>
      rw [hvalue] at hsuits hvalid
      obtain ⟨text, rfl, hne⟩ := hsuits.2.2 rfl
      have hplain := hvalid (.plain text) List.mem_cons_self
      exact ⟨text, rfl, hne, hplain.1, hplain.2, rfl⟩
  | number before digits after =>
      rw [hvalue] at hsuits
      exact absurd rfl hsuits.2.1
  | string before body after =>
      rw [hvalue] at hsuits
      exact absurd rfl hsuits.2
  | absent =>
      rw [hvalue] at hsuits
      exact absurd rfl hsuits.2.2

theorem classtypeText?_of_none {line : RuleLine} (h : line.option? "classtype" = none) :
    line.classtypeText? = none := by
  rw [RuleLine.classtypeText?, h]
  rfl

theorem find_classtype (line : RuleLine) :
    find matchClasstype line.inner =
      (line.lookAlike "classtype" matchClasstype).or (line.classtypeText?.map classtypeFound) := by
  apply find_eq_lookAlike line "classtype"
  · intro hnone
    rw [classtypeText?_of_none hnone]
    rfl
  · intro o ho rest
    obtain ⟨text, hvalue, hne, hsemi, _, htext⟩ := classtype_of_option? ho
    rw [RuleOption.body_append, name_of_option? ho, hvalue, htext]
    exact matchClasstype_body o.gap_blank hsemi hne rest
  · intro o ho
    obtain ⟨text, _, _, _, _, htext⟩ := classtype_of_option? ho
    rw [htext]
    exact Option.some_ne_none (classtypeFound text)

/-! ### Values -/

theorem optionalInt_some (digits : List Char) :
    optionalInt (some digits) =
      (numberOr (2 ^ 63 - 1) digits, decide (digitsValue digits < 2 ^ 63)) := by
  rw [optionalInt, parseInt64, numberOr]
  split
  · next hlt => rw [decide_eq_true hlt]
  · next hlt => rw [decide_eq_false hlt]

theorem requiredInt_toOption (found : Option (List Char)) (name : String) :
    (requiredInt found name).toOption = found.bind fun digits =>
      if digitsValue digits < 2 ^ 63 then some (digitsValue digits : Int) else none := by
  cases found with
  | none => rfl
  | some digits =>
      rw [Option.bind_some, requiredInt, optionalInt_some, numberOr]
      by_cases hlt : digitsValue digits < 2 ^ 63
      · rw [if_pos hlt, if_pos hlt, decide_eq_true hlt]
        rfl
      · rw [if_neg hlt, if_neg hlt, decide_eq_false hlt]
        rfl

/-- Reading one of two, the second of which is known to give the right value. -/
theorem read_or_iff {α β : Type} {f : Option α → β} {look own : Option α} {value : β}
    (hown : f own = value) : f (look.or own) = value ↔ ∀ a, look = some a → f (some a) = value := by
  cases look with
  | none => simpa using hown
  | some a => simp

theorem sid_read_iff (line : RuleLine) :
    (readOptions line.inner).sid.toOption = line.sid ↔ line.SidClear := by
  have hname : "sid".toList ∈ numberOptions := by decide
  show (requiredInt (find (matchNumber "sid".toList) line.inner) "sid").toOption = _ ↔ _
  rw [requiredInt_toOption, find_number line hname]
  apply read_or_iff (f := fun found : Option (List Char) => found.bind fun digits =>
    if digitsValue digits < 2 ^ 63 then some (digitsValue digits : Int) else none)
  rw [RuleLine.sid, RuleLine.number?]
  cases hdigits : line.digits? "sid" with
  | none => rfl
  | some digits =>
      rw [Option.bind_some, if_pos (digits?_lt hname hdigits)]
      rfl

theorem gid_read_iff (line : RuleLine) :
    (readOptions line.inner).gid = line.gid ↔
      ∀ digits, line.lookAlike "gid" (matchNumber "gid".toList) = some digits →
        numberOr 1 digits = line.gid := by
  have hname : "gid".toList ∈ numberOptions := by decide
  let read : Option (List Char) → Int := fun found =>
    if (optionalInt found).2 then (optionalInt found).1 else 1
  have hgid : (readOptions line.inner).gid = read (find (matchNumber "gid".toList) line.inner) := by
    unfold readOptions
    dsimp only [read]
    split
    · next hvalue =>
        rw [hvalue]
        rfl
    · next hvalue =>
        rw [hvalue]
        rfl
  have hread : ∀ digits, read (some digits) = numberOr 1 digits := by
    intro digits
    simp only [read, optionalInt_some, numberOr, decide_eq_true_eq]
    split <;> rfl
  have hown : read (line.digits? "gid") = line.gid := by
    rw [RuleLine.gid, RuleLine.number?]
    cases hdigits : line.digits? "gid" with
    | none => rfl
    | some digits =>
        rw [hread, numberOr, if_pos (digits?_lt hname hdigits)]
        rfl
  rw [hgid, find_number line hname, read_or_iff hown]
  simp only [hread]

theorem rev_read_iff (line : RuleLine) :
    (readOptions line.inner).rev = line.rev ↔
      ∀ digits, line.lookAlike "rev" (matchNumber "rev".toList) = some digits →
        numberOr (2 ^ 63 - 1) digits = line.rev := by
  have hname : "rev".toList ∈ numberOptions := by decide
  have hown : (optionalInt (line.digits? "rev")).1 = line.rev := by
    rw [RuleLine.rev, RuleLine.number?]
    cases hdigits : line.digits? "rev" with
    | none => rfl
    | some digits =>
        rw [optionalInt_some, numberOr, if_pos (digits?_lt hname hdigits)]
        rfl
  show (optionalInt (find (matchNumber "rev".toList) line.inner)).1 = _ ↔ _
  rw [find_number line hname, read_or_iff (f := fun found => (optionalInt found).1) hown]
  simp only [optionalInt_some]

/-- A quote in a string has a backslash before it. -/
theorem bodyText_ne_quote {body : List QuotedChar} (h : ∀ c ∈ body, c.Valid) (rest : List Char) :
    bodyText body ≠ '"' :: rest := by
  cases body with
  | nil => exact (List.cons_ne_nil _ _).symm
  | cons c body =>
      have hc := h c List.mem_cons_self
      cases c with
      | plain c => exact fun heq => hc.1 (List.cons.inj heq).1
      | escaped c => exact fun heq => absurd (List.cons.inj heq).1 (by decide)

theorem replaceQuotes_bodyText {body : List QuotedChar} (h : ∀ c ∈ body, c.Valid) :
    replaceQuotes (bodyText body) = body.flatMap RuleLine.unquote := by
  induction body with
  | nil => rfl
  | cons c body ih =>
      obtain ⟨hc, hbody⟩ := List.forall_mem_cons.mp h
      rw [List.flatMap_cons, ← ih hbody]
      -- the rest does not begin with a quote, so no escape reaches into it
      have hstep : ∀ c,
          replaceQuotes (c :: bodyText body) = c :: replaceQuotes (bodyText body) := by
        intro c
        rw [replaceQuotes]
        exact fun cs _ heq => bodyText_ne_quote hbody cs heq
      cases c with
      | plain c => exact hstep c
      | escaped c =>
          show replaceQuotes ('\\' :: c :: bodyText body) = _
          by_cases hquote : c = '"'
          · rw [hquote, replaceQuotes]
            rfl
          · rw [replaceQuotes, hstep, RuleLine.unquote, if_neg hquote]
            · rfl
            · exact fun cs _ heq => hquote (List.cons.inj heq).1

theorem replaceQuotes_of_notMem {text : List Char} (h : '"' ∉ text) :
    replaceQuotes text = text := by
  induction text with
  | nil => rfl
  | cons c text ih =>
      rw [List.mem_cons, not_or] at h
      rw [replaceQuotes, ih h.2]
      rintro cs _ rfl
      exact h.2 List.mem_cons_self

/-- The blanks that are left out would be trimmed anyway. -/
theorem trimSpace_classtypeFound (text : List Char) :
    trimSpace (String.ofList (classtypeFound text)) = trimSpace (String.ofList text) := by
  have hblank : ∀ cs : List Char, (∀ c ∈ cs, isSpace c = true) →
      trimSpace (String.ofList cs) = "" := by
    intro cs hcs
    rw [trimSpace, String.toList_ofList, List.dropWhile_eq_nil_iff.mpr hcs]
    rfl
  unfold classtypeFound
  split
  · next hnil =>
      have hall : ∀ c ∈ text, isSpace c = true := fun c hc =>
        isSpace_of_reSpace (List.dropWhile_eq_nil_iff.mp hnil c hc)
      rw [hblank text hall, hblank]
      exact fun c hc => hall c (List.mem_of_mem_drop hc)
  · have hsplit : (text.takeWhile reSpace ++ text.dropWhile reSpace).dropWhile isSpace =
        (text.dropWhile reSpace).dropWhile isSpace :=
      List.dropWhile_append_of_pos fun c hc => isSpace_of_reSpace (List.mem_takeWhile_imp hc)
    rw [List.takeWhile_append_dropWhile] at hsplit
    rw [trimSpace, trimSpace, String.toList_ofList, String.toList_ofList, hsplit]

theorem msg_read_iff (line : RuleLine) :
    (readOptions line.inner).msg = line.msg ↔
      ∀ body, line.lookAlike "msg" matchMsg = some body →
        trimSpace (String.ofList (replaceQuotes body)) = line.msg := by
  have hown : optionalString (line.msgBody?.map bodyText) = line.msg := by
    rw [RuleLine.msg]
    cases hbody : line.msgBody? with
    | none => rfl
    | some body =>
        have hvalid : ∀ c ∈ body, c.Valid := by
          rw [RuleLine.msgBody?] at hbody
          cases hoption : line.option? "msg" with
          | none =>
              rw [hoption] at hbody
              cases hbody
          | some o =>
              rw [hoption, Option.map_some] at hbody
              have hvalid := o.value_valid
              cases hvalue : o.value with
              | string before body' after =>
                  rw [hvalue] at hbody hvalid
                  cases hbody
                  exact hvalid.2.1
              | _ =>
                  rw [hvalue] at hbody
                  cases hbody
        show trimSpace (String.ofList (replaceQuotes (bodyText body))) = _
        rw [replaceQuotes_bodyText hvalid]
  show optionalString (find matchMsg line.inner) = _ ↔ _
  rw [find_msg, read_or_iff hown]
  rfl

theorem classtype_read_iff (line : RuleLine) :
    (readOptions line.inner).classtype = line.classtype ↔
      ∀ text, line.lookAlike "classtype" matchClasstype = some text →
        trimSpace (String.ofList (replaceQuotes text)) = line.classtype := by
  have hown : optionalString (line.classtypeText?.map classtypeFound) = line.classtype := by
    rw [RuleLine.classtype]
    cases hoption : line.option? "classtype" with
    | none =>
        rw [classtypeText?_of_none hoption]
        rfl
    | some o =>
        obtain ⟨text, _, _, _, hquote, htext⟩ := classtype_of_option? hoption
        rw [htext]
        show trimSpace (String.ofList (replaceQuotes (classtypeFound text))) = _
        rw [replaceQuotes_of_notMem, trimSpace_classtypeFound]
        intro hmem
        apply hquote
        unfold classtypeFound at hmem
        split at hmem
        · exact List.mem_of_mem_drop hmem
        · exact (List.dropWhile_sublist _).subset hmem
  show optionalString (find matchClasstype line.inner) = _ ↔ _
  rw [find_classtype, read_or_iff hown]
  rfl

/-! ## Reading the line -/

theorem raw_head (line : RuleLine) (c : Char) (h : line.raw.head? = some c) :
    isSpace c = false ∧ c ≠ '#' := by
  cases hheader : line.header with
  | nil =>
      rw [RuleLine.raw, hheader] at h
      cases h
      decide
  | cons d ds =>
      rw [RuleLine.raw, hheader] at h
      cases h
      exact line.header_head c (by rw [hheader]; rfl)

theorem raw_getLast? (line : RuleLine) : line.raw.getLast? = some ')' := by
  have hraw : line.raw = (line.header ++ '(' :: line.inner) ++ [')'] := by
    simp [RuleLine.raw]
  rw [hraw, List.getLast?_append]
  rfl

theorem raw_ne_nil (line : RuleLine) : line.raw ≠ [] := by
  simp [RuleLine.raw]

theorem parseLine_text (line : RuleLine) (sourceFile : String) :
    parseLine line.text sourceFile = parseRaw line.enabled line.raw sourceFile := by
  have hlast : ∀ c, line.raw.getLast? = some c → isSpace c = false := by
    intro c hc
    rw [raw_getLast?] at hc
    cases hc
    decide
  cases hhash : line.hash with
  | none =>
      have htext : trimSpace line.text = String.ofList line.raw := by
        rw [RuleLine.text, hhash]
        exact trimSpace_between line.lead_space line.trail_space
          (fun c hc => (raw_head line c hc).1) hlast (raw_ne_nil line)
      unfold parseLine
      dsimp only
      rw [htext, String.toList_ofList, if_neg (raw_ne_nil line), RuleLine.enabled, hhash]
      split
      · next rest hrest =>
          exact absurd rfl (raw_head line '#' (by rw [hrest]; rfl)).2
      · rfl
  | some gap =>
      have htext : trimSpace line.text = String.ofList ('#' :: (gap ++ line.raw)) := by
        rw [RuleLine.text, hhash]
        apply trimSpace_between line.lead_space line.trail_space _ _ (List.cons_ne_nil _ _)
        · intro c hc
          cases hc
          decide
        · intro c hc
          rw [← List.cons_append, List.getLast?_append, raw_getLast?] at hc
          cases hc
          decide
      have hgap : trimSpace (String.ofList (gap ++ line.raw)) = String.ofList line.raw := by
        have hbetween : trimSpace (String.ofList (gap ++ (line.raw ++ []))) =
            String.ofList line.raw :=
          trimSpace_between (line.hash_space gap hhash) (by simp)
            (fun c hc => (raw_head line c hc).1) hlast (raw_ne_nil line)
        rwa [List.append_nil] at hbetween
      unfold parseLine
      dsimp only
      rw [htext, String.toList_ofList, if_neg (List.cons_ne_nil _ _), RuleLine.enabled, hhash]
      show parseRaw false (trimSpace (String.ofList (gap ++ line.raw))).toList sourceFile = _
      rw [hgap, String.toList_ofList]
      rfl

/-- The parentheses are found where they are. -/
theorem splitRaw_raw (line : RuleLine) :
    (line.HeaderRead → ∃ parts, splitRaw line.raw = .ok parts ∧ parts.options = line.inner) ∧
      (¬ line.HeaderRead → ∃ e, splitRaw line.raw = .error e) := by
  have hhash : line.raw.head? ≠ some '#' := fun h => (raw_head line '#' h).2 rfl
  have hheader : ∀ c ∈ line.header, decide (c ≠ '(') = true := fun c hc =>
    decide_eq_true fun heq => line.header_open (heq ▸ hc)
  have hdrop : line.raw.dropWhile (· ≠ '(') = '(' :: (line.inner ++ [')']) := by
    rw [RuleLine.raw, List.dropWhile_append_of_pos hheader]
    rfl
  have htake : line.raw.takeWhile (· ≠ '(') = line.header := by
    rw [RuleLine.raw, List.takeWhile_append_of_pos hheader]
    simp
  have hclose : splitLast ')' (line.inner ++ [')']) = some (line.inner, []) :=
    splitLast_append List.not_mem_nil
  unfold splitRaw
  rw [hdrop, htake]
  simp only [hclose]
  by_cases haction : isRuleAction line.raw = true
  · have hrule : ¬ (line.raw = [] ∨ line.raw.head? = some '#' ∨ isRuleAction line.raw = false) := by
      rintro (hnil | hcomment | hno)
      · exact raw_ne_nil line hnil
      · exact hhash hcomment
      · rw [haction] at hno
        cases hno
    rw [if_neg hrule]
    cases hfields : fields line.header with
    | nil => exact ⟨fun h => absurd h.2 (by rw [hfields]; decide), fun _ => ⟨_, rfl⟩⟩
    | cons action words =>
        cases words with
        | nil => exact ⟨fun h => absurd h.2 (by rw [hfields]; simp), fun _ => ⟨_, rfl⟩⟩
        | cons proto tuple =>
            refine ⟨fun _ => ⟨_, rfl, rfl⟩, fun h => absurd ⟨haction, ?_⟩ h⟩
            rw [hfields]
            simp
  · rw [if_pos (.inr (.inr (Bool.eq_false_iff.mpr haction)))]
    exact ⟨fun h => absurd h.1 haction, fun _ => ⟨_, rfl⟩⟩

/-- A line that is taken for a rule, with a `sid` found in it. -/
theorem parseLine_eq_ok {line : RuleLine} (sourceFile : String) (hheader : line.HeaderRead)
    {sid : Int} (hsid : (readOptions line.inner).sid.toOption = some sid) :
    ∃ r, parseLine line.text sourceFile = .ok r ∧ r.sid = sid ∧
      r.gid = (readOptions line.inner).gid ∧ r.rev = (readOptions line.inner).rev ∧
      r.msg = (readOptions line.inner).msg ∧ r.classtype = (readOptions line.inner).classtype ∧
      r.enabled = line.enabled := by
  obtain ⟨parts, hparts, hoptions⟩ := (splitRaw_raw line).1 hheader
  rw [parseLine_text]
  simp only [parseRaw, hparts, bind, Except.bind, hoptions, eq_ok_of_toOption hsid]
  exact ⟨_, rfl, rfl, rfl, rfl, rfl, rfl, rfl⟩

theorem parseLine_eq_error {line : RuleLine} (sourceFile : String)
    (h : ¬ line.HeaderRead ∨ (readOptions line.inner).sid.toOption = none) :
    ∃ e, parseLine line.text sourceFile = .error e := by
  rw [parseLine_text]
  by_cases hheader : line.HeaderRead
  · obtain ⟨parts, hparts, hoptions⟩ := (splitRaw_raw line).1 hheader
    have hnone := h.resolve_left (not_not_intro hheader)
    cases hsid : (readOptions line.inner).sid with
    | ok sid =>
        rw [hsid] at hnone
        cases hnone
    | error e =>
        simp only [parseRaw, hparts, bind, Except.bind, hoptions, hsid]
        exact ⟨e, rfl⟩
  · obtain ⟨e, he⟩ := (splitRaw_raw line).2 hheader
    simp only [parseRaw, he, bind, Except.bind]
    exact ⟨e, rfl⟩

/-- **Exactly the undisturbed rules are known by their own options.** -/
theorem parseLine_readsOwn_iff (line : RuleLine) (sourceFile : String) :
    ReadsOwn line sourceFile ↔ line.Undisturbed := by
  have hclear := sid_read_iff line
  unfold ReadsOwn RuleLine.Undisturbed
  cases hsid : line.sid with
  | none =>
      rw [hsid] at hclear
      constructor
      · rintro ⟨e, he⟩
        by_cases hheader : line.HeaderRead
        · right
          rw [← hclear]
          by_contra hsome
          obtain ⟨sid, hfound⟩ := Option.ne_none_iff_exists'.mp hsome
          obtain ⟨r, hr, _⟩ := parseLine_eq_ok sourceFile hheader hfound
          rw [he] at hr
          cases hr
        · exact .inl hheader
      · intro h
        rw [← hclear] at h
        exact parseLine_eq_error sourceFile h
  | some sid =>
      rw [hsid] at hclear
      constructor
      · rintro ⟨r, hr, hrsid, hgid, hrev, hmsg, hclass, _⟩
        -- the line has been read, so it has been taken for a rule with some `sid`
        have hread : line.HeaderRead ∧ (readOptions line.inner).sid.toOption ≠ none := by
          by_contra hno
          obtain ⟨e, he⟩ := parseLine_eq_error sourceFile
            ((not_and_or.mp hno).imp_right not_not.mp)
          rw [he] at hr
          cases hr
        obtain ⟨found, hfound⟩ := Option.ne_none_iff_exists'.mp hread.2
        obtain ⟨r', hr', hsid', hgid', hrev', hmsg', hclass', _⟩ :=
          parseLine_eq_ok sourceFile hread.1 hfound
        rw [hr] at hr'
        cases hr'
        refine ⟨hread.1, hclear.mp ?_, ?_, ?_, ?_, ?_⟩
        · rw [hfound, ← hsid', hrsid]
        · exact (gid_read_iff line).mp (hgid' ▸ hgid)
        · exact (rev_read_iff line).mp (hrev' ▸ hrev)
        · exact (msg_read_iff line).mp (hmsg' ▸ hmsg)
        · exact (classtype_read_iff line).mp (hclass' ▸ hclass)
      · rintro ⟨hheader, h⟩
        obtain ⟨r, hr, hrsid, hgid, hrev, hmsg, hclass, henabled⟩ :=
          parseLine_eq_ok sourceFile hheader (hclear.mpr h.sid)
        refine ⟨r, hr, hrsid, ?_, ?_, ?_, ?_, henabled⟩
        · rw [hgid, (gid_read_iff line).mpr h.gid]
        · rw [hrev, (rev_read_iff line).mpr h.rev]
        · rw [hmsg, (msg_read_iff line).mpr h.msg]
        · rw [hclass, (classtype_read_iff line).mpr h.classtype]

/-! ## A string that reads like an option -/

/-- `msg:"like sid:5;";` -/
def sidInMsg : RuleOption where
  lead := []
  name := "msg".toList
  gap := []
  value := .string [] ("like sid:5;".toList.map .plain) []
  lead_blank := blank_nil
  name_ne_nil := by decide
  name_solid := solid_of_all (by decide)
  gap_blank := blank_nil
  value_valid := by
    refine ⟨blank_nil, ?_, blank_nil⟩
    intro c hc
    obtain ⟨d, hd, rfl⟩ := List.mem_map.mp hc
    have hplain : ("like sid:5;".toList.all fun d => d ≠ '"' && d ≠ '\\') = true := by decide
    simpa [QuotedChar.Valid] using List.all_eq_true.mp hplain d hd
  value_suits := by
    unfold OptionValue.Suits
    decide

/-- `alert tcp any any -> any any (msg:"like sid:5;"; sid:1000;)` -/
def sidInMsgLine : RuleLine :=
  anyTraffic [sidInMsg, sidOption "1000".toList ⟨by decide, List.all_eq_true.mp (by decide)⟩
    (by decide)]

/-- The rule is stored under the number its message mentions. -/
theorem sid_of_message_read :
    sidInMsgLine.text = "alert tcp any any -> any any (msg:\"like sid:5;\"; sid:1000;)" ∧
      sidInMsgLine.sid = some 1000 ∧
      (parseLine sidInMsgLine.text "local.rules").toOption.map Rule.sid = some 5 ∧
      ¬ ReadsOwn sidInMsgLine "local.rules" := by
  have hsid : sidInMsgLine.sid = some 1000 := by decide +kernel
  have hparse : (parseLine sidInMsgLine.text "local.rules").toOption.map Rule.sid = some 5 := by
    decide +kernel
  refine ⟨by decide +kernel, hsid, hparse, ?_⟩
  rw [ReadsOwn, hsid]
  rintro ⟨r, hr, hrsid, _⟩
  rw [hr] at hparse
  have hfive : r.sid = 5 := Option.some.inj hparse
  rw [hrsid] at hfive
  exact absurd hfive (by decide)

end SnortOptimizer.Rules
