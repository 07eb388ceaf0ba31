import SnortOptimizer.Analyser.FlowbitsText
import SnortOptimizer.Machine.Flags

/-!
# Rules without a provider (`analyser/safe/orphan_flowbits.go`)

A rule with `flowbits:isset,a&b` can fire only in a flow in which other rules have set both bits,
one with `flowbits:isset,a|b` in a flow with either of them. `OrphanFlowbitsFunc` is to find the
rules that can never fire because no enabled rule sets the bits.

It asks for all bits of an `isset`, whatever stands between them. So a rule may be returned although
it can fire, for three reasons: because a bit it does not need is not set, because a string of it
reads like a condition, or because a rule that sets a bit is written in a way that is overlooked.
`orphanFlowbits_sound_iff` says that there are no others, and that for rules that are written
plainly only the first is left.
-/

namespace SnortOptimizer.Analyser

open Text Rules

/-! ## The rules of a run -/

namespace FlowbitsCheck

/-- What the option does to the bits of a flow. -/
def change? (c : FlowbitsCheck) : Option (Flags.Change (List Char)) :=
  match c.op with
  | .set => some ⟨.set, c.names⟩
  | .toggle => some ⟨.toggle, c.names⟩
  | .unset => some ⟨.clear, c.names⟩
  | _ => none

/-- What has to be set for the option to match. -/
def condition? (c : FlowbitsCheck) : Option (Flags.Condition (List Char)) :=
  if c.op = .isset then some ⟨c.names, c.orBits⟩ else none

end FlowbitsCheck

def FlowbitsLine.changes (line : FlowbitsLine) : List (Flags.Change (List Char)) :=
  line.checks.filterMap FlowbitsCheck.change?

def FlowbitsLine.conditions (line : FlowbitsLine) : List (Flags.Condition (List Char)) :=
  line.checks.filterMap FlowbitsCheck.condition?

/-- The enabled rules of a run, with how they are written. -/
structure WrittenRules where
  table : RuleTable
  runID : Int
  line : Rule → FlowbitsLine
  written : ∀ r ∈ listRulesFromDB table runID true, r.rawText = String.ofList (line r).raw

namespace WrittenRules

variable (w : WrittenRules)

def rules : List Rule := listRulesFromDB w.table w.runID true

def changes : List (Flags.Change (List Char)) := w.rules.flatMap fun r => (w.line r).changes

def conditions (r : Rule) : List (Flags.Condition (List Char)) := (w.line r).conditions

/-- The bits that enabled rules set or toggle. -/
def settable : Set (List Char) := Flags.settable w.changes

def Reachable (s : Set (List Char)) : Prop := (Flags.machine w.changes).Reachable s

/-- Each condition of the rule can be met. -/
def CanBeMet (r : Rule) : Prop := ∀ c ∈ w.conditions r, c.Holds w.settable

end WrittenRules

/-! ## Soundness -/

/-- `OrphanFlowbitsFunc` returns the rule. -/
def ReturnedAsOrphan (host : Host) (rules : List Rule) (r : Rule) : Prop :=
  ∃ d ∈ orphanFlowbitsFunc host rules, d.gid = r.gid ∧ d.sid = r.sid

/-- Each rule that is returned has a condition that never holds, and no rule whose conditions can
hold is returned. -/
def OrphansSound (host : Host) (w : WrittenRules) : Prop :=
  ∀ r ∈ w.rules,
    (ReturnedAsOrphan host w.rules r →
      ∃ c ∈ w.conditions r, ∀ s, w.Reachable s → ¬ c.Holds s) ∧
    ((∃ s, w.Reachable s ∧ ∀ c ∈ w.conditions r, c.Holds s) → ¬ ReturnedAsOrphan host w.rules r)

/-! ## When it is sound -/

/-- Some text of an enabled rule is read as setting the name. -/
def ReadAsSet (host : Host) (w : WrittenRules) (name : String) : Prop :=
  ∃ r ∈ w.rules, ∃ x ∈ frontedOptions (w.line r).toRuleLine,
    ∃ value ∈ scanned host.lower (x.1 ++ x.2.text), name ∈ providedBy value

/-- **When the rules that can fire are spared**: of each rule whose conditions can be met,
everything that is read as required is also read as set. -/
structure Untroubled (host : Host) (w : WrittenRules) : Prop where
  /-- also the bits that a condition does not need, since another one will do -/
  alternatives : ∀ r ∈ w.rules, w.CanBeMet r →
    ∀ x ∈ frontedOptions (w.line r).toRuleLine, ReadAsFlowbits host.lower x.1 x.2 →
      ((w.line r).check x.2).op = .isset → ((w.line r).check x.2).orBits = true →
        ∀ bit ∈ ((w.line r).check x.2).names, ∀ name ∈ bitNames host.lower bit,
          ReadAsSet host w name
  /-- the bits that a condition needs, so that the rules that set them have to be legible -/
  providers : ∀ r ∈ w.rules, w.CanBeMet r →
    ∀ x ∈ frontedOptions (w.line r).toRuleLine, ReadAsFlowbits host.lower x.1 x.2 →
      ((w.line r).check x.2).op = .isset → ((w.line r).check x.2).orBits = false →
        ∀ bit ∈ ((w.line r).check x.2).names, ∀ name ∈ bitNames host.lower bit,
          ReadAsSet host w name
  /-- what is no such option but reads like one -/
  lookAlikes : ∀ r ∈ w.rules, w.CanBeMet r →
    ∀ x ∈ frontedOptions (w.line r).toRuleLine, ¬ ReadAsFlowbits host.lower x.1 x.2 →
      ∀ value ∈ scanned host.lower (x.1 ++ x.2.text), ∀ name ∈ requiredBy value,
        ReadAsSet host w name

/-- All `flowbits` options are legible, and nothing else reads like one. -/
def WrittenPlainly (host : Host) (w : WrittenRules) : Prop :=
  ∀ r ∈ w.rules, ∀ x ∈ frontedOptions (w.line r).toRuleLine,
    (IsFlowbits x.2 → ReadAsFlowbits host.lower x.1 x.2) ∧
    (¬ IsFlowbits x.2 → ∀ value ∈ scanned host.lower (x.1 ++ x.2.text),
      requiredBy value = [] ∧ providedBy value = [])

/-- No condition that can be met names a bit, beside the one that is set, that no enabled rule
sets. -/
def AlternativesSet (host : Host) (w : WrittenRules) : Prop :=
  ∀ r ∈ w.rules, w.CanBeMet r → ∀ c ∈ w.conditions r, c.any = true →
    ∀ bit ∈ c.flags, ∀ name ∈ bitNames host.lower bit,
      ∃ bit' ∈ w.settable, name ∈ bitNames host.lower bit'

/-! ## Rules that are returned -/

section Returned

variable {host : Host} (hlower : LowersAscii host.lower) (w : WrittenRules)

theorem mem_frontedOptions {line : FlowbitsLine} {x : List Char × RuleOption}
    (h : x ∈ frontedOptions line.toRuleLine) : x.2 ∈ line.options ∧ ';' ∉ x.1 := by
  unfold frontedOptions at h
  cases hoptions : line.options with
  | nil =>
      rw [hoptions] at h
      cases h
  | cons o options =>
      rw [hoptions] at h
      rcases List.mem_cons.mp h with rfl | h
      · exact ⟨List.mem_cons_self, by simp [line.header_solid]⟩
      · obtain ⟨o', ho', rfl⟩ := List.mem_map.mp h
        exact ⟨List.mem_cons_of_mem o ho', List.not_mem_nil⟩

theorem exists_fronted {line : FlowbitsLine} {o : RuleOption} (h : o ∈ line.options) :
    ∃ x ∈ frontedOptions line.toRuleLine, x.2 = o := by
  unfold frontedOptions
  cases hoptions : line.options with
  | nil =>
      rw [hoptions] at h
      cases h
  | cons o' options =>
      rw [hoptions] at h
      rcases List.mem_cons.mp h with rfl | h
      · exact ⟨_, List.mem_cons_self, rfl⟩
      · exact ⟨([], o), List.mem_cons_of_mem _ (List.mem_map.mpr ⟨o, h, rfl⟩), rfl⟩

include hlower in
/-- What a rule is read to set and to require, option by option. -/
theorem mem_parseFlowbits_rule {r : Rule} (hr : r ∈ w.rules) {name : String} :
    (name ∈ (parseFlowbits host.lower r.rawText).1 ↔
      ∃ x ∈ frontedOptions (w.line r).toRuleLine,
        ∃ value ∈ scanned host.lower (x.1 ++ x.2.text), name ∈ providedBy value) ∧
    (name ∈ (parseFlowbits host.lower r.rawText).2 ↔
      ∃ x ∈ frontedOptions (w.line r).toRuleLine,
        ∃ value ∈ scanned host.lower (x.1 ++ x.2.text), name ∈ requiredBy value) := by
  rw [mem_parseFlowbits.1, mem_parseFlowbits.2, w.written r hr, String.toList_ofList,
    scanned_raw hlower]
  simp only [List.mem_flatMap]
  constructor
  · constructor
    · rintro ⟨value, ⟨x, hx, hvalue⟩, hname⟩
      exact ⟨x, hx, value, hvalue, hname⟩
    · rintro ⟨x, hx, value, hvalue, hname⟩
      exact ⟨value, ⟨x, hx, hvalue⟩, hname⟩
  · constructor
    · rintro ⟨value, ⟨x, hx, hvalue⟩, hname⟩
      exact ⟨x, hx, value, hvalue, hname⟩
    · rintro ⟨x, hx, value, hvalue, hname⟩
      exact ⟨value, ⟨x, hx, hvalue⟩, hname⟩

include hlower in
theorem mem_providedBits {name : String} :
    name ∈ providedBits host w.rules ↔ ReadAsSet host w name := by
  rw [providedBits, List.mem_flatMap]
  constructor
  · rintro ⟨r, hr, hname⟩
    exact ⟨r, hr, (mem_parseFlowbits_rule hlower w hr).1.mp hname⟩
  · rintro ⟨r, hr, hread⟩
    exact ⟨r, hr, (mem_parseFlowbits_rule hlower w hr).1.mpr hread⟩

include hlower in
/-- **A rule is returned** if something is read as required and not as set. -/
theorem returnedAsOrphan_iff {r : Rule} (hr : r ∈ w.rules) :
    ReturnedAsOrphan host w.rules r ↔
      ∃ x ∈ frontedOptions (w.line r).toRuleLine,
        ∃ value ∈ scanned host.lower (x.1 ++ x.2.text), ∃ name ∈ requiredBy value,
          ¬ ReadAsSet host w name := by
  have hmissing : missingBits host w.rules r ≠ [] ↔
      ∃ x ∈ frontedOptions (w.line r).toRuleLine,
        ∃ value ∈ scanned host.lower (x.1 ++ x.2.text), ∃ name ∈ requiredBy value,
          ¬ ReadAsSet host w name := by
    have hmem : ∀ name, name ∈ missingBits host w.rules r ↔
        name ∈ (parseFlowbits host.lower r.rawText).2 ∧ ¬ ReadAsSet host w name := by
      intro name
      rw [missingBits, List.mem_filter, decide_eq_true_eq, mem_providedBits hlower w]
    constructor
    · intro hne
      obtain ⟨name, hname⟩ := List.exists_mem_of_ne_nil _ hne
      obtain ⟨hrequired, hread⟩ := (hmem name).mp hname
      obtain ⟨x, hx, value, hvalue, hname⟩ := (mem_parseFlowbits_rule hlower w hr).2.mp hrequired
      exact ⟨x, hx, value, hvalue, name, hname, hread⟩
    · rintro ⟨x, hx, value, hvalue, name, hname, hread⟩
      have hrequired := (mem_parseFlowbits_rule hlower w hr).2.mpr ⟨x, hx, value, hvalue, hname⟩
      exact List.ne_nil_of_mem ((hmem name).mpr ⟨hrequired, hread⟩)
  rw [← hmissing]
  constructor
  · rintro ⟨d, hd, hgid, hsid⟩
    obtain ⟨r', hr', rfl⟩ := List.mem_map.mp hd
    obtain ⟨hr', hne⟩ := List.mem_filter.mp hr'
    obtain rfl := rule_eq_of_key hr' hr (Prod.ext hgid hsid)
    exact of_decide_eq_true hne
  · intro hne
    exact ⟨_, List.mem_map.mpr ⟨r, List.mem_filter.mpr ⟨hr, decide_eq_true hne⟩, rfl⟩, rfl, rfl⟩

/-- Both halves of soundness say that rules which can fire are spared. -/
theorem orphansSound_iff :
    OrphansSound host w ↔ ∀ r ∈ w.rules, w.CanBeMet r → ¬ ReturnedAsOrphan host w.rules r := by
  constructor
  · intro h r hr hmet
    apply (h r hr).2
    exact Flags.exists_reachable_forall_holds_iff.mpr hmet
  · intro h r hr
    constructor
    · intro hreturned
      by_contra hno
      apply h r hr _ hreturned
      intro c hc
      by_contra hfails
      exact hno ⟨c, hc, Flags.forall_reachable_not_holds_iff.mpr hfails⟩
    · intro hmet
      exact h r hr (Flags.exists_reachable_forall_holds_iff.mp hmet)

include hlower in
theorem requiredBy_legible {r : Rule} {x : List Char × RuleOption}
    (hx : x ∈ frontedOptions (w.line r).toRuleLine) (h : ReadAsFlowbits host.lower x.1 x.2)
    {name : String} :
    (∃ value ∈ scanned host.lower (x.1 ++ x.2.text), name ∈ requiredBy value) ↔
      ((w.line r).check x.2).op = .isset ∧
        ∃ bit ∈ ((w.line r).check x.2).names, name ∈ bitNames host.lower bit := by
  obtain ⟨ho, hfront⟩ := mem_frontedOptions hx
  rw [scanned_legible hlower ho hfront h]
  simp only [List.mem_singleton, exists_eq_left, requiredBy_check hlower]
  by_cases hop : ((w.line r).check x.2).op = .isset
  · rw [if_pos hop, List.mem_flatMap]
    exact (and_iff_right hop).symm
  · rw [if_neg hop]
    exact iff_of_false List.not_mem_nil fun h => hop h.1

include hlower in
theorem providedBy_legible {r : Rule} {x : List Char × RuleOption}
    (hx : x ∈ frontedOptions (w.line r).toRuleLine) (h : ReadAsFlowbits host.lower x.1 x.2)
    {name : String} :
    (∃ value ∈ scanned host.lower (x.1 ++ x.2.text), name ∈ providedBy value) ↔
      (((w.line r).check x.2).op = .set ∨ ((w.line r).check x.2).op = .toggle) ∧
        ∃ bit ∈ ((w.line r).check x.2).names, name ∈ bitNames host.lower bit := by
  obtain ⟨ho, hfront⟩ := mem_frontedOptions hx
  rw [scanned_legible hlower ho hfront h]
  simp only [List.mem_singleton, exists_eq_left, providedBy_check hlower]
  by_cases hop : ((w.line r).check x.2).op = .set ∨ ((w.line r).check x.2).op = .toggle
  · rw [if_pos hop, List.mem_flatMap]
    exact (and_iff_right hop).symm
  · rw [if_neg hop]
    exact iff_of_false List.not_mem_nil fun h => hop h.1

include hlower in
theorem orphansSound_iff_untroubled : OrphansSound host w ↔ Untroubled host w := by
  rw [orphansSound_iff]
  constructor
  · intro h
    -- whatever is read as required in a rule that can fire is read as set
    have hread : ∀ r ∈ w.rules, w.CanBeMet r → ∀ x ∈ frontedOptions (w.line r).toRuleLine,
        ∀ value ∈ scanned host.lower (x.1 ++ x.2.text), ∀ name ∈ requiredBy value,
          ReadAsSet host w name := by
      intro r hr hmet x hx value hvalue name hname
      by_contra hno
      exact h r hr hmet ((returnedAsOrphan_iff hlower w hr).mpr
        ⟨x, hx, value, hvalue, name, hname, hno⟩)
    have hown : ∀ r ∈ w.rules, w.CanBeMet r → ∀ x ∈ frontedOptions (w.line r).toRuleLine,
        ReadAsFlowbits host.lower x.1 x.2 → ((w.line r).check x.2).op = .isset →
          ∀ bit ∈ ((w.line r).check x.2).names, ∀ name ∈ bitNames host.lower bit,
            ReadAsSet host w name := by
      intro r hr hmet x hx hlegible hop bit hbit name hname
      obtain ⟨value, hvalue, hrequired⟩ :=
        (requiredBy_legible hlower w hx hlegible).mpr ⟨hop, bit, hbit, hname⟩
      exact hread r hr hmet x hx value hvalue name hrequired
    exact
      { alternatives := fun r hr hmet x hx hlegible hop _ => hown r hr hmet x hx hlegible hop
        providers := fun r hr hmet x hx hlegible hop _ => hown r hr hmet x hx hlegible hop
        lookAlikes := fun r hr hmet x hx _ => hread r hr hmet x hx }
  · intro h r hr hmet hreturned
    obtain ⟨x, hx, value, hvalue, name, hname, hno⟩ :=
      (returnedAsOrphan_iff hlower w hr).mp hreturned
    apply hno
    by_cases hlegible : ReadAsFlowbits host.lower x.1 x.2
    · obtain ⟨hop, bit, hbit, hname⟩ :=
        (requiredBy_legible hlower w hx hlegible).mp ⟨value, hvalue, hname⟩
      cases hor : ((w.line r).check x.2).orBits with
      | true => exact h.alternatives r hr hmet x hx hlegible hop hor bit hbit name hname
      | false => exact h.providers r hr hmet x hx hlegible hop hor bit hbit name hname
    · exact h.lookAlikes r hr hmet x hx hlegible value hvalue name hname

/-! ### Rules that are written plainly -/

theorem mem_checks {line : FlowbitsLine} {c : FlowbitsCheck} :
    c ∈ line.checks ↔ ∃ o ∈ line.options, IsFlowbits o ∧ line.check o = c := by
  simp only [FlowbitsLine.checks, List.mem_map, List.mem_filter, decide_eq_true_eq]
  exact exists_congr fun o => and_assoc

theorem mem_settable {bit : List Char} :
    bit ∈ w.settable ↔ ∃ r ∈ w.rules, ∃ c ∈ (w.line r).checks,
      (c.op = .set ∨ c.op = .toggle) ∧ bit ∈ c.names := by
  show (∃ change ∈ w.changes, change.effect ≠ .clear ∧ bit ∈ change.flags) ↔ _
  simp only [WrittenRules.changes, FlowbitsLine.changes, List.mem_flatMap, List.mem_filterMap]
  constructor
  · rintro ⟨change, ⟨r, hr, c, hc, hchange⟩, heffect, hbit⟩
    refine ⟨r, hr, c, hc, ?_⟩
    unfold FlowbitsCheck.change? at hchange
    cases hop : c.op <;> rw [hop] at hchange <;> cases hchange
    · exact ⟨.inl rfl, hbit⟩
    · exact ⟨.inr rfl, hbit⟩
    · exact absurd rfl heffect
  · rintro ⟨r, hr, c, hc, hop | hop, hbit⟩
    · exact ⟨⟨.set, c.names⟩, ⟨r, hr, c, hc, by rw [FlowbitsCheck.change?, hop]⟩, by simp, hbit⟩
    · exact ⟨⟨.toggle, c.names⟩, ⟨r, hr, c, hc, by rw [FlowbitsCheck.change?, hop]⟩, by simp, hbit⟩

theorem mem_conditions {r : Rule} {condition : Flags.Condition (List Char)} :
    condition ∈ w.conditions r ↔
      ∃ c ∈ (w.line r).checks, c.op = .isset ∧ condition = ⟨c.names, c.orBits⟩ := by
  rw [WrittenRules.conditions, FlowbitsLine.conditions, List.mem_filterMap]
  refine exists_congr fun c => and_congr_right fun _ => ?_
  unfold FlowbitsCheck.condition?
  split
  · next hop => rw [Option.some.injEq, and_iff_right hop, eq_comm]
  · next hop => exact iff_of_false (by simp) fun h => hop h.1

include hlower in
/-- What is read as set is what is set. -/
theorem readAsSet_iff (hplain : WrittenPlainly host w) {name : String} :
    ReadAsSet host w name ↔ ∃ bit ∈ w.settable, name ∈ bitNames host.lower bit := by
  constructor
  · rintro ⟨r, hr, x, hx, hread⟩
    obtain ⟨ho, _⟩ := mem_frontedOptions hx
    by_cases hflow : IsFlowbits x.2
    · obtain ⟨hop, bit, hbit, hname⟩ :=
        (providedBy_legible hlower w hx ((hplain r hr x hx).1 hflow)).mp hread
      refine ⟨bit, (mem_settable w).mpr ⟨r, hr, _, ?_, hop, hbit⟩, hname⟩
      exact mem_checks.mpr ⟨x.2, ho, hflow, rfl⟩
    · obtain ⟨value, hvalue, hname⟩ := hread
      rw [((hplain r hr x hx).2 hflow value hvalue).2] at hname
      cases hname
  · rintro ⟨bit, hbit, hname⟩
    obtain ⟨r, hr, c, hc, hop, hbit⟩ := (mem_settable w).mp hbit
    obtain ⟨o, ho, hflow, rfl⟩ := mem_checks.mp hc
    obtain ⟨x, hx, rfl⟩ := exists_fronted ho
    exact ⟨r, hr, x, hx, (providedBy_legible hlower w hx ((hplain r hr x hx).1 hflow)).mpr
      ⟨hop, bit, hbit, hname⟩⟩

include hlower in
theorem untroubled_iff_alternativesSet (hplain : WrittenPlainly host w) :
    Untroubled host w ↔ AlternativesSet host w := by
  constructor
  · intro h r hr hmet condition hcondition hany bit hbit name hname
    obtain ⟨c, hc, hop, rfl⟩ := (mem_conditions w).mp hcondition
    obtain ⟨o, ho, hflow, rfl⟩ := mem_checks.mp hc
    obtain ⟨x, hx, rfl⟩ := exists_fronted ho
    rw [← readAsSet_iff hlower w hplain]
    exact h.alternatives r hr hmet x hx ((hplain r hr x hx).1 hflow) hop hany bit hbit name hname
  · intro h
    have hcondition : ∀ r x, x ∈ frontedOptions (w.line r).toRuleLine →
        ReadAsFlowbits host.lower x.1 x.2 → ((w.line r).check x.2).op = .isset →
          ⟨((w.line r).check x.2).names, ((w.line r).check x.2).orBits⟩ ∈ w.conditions r := by
      intro r x hx hlegible hop
      apply (mem_conditions w).mpr
      exact ⟨_, mem_checks.mpr ⟨x.2, (mem_frontedOptions hx).1, hlegible.1, rfl⟩, hop, rfl⟩
    constructor
    · intro r hr hmet x hx hlegible hop hor bit hbit name hname
      rw [readAsSet_iff hlower w hplain]
      exact h r hr hmet _ (hcondition r x hx hlegible hop) hor bit hbit name hname
    · intro r hr hmet x hx hlegible hop hor bit hbit name hname
      -- a condition that needs all its bits is met only if they are set
      have hholds := hmet _ (hcondition r x hx hlegible hop)
      rw [hor] at hholds
      rw [readAsSet_iff hlower w hplain]
      exact ⟨bit, hholds bit hbit, hname⟩
    · intro r hr _ x hx hlegible value hvalue name hname
      have hflow : ¬ IsFlowbits x.2 := fun hflow => hlegible ((hplain r hr x hx).1 hflow)
      rw [((hplain r hr x hx).2 hflow value hvalue).1] at hname
      cases hname

end Returned

/-- **When rules without a provider are found soundly.** In every run, the rules that are returned
are ones that can never fire exactly if, in each rule that can, everything that is read as required
is read as set. Where rules are written plainly, it is the bits in `|` conditions that decide: a
rule that can fire by one of them is returned if another is not set. -/
theorem orphanFlowbits_sound_iff {host : Host} (hlower : LowersAscii host.lower)
    (w : WrittenRules) :
    (OrphansSound host w ↔ Untroubled host w) ∧
      (WrittenPlainly host w → (OrphansSound host w ↔ AlternativesSet host w)) := by
  refine ⟨orphansSound_iff_untroubled hlower w, fun hplain => ?_⟩
  rw [orphansSound_iff_untroubled hlower w, untroubled_iff_alternativesSet hlower w hplain]


/-! ## A condition with an alternative -/

def bitNamed (c : Char) (h : isSpace c = false ∧ c ∉ [',', ';', '"', '&', '|']) : FlowBit where
  lead := []
  name := [c]
  trail := []
  lead_blank := by simp
  name_ne_nil := by simp
  name_solid := by
    intro d hd
    rw [List.mem_singleton.mp hd]
    exact h
  trail_blank := by simp

/-- `set,a` -/
def setA : FlowbitsCheck where
  lead := []
  op := .set
  trail := []
  bits := [bitNamed 'a' (by decide)]
  orBits := false
  lead_blank := by simp
  trail_blank := by simp
  bits_nil_iff := by simp
  orBits_test := by simp

/-- `isset,a|b` -/
def issetAOrB : FlowbitsCheck where
  lead := []
  op := .isset
  trail := []
  bits := [bitNamed 'a' (by decide), bitNamed 'b' (by decide)]
  orBits := true
  lead_blank := by simp
  trail_blank := by simp
  bits_nil_iff := by simp
  orBits_test := by simp

def flowbitsOption (c : FlowbitsCheck) (h : ';' ∉ c.text ∧ '"' ∉ c.text) : RuleOption where
  lead := []
  name := "flowbits".toList
  gap := []
  value := .mixed [.plain c.text]
  lead_blank := blank_nil
  name_ne_nil := by decide
  name_solid := solid_of_all (by decide)
  gap_blank := blank_nil
  value_valid := by
    intro p hp
    rw [List.mem_singleton.mp hp]
    exact h
  value_suits := by
    refine ⟨by decide, by decide, fun hname => absurd hname (by decide)⟩

/-- A rule with a `flowbits` option and a number. -/
def flowbitsLine (c : FlowbitsCheck) (h : ';' ∉ c.text ∧ '"' ∉ c.text) (sid : RuleOption)
    (hsid : sid.name = "sid".toList) : FlowbitsLine where
  toRuleLine := anyTraffic [flowbitsOption c h, sid]
  check := fun _ => c
  check_text := by
    intro o ho hflow
    rcases List.mem_cons.mp ho with rfl | ho
    · rfl
    · rw [List.mem_singleton.mp ho, IsFlowbits, hsid] at hflow
      exact absurd hflow (by decide)
  header_solid := by
    show ';' ∉ "alert tcp any any -> any any ".toList
    decide

theorem setA_text : ';' ∉ setA.text ∧ '"' ∉ setA.text := by decide

/-- `sid:2` -/
def sidTwo : RuleOption := sidOption ['2'] ⟨by decide, List.all_eq_true.mp (by decide)⟩ (by decide)

theorem sidTwo_name : sidTwo.name = "sid".toList := rfl

def settingLine : FlowbitsLine :=
  flowbitsLine setA setA_text
    (sidOption ['1'] ⟨by decide, List.all_eq_true.mp (by decide)⟩ (by decide)) rfl

def testingLine : FlowbitsLine := flowbitsLine issetAOrB (by decide) sidTwo sidTwo_name

def settingRule : Rule :=
  { loneRule with sid := 1, rawText := "alert tcp any any -> any any (flowbits:set,a; sid:1;)" }

def testingRule : Rule :=
  { loneRule with sid := 2, rawText := "alert tcp any any -> any any (flowbits:isset,a|b; sid:2;)" }

/-- One rule sets `a`, the other asks for `a` or `b`. -/
def oneOfTwo : WrittenRules where
  table := insertRules Table.empty 0 [settingRule, testingRule]
  runID := 0
  line := fun r => if r.sid = 1 then settingLine else testingLine
  written := by decide +kernel

theorem lowersAscii_toLower : LowersAscii Char.toLower := by
  have hkept : ∀ c : Char, ¬ ('A' ≤ c ∧ c ≤ 'Z') → c.toLower = c := fun c hcapital =>
    dif_neg fun h => hcapital ⟨h.1, h.2⟩
  constructor
  · exact fun c _ hcapital => hkept c hcapital
  · intro c _ hletter
    by_cases hcapital : 'A' ≤ c ∧ c ≤ 'Z'
    · have hge : 65 ≤ c.val.toNat := UInt32.le_iff_toNat_le.mp hcapital.1
      have hle : c.val.toNat ≤ 90 := UInt32.le_iff_toNat_le.mp hcapital.2
      have hlower : c.toLower.val = c.val + ('a'.val - 'A'.val) :=
        congrArg Char.val (dif_pos ⟨hcapital.1, hcapital.2⟩)
      have hval : c.toLower.val.toNat = c.val.toNat + 32 := by
        rw [hlower, UInt32.toNat_add]
        exact Nat.mod_eq_of_lt (by show c.val.toNat + 32 < 2 ^ 32; omega)
      refine absurd ⟨?_, ?_⟩ hletter
      · apply UInt32.le_iff_toNat_le.mpr
        show 97 ≤ _
        omega
      · apply UInt32.le_iff_toNat_le.mpr
        show _ ≤ 122
        omega
    · exact hkept c hcapital

/-- The second rule can fire once the first has, and yet it is returned. -/
theorem alternative_returned :
    testingRule ∈ oneOfTwo.rules ∧ ReturnedAsOrphan plainHost oneOfTwo.rules testingRule ∧
      oneOfTwo.Reachable {['a']} ∧ (∀ c ∈ oneOfTwo.conditions testingRule, c.Holds {['a']}) ∧
      ¬ OrphansSound plainHost oneOfTwo := by
  have hrule : testingRule ∈ oneOfTwo.rules := by decide +kernel
  have hreturned : ReturnedAsOrphan plainHost oneOfTwo.rules testingRule := by
    have hany : ((orphanFlowbitsFunc plainHost oneOfTwo.rules).any fun d =>
        decide (d.gid = testingRule.gid ∧ d.sid = testingRule.sid)) = true := by
      decide +kernel
    obtain ⟨d, hd, hkey⟩ := List.any_eq_true.mp hany
    exact ⟨d, hd, of_decide_eq_true hkey⟩
  have hreach : oneOfTwo.Reachable {['a']} := by
    refine ⟨[.perform ⟨.set, [['a']]⟩], ?_⟩
    have hstock : (⟨.set, [['a']]⟩ : Flags.Change (List Char)) ∈ oneOfTwo.changes := by
      decide +kernel
    simp [Flags.machine, Machine.exec, hstock, Flags.Change.apply]
  have hholds : ∀ c ∈ oneOfTwo.conditions testingRule, c.Holds {['a']} := by
    have hall : oneOfTwo.conditions testingRule = [⟨[['a'], ['b']], true⟩] := by decide +kernel
    rw [hall]
    simp [Flags.Condition.Holds]
  refine ⟨hrule, hreturned, hreach, hholds, fun h => ?_⟩
  exact (h testingRule hrule).2 ⟨_, hreach, hholds⟩ hreturned

/-- The two rules are written plainly, and it is the second bit that spoils it. -/
theorem oneOfTwo_sound_iff :
    LowersAscii plainHost.lower ∧ WrittenPlainly plainHost oneOfTwo ∧
      (OrphansSound plainHost oneOfTwo ↔ AlternativesSet plainHost oneOfTwo) := by
  have hplain : WrittenPlainly plainHost oneOfTwo := by
    unfold WrittenPlainly ReadAsFlowbits
    decide +kernel
  exact ⟨lowersAscii_toLower, hplain,
    (orphanFlowbits_sound_iff lowersAscii_toLower oneOfTwo).2 hplain⟩

end SnortOptimizer.Analyser
