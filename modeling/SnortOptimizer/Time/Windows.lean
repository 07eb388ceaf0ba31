import Mathlib.Order.Lattice
import Mathlib.Data.List.Basic
import Mathlib.Data.List.Pairwise

/-!
# Time windows

Closed windows of an ordered type, merged where they overlap, and looked up by bisection. Whether an
instant lies in one of many windows is thus answered by looking at a single one.

`mergeWindows` takes the windows in the order of their starts and leaves windows that lie apart
(`Apart`) and cover what the given ones covered; `inAnyWindow` finds the first window that has not
ended, which in a list of that kind is the only one that can contain the instant.
`inAnyWindow_merge` puts the two together.
-/

namespace SnortOptimizer.Time

variable {α : Type}

structure Window (α : Type) where
  start : α
  stop : α
  deriving DecidableEq, Repr

/-! ## Bisection -/

/-- The loop of Go's `sort.Search`. Every round makes the interval shorter, so its length is enough
fuel. -/
def searchLoop (f : Nat → Bool) : Nat → Nat → Nat → Nat
  | 0, i, _ => i
  | fuel + 1, i, j =>
      if i < j then
        let h := (i + j) / 2
        if f h then searchLoop f fuel i h else searchLoop f fuel (h + 1) j
      else i

/-- `sort.Search`. -/
def search (n : Nat) (f : Nat → Bool) : Nat := searchLoop f n 0 n

/-- What the loop keeps: on the left of the interval nothing is found, on its right everything. -/
theorem searchLoop_spec {f : Nat → Bool} {n : Nat}
    (hmono : ∀ i j, i ≤ j → j < n → f i = true → f j = true) {fuel i j : Nat} (hij : i ≤ j)
    (hjn : j ≤ n) (hfuel : j - i ≤ fuel) (hleft : ∀ k < i, f k = false)
    (hright : ∀ k, j ≤ k → k < n → f k = true) :
    (∀ k < searchLoop f fuel i j, f k = false) ∧
      (searchLoop f fuel i j < n → f (searchLoop f fuel i j) = true) := by
  induction fuel generalizing i j with
  | zero =>
      have heq : j = i := by omega
      rw [searchLoop]
      exact ⟨hleft, hright i (by omega)⟩
  | succ fuel ih =>
      rw [searchLoop]
      split
      · next hlt =>
          dsimp only
          split
          · next hfound =>
              apply ih (by omega) (by omega) (by omega) hleft
              intro k hk hkn
              exact hmono ((i + j) / 2) k hk hkn hfound
          · next hno =>
              apply ih (by omega) hjn (by omega) _ hright
              intro k hk
              by_contra hyes
              apply hno
              exact hmono k ((i + j) / 2) (by omega) (by omega) (Bool.not_eq_false _ ▸ hyes)
      · next hge => exact ⟨hleft, hright i (by omega)⟩

/-- The first place of a monotone condition. -/
theorem search_spec {f : Nat → Bool} {n : Nat}
    (hmono : ∀ i j, i ≤ j → j < n → f i = true → f j = true) :
    (∀ k < search n f, f k = false) ∧ (search n f < n → f (search n f) = true) := by
  apply searchLoop_spec hmono (Nat.zero_le n) (Nat.le_refl n) (Nat.le_refl n)
  · exact fun k hk => absurd hk (Nat.not_lt_zero k)
  · exact fun k hk hkn => absurd hkn (Nat.not_lt.mpr hk)

variable [LinearOrder α]

def Window.Contains (w : Window α) (t : α) : Prop := w.start ≤ t ∧ t ≤ w.stop

/-- The windows one by one, in order, with a gap before each but the first. -/
structure Apart (ws : List (Window α)) : Prop where
  ordered : ws.Pairwise fun v w => v.stop < w.start
  proper : ∀ w ∈ ws, w.start ≤ w.stop

def inAnyWindow (t : α) (ws : List (Window α)) : Bool :=
  let i := search ws.length fun i => ws[i]?.any fun w => decide (t ≤ w.stop)
  ws[i]?.any fun w => decide (w.start ≤ t)

/-- **Looking at one window is enough** in a list of windows that lie apart. -/
theorem inAnyWindow_iff {ws : List (Window α)} (h : Apart ws) (t : α) :
    inAnyWindow t ws = true ↔ ∃ w ∈ ws, w.Contains t := by
  let f : Nat → Bool := fun i => ws[i]?.any fun w => decide (t ≤ w.stop)
  have hf : ∀ i w, ws[i]? = some w → (f i = true ↔ t ≤ w.stop) := by
    intro i w hw
    show (ws[i]?.any fun w => decide (t ≤ w.stop)) = true ↔ _
    rw [hw, Option.any_some, decide_eq_true_eq]
  have hlater : ∀ (i j : Nat) (v w : Window α), i < j → ws[i]? = some v → ws[j]? = some w →
      v.stop < w.start := by
    intro i j v w hij hv hw
    obtain ⟨hi, rfl⟩ := List.getElem?_eq_some_iff.mp hv
    obtain ⟨hj, rfl⟩ := List.getElem?_eq_some_iff.mp hw
    exact List.pairwise_iff_getElem.mp h.ordered i j hi hj hij
  have hmono : ∀ i j, i ≤ j → j < ws.length → f i = true → f j = true := by
    intro i j hij hj hi
    rcases Nat.lt_or_eq_of_le hij with hlt | rfl
    · have hv : ws[i]? = some ws[i] := List.getElem?_eq_getElem (by omega)
      have hw : ws[j]? = some ws[j] := List.getElem?_eq_getElem hj
      rw [hf i _ hv] at hi
      rw [hf j _ hw]
      exact le_of_lt (lt_of_le_of_lt hi (lt_of_lt_of_le (hlater i j _ _ hlt hv hw)
        (h.proper _ (List.getElem_mem hj))))
    · exact hi
  obtain ⟨hbefore, hat⟩ := search_spec hmono
  show (ws[search ws.length f]?.any fun w => decide (w.start ≤ t)) = true ↔ _
  constructor
  · intro hany
    obtain ⟨w, hw, hstart⟩ := (Option.any_eq_true _ _).mp hany
    obtain ⟨hlt, _⟩ := List.getElem?_eq_some_iff.mp hw
    exact ⟨w, List.mem_of_getElem? hw, of_decide_eq_true hstart, (hf _ w hw).mp (hat hlt)⟩
  · rintro ⟨w, hmem, hstart, hstop⟩
    obtain ⟨j, hj⟩ := List.getElem?_of_mem hmem
    have hfj : f j = true := (hf j w hj).mpr hstop
    have hle : search ws.length f ≤ j := by
      by_contra hgt
      rw [hbefore j (by omega)] at hfj
      cases hfj
    obtain ⟨hjlt, _⟩ := List.getElem?_eq_some_iff.mp hj
    have hi : ws[search ws.length f]? = some (ws.get ⟨search ws.length f, by omega⟩) :=
      List.getElem?_eq_getElem _
    rw [hi, Option.any_some, decide_eq_true_eq]
    rcases Nat.lt_or_eq_of_le hle with hlt | heq
    · -- an earlier window ends before this one starts
      have hgap := hlater _ j _ w hlt hi hj
      have hstops := (hf _ _ hi).mp (hat (by omega))
      exact absurd (lt_of_le_of_lt hstops (lt_of_lt_of_le hgap hstart)) (lt_irrefl t)
    · rw [← heq, hi] at hj
      rw [Option.some.inj hj]
      exact hstart

/-! ## Merging -/

/-- The body of the loop in `mergeIndexWindows`. -/
def mergeStep (merged : List (Window α)) (w : Window α) : List (Window α) :=
  match merged.getLast? with
  | none => merged ++ [w]
  | some last =>
      if w.start ≤ last.stop then
        if last.stop < w.stop then merged.dropLast ++ [{ last with stop := w.stop }] else merged
      else merged ++ [w]

def mergeWindows (ws : List (Window α)) : List (Window α) := ws.foldl mergeStep []

/-- What has become of the windows seen so far. -/
structure MergedFrom (merged seen : List (Window α)) : Prop where
  apart : Apart merged
  starts : ∀ v ∈ merged, ∃ u ∈ seen, u.start = v.start
  covers : ∀ t, (∃ v ∈ merged, v.Contains t) ↔ ∃ u ∈ seen, u.Contains t

theorem Apart.append {ws : List (Window α)} {last w : Window α} (h : Apart (ws ++ [last]))
    (hgap : last.stop < w.start) (hw : w.start ≤ w.stop) : Apart (ws ++ [last] ++ [w]) := by
  constructor
  · rw [List.pairwise_append]
    refine ⟨h.ordered, List.pairwise_singleton _ _, ?_⟩
    intro v hv u hu
    rw [List.mem_singleton.mp hu]
    rcases List.mem_append.mp hv with hv | hv
    · have hbefore := (List.pairwise_append.mp h.ordered).2.2 v hv last List.mem_cons_self
      have hproper := h.proper last (List.mem_append_right _ List.mem_cons_self)
      exact lt_of_lt_of_le hbefore (le_of_lt (lt_of_le_of_lt hproper hgap))
    · rw [List.mem_singleton.mp hv]
      exact hgap
  · intro v hv
    rcases List.mem_append.mp hv with hv | hv
    · exact h.proper v hv
    · rw [List.mem_singleton.mp hv]
      exact hw

theorem Apart.stretch {ws : List (Window α)} {last : Window α} (h : Apart (ws ++ [last])) {stop : α}
    (hstop : last.stop < stop) : Apart (ws ++ [{ last with stop := stop }]) := by
  have hproper := h.proper last (List.mem_append_right _ List.mem_cons_self)
  obtain ⟨hws, _, hbefore⟩ := List.pairwise_append.mp h.ordered
  constructor
  · rw [List.pairwise_append]
    refine ⟨hws, List.pairwise_singleton _ _, ?_⟩
    intro v hv u hu
    rw [List.mem_singleton.mp hu]
    exact hbefore v hv last List.mem_cons_self
  · intro v hv
    rcases List.mem_append.mp hv with hv | hv
    · exact h.proper v (List.mem_append_left _ hv)
    · rw [List.mem_singleton.mp hv]
      exact le_of_lt (lt_of_le_of_lt hproper hstop)

/-- A window that starts in another one, and no earlier than it, continues it. -/
theorem contains_stretch {last w : Window α} (hstart : last.start ≤ w.start)
    (hin : w.start ≤ last.stop) (hstop : last.stop ≤ w.stop) (t : α) :
    ({ last with stop := w.stop } : Window α).Contains t ↔ last.Contains t ∨ w.Contains t := by
  constructor
  · rintro ⟨hge, hle⟩
    rcases le_or_gt t last.stop with ht | ht
    · exact .inl ⟨hge, ht⟩
    · exact .inr ⟨le_of_lt (lt_of_le_of_lt hin ht), hle⟩
  · rintro (⟨hge, hle⟩ | ⟨hge, hle⟩)
    · exact ⟨hge, le_trans hle hstop⟩
    · exact ⟨le_trans hstart hge, hle⟩

/-- **One window** more. -/
theorem MergedFrom.step {merged seen : List (Window α)} (h : MergedFrom merged seen) {w : Window α}
    (hw : w.start ≤ w.stop) (hsorted : ∀ u ∈ seen, u.start ≤ w.start) :
    MergedFrom (mergeStep merged w) (seen ++ [w]) := by
  have hstarts : ∀ v ∈ merged, ∃ u ∈ seen ++ [w], u.start = v.start := by
    intro v hv
    obtain ⟨u, hu, heq⟩ := h.starts v hv
    exact ⟨u, List.mem_append_left _ hu, heq⟩
  have hcovers : ∀ t, (∃ u ∈ seen ++ [w], u.Contains t) ↔
      (∃ v ∈ merged, v.Contains t) ∨ w.Contains t := by
    intro t
    rw [h.covers t]
    simp [or_and_right, exists_or]
  -- where the window is appended
  have happend : Apart (merged ++ [w]) → MergedFrom (merged ++ [w]) (seen ++ [w]) := by
    intro hapart
    refine ⟨hapart, ?_, ?_⟩
    · intro v hv
      rcases List.mem_append.mp hv with hv | hv
      · exact hstarts v hv
      · exact ⟨v, List.mem_append_right _ hv, rfl⟩
    · intro t
      rw [hcovers t]
      simp [or_and_right, exists_or]
  unfold mergeStep
  rcases List.eq_nil_or_concat merged with rfl | ⟨front, last, rfl⟩
  · apply happend
    refine ⟨List.pairwise_singleton _ _, ?_⟩
    intro v hv
    rw [List.mem_singleton.mp hv]
    exact hw
  · rw [List.concat_eq_append] at *
    simp only [List.getLast?_append, List.getLast?_singleton, Option.some_or]
    have hlast : last ∈ front ++ [last] := List.mem_append_right _ List.mem_cons_self
    obtain ⟨u, hu, hustart⟩ := h.starts last hlast
    have hbefore : last.start ≤ w.start := hustart ▸ hsorted u hu
    split
    · next hin =>
        split
        · next hstop =>
            rw [List.dropLast_concat]
            refine ⟨h.apart.stretch hstop, ?_, ?_⟩
            · intro v hv
              rcases List.mem_append.mp hv with hv | hv
              · exact hstarts v (List.mem_append_left _ hv)
              · rw [List.mem_singleton.mp hv]
                exact hstarts last hlast
            · intro t
              rw [hcovers t]
              have hstretch := contains_stretch hbefore hin (le_of_lt hstop) t
              simp only [List.mem_append, List.mem_singleton, or_and_right, exists_or,
                exists_eq_left, hstretch, or_assoc]
        · next hstop =>
            -- the window lies in the last one
            refine ⟨h.apart, hstarts, ?_⟩
            intro t
            rw [hcovers t]
            constructor
            · exact .inl
            · rintro (hv | ⟨hge, hle⟩)
              · exact hv
              · exact ⟨last, hlast, le_trans hbefore hge, le_trans hle (not_lt.mp hstop)⟩
    · next hin => exact happend (h.apart.append (not_le.mp hin) hw)

/-- **All windows**, in the order of their starts. -/
theorem foldl_mergeStep {ws merged seen : List (Window α)} (h : MergedFrom merged seen)
    (hproper : ∀ w ∈ ws, w.start ≤ w.stop)
    (hsorted : (seen ++ ws).Pairwise fun v w => v.start ≤ w.start) :
    MergedFrom (ws.foldl mergeStep merged) (seen ++ ws) := by
  induction ws generalizing merged seen with
  | nil =>
      rw [List.append_nil]
      exact h
  | cons w ws ih =>
      rw [List.forall_mem_cons] at hproper
      have hlater := (List.pairwise_append.mp hsorted).2.2
      have hone := h.step hproper.1 fun u hu => hlater u hu w List.mem_cons_self
      have happend : seen ++ w :: ws = seen ++ [w] ++ ws := by simp
      rw [happend] at hsorted ⊢
      exact ih hone hproper.2 hsorted

/-- **The lookup in merged windows** says whether one of the windows contains the instant. -/
theorem inAnyWindow_merge {ws : List (Window α)} (hproper : ∀ w ∈ ws, w.start ≤ w.stop)
    (hsorted : ws.Pairwise fun v w => v.start ≤ w.start) (t : α) :
    inAnyWindow t (mergeWindows ws) = true ↔ ∃ w ∈ ws, w.Contains t := by
  have hnil : MergedFrom ([] : List (Window α)) [] :=
    ⟨⟨.nil, fun v hv => absurd hv List.not_mem_nil⟩, fun v hv => absurd hv List.not_mem_nil,
      fun t => Iff.rfl⟩
  have hall : MergedFrom (mergeWindows ws) ([] ++ ws) := foldl_mergeStep hnil hproper hsorted
  rw [inAnyWindow_iff hall.apart, hall.covers]
  rfl

end SnortOptimizer.Time
