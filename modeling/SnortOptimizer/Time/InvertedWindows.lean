import SnortOptimizer.Time.Windows
import Mathlib.Data.List.Forall2
import Mathlib.Order.MinMax

/-!
# Windows that end before they start

Such a window contains no instant, but it does not vanish when windows are merged: it stands among
the others with an end that may lie far before its place. The ends are then no longer in order, and
the bisection over them can be led astray.

`inAnyWindow_eq_true_iff` says which places of the list decide: those the bisection looks at on its
way to the window around the instant. `openers` are the windows that merging starts a new window
with, and `inAnyWindow_mergeWindows` tells in terms of them when merged windows are looked up right.
-/

namespace SnortOptimizer.Time

/-! ## Bisection without an order -/

/-- The places the loop of `sort.Search` looks at on its way to the place `k`. -/
def probes (k : Nat) : Nat → Nat → Nat → List Nat
  | 0, _, _ => []
  | fuel + 1, i, j =>
      if i < j then
        let h := (i + j) / 2
        h :: if k ≤ h then probes k fuel i h else probes k fuel (h + 1) j
      else []

theorem lt_of_mem_probes {k fuel i j p : Nat} (h : p ∈ probes k fuel i j) : p < j := by
  induction fuel generalizing i j with
  | zero => exact absurd h List.not_mem_nil
  | succ fuel ih =>
      rw [probes] at h
      split at h
      · rcases List.mem_cons.mp h with rfl | h
        · omega
        · split at h
          · have hlt := ih h
            omega
          · exact ih h
      · exact absurd h List.not_mem_nil

theorem le_searchLoop (f : Nat → Bool) (fuel i j : Nat) : i ≤ searchLoop f fuel i j := by
  induction fuel generalizing i j with
  | zero => exact Nat.le_refl i
  | succ fuel ih =>
      rw [searchLoop]
      split
      · dsimp only
        split
        · exact ih i _
        · exact Nat.le_trans (by omega) (ih _ j)
      · exact Nat.le_refl i

/-- The loop ends at a place it has found or at the right end. -/
theorem searchLoop_found {f : Nat → Bool} {fuel i j : Nat} (hij : i ≤ j) (hfuel : j - i ≤ fuel) :
    searchLoop f fuel i j = j ∨ f (searchLoop f fuel i j) = true := by
  induction fuel generalizing i j with
  | zero =>
      left
      rw [searchLoop]
      omega
  | succ fuel ih =>
      rw [searchLoop]
      split
      · dsimp only
        split
        · next hfound =>
            rcases ih (i := i) (j := (i + j) / 2) (by omega) (by omega) with hend | hsome
            · right
              rw [hend]
              exact hfound
            · exact .inr hsome
        · exact ih (by omega) (by omega)
      · left
        omega

/-- Where nothing is found before the place `k`, the loop ends at `k` exactly if it finds something
wherever it looks from `k` on. -/
theorem searchLoop_eq_iff {f : Nat → Bool} {k : Nat} (hbefore : ∀ i < k, f i = false)
    {fuel i j : Nat} (hik : i ≤ k) (hkj : k ≤ j) (hfuel : j - i ≤ fuel) :
    searchLoop f fuel i j = k ↔ ∀ p ∈ probes k fuel i j, k ≤ p → f p = true := by
  induction fuel generalizing i j with
  | zero =>
      have heq : i = k := by omega
      simp [searchLoop, probes, heq]
  | succ fuel ih =>
      rw [searchLoop, probes]
      split
      · next hlt =>
          dsimp only
          rw [List.forall_mem_cons]
          by_cases hp : k ≤ (i + j) / 2
          · rw [if_pos hp]
            cases hf : f ((i + j) / 2) with
            | true =>
                rw [if_pos rfl, ih hik hp (by omega)]
                simp
            | false =>
                -- the loop goes past `k` and never comes back
                have hpast := le_searchLoop f fuel ((i + j) / 2 + 1) j
                constructor
                · intro hend
                  rw [if_neg (by decide)] at hend
                  omega
                · intro hall
                  exact absurd (hall.1 hp) (by decide)
          · rw [if_neg hp, hbefore _ (by omega), if_neg (by decide), ih (by omega) hkj (by omega)]
            simp [hp]
      · next hge =>
          have heq : i = k := by omega
          simp [heq]

theorem search_eq_iff {f : Nat → Bool} {n k : Nat} (hbefore : ∀ i < k, f i = false) (hk : k ≤ n) :
    search n f = k ↔ ∀ p ∈ probes k n 0 n, k ≤ p → f p = true :=
  searchLoop_eq_iff hbefore (Nat.zero_le k) hk (Nat.le_refl n)

/-! ## The lookup -/

variable {α : Type} [LinearOrder α]

/-- **What is found is there**, in whatever order the windows are. -/
theorem contains_of_inAnyWindow {ws : List (Window α)} {t : α} (h : inAnyWindow t ws = true) :
    ∃ k w, search ws.length (fun i => ws[i]?.any fun w => decide (t ≤ w.stop)) = k ∧
      ws[k]? = some w ∧ w.Contains t := by
  let f : Nat → Bool := fun i => ws[i]?.any fun w => decide (t ≤ w.stop)
  have hfound : search ws.length f = ws.length ∨ f (search ws.length f) = true :=
    searchLoop_found (Nat.zero_le _) (Nat.le_refl _)
  obtain ⟨w, hw, hstart⟩ := (Option.any_eq_true _ _).mp h
  refine ⟨_, w, rfl, hw, of_decide_eq_true hstart, ?_⟩
  obtain ⟨hlt, _⟩ := List.getElem?_eq_some_iff.mp hw
  rcases hfound with hend | hfound
  · exact absurd hend (Nat.ne_of_lt hlt)
  · have hany : (ws[search ws.length f]?.any fun w => decide (t ≤ w.stop)) = true := hfound
    rw [hw, Option.any_some, decide_eq_true_eq] at hany
    exact hany

/-- **The window around the instant is found** exactly if no window that the bisection looks at from
there on has ended before the instant. -/
theorem inAnyWindow_eq_true_iff {ws : List (Window α)}
    (hordered : ws.Pairwise fun v w => v.stop < w.start) {k : Nat} {w : Window α} {t : α}
    (hw : ws[k]? = some w) (hin : w.Contains t) :
    inAnyWindow t ws = true ↔ ∀ p ∈ probes k ws.length 0 ws.length, k ≤ p →
      (ws[p]?.any fun v => decide (t ≤ v.stop)) = true := by
  obtain ⟨hk, hwk⟩ := List.getElem?_eq_some_iff.mp hw
  have hlater : ∀ (i j : Nat) (u v : Window α), i < j → ws[i]? = some u → ws[j]? = some v →
      u.stop < v.start := by
    intro i j u v hij hu hv
    obtain ⟨hi, rfl⟩ := List.getElem?_eq_some_iff.mp hu
    obtain ⟨hj, rfl⟩ := List.getElem?_eq_some_iff.mp hv
    exact List.pairwise_iff_getElem.mp hordered i j hi hj hij
  have hbefore : ∀ i < k, (ws[i]?.any fun v => decide (t ≤ v.stop)) = false := by
    intro i hi
    have hv : ws[i]? = some ws[i] := List.getElem?_eq_getElem (by omega)
    have hgap := hlater i k _ w hi hv hw
    rw [hv, Option.any_some, decide_eq_false_iff_not, not_le]
    exact lt_of_lt_of_le hgap hin.1
  rw [← search_eq_iff hbefore (Nat.le_of_lt hk)]
  constructor
  · intro hfound
    obtain ⟨i, v, hi, hv, hvin⟩ := contains_of_inAnyWindow hfound
    rw [hi]
    -- windows that lie apart do not contain the same instant
    rcases Nat.lt_trichotomy i k with hlt | heq | hgt
    · have hgap := hlater i k v w hlt hv hw
      exact absurd (lt_of_le_of_lt hvin.2 (lt_of_lt_of_le hgap hin.1)) (lt_irrefl t)
    · exact heq
    · have hgap := hlater k i w v hgt hw hv
      exact absurd (lt_of_le_of_lt hin.2 (lt_of_lt_of_le hgap hvin.1)) (lt_irrefl t)
  · intro hsearch
    rw [inAnyWindow, hsearch, hw, Option.any_some, decide_eq_true_eq]
    exact hin.1

/-! ## Merging -/

/-- The windows that start behind the end of every window before them, those in `seen` included. -/
def openersAfter (seen : List (Window α)) : List (Window α) → List (Window α)
  | [] => []
  | w :: ws =>
      if ∀ v ∈ seen, v.stop < w.start then w :: openersAfter (seen ++ [w]) ws
      else openersAfter (seen ++ [w]) ws

def openers (ws : List (Window α)) : List (Window α) := openersAfter [] ws

theorem openersAfter_concat (seen ws : List (Window α)) (w : Window α) :
    openersAfter seen (ws ++ [w]) =
      openersAfter seen ws ++ if ∀ v ∈ seen ++ ws, v.stop < w.start then [w] else [] := by
  induction ws generalizing seen with
  | nil => simp [openersAfter]
  | cons v ws ih =>
      rw [List.cons_append, openersAfter, openersAfter, ih, List.append_assoc]
      split <;> rfl

theorem openersAfter_sublist (seen ws : List (Window α)) : (openersAfter seen ws).Sublist ws := by
  induction ws generalizing seen with
  | nil => exact List.Sublist.refl []
  | cons w ws ih =>
      rw [openersAfter]
      split
      · exact (ih _).cons_cons w
      · exact (ih _).cons w

theorem mergeStep_concat {merged : List (Window α)} {w : Window α}
    (h : ∀ v ∈ merged, v.stop < w.start) : mergeStep merged w = merged ++ [w] := by
  rw [mergeStep]
  cases hlast : merged.getLast? with
  | none => rfl
  | some last =>
      have hgap := h last (List.mem_of_getLast? hlast)
      exact if_neg (not_le.mpr hgap)

theorem mergeStep_absorb {front : List (Window α)} {last w : Window α} (h : w.start ≤ last.stop) :
    mergeStep (front ++ [last]) w = front ++ [{ last with stop := max last.stop w.stop }] := by
  rw [mergeStep, List.getLast?_concat]
  dsimp only
  rw [if_pos h, List.dropLast_concat]
  split
  · next hlt => rw [max_eq_right (le_of_lt hlt)]
  · next hge => rw [max_eq_left (not_lt.mp hge)]

/-- What becomes of an opener: it stays, or it is stretched, which only windows are that do not end
before they start. -/
def GrownFrom (m o : Window α) : Prop :=
  m.start = o.start ∧ (m = o ∨ (o.start ≤ o.stop ∧ o.stop ≤ m.stop))

/-- What has become of the windows seen so far, which may end before they start. -/
structure Gathered (merged seen : List (Window α)) : Prop where
  ordered : merged.Pairwise fun v w => v.stop < w.start
  starts : ∀ v ∈ merged, ∃ u ∈ seen, u.start = v.start
  stops : ∀ v ∈ merged, ∃ u ∈ seen, u.stop = v.stop
  covers : ∀ t, (∃ v ∈ merged, v.Contains t) ↔ ∃ u ∈ seen, u.Contains t
  grown : List.Forall₂ GrownFrom merged (openers seen)

theorem forall₂_concat_congr {β γ : Type} {R : β → γ → Prop} {front : List β} {last last' : β}
    {os : List γ} (h : List.Forall₂ R (front ++ [last]) os) (hlast : ∀ o, R last o → R last' o) :
    List.Forall₂ R (front ++ [last']) os := by
  induction front generalizing os with
  | nil =>
      cases h with
      | cons ho hrest => exact .cons (hlast _ ho) hrest
  | cons v front ih =>
      cases h with
      | cons ho hrest => exact .cons ho (ih hrest)

/-- **A window behind all others** is put at the end. -/
theorem Gathered.concat {merged seen : List (Window α)} (h : Gathered merged seen) {w : Window α}
    (hopens : ∀ v ∈ seen, v.stop < w.start) : Gathered (mergeStep merged w) (seen ++ [w]) := by
  have hbehind : ∀ v ∈ merged, v.stop < w.start := by
    intro v hv
    obtain ⟨u, hu, hstop⟩ := h.stops v hv
    rw [← hstop]
    exact hopens u hu
  rw [mergeStep_concat hbehind]
  refine ⟨?_, ?_, ?_, ?_, ?_⟩
  · rw [List.pairwise_append]
    refine ⟨h.ordered, List.pairwise_singleton _ _, ?_⟩
    intro v hv u hu
    rw [List.mem_singleton.mp hu]
    exact hbehind v hv
  · intro v hv
    rcases List.mem_append.mp hv with hv | hv
    · obtain ⟨u, hu, heq⟩ := h.starts v hv
      exact ⟨u, List.mem_append_left _ hu, heq⟩
    · exact ⟨v, List.mem_append_right _ hv, rfl⟩
  · intro v hv
    rcases List.mem_append.mp hv with hv | hv
    · obtain ⟨u, hu, heq⟩ := h.stops v hv
      exact ⟨u, List.mem_append_left _ hu, heq⟩
    · exact ⟨v, List.mem_append_right _ hv, rfl⟩
  · intro t
    simp only [List.mem_append, or_and_right, exists_or, h.covers t]
  · rw [openers, openersAfter_concat, List.nil_append, if_pos hopens]
    exact List.rel_append h.grown (.cons ⟨rfl, .inl rfl⟩ .nil)

/-- A window that starts in another one, and no earlier than it, stretches it or lies in it. -/
theorem contains_max {last w : Window α} (hstart : last.start ≤ w.start)
    (hin : w.start ≤ last.stop) (t : α) :
    ({ last with stop := max last.stop w.stop } : Window α).Contains t ↔
      last.Contains t ∨ w.Contains t := by
  rcases le_total last.stop w.stop with hle | hle
  · rw [max_eq_right hle]
    exact contains_stretch hstart hin hle t
  · rw [max_eq_left hle]
    constructor
    · exact .inl
    · rintro (hlast | ⟨hge, hstop⟩)
      · exact hlast
      · exact ⟨le_trans hstart hge, le_trans hstop hle⟩

/-- What lies in some window, behind the start of the last, lies in the last. -/
theorem Gathered.le_last_stop {front seen : List (Window α)} {last b : Window α}
    (h : Gathered (front ++ [last]) seen) {t : α} (hstart : last.start ≤ t)
    (hb : b ∈ front ++ [last]) (ht : t ≤ b.stop) : t ≤ last.stop := by
  obtain ⟨_, _, hgap⟩ := List.pairwise_append.mp h.ordered
  rcases List.mem_append.mp hb with hb | hb
  · -- the windows before the last one end before it starts
    have hbefore := hgap b hb last List.mem_cons_self
    exact absurd (lt_of_le_of_lt ht (lt_of_lt_of_le hbefore hstart)) (lt_irrefl _)
  · rwa [← List.mem_singleton.mp hb]

/-- **A window that starts in another one** goes into the last of the merged windows. -/
theorem Gathered.absorb {merged seen : List (Window α)} (h : Gathered merged seen) {w v : Window α}
    (hsorted : ∀ u ∈ seen, u.start ≤ w.start) (hv : v ∈ seen) (hin : w.start ≤ v.stop) :
    Gathered (mergeStep merged w) (seen ++ [w]) := by
  obtain ⟨b, hb, hbin⟩ := (h.covers w.start).mpr ⟨v, hv, hsorted v hv, hin⟩
  obtain ⟨front, last, rfl⟩ : ∃ front last, merged = front ++ [last] :=
    ⟨_, _, (List.dropLast_concat_getLast (List.ne_nil_of_mem hb)).symm⟩
  obtain ⟨hfront, _, hgap⟩ := List.pairwise_append.mp h.ordered
  have hlast : last ∈ front ++ [last] := List.mem_append_right _ List.mem_cons_self
  obtain ⟨u, hu, hustart⟩ := h.starts last hlast
  have hstart : last.start ≤ w.start := hustart ▸ hsorted u hu
  have hlastin : w.start ≤ last.stop := h.le_last_stop hstart hb hbin.2
  have hopens : ¬ ∀ v ∈ seen, v.stop < w.start := fun hall => not_le.mpr (hall v hv) hin
  rw [mergeStep_absorb hlastin]
  refine ⟨?_, ?_, ?_, ?_, ?_⟩
  · rw [List.pairwise_append]
    refine ⟨hfront, List.pairwise_singleton _ _, ?_⟩
    intro v hv u hu
    rw [List.mem_singleton.mp hu]
    exact hgap v hv last List.mem_cons_self
  · intro m hm
    have hold : ∃ m' ∈ front ++ [last], m'.start = m.start := by
      rcases List.mem_append.mp hm with hm | hm
      · exact ⟨m, List.mem_append_left _ hm, rfl⟩
      · rw [List.mem_singleton.mp hm]
        exact ⟨last, hlast, rfl⟩
    obtain ⟨m', hm', heq'⟩ := hold
    obtain ⟨u, hu, heq⟩ := h.starts m' hm'
    exact ⟨u, List.mem_append_left _ hu, heq.trans heq'⟩
  · intro m hm
    rcases List.mem_append.mp hm with hm | hm
    · obtain ⟨u, hu, heq⟩ := h.stops m (List.mem_append_left _ hm)
      exact ⟨u, List.mem_append_left _ hu, heq⟩
    · rw [List.mem_singleton.mp hm]
      rcases max_choice last.stop w.stop with hmax | hmax
      · obtain ⟨u, hu, heq⟩ := h.stops last hlast
        exact ⟨u, List.mem_append_left _ hu, heq.trans hmax.symm⟩
      · exact ⟨w, List.mem_append_right _ List.mem_cons_self, hmax.symm⟩
  · intro t
    have hcovers := h.covers t
    simp only [List.mem_append, List.mem_singleton, or_and_right, exists_or, exists_eq_left]
      at hcovers ⊢
    rw [contains_max hstart hlastin, ← or_assoc, hcovers]
  · rw [openers, openersAfter_concat, List.nil_append, if_neg hopens, List.append_nil]
    apply forall₂_concat_congr h.grown
    rintro o ⟨hostart, rfl | ⟨hproper, hle⟩⟩
    · exact ⟨rfl, .inr ⟨le_trans hstart hlastin, le_max_left _ _⟩⟩
    · exact ⟨hostart, .inr ⟨hproper, le_max_of_le_left hle⟩⟩

/-- **All windows**, in the order of their starts. -/
theorem Gathered.foldl {ws merged seen : List (Window α)} (h : Gathered merged seen)
    (hsorted : (seen ++ ws).Pairwise fun v w => v.start ≤ w.start) :
    Gathered (ws.foldl mergeStep merged) (seen ++ ws) := by
  induction ws generalizing merged seen with
  | nil =>
      rw [List.append_nil]
      exact h
  | cons w ws ih =>
      have hbefore : ∀ u ∈ seen, u.start ≤ w.start := fun u hu =>
        (List.pairwise_append.mp hsorted).2.2 u hu w List.mem_cons_self
      have hone : Gathered (mergeStep merged w) (seen ++ [w]) := by
        by_cases hopens : ∀ v ∈ seen, v.stop < w.start
        · exact h.concat hopens
        · push Not at hopens
          obtain ⟨v, hv, hin⟩ := hopens
          exact h.absorb hbefore hv hin
      have happend : seen ++ w :: ws = seen ++ [w] ++ ws := by simp
      rw [happend] at hsorted ⊢
      exact ih hone hsorted

theorem gathered_mergeWindows {ws : List (Window α)}
    (hsorted : ws.Pairwise fun v w => v.start ≤ w.start) : Gathered (mergeWindows ws) ws := by
  have hnil : Gathered ([] : List (Window α)) [] :=
    ⟨.nil, fun v hv => absurd hv List.not_mem_nil, fun v hv => absurd hv List.not_mem_nil,
      fun t => Iff.rfl, .nil⟩
  exact Gathered.foldl hnil hsorted

/-! ## Looking up merged windows -/

/-- **The bisection is not led astray**: among the openers it looks at on its way to the last one
that has started by `t`, none ends before `t` and starts behind it. -/
def Straight (ws : List (Window α)) (t : α) : Prop :=
  ∀ p ∈ probes ((openers ws).countP (decide <| ·.start ≤ t) - 1) (openers ws).length 0
      (openers ws).length,
    ∀ o, (openers ws)[p]? = some o → ¬ (o.stop < t ∧ t < o.start)

/-- The merged window around `t` has grown from the last opener that has started by then. -/
theorem openers_started_iff {merged ws : List (Window α)} (h : Gathered merged ws)
    (hsorted : ws.Pairwise fun v w => v.start ≤ w.start) {k : Nat} {m : Window α} {t : α}
    (hm : merged[k]? = some m) (hin : m.Contains t) {p : Nat} (hp : p < (openers ws).length) :
    (openers ws)[p].start ≤ t ↔ p ≤ k := by
  have hlength : merged.length = (openers ws).length := h.grown.length_eq
  obtain ⟨hk, hmk⟩ := List.getElem?_eq_some_iff.mp hm
  have hstart : ∀ (i : Nat) (hi : i < merged.length), merged[i].start = (openers ws)[i].start :=
    fun i hi => (h.grown.get hi (by omega)).1
  have hopeners : (openers ws).Pairwise fun v w => v.start ≤ w.start :=
    hsorted.sublist (openersAfter_sublist [] ws)
  constructor
  · intro hstarted
    by_contra hafter
    have hgap : merged[k].stop < merged[p].start :=
      List.pairwise_iff_getElem.mp h.ordered k p hk (by omega) (by omega)
    rw [hmk, hstart p (by omega)] at hgap
    exact absurd (lt_of_le_of_lt hin.2 (lt_of_lt_of_le hgap hstarted)) (lt_irrefl t)
  · intro hpk
    have hle : (openers ws)[p].start ≤ (openers ws)[k].start := by
      rcases Nat.lt_or_eq_of_le hpk with hlt | rfl
      · exact List.pairwise_iff_getElem.mp hopeners p k hp (by omega) hlt
      · exact le_refl _
    rw [← hstart k hk, hmk] at hle
    exact le_trans hle hin.1

theorem countP_openers {merged ws : List (Window α)} (h : Gathered merged ws)
    (hsorted : ws.Pairwise fun v w => v.start ≤ w.start) {k : Nat} {m : Window α} {t : α}
    (hm : merged[k]? = some m) (hin : m.Contains t) :
    (openers ws).countP (decide <| ·.start ≤ t) = k + 1 := by
  have hlength : merged.length = (openers ws).length := h.grown.length_eq
  obtain ⟨hk, _⟩ := List.getElem?_eq_some_iff.mp hm
  have hbefore : ∀ o ∈ (openers ws).take (k + 1), decide (o.start ≤ t) = true := by
    intro o ho
    obtain ⟨i, hi, rfl⟩ := List.mem_take_iff_getElem.mp ho
    rw [decide_eq_true_eq, openers_started_iff h hsorted hm hin]
    omega
  have hafter : ∀ o ∈ (openers ws).drop (k + 1), ¬ decide (o.start ≤ t) = true := by
    intro o ho
    obtain ⟨i, hi, rfl⟩ := List.mem_drop_iff_getElem.mp ho
    rw [decide_eq_true_eq, openers_started_iff h hsorted hm hin]
    omega
  calc (openers ws).countP (decide <| ·.start ≤ t)
      = ((openers ws).take (k + 1)).countP (decide <| ·.start ≤ t) +
        ((openers ws).drop (k + 1)).countP (decide <| ·.start ≤ t) := by
        rw [← List.countP_append, List.take_append_drop]
    _ = k + 1 := by
        rw [List.countP_eq_length.mpr hbefore, List.countP_eq_zero.mpr hafter, List.length_take]
        omega

/-- At one place: the merged window has not ended before `t`, unless it is one that the bisection
passes by, exactly if its opener does not lie about `t` the wrong way round. -/
theorem not_ended_iff {merged ws : List (Window α)} (h : Gathered merged ws)
    (hsorted : ws.Pairwise fun v w => v.start ≤ w.start) {k : Nat} {m : Window α} {t : α}
    (hm : merged[k]? = some m) (hin : m.Contains t) {p : Nat} (hp : p < merged.length) :
    (k ≤ p → (merged[p]?.any fun v => decide (t ≤ v.stop)) = true) ↔
      ∀ o, (openers ws)[p]? = some o → ¬ (o.stop < t ∧ t < o.start) := by
  have hlength : merged.length = (openers ws).length := h.grown.length_eq
  obtain ⟨hstart, hgrown⟩ := h.grown.get hp (by omega)
  have hstarted := openers_started_iff h hsorted hm hin (p := p) (by omega)
  have hm' := List.getElem?_eq_getElem hp
  have ho' : (openers ws)[p]? = some (openers ws)[p] := List.getElem?_eq_getElem (by omega)
  simp only [hm', ho', Option.any_some, decide_eq_true_eq, Option.some.injEq, forall_eq',
    not_and, not_lt]
  simp only [List.get_eq_getElem] at hstart hgrown
  rcases Nat.lt_trichotomy p k with hlt | rfl | hgt
  · constructor
    · intro _ _
      exact hstarted.mpr (Nat.le_of_lt hlt)
    · intro _ hle
      omega
  · constructor
    · intro _ _
      exact hstarted.mpr (Nat.le_refl _)
    · intro _ _
      rw [hm] at hm'
      rw [← Option.some.inj hm']
      exact hin.2
  · have hlate : t < (openers ws)[p].start := by
      rw [← not_le, hstarted]
      omega
    rcases hgrown with heq | ⟨hproper, hle⟩
    · rw [heq]
      constructor
      · intro hstop hended
        exact absurd (lt_of_lt_of_le hended (hstop (Nat.le_of_lt hgt))) (lt_irrefl _)
      · intro hno _
        by_contra hended
        exact not_le.mpr hlate (hno (not_le.mp hended))
    · -- a stretched window ends behind its start
      have hstop : t ≤ (openers ws)[p].stop := le_of_lt (lt_of_lt_of_le hlate hproper)
      constructor
      · intro _ hended
        exact absurd (lt_of_lt_of_le hended hstop) (lt_irrefl _)
      · intro _ _
        exact le_trans hstop hle

/-- **When merged windows are looked up right**, whether or not they end before they start: an
instant in one of them is found exactly if the bisection is not led astray, and any other instant is
never found. -/
theorem inAnyWindow_mergeWindows {ws : List (Window α)}
    (hsorted : ws.Pairwise fun v w => v.start ≤ w.start) (t : α) :
    inAnyWindow t (mergeWindows ws) = true ↔ (∃ w ∈ ws, w.Contains t) ∧ Straight ws t := by
  have hall := gathered_mergeWindows hsorted
  have hlength : (mergeWindows ws).length = (openers ws).length := hall.grown.length_eq
  have hinside : inAnyWindow t (mergeWindows ws) = true → ∃ w ∈ ws, w.Contains t := by
    intro hfound
    obtain ⟨k, m, _, hm, hin⟩ := contains_of_inAnyWindow hfound
    exact (hall.covers t).mp ⟨m, List.mem_of_getElem? hm, hin⟩
  rw [← and_iff_right_of_imp hinside]
  apply and_congr_right
  intro hex
  obtain ⟨m, hmem, hin⟩ := (hall.covers t).mpr hex
  obtain ⟨k, hm⟩ := List.getElem?_of_mem hmem
  rw [inAnyWindow_eq_true_iff hall.ordered hm hin, Straight, countP_openers hall hsorted hm hin,
    Nat.add_sub_cancel, hlength]
  apply forall₂_congr
  intro p hp
  exact not_ended_iff hall hsorted hm hin (hlength ▸ lt_of_mem_probes hp)

end SnortOptimizer.Time
