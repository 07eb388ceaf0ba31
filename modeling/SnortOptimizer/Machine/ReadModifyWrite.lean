import SnortOptimizer.Machine.Basic
import Mathlib.Data.List.Induction
import Mathlib.Data.List.Nodup
import Mathlib.Data.Option.Basic
import Mathlib.Logic.Function.Basic

/-!
# Reading, changing and writing back

Several calls change one shared value, each in two steps: it reads the value, and later it writes
what it has made of it. Reading may involve a write, too, where the value is found in need of repair
(there is nothing yet, and a default is stored). Between the steps of one call the others may do
theirs.

What a call makes of a value may depend on the moment (`ι`), but only in parts that do not count:
values are compared by an equivalence that every call respects. The rule is
`serialSoFar_of_guarded`: as long as each write finds the value that its call has read, the calls
might as well have run one after another, in the order in which they wrote.
-/

namespace SnortOptimizer

/-- The calls `κ` on a value `σ`. -/
structure Updater (σ κ ι : Type) [Setoid σ] where
  /-- What a reader writes before it goes on. -/
  repair : ι → σ → Option σ
  /-- What a call writes, given what it has read; it may also give up. -/
  update : κ → ι → σ → Option σ
  repair_congr : ∀ n m a b, a ≈ b → Option.Rel (· ≈ ·) (repair n a) (repair m b)
  update_congr : ∀ k n m a b, a ≈ b → Option.Rel (· ≈ ·) (update k n a) (update k m b)
  repair_repair : ∀ n m a b, repair n a = some b → repair m b = none
  repair_update : ∀ k n m a b, update k n a = some b → repair m b = none

namespace Updater

variable {σ κ ι : Type} [Setoid σ] (u : Updater σ κ ι)

/-- The value a reader goes on with. -/
def repaired (n : ι) (a : σ) : σ := (u.repair n a).getD a

/-- A call that is not disturbed. -/
def run (n : ι) (k : κ) (a : σ) : σ :=
  (u.update k n (u.repaired n a)).getD (u.repaired n a)

/-- Calls one after another. -/
def serial (n : ι) (ks : List κ) (a : σ) : σ := ks.foldl (fun a k => u.run n k a) a

/-- Where a call stands. -/
inductive Phase (σ : Type) where
  | idle
  | found (repair : σ)          -- it is going to repair the value
  | loaded (value : σ)          -- what it has read
  | done

structure State (σ : Type) where
  value : σ
  phase : Nat → Phase σ
  log : List Nat                -- the calls that are done, in this order

inductive Action (ι : Type) where
  | read (i : Nat) (now : ι)
  | repair (i : Nat)
  | write (i : Nat) (now : ι)

def State.setPhase (s : State σ) (i : Nat) (p : Phase σ) : State σ :=
  { s with phase := Function.update s.phase i p }

def State.new (a : σ) : State σ := { value := a, phase := fun _ => .idle, log := [] }

def step (calls : Nat → κ) (s : State σ) : Action ι → Option (State σ)
  | .read i now =>
      match s.phase i with
      | .idle =>
          match u.repair now s.value with
          | none => some (s.setPhase i (.loaded s.value))
          | some b => some (s.setPhase i (.found b))
      | _ => none
  | .repair i =>
      match s.phase i with
      | .found b => some { s.setPhase i (.loaded b) with value := b }
      | _ => none
  | .write i now =>
      match s.phase i with
      | .loaded a =>
          some { s.setPhase i .done with
            value := (u.update (calls i) now a).getD s.value
            log := s.log ++ [i] }
      | _ => none

/-- The calls numbered by `calls`, on a value that is `a` at first. -/
def machine (calls : Nat → κ) (a : σ) : Machine (State σ) (Action ι) where
  init := .new a
  step := u.step calls

/-- A write finds the value its call has read, and a repair finds a value still in need of it. -/
def FindsUnchanged (s : State σ) : Action ι → Prop
  | .read _ _ => True
  | .repair i => ∀ b, s.phase i = .found b → ∃ n, Option.Rel (· ≈ ·) (u.repair n s.value) (some b)
  | .write i _ => ∀ a, s.phase i = .loaded a → s.value ≈ a

/-- So far the calls that are done might have run one after another. -/
structure SerialSoFar (calls : Nat → κ) (n : ι) (a : σ) (s : State σ) : Prop where
  mem_log : ∀ i, i ∈ s.log ↔ s.phase i = .done
  nodup : s.log.Nodup
  serial : s.log ≠ [] → s.value ≈ u.serial n (s.log.map calls) a

/-! ## Repaired values -/

variable {u : Updater σ κ ι} {calls : Nat → κ}

/-- Whether a value is in need of repair does not depend on the moment. -/
theorem repair_eq_none_of_equiv {n m : ι} {a b : σ} (hab : a ≈ b) (h : u.repair n a = none) :
    u.repair m b = none := by
  have hrel := u.repair_congr n m a b hab
  rw [h] at hrel
  cases hb : u.repair m b with
  | none => rfl
  | some c =>
      rw [hb] at hrel
      cases hrel

theorem repair_repaired (n m : ι) (a : σ) : u.repair m (u.repaired n a) = none := by
  unfold repaired
  cases h : u.repair n a with
  | none => exact repair_eq_none_of_equiv (Setoid.refl a) h
  | some b => exact u.repair_repair n m a b h

theorem repaired_of_none {n : ι} {a : σ} (h : u.repair n a = none) : u.repaired n a = a := by
  rw [repaired, h, Option.getD_none]

theorem getD_congr {a b : Option σ} {c d : σ} (h : Option.Rel (· ≈ ·) a b) (hcd : c ≈ d) :
    a.getD c ≈ b.getD d := by
  cases h with
  | none => exact hcd
  | some hab => exact hab

theorem repaired_congr {n m : ι} {a b : σ} (hab : a ≈ b) : u.repaired n a ≈ u.repaired m b :=
  getD_congr (u.repair_congr n m a b hab) hab

theorem repair_run (n m : ι) (k : κ) (a : σ) : u.repair m (u.run n k a) = none := by
  unfold run
  cases h : u.update k n (u.repaired n a) with
  | none => exact repair_repaired n m a
  | some b => exact u.repair_update k n m _ b h

theorem serial_append (n : ι) (ks : List κ) (k : κ) (a : σ) :
    u.serial n (ks ++ [k]) a = u.run n k (u.serial n ks a) := by
  rw [serial, List.foldl_append]
  rfl

/-- Once a call has run the value needs no repair. -/
theorem repair_serial {n m : ι} {ks : List κ} {a : σ} (h : ks ≠ []) :
    u.repair m (u.serial n ks a) = none := by
  induction ks using List.reverseRecOn with
  | nil => exact absurd rfl h
  | append_singleton ks k _ =>
      rw [serial_append]
      exact repair_run n m k _

/-! ## Guarded runs are serial -/

/-- What guarded steps keep. -/
structure Consistent (u : Updater σ κ ι) (calls : Nat → κ) (n : ι) (a : σ) (s : State σ) : Prop
    where
  mem_log : ∀ i, i ∈ s.log ↔ s.phase i = .done
  nodup : s.log.Nodup
  agree : u.repaired n s.value ≈ u.repaired n (u.serial n (s.log.map calls) a)
  settled : s.log ≠ [] → ∀ m, u.repair m s.value = none
  found : ∀ i b, s.phase i = .found b → ∀ m, u.repair m b = none
  loaded : ∀ i v, s.phase i = .loaded v → ∀ m, u.repair m v = none

variable {n : ι} {a : σ} {s s' : State σ}

theorem Consistent.serialSoFar (h : Consistent u calls n a s) : SerialSoFar u calls n a s := by
  refine ⟨h.mem_log, h.nodup, fun hne => ?_⟩
  have hvalue := repaired_of_none (h.settled hne n)
  have hserial : u.repair n (u.serial n (s.log.map calls) a) = none :=
    repair_serial (by simpa using hne)
  have hagree := h.agree
  rw [hvalue, repaired_of_none hserial] at hagree
  exact hagree

/-- A call that reads or repairs is not done before and not done after. -/
theorem Consistent.setPhase (h : Consistent u calls n a s) {i : Nat} {p : Phase σ}
    (hi : s.phase i ≠ .done) (hp : p ≠ .done)
    (hfound : ∀ b, p = .found b → ∀ m, u.repair m b = none)
    (hloaded : ∀ v, p = .loaded v → ∀ m, u.repair m v = none) :
    Consistent u calls n a (s.setPhase i p) := by
  obtain ⟨hmem, hnodup, hagree, hsettled, hfounds, hloadeds⟩ := h
  constructor <;> simp only [State.setPhase, Function.update_apply] at * <;> grind

theorem Consistent.repair (h : Consistent u calls n a s) {i : Nat} {b : σ}
    (hi : s.phase i = .found b) {m : ι}
    (hneed : Option.Rel (· ≈ ·) (u.repair m s.value) (some b)) :
    Consistent u calls n a { s.setPhase i (.loaded b) with value := b } := by
  have hb := h.found i b hi
  obtain ⟨c, hc, hcb⟩ : ∃ c, u.repair m s.value = some c ∧ c ≈ b := by
    cases hr : u.repair m s.value with
    | none =>
        rw [hr] at hneed
        cases hneed
    | some c =>
        rw [hr] at hneed
        cases hneed with
        | some hcb => exact ⟨c, rfl, hcb⟩
  -- the value is in need of repair, so no call is done yet
  have hnil : s.log = [] := by
    by_contra hne
    rw [h.settled hne m] at hc
    cases hc
  have hphase := h.setPhase (i := i) (p := .loaded b) (by simp [hi]) (by simp) (by simp)
    (by rintro v hv; cases hv; exact hb)
  refine { hphase with agree := ?_, settled := fun hne => absurd hnil hne }
  have hsame : u.repaired n b ≈ u.repaired n s.value := by
    have hstep : u.repaired m s.value ≈ u.repaired n s.value := repaired_congr (Setoid.refl _)
    rw [repaired, hc, Option.getD_some] at hstep
    rw [repaired_of_none (hb n)]
    exact Setoid.trans (Setoid.symm hcb) hstep
  exact Setoid.trans hsame h.agree

theorem Consistent.write (h : Consistent u calls n a s) {i : Nat} {v : σ} {now : ι}
    (hi : s.phase i = .loaded v) (hsame : s.value ≈ v) :
    Consistent u calls n a
      { s.setPhase i .done with
        value := (u.update (calls i) now v).getD s.value
        log := s.log ++ [i] } := by
  have hv := h.loaded i v hi
  have hvalue : ∀ m, u.repair m s.value = none :=
    fun m => repair_eq_none_of_equiv (Setoid.symm hsame) (hv m)
  have hnew : ∀ m, u.repair m ((u.update (calls i) now v).getD s.value) = none := by
    intro m
    cases hupdate : u.update (calls i) now v with
    | none => exact hvalue m
    | some b => exact u.repair_update (calls i) now m v b hupdate
  -- undisturbed, the call would have started from an equivalent value
  have hbase : s.value ≈ u.repaired n (u.serial n (s.log.map calls) a) := by
    have hagree := h.agree
    rw [repaired_of_none (hvalue n)] at hagree
    exact hagree
  have hrun : (u.update (calls i) now v).getD s.value ≈
      u.run n (calls i) (u.serial n (s.log.map calls) a) :=
    getD_congr (u.update_congr _ _ _ _ _ (Setoid.trans (Setoid.symm hsame) hbase)) hbase
  have hnot : i ∉ s.log := by
    rw [h.mem_log i, hi]
    simp
  refine ⟨?_, ?_, ?_, fun _ => hnew, ?_, ?_⟩
  · intro j
    show j ∈ s.log ++ [i] ↔ Function.update s.phase i .done j = .done
    rw [List.mem_append, List.mem_singleton, h.mem_log j, Function.update_apply]
    by_cases hj : j = i <;> simp [hj]
  · show (s.log ++ [i]).Nodup
    rw [List.nodup_append]
    refine ⟨h.nodup, List.nodup_singleton i, ?_⟩
    rintro j hj k hk rfl
    rw [List.mem_singleton.mp hk] at hj
    exact hnot hj
  · show u.repaired n _ ≈ u.repaired n (u.serial n ((s.log ++ [i]).map calls) a)
    rw [List.map_append, List.map_singleton, serial_append]
    exact repaired_congr hrun
  · intro j b hj
    have hj : Function.update s.phase i .done j = .found b := hj
    rw [Function.update_apply] at hj
    split at hj
    · cases hj
    · exact h.found j b hj
  · intro j w hj
    have hj : Function.update s.phase i .done j = .loaded w := hj
    rw [Function.update_apply] at hj
    split at hj
    · cases hj
    · exact h.loaded j w hj

theorem consistent_step {act : Action ι} (h : Consistent u calls n a s)
    (hguard : u.FindsUnchanged s act) (hstep : u.step calls s act = some s') :
    Consistent u calls n a s' := by
  cases act with
  | read i now =>
      simp only [step] at hstep
      split at hstep
      · next hi =>
          split at hstep
          · next hnone =>
              cases hstep
              refine h.setPhase (by simp [hi]) (by simp) (by simp) ?_
              rintro v hv m
              cases hv
              exact repair_eq_none_of_equiv (Setoid.refl _) hnone
          · next b hb =>
              cases hstep
              refine h.setPhase (by simp [hi]) (by simp) ?_ (by simp)
              rintro c hc m
              cases hc
              exact u.repair_repair now m s.value b hb
      · cases hstep
  | repair i =>
      simp only [step] at hstep
      split at hstep
      · next b hi =>
          cases hstep
          obtain ⟨m, hneed⟩ := hguard b hi
          exact h.repair hi hneed
      · cases hstep
  | write i now =>
      simp only [step] at hstep
      split at hstep
      · next v hi =>
          cases hstep
          exact h.write hi (hguard v hi)
      · cases hstep

/-- **Serial rule**: where every write finds the value its call has read, the calls that are done
might at any time have run one after another. -/
theorem serialSoFar_of_guarded (u : Updater σ κ ι) (calls : Nat → κ) (n : ι) (a : σ)
    {acts : List (Action ι)} (hG : (u.machine calls a).Guarded u.FindsUnchanged (.new a) acts) :
    (u.machine calls a).Always (SerialSoFar u calls n a) (.new a) acts := by
  have hnew : Consistent u calls n a (.new a) :=
    ⟨by simp [State.new], List.nodup_nil, Setoid.refl _, fun h => absurd rfl h,
      by simp [State.new], by simp [State.new]⟩
  have hall := Machine.always_of_guarded (m := u.machine calls a)
    (fun s act s' hs hg h => consistent_step hs hg h) hnew hG
  exact hall.imp fun s hs => hs.serialSoFar

end Updater

end SnortOptimizer
