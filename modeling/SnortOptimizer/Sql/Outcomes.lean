import SnortOptimizer.Sql.Stores

/-!
# Runs with given outcomes

What becomes of a computation is decided by the file it starts from and by the outcomes of its
statements. `Returns` takes the outcomes as a list, one for each statement that is run, and says
what the computation returns and which file it leaves; there is one rule for each construct, and
the outcomes of a sequence are those of its parts, one after the other. `Succeeds` is the case in
which all statements go through.
-/

namespace SnortOptimizer.Sql

open Effects

variable {α β : Type}

/-! ## Outcomes in a row -/

/-- The statements from this one on have the outcomes of the list. -/
def Meets (outcomes : Nat → Outcome) : Nat → List Outcome → Prop
  | _, [] => True
  | clock, o :: os => outcomes clock = o ∧ Meets outcomes (clock + 1) os

theorem meets_append {outcomes : Nat → Outcome} {os os' : List Outcome} {clock : Nat} :
    Meets outcomes clock (os ++ os') ↔
      Meets outcomes clock os ∧ Meets outcomes (clock + os.length) os' := by
  induction os generalizing clock with
  | nil => simp [Meets]
  | cons o os ih =>
      rw [List.cons_append, Meets, Meets, ih, List.length_cons, Nat.add_assoc,
        Nat.add_comm 1, and_assoc]

theorem meets_getD (past os : List Outcome) :
    Meets (fun n => (past ++ os).getD n .done) past.length os := by
  induction os generalizing past with
  | nil => trivial
  | cons o os ih =>
      have hrest := ih (past ++ [o])
      rw [List.append_assoc, List.singleton_append, List.length_append] at hrest
      exact ⟨by simp, hrest⟩

/-- A result, returned in a session. -/
def resultIn (s : Session) : Except DbError α → EStateM.Result DbError Session α
  | .ok a => .ok a s
  | .error e => .error e s

/-- With these outcomes of its statements the computation takes the file `d` to the file `d'`, and
returns the result. -/
def Returns (x : Db α) (os : List Outcome) (d : Database) (result : Except DbError α)
    (d' : Database) : Prop :=
  ∀ s : Session, s.file = d → Meets s.outcomes s.clock os →
    ∃ s', x s = resultIn s' result ∧ s'.file = d' ∧ s'.outcomes = s.outcomes ∧
      s'.clock = s.clock + os.length

variable {x : Db α} {f : α → Db β} {os os' : List Outcome} {d d₁ d' : Database} {a : α}
  {e : DbError}

/-- There is a session in which the computation ends like this. -/
theorem Returns.exists_outcomes {result : Except DbError α} (h : Returns x os d result d') :
    ∃ outcomes s', x (.start d outcomes) = resultIn s' result ∧ s'.file = d' := by
  obtain ⟨s', hs', hfile, -, -⟩ := h (.start d fun n => os.getD n .done) rfl (meets_getD [] os)
  exact ⟨_, s', hs', hfile⟩

/-! ## The rules -/

protected theorem Returns.pure (a : α) (d : Database) : Returns (pure a) [] d (.ok a) d :=
  fun s hs _ => ⟨s, rfl, hs, rfl, rfl⟩

protected theorem Returns.throw (e : DbError) (d : Database) :
    Returns (throw e : Db α) [] d (.error e) d :=
  fun s hs _ => ⟨s, rfl, hs, rfl, rfl⟩

theorem Returns.bind {result : Except DbError β} (hx : Returns x os d (.ok a) d₁)
    (hf : Returns (f a) os' d₁ result d') : Returns (x >>= f) (os ++ os') d result d' := by
  intro s hs hos
  obtain ⟨hos, hos'⟩ := meets_append.mp hos
  obtain ⟨t, ht, hfile, houtcomes, hclock⟩ := hx s hs hos
  rw [← houtcomes, ← hclock] at hos'
  obtain ⟨u, hu, hfile', houtcomes', hclock'⟩ := hf t hfile hos'
  refine ⟨u, ?_, hfile', houtcomes'.trans houtcomes, ?_⟩
  · cases result with
    | ok b => exact bind_eq_ok.mpr ⟨a, t, ht, hu⟩
    | error e => exact bind_eq_error.mpr (.inr ⟨a, t, ht, hu⟩)
  · rw [hclock', hclock, List.length_append, Nat.add_assoc]

theorem Returns.bind_error (hx : Returns x os d (.error e) d') :
    Returns (x >>= f) os d (.error e) d' := by
  intro s hs hos
  obtain ⟨t, ht, hrest⟩ := hx s hs hos
  exact ⟨t, bind_eq_error.mpr (.inl ht), hrest⟩

section Statement

variable {g : Database → Except DbError (α × Database)}

theorem Returns.statement (h : g d = .ok (a, d')) : Returns (statement g) [.done] d (.ok a) d' := by
  rintro s rfl ⟨hdone, -⟩
  refine ⟨{ s with clock := s.clock + 1, file := d' }, ?_, rfl, rfl, rfl⟩
  rw [Sql.statement, hdone, h]
  rfl

theorem Returns.statement_error (h : g d = .error e) :
    Returns (Sql.statement g) [.done] d (.error e) d := by
  rintro s rfl ⟨hdone, -⟩
  refine ⟨{ s with clock := s.clock + 1 }, ?_, rfl, rfl, rfl⟩
  rw [Sql.statement, hdone, h]
  rfl

theorem Returns.statement_refused (h : g d = .ok (a, d')) :
    Returns (Sql.statement g) [.refused] d (.error .constraint) d := by
  rintro s rfl ⟨hrefused, -⟩
  refine ⟨{ s with clock := s.clock + 1 }, ?_, rfl, rfl, rfl⟩
  rw [Sql.statement, hrefused, h]
  rfl

end Statement

/-- The computation is a single statement. -/
def IsStatement (x : Db α) : Prop := ∃ g, x = statement g

theorem isStatement_query (g : Database → Except DbError α) : IsStatement (query g) := ⟨_, rfl⟩

theorem isStatement_change (g : Database → Except DbError Database) : IsStatement (change g) :=
  ⟨_, rfl⟩

theorem isStatement_changeRows (T : TableName) (columns : List String)
    (f : StoredTable → List StoredRow) : IsStatement (changeRows T columns f) :=
  isStatement_change _

/-- A statement that fails for reasons of its own. -/
theorem Returns.failed (hx : IsStatement x) (message : String) (d : Database) :
    Returns x [.failed message] d (.error (.fault message)) d := by
  obtain ⟨g, rfl⟩ := hx
  rintro s rfl ⟨hfailed, -⟩
  refine ⟨{ s with clock := s.clock + 1 }, ?_, rfl, rfl, rfl⟩
  rw [Sql.statement, hfailed]
  rfl

theorem Returns.query {g : Database → Except DbError α} (h : g d = .ok a) :
    Returns (query g) [.done] d (.ok a) d :=
  Returns.statement (by rw [h]; rfl)

theorem Returns.attempt (d : Database) : Returns attempt [.done] d (.ok ()) d := Returns.query rfl

section Change

variable {g : Database → Except DbError Database}

theorem Returns.change (h : g d = .ok d') : Returns (change g) [.done] d (.ok ()) d' :=
  Returns.statement (by rw [h]; rfl)

theorem Returns.change_error (h : g d = .error e) : Returns (Sql.change g) [.done] d (.error e) d :=
  Returns.statement_error (by rw [h]; rfl)

theorem Returns.change_refused (h : g d = .ok d') :
    Returns (Sql.change g) [.refused] d (.error .constraint) d := by
  have hchange : (g d).map (fun d' => ((), d')) = .ok ((), d') := by
    rw [h]
    rfl
  exact Returns.statement_refused hchange

end Change

theorem Returns.transaction {script : Db Unit} (h : Returns script os d (.ok ()) d') :
    Returns (transaction script) ([.done] ++ (os ++ [.done])) d (.ok ()) d' := by
  intro s hs hos
  have hall := (Returns.attempt d).bind (f := fun _ => do script; Sql.attempt)
    (h.bind (Returns.attempt d'))
  obtain ⟨t, ht, hrest⟩ := hall s hs hos
  refine ⟨t, ?_, hrest⟩
  have ht : (do Sql.attempt; script; Sql.attempt : Db Unit) s = .ok () t := ht
  rw [Sql.transaction, ht]
  rfl

/-- The last step of a script. -/
theorem Returns.forM_singleton {step : Db Unit} {result : Except DbError Unit}
    (h : Returns step os d result d') : Returns ([step].forM id) os d result d' := by
  cases result with
  | ok u =>
      have hlast := h.bind (f := fun _ => pure ()) (Returns.pure () d')
      rw [List.append_nil] at hlast
      exact hlast
  | error e => exact h.bind_error

/-! ## Statements that all go through -/

def Succeeds (x : Db α) (d : Database) (a : α) (d' : Database) : Prop :=
  ∃ n, Returns x (List.replicate n .done) d (.ok a) d'

/-- What follows statements that have gone through. -/
theorem Succeeds.ends_bind {result : Except DbError β} (hx : Succeeds x d a d₁)
    (hf : ∃ os, Returns (f a) os d₁ result d') : ∃ os, Returns (x >>= f) os d result d' := by
  obtain ⟨n, hn⟩ := hx
  obtain ⟨os, hos⟩ := hf
  exact ⟨_, hn.bind hos⟩

theorem Succeeds.pure (a : α) (d : Database) : Succeeds (pure a) d a d := ⟨0, Returns.pure a d⟩

theorem Succeeds.bind {b : β} (hx : Succeeds x d a d₁) (hf : Succeeds (f a) d₁ b d') :
    Succeeds (x >>= f) d b d' := by
  obtain ⟨n, hn⟩ := hx
  obtain ⟨m, hm⟩ := hf
  have h := hn.bind hm
  rw [List.replicate_append_replicate] at h
  exact ⟨n + m, h⟩

theorem Succeeds.query {g : Database → Except DbError α} (h : g d = .ok a) :
    Succeeds (query g) d a d := ⟨1, Returns.query h⟩

theorem Succeeds.change {g : Database → Except DbError Database} (h : g d = .ok d') :
    Succeeds (change g) d () d' := ⟨1, Returns.change h⟩

theorem Succeeds.attempt (d : Database) : Succeeds attempt d () d := ⟨1, Returns.attempt d⟩

theorem Succeeds.transaction {script : Db Unit} (h : Succeeds script d () d') :
    Succeeds (transaction script) d () d' := by
  obtain ⟨n, hn⟩ := h
  have hdones : [Outcome.done] ++ (List.replicate n .done ++ [.done]) =
      List.replicate (n + 2) .done := by
    rw [← List.replicate_succ', List.singleton_append, ← List.replicate_succ]
  exact ⟨n + 2, hdones ▸ hn.transaction⟩

theorem Succeeds.markEnsured (T : TableName) (d : Database) : Succeeds (markEnsured T) d () d :=
  ⟨0, fun s hs _ => ⟨{ s with ensured := Function.update s.ensured T true }, rfl, hs, rfl, rfl⟩⟩

end SnortOptimizer.Sql
