import ImageBuild.Proofs.Cache.Held
import ImageBuild.Proofs.Program.Failing

namespace ImageBuild.Program

open Cache

variable {I : Interface} {W α β : Type} {allowed : I.Call → Prop}

/-- Every call is allowed, and every step over the ledger goes by the store alone. -/
def Blind (allowed : I.Call → Prop) : Program I α → Prop
  | done _ | failed _ => True
  | perform call next => allowed call ∧ ∀ answer, (next answer).Blind allowed
  | ledger change next => ∀ before log,
    (change { before with log }).store = (change before).store ∧
      next { before with log } = next before ∧ (next before).Blind allowed
  | time next => ∀ now, (next now).Blind allowed

def State.relogged (s : State I W) (log : List Log.Record) : State I W :=
  { s with ledger := { s.ledger with log } }

section composition

theorem blind_pure (value : α) : Blind allowed (pure value : Program I α) := trivial

theorem blind_bind {p : Program I α} {f : α → Program I β} (first : p.Blind allowed)
    (rest : ∀ value, (f value).Blind allowed) : (p >>= f).Blind allowed := by
  change (p.bind f).Blind allowed
  induction p with
  | done value => exact rest value
  | failed => trivial
  | perform call next ih => exact ⟨first.1, fun answer => ih answer (first.2 answer)⟩
  | ledger change next ih =>
    intro before log
    obtain ⟨stored, same, later⟩ := first before log
    exact ⟨stored, congrArg (fun p => p.bind f) same, ih before later⟩
  | time next ih => exact fun now => ih now (first now)

theorem Blind.mono {more : I.Call → Prop} {p : Program I α} (blind : p.Blind allowed)
    (weaken : ∀ call, allowed call → more call) : p.Blind more := by
  induction p with
  | done | failed => trivial
  | perform call next ih => exact ⟨weaken call blind.1, fun answer => ih answer (blind.2 answer)⟩
  | ledger change next ih =>
    intro before log
    obtain ⟨stored, same, later⟩ := blind before log
    exact ⟨stored, same, ih before later⟩
  | time next ih => exact fun now => ih now (blind now)

theorem every_of_blind {p : Program I α} (blind : p.Blind allowed) : p.Every fun call _ => allowed call := by
  induction p with
  | done | failed => trivial
  | perform call next ih => exact ⟨blind.1, fun answer => ih answer (blind.2 answer)⟩
  | ledger change next ih => exact fun before => ih before (blind before before.log).2.2
  | time next ih => exact fun now => ih now (blind now)

theorem blind_attempt {call : I.Call} (may : allowed call) : (attempt call).Blind allowed :=
  ⟨may, fun _ => trivial⟩

theorem blind_now : Blind allowed (now : Program I Float) := fun _ => trivial

theorem blind_note (record : Log.Record) : Blind allowed (note record : Program I Unit) :=
  fun _ _ => ⟨rfl, rfl, trivial⟩

theorem blind_ofExcept {ε : Type} (fault : ε → Fault) (value : Except ε α) :
    Blind allowed (ofExcept fault value : Program I α) := by
  cases value <;> trivial

theorem blind_ofExcept_bind {ε : Type} {fault : ε → Fault} {value : Except ε α} {f : α → Program I β}
    (rest : ∀ found, value = .ok found → (f found).Blind allowed) :
    (ofExcept fault value >>= f : Program I β).Blind allowed := by
  cases value with
  | ok found => exact rest found rfl
  | error => trivial

theorem blind_ofStep {step : Step α} (reads : ∀ before log,
    (step.run.run { before with log }).1 = (step.run.run before).1 ∧
      (step.run.run { before with log }).2.store = (step.run.run before).2.store) :
    Blind allowed (ofStep step : Program I α) := by
  intro before log
  obtain ⟨ended, stored⟩ := reads before log
  refine ⟨stored, ?_, ?_⟩
  · dsimp only
    rw [ended]
  · dsimp only
    split <;> trivial

theorem blind_load (key : String) : Blind allowed (ofStep (load key) : Program I PullCache) := by
  apply blind_ofStep
  intro before log
  obtain ⟨ended, stored⟩ := run_load key before
  obtain ⟨ended', stored'⟩ := run_load key { before with log }
  exact ⟨ended'.trans ended.symm, stored'.trans stored.symm⟩

theorem blind_add (image key : String) : Blind allowed (ofStep (add image key) : Program I Unit) := by
  apply blind_ofStep
  intro before log
  obtain ⟨ended, stored⟩ := run_add image key before
  obtain ⟨ended', stored'⟩ := run_add image key { before with log }
  exact ⟨ended'.trans ended.symm, stored'.trans stored.symm⟩

end composition

theorem behaves_blind {p : Program I α} {i j : Inside} {es : List (Event I)} {r : Except Fault α}
    (blind : p.Blind allowed) (h : Behaves p i es r j) : ∀ e ∈ es, allowed e.call := by
  induction h with
  | done | failed => simp
  | perform _ ih => exact List.forall_mem_cons.2 ⟨blind.1, ih (blind.2 _)⟩
  | @ledger _ _ i _ _ _ _ ih => exact ih (blind i.ledger i.ledger.log).2.2
  | time _ ih => exact ih (blind _)

theorem run_blind {p : Program I α} (blind : p.Blind allowed) (answers : Answers I W) (s : State I W)
    (log : List Log.Record) :
    p.events answers (s.relogged log) = p.events answers s ∧
      ∃ later, p.run answers (s.relogged log) = ((p.run answers s).1, (p.run answers s).2.relogged later) := by
  induction p generalizing s log with
  | done | failed => exact ⟨rfl, log, rfl⟩
  | perform call next ih =>
    have after := ih (answers call s.world).1 (blind.2 _)
      { s with world := (answers call s.world).2, trace := s.trace ++ [call] } log
    exact ⟨congrArg (List.cons _) after.1, after.2⟩
  | ledger change next ih =>
    obtain ⟨stored, same, rest⟩ := blind s.ledger log
    have after := ih s.ledger rest { s with ledger := change s.ledger } (change { s.ledger with log }).log
    have state : { s.relogged log with ledger := change { s.ledger with log } } =
        ({ s with ledger := change s.ledger } : State I W).relogged (change { s.ledger with log }).log := by
      have ledger : change { s.ledger with log } =
          ⟨(change s.ledger).store, (change { s.ledger with log }).log⟩ := by rw [← stored]
      unfold State.relogged
      rw [ledger]
    simp only [events, run]
    change (next { s.ledger with log }).events answers { s.relogged log with ledger := change { s.ledger with log } } = _ ∧
      ∃ later, (next { s.ledger with log }).run answers
        { s.relogged log with ledger := change { s.ledger with log } } = _
    rw [same, state]
    exact after
  | time next ih => exact ih _ (blind _) { s with clock := s.clock.millis.2 } log

end ImageBuild.Program
