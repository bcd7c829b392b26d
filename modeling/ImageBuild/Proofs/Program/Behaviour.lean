import ImageBuild.Program
import ImageBuild.Proofs.Data.Splits

/-!
# Behaviours

A behaviour of a program is what one run of it does: the calls it makes with their answers, in
order, how it ends, and what it leaves in the ledger and on the clock. `run_behaves` says that
every run is one, whatever world answers the calls.
-/

namespace ImageBuild.Program

open Cache

variable {I J : Interface} {W α β : Type}

structure Event (I : Interface) where
  call : I.Call
  answer : Except (I.Failure call) (I.Answer call)

/-- What a run keeps to itself. -/
structure Inside where
  ledger : Ledger
  clock : Clock

def State.inside (s : State I W) : Inside := ⟨s.ledger, s.clock⟩

def events (answers : Answers I W) : Program I α → State I W → List (Event I)
  | done _, _ | failed _, _ => []
  | perform call next, s =>
    let (answer, world) := answers call s.world
    ⟨call, answer⟩ :: (next answer).events answers { s with world, trace := s.trace ++ [call] }
  | ledger change next, s => (next s.ledger).events answers { s with ledger := change s.ledger }
  | time next, s =>
    let (now, clock) := s.clock.millis
    (next now).events answers { s with clock }

theorem trace_run (answers : Answers I W) (p : Program I α) (s : State I W) :
    (p.run answers s).2.trace = s.trace ++ (p.events answers s).map Event.call := by
  induction p generalizing s with
  | done | failed => simp [run, events]
  | perform call next ih => simp [run, events, ih]
  | ledger change next ih | time next ih => simp [run, events, ih]

/-- What a program can do when its calls may end in any way. -/
inductive Behaves : Program I α → Inside → List (Event I) → Except Fault α → Inside → Prop where
  | done {value : α} {i : Inside} : Behaves (done value) i [] (.ok value) i
  | failed {fault : Fault} {i : Inside} : Behaves (failed fault) i [] (.error fault) i
  | perform {call : I.Call} {next : Except (I.Failure call) (I.Answer call) → Program I α}
      {answer : Except (I.Failure call) (I.Answer call)} {i j : Inside} {es : List (Event I)}
      {r : Except Fault α} (rest : Behaves (next answer) i es r j) :
      Behaves (perform call next) i (⟨call, answer⟩ :: es) r j
  | ledger {change : Ledger → Ledger} {next : Ledger → Program I α} {i j : Inside}
      {es : List (Event I)} {r : Except Fault α}
      (rest : Behaves (next i.ledger) { i with ledger := change i.ledger } es r j) :
      Behaves (ledger change next) i es r j
  | time {next : Float → Program I α} {i j : Inside} {es : List (Event I)} {r : Except Fault α}
      (rest : Behaves (next i.clock.millis.1) { i with clock := i.clock.millis.2 } es r j) :
      Behaves (time next) i es r j

theorem run_behaves (answers : Answers I W) (p : Program I α) (s : State I W) :
    Behaves p s.inside (p.events answers s) (p.run answers s).1 (p.run answers s).2.inside := by
  induction p generalizing s with
  | done => exact .done
  | failed => exact .failed
  | perform call next ih =>
    exact .perform (ih _ { s with world := (answers call s.world).2, trace := s.trace ++ [call] })
  | ledger change next ih => exact .ledger (ih _ { s with ledger := change s.ledger })
  | time next ih => exact .time (ih _ { s with clock := s.clock.millis.2 })

theorem events_bind (answers : Answers I W) (p : Program I α) (f : α → Program I β) (s : State I W) :
    (p >>= f).events answers s = p.events answers s ++
      match p.run answers s with
      | (.ok value, t) => (f value).events answers t
      | (.error _, _) => [] := by
  change (p.bind f).events answers s = _
  induction p generalizing s with
  | done | failed => rfl
  | perform call next ih => simp only [bind, events, run, ih, List.cons_append]
  | ledger change next ih | time next ih => simp only [bind, events, run, ih]

theorem run_ofStep (answers : Answers I W) {step : Step α} {s : State I W} {value : α} {ledger : Ledger}
    (told : step.run.run s.ledger = (.ok value, ledger)) :
    (ofStep step).run answers s = (.ok value, { s with ledger }) ∧ (ofStep step).events answers s = [] := by
  simp only [ofStep, run, events, told, and_self]

theorem run_outcome (answers : Answers I W) (p : Program I α) (s : State I W) :
    p.outcome.run answers s = (.ok (p.run answers s).1, (p.run answers s).2) := by
  induction p generalizing s with
  | done | failed => rfl
  | perform call next ih | ledger change next ih | time next ih => simp only [outcome, run, ih]

theorem events_outcome (answers : Answers I W) (p : Program I α) (s : State I W) :
    p.outcome.events answers s = p.events answers s := by
  induction p generalizing s with
  | done | failed => rfl
  | perform call next ih | ledger change next ih | time next ih => simp only [outcome, events, ih]

/-- How a program ended, taken apart again. -/
theorem outcome_bind (p : Program I α) (f : α → Program I β) :
    (p.outcome.bind fun told =>
      match told with
      | .ok value => f value
      | .error fault => failed fault) = p.bind f := by
  induction p with
  | done | failed => rfl
  | perform call next ih | ledger change next ih | time next ih => simp only [outcome, bind, ih]

section inversion

variable {i j : Inside} {es : List (Event I)}

theorem behaves_pure {value : α} {r : Except Fault α}
    (h : Behaves (pure value : Program I α) i es r j) : es = [] ∧ r = .ok value ∧ j = i := by
  cases h
  exact ⟨rfl, rfl, rfl⟩

theorem behaves_failed {fault : Fault} {r : Except Fault α}
    (h : Behaves (failed fault : Program I α) i es r j) : es = [] ∧ r = .error fault ∧ j = i := by
  cases h
  exact ⟨rfl, rfl, rfl⟩

theorem behaves_bind {p : Program I α} {f : α → Program I β} {r : Except Fault β}
    (h : Behaves (p >>= f) i es r j) :
    (∃ fault, Behaves p i es (.error fault) j ∧ r = .error fault) ∨
    ∃ value k first rest, Behaves p i first (.ok value) k ∧ Behaves (f value) k rest r j ∧
      es = first ++ rest := by
  change Behaves (p.bind f) i es r j at h
  induction p generalizing i es with
  | done value => exact .inr ⟨value, i, [], es, .done, h, rfl⟩
  | failed fault =>
    cases h
    exact .inl ⟨fault, .failed, rfl⟩
  | perform call next ih =>
    cases h with
    | perform rest =>
      rcases ih _ rest with ⟨fault, early, same⟩ | ⟨value, k, first, later, head, tail, same⟩
      · exact .inl ⟨fault, .perform early, same⟩
      · exact .inr ⟨value, k, _, later, .perform head, tail, by rw [same, List.cons_append]⟩
  | ledger change next ih =>
    cases h with
    | ledger rest =>
      rcases ih _ rest with ⟨fault, early, same⟩ | ⟨value, k, first, later, head, tail, same⟩
      · exact .inl ⟨fault, .ledger early, same⟩
      · exact .inr ⟨value, k, first, later, .ledger head, tail, same⟩
  | time next ih =>
    cases h with
    | time rest =>
      rcases ih _ rest with ⟨fault, early, same⟩ | ⟨value, k, first, later, head, tail, same⟩
      · exact .inl ⟨fault, .time early, same⟩
      · exact .inr ⟨value, k, first, later, .time head, tail, same⟩

theorem behaves_then {p : Program I α} {f : α → Program I β} {k : Inside} {later : List (Event I)} {value : α}
    {r : Except Fault β} (first : Behaves p i es (.ok value) k) (rest : Behaves (f value) k later r j) :
    Behaves (p >>= f) i (es ++ later) r j := by
  change Behaves (p.bind f) i (es ++ later) r j
  induction p generalizing i es with
  | done =>
    cases first
    exact rest
  | failed => cases first
  | perform call next ih =>
    cases first with
    | perform tail => exact .perform (ih _ tail)
  | ledger change next ih =>
    cases first with
    | ledger tail => exact .ledger (ih _ tail)
  | time next ih =>
    cases first with
    | time tail => exact .time (ih _ tail)

theorem behaves_bind_ok {p : Program I α} {f : α → Program I β} {value : β}
    (h : Behaves (p >>= f) i es (.ok value) j) :
    ∃ found k first rest, Behaves p i first (.ok found) k ∧ Behaves (f found) k rest (.ok value) j ∧
      es = first ++ rest := by
  rcases behaves_bind h with ⟨fault, _, impossible⟩ | whole
  · cases impossible
  · exact whole

theorem behaves_attempt {call : I.Call}
    {r : Except Fault (Except (I.Failure call) (I.Answer call))}
    (h : Behaves (attempt call) i es r j) :
    ∃ answer, es = [⟨call, answer⟩] ∧ r = .ok answer ∧ j = i := by
  cases h with
  | perform rest =>
    cases rest
    exact ⟨_, rfl, rfl, rfl⟩

theorem behaves_attempt_bind {call : I.Call}
    {f : Except (I.Failure call) (I.Answer call) → Program I β} {r : Except Fault β}
    (h : Behaves (attempt call >>= f) i es r j) :
    ∃ answer rest, es = ⟨call, answer⟩ :: rest ∧ Behaves (f answer) i rest r j := by
  cases h with
  | perform rest => exact ⟨_, _, rfl, rest⟩

theorem behaves_note {record : Log.Record} {r : Except Fault Unit}
    (h : Behaves (note record : Program I Unit) i es r j) :
    es = [] ∧ r = .ok () ∧ j.ledger.store = i.ledger.store ∧ j.clock = i.clock := by
  cases h with
  | ledger rest =>
    cases rest
    exact ⟨rfl, rfl, rfl, rfl⟩

theorem behaves_ofExcept {ε : Type} {fault : ε → Fault} {value : Except ε α} {r : Except Fault α}
    (h : Behaves (ofExcept fault value : Program I α) i es r j) :
    es = [] ∧ r = value.mapError fault ∧ j = i := by
  cases value with
  | ok value => exact behaves_pure h
  | error error => exact behaves_failed h

theorem behaves_outcome {p : Program I α} {r : Except Fault (Except Fault α)}
    (h : Behaves p.outcome i es r j) : ∃ q, r = .ok q ∧ Behaves p i es q j := by
  induction p generalizing i es with
  | done | failed =>
    cases h
    exact ⟨_, rfl, by constructor⟩
  | perform call next ih =>
    cases h with
    | perform rest =>
      obtain ⟨q, same, rest⟩ := ih _ rest
      exact ⟨q, same, .perform rest⟩
  | ledger change next ih =>
    cases h with
    | ledger rest =>
      obtain ⟨q, same, rest⟩ := ih _ rest
      exact ⟨q, same, .ledger rest⟩
  | time next ih =>
    cases h with
    | time rest =>
      obtain ⟨q, same, rest⟩ := ih _ rest
      exact ⟨q, same, .time rest⟩

end inversion

/-! ### Calls replaced by programs -/

variable {handle : (call : I.Call) → Program J (Except (I.Failure call) (I.Answer call))}

theorem interpret_bind (p : Program I α) (f : α → Program I β) :
    (p >>= f).interpret handle = p.interpret handle >>= fun value => (f value).interpret handle := by
  change (p.bind f).interpret handle = (p.interpret handle).bind _
  induction p with
  | done | failed => rfl
  | perform call next ih => simp only [bind, interpret, bind_assoc, ih]
  | ledger change next ih | time next ih => simp only [bind, interpret, ih]

theorem interpret_ofStep (step : Step α) : (ofStep step : Program I α).interpret handle = ofStep step := by
  refine congrArg (ledger _) (funext fun before => ?_)
  dsimp only
  cases (step.run.run before).1 <;> rfl

theorem interpret_attempt (p : Program I α) : p.interpret attempt = p := by
  induction p with
  | done | failed => rfl
  | perform call next ih => simp only [interpret, attempt, bind, ih]
  | ledger change next ih | time next ih => simp only [interpret, ih]

section inversion

variable {i j : Inside} {es : List (Event J)}

theorem behaves_note_bind {record : Log.Record} {f : Unit → Program I α} {r : Except Fault α}
    (h : Behaves ((note record >>= f).interpret handle) i es r j) :
    ∃ k, k.ledger.store = i.ledger.store ∧ k.clock = i.clock ∧
      Behaves ((f ()).interpret handle) k es r j := by
  cases h with
  | ledger rest =>
    let noted := i.ledger.note record.severity record.channel record.message
    exact ⟨⟨noted, i.clock⟩, rfl, rfl, rest⟩

theorem behaves_now_bind {f : Float → Program I α} {r : Except Fault α}
    (h : Behaves ((now >>= f).interpret handle) i es r j) :
    Behaves ((f i.clock.millis.1).interpret handle) { i with clock := i.clock.millis.2 } es r j := by
  cases h with
  | time rest => exact rest

theorem behaves_ofExcept_bind {ε : Type} {fault : ε → Fault} {value : Except ε β} {f : β → Program I α}
    {r : Except Fault α} (h : Behaves ((ofExcept fault value >>= f).interpret handle) i es r j) :
    (∃ error, value = .error error ∧ es = [] ∧ r = .error (fault error) ∧ j = i) ∨
    ∃ found, value = .ok found ∧ Behaves ((f found).interpret handle) i es r j := by
  cases value with
  | ok found => exact .inr ⟨found, rfl, h⟩
  | error error =>
    obtain ⟨rfl, rfl, rfl⟩ := behaves_failed h
    exact .inl ⟨error, rfl, rfl, rfl, rfl⟩

theorem behaves_ofStep_bind {step : Step β} {f : β → Program I α} {r : Except Fault α}
    (h : Behaves ((ofStep step >>= f).interpret handle) i es r j) :
    (∃ reason, (step.run.run i.ledger).1 = .error reason ∧ es = [] ∧ r = .error (.cache reason) ∧
      j.ledger = (step.run.run i.ledger).2) ∨
    ∃ value k, (step.run.run i.ledger).1 = .ok value ∧ k.ledger = (step.run.run i.ledger).2 ∧
      k.clock = i.clock ∧ Behaves ((f value).interpret handle) k es r j := by
  cases h with
  | ledger rest =>
    dsimp only at rest
    cases ended : (step.run.run i.ledger).1 with
    | ok value =>
      rw [ended] at rest
      exact .inr ⟨value, ⟨(step.run.run i.ledger).2, i.clock⟩, rfl, rfl, rfl, rest⟩
    | error reason =>
      rw [ended] at rest
      obtain ⟨rfl, rfl, rfl⟩ := behaves_failed rest
      exact .inl ⟨reason, rfl, rfl, rfl, rfl⟩

end inversion

end ImageBuild.Program
