import ImageBuild.Proofs.Program.Confined

/-!
# One failing call

A run is compared with the run in which one of its calls fails. Up to that call both are the same;
what comes after it is read off the call's place in the program.
-/

namespace ImageBuild.Program

variable {I : Interface} {W α β : Type}

abbrev Place (I : Interface) (α : Type) :=
  (call : I.Call) → (Except (I.Failure call) (I.Answer call) → Program I α) → Prop

/-- Every place of the program at which a call is made has the property. -/
def Every (P : Place I α) : Program I α → Prop
  | done _ | failed _ => True
  | perform call next => P call next ∧ ∀ answer, (next answer).Every P
  | ledger _ next => ∀ before, (next before).Every P
  | time next => ∀ now, (next now).Every P

theorem every_bind {P : Place I α} {Q : Place I β} {p : Program I α} {f : α → Program I β}
    (first : p.Every P) (carry : ∀ call next, P call next → Q call fun answer => next answer >>= f)
    (rest : ∀ value, (f value).Every Q) : (p >>= f).Every Q := by
  change (p.bind f).Every Q
  induction p with
  | done value => exact rest value
  | failed => trivial
  | perform call next ih => exact ⟨carry call next first.1, fun answer => ih answer (first.2 answer)⟩
  | ledger change next ih => exact fun before => ih before (first before)
  | time next ih => exact fun now => ih now (first now)

theorem Every.mono {P Q : Place I α} {p : Program I α} (every : p.Every P)
    (weaken : ∀ call next, P call next → Q call next) : p.Every Q := by
  induction p with
  | done | failed => trivial
  | perform call next ih => exact ⟨weaken call next every.1, fun answer => ih answer (every.2 answer)⟩
  | ledger change next ih => exact fun before => ih before (every before)
  | time next ih => exact fun now => ih now (every now)

theorem every_of_confined {allowed : I.Call → Prop} {p : Program I α} (confined : p.Confined allowed) :
    p.Every fun call _ => allowed call := by
  induction p with
  | done | failed => trivial
  | perform call next ih => exact ⟨confined.1, fun answer => ih answer (confined.2 answer)⟩
  | ledger change next ih => exact fun before => ih before (confined.2 before)
  | time next ih => exact fun now => ih now (confined now)

def stateAt (answers : Answers I W) : Program I α → State I W → Nat → State I W
  | done _, s, _ | failed _, s, _ => s
  | perform _ _, s, 0 => s
  | perform call next, s, n + 1 =>
    let (answer, world) := answers call s.world
    (next answer).stateAt answers { s with world, trace := s.trace ++ [call] } n
  | ledger change next, s, n => (next s.ledger).stateAt answers { s with ledger := change s.ledger } n
  | time next, s, n =>
    let (now, clock) := s.clock.millis
    (next now).stateAt answers { s with clock } n

/-- Answers that fail once, when as many calls as given have been answered. -/
def failing (answers : Answers I W) (fault : (call : I.Call) → I.Failure call) (after : I.Call → W → W) :
    Answers I (Option Nat × W) :=
  fun call (left, world) =>
    match left with
    | some 0 => (.error (fault call), none, after call world)
    | some (left + 1) => ((answers call world).1, some left, (answers call world).2)
    | none => ((answers call world).1, none, (answers call world).2)

def State.counting (s : State I W) (left : Option Nat) : State I (Option Nat × W) :=
  ⟨(left, s.world), s.ledger, s.clock, s.trace⟩

def State.made (s : State I W) (call : I.Call) (world : W) : State I W :=
  { s with world, trace := s.trace ++ [call] }

section runs

variable {answers : Answers I W} {fault : (call : I.Call) → I.Failure call} {after : I.Call → W → W}

theorem run_failing_none (p : Program I α) (s : State I W) :
    p.run (failing answers fault after) (s.counting none) =
      ((p.run answers s).1, (p.run answers s).2.counting none) := by
  induction p generalizing s with
  | done | failed => rfl
  | perform call next ih => exact ih _ (s.made call (answers call s.world).2)
  | ledger change next ih => exact ih _ { s with ledger := change s.ledger }
  | time next ih => exact ih _ { s with clock := s.clock.millis.2 }

/-- The place of call number `n`: both runs come to it alike, and the one with the failure goes on as
if it were answered by the fault. -/
theorem run_failing {P : Place I α} {p : Program I α} (every : p.Every P) (s : State I W) {n : Nat}
    (bound : n < (p.events answers s).length) :
    ∃ call next, P call next ∧ ((p.events answers s).map Event.call)[n]? = some call ∧
      (p.stateAt answers s n).trace = s.trace ++ ((p.events answers s).map Event.call).take n ∧
      p.run answers s = (perform call next).run answers (p.stateAt answers s n) ∧
      p.run (failing answers fault after) (s.counting (some n)) =
        (let t := (p.stateAt answers s n).made call (after call (p.stateAt answers s n).world)
         (((next (.error (fault call))).run answers t).1,
          ((next (.error (fault call))).run answers t).2.counting none)) := by
  induction p generalizing s n with
  | done | failed => exact absurd bound (Nat.not_lt_zero n)
  | perform call next ih =>
    cases n with
    | zero =>
      refine ⟨call, next, every.1, rfl, ?_, rfl, ?_⟩
      · exact (List.append_nil _).symm
      · exact run_failing_none (next (.error (fault call))) (s.made call (after call s.world))
    | succ n =>
      obtain ⟨there, later, holds, called, traced, same, fails⟩ :=
        ih _ (every.2 _) (s.made call (answers call s.world).2) (Nat.lt_of_succ_lt_succ bound)
      exact ⟨there, later, holds, called, traced.trans (List.append_assoc _ _ _), same, fails⟩
  | ledger change next ih =>
    exact ih _ (every _) { s with ledger := change s.ledger } bound
  | time next ih =>
    exact ih _ (every _) { s with clock := s.clock.millis.2 } bound

end runs

end ImageBuild.Program
