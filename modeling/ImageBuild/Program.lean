import ImageBuild.Cache.Service
import ImageBuild.Clock
import ImageBuild.Fault

/-!
# Programs

A program is a tree of calls to its surroundings. It ends with a value or a fault; on the way it
changes the ledger and reads the clock. `run` answers the calls out of a world, in order, and
records each call before it is answered; `interpret` replaces every call by a program over other
calls.
-/

namespace ImageBuild

open Cache

/-- The calls that a program can make, with their answers and the ways in which they fail. -/
structure Interface where
  Call : Type
  Answer : Call → Type
  Failure : Call → Type

inductive Program (I : Interface) (α : Type) : Type where
  | done (value : α)
  | failed (fault : Fault)
  | perform (call : I.Call) (next : Except (I.Failure call) (I.Answer call) → Program I α)
  /-- Changes the ledger; what follows sees it as it was before. -/
  | ledger (change : Ledger → Ledger) (next : Ledger → Program I α)
  | time (next : Float → Program I α)

namespace Program

variable {I J : Interface} {α β γ : Type}

def bind : Program I α → (α → Program I β) → Program I β
  | done value, f => f value
  | failed fault, _ => failed fault
  | perform call next, f => perform call fun answer => (next answer).bind f
  | ledger change next, f => ledger change fun before => (next before).bind f
  | time next, f => time fun now => (next now).bind f

instance : Monad (Program I) where
  pure := done
  bind := bind

theorem bind_done (p : Program I α) : p.bind done = p := by
  induction p with
  | done | failed => rfl
  | perform call next ih | ledger change next ih | time next ih => simp [bind, ih]

theorem bind_assoc (p : Program I α) (f : α → Program I β) (g : β → Program I γ) :
    (p.bind f).bind g = p.bind fun a => (f a).bind g := by
  induction p with
  | done | failed => rfl
  | perform call next ih | ledger change next ih | time next ih => simp [bind, ih]

instance : LawfulMonad (Program I) :=
  LawfulMonad.mk' (Program I) bind_done (fun _ _ => rfl) bind_assoc

def attempt (call : I.Call) : Program I (Except (I.Failure call) (I.Answer call)) := perform call done

def outcome : Program I α → Program I (Except Fault α)
  | done value => done (.ok value)
  | failed fault => done (.error fault)
  | perform call next => perform call fun answer => (next answer).outcome
  | ledger change next => ledger change fun before => (next before).outcome
  | time next => time fun now => (next now).outcome

def now : Program I Float := time done

def note (record : Log.Record) : Program I Unit :=
  ledger (fun before => before.note record.severity record.channel record.message) fun _ => done ()

def noteAll : List Log.Record → Program I Unit
  | [] => done ()
  | record :: rest => (note record).bind fun _ => noteAll rest

def debug (channel : Log.Channel) (message : String) : Program I Unit := note ⟨.debug, channel, message⟩

def info (channel : Log.Channel) (message : String) : Program I Unit := note ⟨.info, channel, message⟩

def ofStep (step : Step α) : Program I α :=
  ledger (fun before => (step.run.run before).2) fun before =>
    match (step.run.run before).1 with
    | .ok value => done value
    | .error reason => failed (.cache reason)

def ofExcept {ε : Type} (fault : ε → Fault) : Except ε α → Program I α
  | .ok value => done value
  | .error error => failed (fault error)

/-- Replaces every call by a program that tells how the call ended. -/
def interpret (handle : (call : I.Call) → Program J (Except (I.Failure call) (I.Answer call))) :
    Program I α → Program J α
  | done value => done value
  | failed fault => failed fault
  | perform call next => (handle call).bind fun answer => (next answer).interpret handle
  | ledger change next => ledger change fun before => (next before).interpret handle
  | time next => time fun now => (next now).interpret handle

structure State (I : Interface) (W : Type) where
  world : W
  ledger : Ledger
  clock : Clock
  trace : List I.Call

def State.start {W : Type} (world : W) (store : Store) (clock : Clock) : State I W :=
  ⟨world, ⟨store, []⟩, clock, []⟩

/-- The state from which the next run is told: nothing called, nothing reported. -/
def State.again {W : Type} (s : State I W) : State I W :=
  { s with trace := [], ledger := { s.ledger with log := [] } }

abbrev Answers (I : Interface) (W : Type) :=
  (call : I.Call) → W → Except (I.Failure call) (I.Answer call) × W

def run {W : Type} (answers : Answers I W) : Program I α → State I W → Except Fault α × State I W
  | done value, s => (.ok value, s)
  | failed fault, s => (.error fault, s)
  | perform call next, s =>
    let (answer, world) := answers call s.world
    (next answer).run answers { s with world, trace := s.trace ++ [call] }
  | ledger change next, s => (next s.ledger).run answers { s with ledger := change s.ledger }
  | time next, s =>
    let (now, clock) := s.clock.millis
    (next now).run answers { s with clock }

theorem run_bind {W : Type} (answers : Answers I W) (p : Program I α) (f : α → Program I β)
    (s : State I W) :
    (p >>= f).run answers s =
      match p.run answers s with
      | (.ok value, t) => (f value).run answers t
      | (.error fault, t) => (.error fault, t) := by
  change (p.bind f).run answers s = _
  induction p generalizing s with
  | done | failed => rfl
  | perform call next ih | ledger change next ih | time next ih => simp only [bind, run, ih]

end Program

end ImageBuild
