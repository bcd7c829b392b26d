import ImageBuild.Proofs.Workflow.Track

namespace ImageBuild.Workflow

open Program Cache Config

/-- What a task has done: its end, its events, and the store it leaves. -/
structure Played (T : Type) where
  task : T
  outcome : Except Fault Unit
  events : List Happening
  store : Store

def play {T W : Type} (answers : Answers surroundings W) (program : T → Build Unit) :
    List T → State surroundings W → List (Played T)
  | [], _ => []
  | task :: rest, s =>
    let (outcome, after) := (program task).run answers s
    ⟨task, outcome, (program task).events answers s, after.ledger.store⟩ :: play answers program rest after

theorem play_single {T W : Type} (answers : Answers surroundings W) (program : T → Build Unit) (task : T)
    (s : State surroundings W) :
    play answers program [task] s =
      [⟨task, ((program task).run answers s).1, (program task).events answers s,
        ((program task).run answers s).2.ledger.store⟩] := rfl

/-- What a session can do when the calls may end in any way. -/
inductive Session {T : Type} (program : T → Build Unit) : Inside → List (Played T) → Inside → Prop where
  | nil {i : Inside} : Session program i [] i
  | cons {task : T} {i j k : Inside} {es : List Happening} {r : Except Fault Unit} {plays : List (Played T)}
      (first : Behaves (program task) i es r k) (rest : Session program k plays j) :
      Session program i (⟨task, r, es, k.ledger.store⟩ :: plays) j

section sessions

variable {T W : Type} {program : T → Build Unit} {i j : Inside}

theorem play_session (answers : Answers surroundings W) (program : T → Build Unit) (tasks : List T)
    (s : State surroundings W) : ∃ j, Session program s.inside (play answers program tasks s) j := by
  induction tasks generalizing s with
  | nil => exact ⟨_, .nil⟩
  | cons task tasks ih =>
    obtain ⟨j, rest⟩ := ih ((program task).run answers s).2
    exact ⟨j, .cons (run_behaves answers (program task) s) rest⟩

theorem session_split {before after : List (Played T)} {played : Played T}
    (session : Session program i (before ++ played :: after) j) :
    ∃ k l, Session program i before k ∧
      Behaves (program played.task) k played.events played.outcome l ∧ played.store = l.ledger.store := by
  induction before generalizing i with
  | nil =>
    cases session with
    | cons first rest => exact ⟨i, _, .nil, first, rfl⟩
  | cons one before ih =>
    cases session with
    | cons first rest =>
      obtain ⟨k, l, earlier, last, same⟩ := ih rest
      exact ⟨k, l, .cons first earlier, last, same⟩

theorem session_measures {plays : List (Played T)} (session : Session program i plays j)
    (measures : i.clock.Measures) : j.clock.Measures := by
  induction session with
  | nil => exact measures
  | cons first rest ih => exact ih (behaves_measures measures first)

theorem session_member {plays : List (Played T)} {played : Played T} (session : Session program i plays j)
    (measures : i.clock.Measures) (member : played ∈ plays) :
    ∃ k l, k.clock.Measures ∧ Behaves (program played.task) k played.events played.outcome l := by
  obtain ⟨before, after, rfl⟩ := List.append_of_mem member
  obtain ⟨k, l, earlier, one, -⟩ := session_split session
  exact ⟨k, l, session_measures earlier measures, one⟩

theorem session_tracked {plays : List (Played T)} (tracks : ∀ task, Tracks (program task))
    (measures : i.clock.Measures) (session : Session program i plays j) :
    Tracked i.ledger.store j.ledger.store (plays.flatMap Played.events)
      (plays.flatMap fun played => pulledImages played.events) := by
  induction session with
  | nil => exact Tracked.nil _
  | cons first rest ih =>
    obtain ⟨names, head⟩ := tracks _ measures first
    rw [List.flatMap_cons, List.flatMap_cons, head.tells.images]
    exact head.append (ih (behaves_measures measures first))

theorem session_append {plays later : List (Played T)} {k : Inside} (first : Session program i plays k)
    (rest : Session program k later j) : Session program i (plays ++ later) j := by
  induction first with
  | nil => exact rest
  | cons one _ ih => exact .cons one (ih rest)

theorem session_upto {answers : Answers surroundings W} {tasks : List T} {s : State surroundings W}
    {before after : List (Played T)} {played : Played T}
    (plays : play answers program tasks s = before ++ played :: after) :
    ∃ l, Session program s.inside (before ++ [played]) l ∧ played.store = l.ledger.store := by
  obtain ⟨j, session⟩ := play_session answers program tasks s
  rw [plays] at session
  obtain ⟨k, l, earlier, last, stored⟩ := session_split session
  have one : Session program k [⟨played.task, played.outcome, played.events, l.ledger.store⟩] l :=
    .cons last .nil
  rw [← stored] at one
  exact ⟨l, session_append earlier one, stored⟩

theorem play_tracked {answers : Answers surroundings W} {tasks : List T} {s : State surroundings W}
    {before after : List (Played T)} {played : Played T} (tracks : ∀ task, Tracks (program task))
    (measures : s.clock.Measures) (plays : play answers program tasks s = before ++ played :: after) :
    Tracked s.ledger.store played.store ((before ++ [played]).flatMap Played.events)
      ((before ++ [played]).flatMap fun one => pulledImages one.events) := by
  obtain ⟨l, session, stored⟩ := session_upto plays
  have tracked := session_tracked tracks measures session
  rwa [← stored] at tracked

end sessions

/-! ### Tasks -/

/-- A task that checks at most one image. -/
inductive Task where
  | check (check : Check)
  | pullBase (image : Image) (context : Context)
  | build (image : Image) (context : Context) (nocache : Option String)

namespace Task

def program : Task → Build Unit
  | check one => one.program
  | pullBase image context => autoPullBase image context
  | build image context nocache => buildOne image context nocache >>= fun _ => pure ()

def mayCheck : Task → Check → Prop
  | check one, other => other = one
  | pullBase _ context, other | build _ context _, other => ofBase context other

end Task

theorem courses_task {grounds : Grounds} {handle : Handler} (attends : Attends grounds handle) (task : Task) :
    Courses grounds task.mayCheck handle task.program := by
  cases task with
  | check check => exact courses_check attends rfl
  | pullBase image context => exact courses_autoPullBase attends image context
  | build image context nocache =>
    exact courses_bind_quiet attends (courses_buildOne attends image context nocache) fun _ => confined_pure _

/-! ### A small setting -/

def bareContext : Context where
  baseDir := Path.ofText "."
  outputDir := Path.ofText "target"
  buildArgs := .empty
  projectProperties := .empty
  globalProperties := .empty
  pullRegistry := none
  registry := none
  autoPull := none
  auth := .none

def plainScript : Script where
  failing := .empty
  ids := .empty
  present := none
  decision := none
  base := none
  archive := Path.ofText "context.tar"

def alpine : Check := ⟨"alpine", none, false, bareContext⟩

theorem measures_stopped : (Clock.ofList []).Measures := by
  unfold Clock.Measures
  decide +kernel

end ImageBuild.Workflow
