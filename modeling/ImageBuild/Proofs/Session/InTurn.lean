import ImageBuild.Proofs.Session.Play
import ImageBuild.Proofs.Workflow.Unlogged

namespace ImageBuild.Workflow

open Program Config Data

structure Built where
  image : Image
  outcome : Except Fault (Option String)
  events : List Happening

/-- Builds each image to its end, over the state that the one before has left. -/
def inTurn {W : Type} (answers : Answers surroundings W) (context : Context) (nocache : Option String) :
    List Image → State surroundings W → List Built × State surroundings W
  | [], s => ([], s)
  | image :: rest, s =>
    let one := buildOne image context nocache
    let (later, last) := inTurn answers context nocache rest (one.run answers s).2
    (⟨image, (one.run answers s).1, one.events answers s⟩ :: later, last)

def Built.result (built : Built) : Image × Except Fault (Option String) := (built.image, built.outcome)

def gathered (ids : Table (Option String)) : List Built → Table (Option String)
  | [] => ids
  | ⟨image, .ok id, _⟩ :: rest => gathered (ids.put image.name id) rest
  | ⟨_, .error _, _⟩ :: rest => gathered ids rest

def verdict (turns : List Built) : Except Fault (Table (Option String)) :=
  match firstFailure? (turns.map Built.result) with
  | some fault => .error fault
  | none => .ok (gathered .empty turns)

/-- The last build of an image of this name has told this id. -/
def LastTold (name : String) (id : Option String) (turns : List Built) : Prop :=
  ∃ before one after, turns = before ++ one :: after ∧ one.image.name = name ∧ one.outcome = .ok id ∧
    ∀ later ∈ after, later.image.name ≠ name

section runs

variable {W : Type} (answers : Answers surroundings W) (context : Context) (nocache : Option String)

theorem run_buildEach (images : List Image) (s : State surroundings W) :
    (buildEach context nocache images).run answers s =
        (.ok ((inTurn answers context nocache images s).1.map Built.result),
          (inTurn answers context nocache images s).2) ∧
      (buildEach context nocache images).events answers s =
        (inTurn answers context nocache images s).1.flatMap Built.events := by
  induction images generalizing s with
  | nil => exact ⟨rfl, rfl⟩
  | cons image images ih =>
    obtain ⟨ran, told⟩ := ih ((buildOne image context nocache).run answers s).2
    rw [buildEach_cons]
    constructor
    · simp only [run_bind, run_outcome, ran]
      rfl
    · simp only [events_bind, run_outcome, events_outcome, ran, told]
      simp [inTurn, events, pure]

theorem run_gather (ids : Table (Option String)) (turns : List Built) (s : State surroundings W) :
    (gather ids (turns.map Built.result)).events answers s = [] ∧
      ∃ log, (gather ids (turns.map Built.result)).run answers s = (.ok (gathered ids turns), s.relogged log) := by
  induction turns generalizing ids s with
  | nil => exact ⟨rfl, s.ledger.log, rfl⟩
  | cons one turns ih =>
    obtain ⟨image, fault | id, es⟩ := one
    · exact ih ids { s with ledger := s.ledger.note .error .workflow _ }
    · exact ih (ids.put image.name id) s

theorem run_report (turns : List Built) (s : State surroundings W) :
    (report (turns.map Built.result)).events answers s = [] ∧
      ∃ log, (report (turns.map Built.result)).run answers s = (verdict turns, s.relogged log) := by
  obtain ⟨quiet, log, ran⟩ := run_gather answers .empty turns s
  unfold report verdict
  rw [run_bind, events_bind, quiet, ran]
  cases firstFailure? (turns.map Built.result) with
  | some fault => exact ⟨rfl, log, rfl⟩
  | none => exact ⟨rfl, log, rfl⟩

theorem inTurn_relogged (images : List Image) (s : State surroundings W) (log : List Log.Record) :
    ∃ later, inTurn answers context nocache images (s.relogged log) =
      ((inTurn answers context nocache images s).1, (inTurn answers context nocache images s).2.relogged later) := by
  induction images generalizing s log with
  | nil => exact ⟨log, rfl⟩
  | cons image images ih =>
    obtain ⟨told, between, ran⟩ := run_blind (unlogged_buildOne image context nocache) answers s log
    obtain ⟨later, rest⟩ := ih ((buildOne image context nocache).run answers s).2 between
    refine ⟨later, ?_⟩
    simp only [inTurn, told, ran, rest]

theorem run_buildAll (images : List Image) (s : State surroundings W) :
    (buildAll images context nocache (some 1)).events answers s =
        (inTurn answers context nocache images s).1.flatMap Built.events ∧
      ∃ log, (buildAll images context nocache (some 1)).run answers s =
        (verdict (inTurn answers context nocache images s).1,
          (inTurn answers context nocache images s).2.relogged log) := by
  cases images with
  | nil => exact ⟨rfl, s.ledger.log, rfl⟩
  | cons image images =>
    let noted := s.relogged (s.ledger.log ++ [startRecord (image :: images)])
    have begun : (Program.note (I := surroundings) (startRecord (image :: images))).run answers s =
        (.ok (), noted) := rfl
    have silent : (Program.note (I := surroundings) (startRecord (image :: images))).events answers s = [] := rfl
    obtain ⟨between, same⟩ :=
      inTurn_relogged answers context nocache (image :: images) s (s.ledger.log ++ [startRecord (image :: images)])
    obtain ⟨ran, told⟩ := run_buildEach answers context nocache (image :: images) noted
    rw [same] at ran told
    obtain ⟨quiet, log, ended⟩ := run_report answers (inTurn answers context nocache (image :: images) s).1
      ((inTurn answers context nocache (image :: images) s).2.relogged between)
    refine ⟨?_, log, ?_⟩
    · rw [buildAll_cons, events_bind, begun, silent]
      simp only [events_bind, ran, told, quiet, List.nil_append, List.append_nil]
    · rw [buildAll_cons, run_bind, begun]
      simp only [run_bind, ran, ended]
      rfl

theorem inTurn_images (images : List Image) (s : State surroundings W) :
    (inTurn answers context nocache images s).1.map Built.image = images := by
  induction images generalizing s with
  | nil => rfl
  | cons image images ih => exact congrArg (List.cons image) (ih _)

end runs

/-! ### The verdict -/

theorem lastTold_cons {name : String} {id : Option String} {one : Built} {turns : List Built} :
    LastTold name id (one :: turns) ↔ LastTold name id turns ∨
      one.image.name = name ∧ one.outcome = .ok id ∧ ∀ later ∈ turns, later.image.name ≠ name := by
  constructor
  · rintro ⟨before, last, after, split, named, told, none⟩
    cases before with
    | nil =>
      obtain ⟨rfl, rfl⟩ := List.cons.inj split
      exact .inr ⟨named, told, none⟩
    | cons first before => exact .inl ⟨before, last, after, (List.cons.inj split).2, named, told, none⟩
  · rintro (⟨before, last, after, rfl, named, told, none⟩ | ⟨named, told, none⟩)
    · exact ⟨one :: before, last, after, rfl, named, told, none⟩
    · exact ⟨[], one, turns, rfl, named, told, none⟩

theorem get?_gathered {turns : List Built} (ended : ∀ one ∈ turns, ∃ id, one.outcome = .ok id)
    (ids : Table (Option String)) (name : String) (id : Option String) :
    (gathered ids turns).get? name = some id ↔
      LastTold name id turns ∨ (∀ one ∈ turns, one.image.name ≠ name) ∧ ids.get? name = some id := by
  induction turns generalizing ids with
  | nil => simp [gathered, LastTold]
  | cons one turns ih =>
    obtain ⟨⟨other, told⟩, later⟩ := List.forall_mem_cons.1 ended
    obtain ⟨image, outcome, es⟩ := one
    obtain rfl : outcome = .ok other := told
    rw [gathered, ih later, Table.get?_put, lastTold_cons, List.forall_mem_cons]
    by_cases same : name = image.name
    · subst same
      simp [and_comm]
    · have different : image.name ≠ name := fun equal => same equal.symm
      simp [same, different]

theorem firstFailure?_eq_none {turns : List Built} (ended : ∀ one ∈ turns, ∃ id, one.outcome = .ok id) :
    firstFailure? (turns.map Built.result) = none := by
  apply List.findSome?_eq_none_iff.2
  intro result member
  obtain ⟨one, inside, rfl⟩ := List.mem_map.1 member
  obtain ⟨id, told⟩ := ended one inside
  simp [Built.result, told]

theorem firstFailure?_eq_some {before after : List Built} {one : Built} {fault : Fault}
    (ended : ∀ earlier ∈ before, ∃ id, earlier.outcome = .ok id) (failed : one.outcome = .error fault) :
    firstFailure? ((before ++ one :: after).map Built.result) = some fault := by
  have early := firstFailure?_eq_none ended
  unfold firstFailure? at early ⊢
  rw [List.map_append, List.findSome?_append, early, List.map_cons, List.findSome?_cons]
  simp [Built.result, failed]

/-- One worker builds the images in list order, each over what the ones before it have left. -/
theorem buildAll_in_turn {W : Type} (answers : Answers surroundings W) (images : List Image)
    (context : Context) (nocache : Option String) (s : State surroundings W) :
    let whole := (buildAll images context nocache (some 1)).run answers s
    let turns := inTurn answers context nocache images s
    turns.1.map Built.image = images ∧
    (whole.2.trace = turns.2.trace ∧ whole.2.ledger.store = turns.2.ledger.store ∧
      whole.2.world = turns.2.world) ∧
    (∀ before one after fault, turns.1 = before ++ one :: after →
      (∀ earlier ∈ before, ∃ id, earlier.outcome = .ok id) → one.outcome = .error fault →
        whole.1 = .error fault) ∧
    ((∀ one ∈ turns.1, ∃ id, one.outcome = .ok id) →
      ∃ ids, whole.1 = .ok ids ∧ ∀ name id, ids.get? name = some id ↔ LastTold name id turns.1) ∧
    ∀ workers, (buildAll [] context nocache workers).run answers s = (.ok .empty, s) := by
  intro whole turns
  obtain ⟨-, log, ran⟩ := run_buildAll answers context nocache images s
  have state : whole.2 = turns.2.relogged log := congrArg Prod.snd ran
  have outcome : whole.1 = verdict turns.1 := congrArg Prod.fst ran
  refine ⟨inTurn_images answers context nocache images s, ?_, ?_, ?_, fun workers => rfl⟩
  · rw [state]
    exact ⟨rfl, rfl, rfl⟩
  · intro before one after fault split ended failed
    have first := @firstFailure?_eq_some before after one fault ended failed
    rw [outcome, split, verdict, first]
  · intro ended
    refine ⟨gathered .empty turns.1, ?_, fun name id => ?_⟩
    · rw [outcome, verdict, firstFailure?_eq_none ended]
    · rw [get?_gathered ended]
      have none : Table.empty.get? name ≠ some id := nofun
      simp [none]

def bare (name : String) : Image := ⟨name, none, .default⟩

def twice : State surroundings Script :=
  .start { plainScript with ids := .ofList [("app", [none, some "first", some "first", some "second"])] }
    .empty (.ofList [])

theorem buildAll_in_turn_twice :
    (∃ ids, ((buildAll [bare "app", bare "lib", bare "app"] bareContext none (some 1)).run Script.answers twice).1 =
        .ok ids ∧ ids.get? "app" = some (some "second")) ∧
    ((buildAll [bare "app", bare "", bare "App"] bareContext none (some 1)).run Script.answers twice).1 =
      .error (.reference .empty) := by
  constructor
  · obtain ⟨-, -, -, tells, -⟩ := buildAll_in_turn Script.answers [bare "app", bare "lib", bare "app"]
      bareContext none twice
    have results : (inTurn Script.answers bareContext none [bare "app", bare "lib", bare "app"] twice).1.map
        Built.result = [(bare "app", .ok (some "first")), (bare "lib", .ok none), (bare "app", .ok (some "second"))] := by
      decide +kernel
    obtain ⟨first, rest, split, one, results⟩ := List.map_eq_cons_iff.1 results
    obtain ⟨second, rest, rfl, two, results⟩ := List.map_eq_cons_iff.1 results
    obtain ⟨third, rest, rfl, three, results⟩ := List.map_eq_cons_iff.1 results
    obtain rfl := List.map_eq_nil_iff.1 results
    obtain ⟨named, told⟩ := Prod.mk.inj three
    rw [split] at tells
    have ended : ∀ each ∈ [first, second, third], ∃ id, each.outcome = .ok id := by
      intro each member
      simp only [List.mem_cons, List.not_mem_nil, or_false] at member
      rcases member with rfl | rfl | rfl
      · exact ⟨_, (Prod.mk.inj one).2⟩
      · exact ⟨_, (Prod.mk.inj two).2⟩
      · exact ⟨_, told⟩
    obtain ⟨ids, ran, members⟩ := tells ended
    refine ⟨ids, ran, (members "app" (some "second")).2 ⟨[first, second], third, [], rfl, ?_, told, by simp⟩⟩
    rw [named]
    rfl
  · obtain ⟨-, -, fails, -, -⟩ := buildAll_in_turn Script.answers [bare "app", bare "", bare "App"]
      bareContext none twice
    obtain ⟨first, second, rest, split, one, two⟩ : ∃ first second rest,
        (inTurn Script.answers bareContext none [bare "app", bare "", bare "App"] twice).1 =
          [first] ++ second :: rest ∧ first.outcome = .ok (some "first") ∧
          second.outcome = .error (.reference .empty) := ⟨_, _, _, rfl, by decide +kernel, by decide +kernel⟩
    apply fails [first] second rest _ split _ two
    intro earlier member
    obtain rfl := List.mem_singleton.1 member
    exact ⟨_, one⟩

end ImageBuild.Workflow
