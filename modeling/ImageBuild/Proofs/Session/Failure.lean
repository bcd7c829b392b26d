import ImageBuild.Proofs.Session.Play
import ImageBuild.Proofs.Workflow.Abort

namespace ImageBuild.Workflow

open Program Config

def callsOf {W : Type} (answers : Answers surroundings W) (image : Image) (context : Context)
    (nocache : Option String) (s : State surroundings W) : List Call :=
  ((buildOne image context nocache).events answers s).map Event.call

/-- The run of a build in which the call after the first `n` ends with the fault and leaves the world as told. -/
def runFailing {W : Type} (answers : Answers surroundings W) (image : Image) (context : Context)
    (nocache : Option String) (s : State surroundings W) (n : Nat) (fault : Fault) (after : Call → W → W) :
    Except Fault (Option String) × State surroundings (Option Nat × W) :=
  (buildOne image context nocache).run (failing answers (fun _ => fault) after) (s.counting (some n))

section comparison

variable {W : Type} {answers : Answers surroundings W} {image : Image} {context : Context}
  {nocache : Option String} {s : State surroundings W} {fault : Fault} {after : Call → W → W}

theorem rejected_buildOne {error : Reference.Error} (rejected : Reference.parse image.name = .error error) :
    (buildOne image context nocache).run answers s = (.error (.reference error), s) := by
  rw [buildOne_eq, rejected]
  rfl

/-- Both runs come to the failing call alike; from there on each follows its own answer. -/
theorem place_of_call {n : Nat} {call : Call} (made : (callsOf answers image context nocache s)[n]? = some call)
    (fault : Fault) (after : Call → W → W) :
    ∃ next, Stops image context nocache call next ∧
      ((buildOne image context nocache).stateAt answers s n).trace ++ [call] =
        s.trace ++ (callsOf answers image context nocache s).take (n + 1) ∧
      (buildOne image context nocache).run answers s =
        (perform call next).run answers ((buildOne image context nocache).stateAt answers s n) ∧
      runFailing answers image context nocache s n fault after =
        (let here := (buildOne image context nocache).stateAt answers s n
         let rest := (next (.error fault)).run answers (here.made call (after call here.world))
         (rest.1, rest.2.counting none)) := by
  obtain ⟨bound, -⟩ := List.getElem?_eq_some_iff.1 made
  rw [callsOf, List.length_map] at bound
  obtain ⟨there, next, stops, called, traced, same, fails⟩ :=
    @run_failing _ _ _ answers (fun _ => fault) after _ _ (stops_buildOne image context nocache) s n bound
  obtain rfl : there = call := Option.some.inj (called.symm.trans made)
  refine ⟨next, stops, ?_, same, fails⟩
  rw [traced, List.take_add_one, made, List.append_assoc]
  rfl

variable {n : Nat} {call : Call}

theorem aborted (made : (callsOf answers image context nocache s)[n]? = some call)
    (strict : tolerates image.build.cleanup call fault = false) :
    let here := (buildOne image context nocache).stateAt answers s n
    let cut := runFailing answers image context nocache s n fault after
    cut.1 = .error fault ∧
      cut.2.trace = s.trace ++ (callsOf answers image context nocache s).take (n + 1) ∧
      cut.2.ledger = here.ledger := by
  obtain ⟨next, stops, traced, -, fails⟩ := place_of_call made fault after
  dsimp only
  rw [fails, aborts_of_stops stops strict]
  exact ⟨rfl, traced, rfl⟩

theorem resumed {path : Path} (made : (callsOf answers image context nocache s)[n]? = some (.extract path))
    (unreadable : isUnreadable fault = true) : ∃ record,
    let here := (buildOne image context nocache).stateAt answers s n
    let rest := (withoutBase image context nocache record).run answers
      (here.made (.extract path) (after (.extract path) here.world))
    runFailing answers image context nocache s n fault after = (rest.1, rest.2.counting none) ∧
      (∃ later, rest.2.trace = s.trace ++ (callsOf answers image context nocache s).take (n + 1) ++ later ∧
        ∀ other ∈ later, other.isQuiet = true) ∧
      rest.2.ledger.store = here.ledger.store := by
  obtain ⟨next, stops, traced, -, fails⟩ := place_of_call made fault after
  obtain ⟨record, goesOn⟩ : ∃ record, next (.error fault) = withoutBase image context nocache record :=
    resumes_of_stops stops unreadable
  rw [goesOn] at fails
  have quiet := run_confined (quiet_withoutBase image context nocache record) answers
  rw [← traced]
  exact ⟨record, fails, quiet _⟩

theorem passed {id : String} {force : Bool}
    (made : (callsOf answers image context nocache s)[n]? = some (.remove id force))
    (mild : tolerates image.build.cleanup (.remove id force) fault = true)
    (removed : (answers (.remove id force)
      ((buildOne image context nocache).stateAt answers s n).world).1 = .ok ()) :
    let whole := (buildOne image context nocache).run answers s
    let cut := runFailing answers image context nocache s n fault after
    ∃ new, whole.1 = .ok new ∧ cut.1 = .ok new ∧ cut.2.trace = whole.2.trace ∧
      cut.2.ledger.store = whole.2.ledger.store := by
  let here := (buildOne image context nocache).stateAt answers s n
  obtain ⟨next, stops, -, same, fails⟩ := place_of_call made fault after
  obtain ⟨good, bad, new, succeeded, refused⟩ : ∃ good bad new,
      next (.ok ()) = told good new ∧ next (.error fault) = told bad new := ends_of_stops stops mild
  let call := Call.remove id force
  obtain ⟨log, ended⟩ := run_told answers good new (here.made call (answers call here.world).2)
  obtain ⟨other, cut⟩ := run_told answers bad new (here.made call (after call here.world))
  have whole : (buildOne image context nocache).run answers s =
      (told good new).run answers (here.made call (answers call here.world).2) := by
    rw [same, ← succeeded, ← removed]
    rfl
  rw [refused] at fails
  dsimp only at fails ⊢
  rw [whole, ended, fails, cut]
  exact ⟨new, rfl, rfl, rfl, rfl⟩

end comparison

/-- A failing call ends the build with its own fault: the calls are those of the build up to and with
it, and the store is as it was. A Dockerfile that cannot be read lets the build go on without a base
image, and with quiet calls only; a refused attempt to remove the old image changes neither the id
nor the calls. A malformed name is refused before the first call. -/
theorem failure_aborts {W : Type} (answers : Answers surroundings W) (image : Image) (context : Context)
    (nocache : Option String) (s : State surroundings W) :
    (∀ error, Reference.parse image.name = .error error →
      (buildOne image context nocache).run answers s = (.error (.reference error), s)) ∧
    ∀ n call, (callsOf answers image context nocache s)[n]? = some call → ∀ fault after,
      let whole := (buildOne image context nocache).run answers s
      let here := (buildOne image context nocache).stateAt answers s n
      let cut := runFailing answers image context nocache s n fault after
      whole.2.trace = s.trace ++ callsOf answers image context nocache s ∧
      here.trace ++ [call] = s.trace ++ (callsOf answers image context nocache s).take (n + 1) ∧
      (tolerates image.build.cleanup call fault = false →
        cut.1 = .error fault ∧
        cut.2.trace = s.trace ++ (callsOf answers image context nocache s).take (n + 1) ∧
        cut.2.ledger = here.ledger) ∧
      (∀ path, call = .extract path → isUnreadable fault = true → ∃ record,
        let rest := (withoutBase image context nocache record).run answers (here.made call (after call here.world))
        cut = (rest.1, rest.2.counting none) ∧
        (∃ later, rest.2.trace = s.trace ++ (callsOf answers image context nocache s).take (n + 1) ++ later ∧
          ∀ other ∈ later, other.isQuiet = true) ∧
        rest.2.ledger.store = here.ledger.store) ∧
      ∀ id force, call = .remove id force → image.build.cleanup = .attempt → isRefusal fault = true →
        (answers (.remove id force) here.world).1 = .ok () → ∃ new,
          whole.1 = .ok new ∧ cut.1 = .ok new ∧ cut.2.trace = whole.2.trace ∧
          cut.2.ledger.store = whole.2.ledger.store := by
  refine ⟨fun error rejected => rejected_buildOne rejected, fun n call made fault after => ?_⟩
  obtain ⟨-, -, traced, -, -⟩ := place_of_call made fault after
  refine ⟨trace_run answers _ s, traced, aborted made, ?_, ?_⟩
  · rintro path rfl unreadable
    exact resumed made unreadable
  · rintro id force rfl attempted refusal removed
    exact passed made (by rw [attempted]; exact refusal) removed

def app : Image := ⟨"app", none, { Config.Build.default with dockerfile := some "Dockerfile" }⟩

def appStart : State surroundings Script :=
  .start { plainScript with base := some "alpine", ids := .ofList [("app", [some "old", some "new"])] }
    .empty (.ofList [])

def willing : Answers surroundings Script := fun call script => script.reply call

theorem names_app : (callsOf willing app bareContext none appStart).map Call.name =
    ["extract", "requires_pull", "resolve_auth", "pull", "resolve_id", "create_archive", "build",
      "resolve_id", "remove"] := by
  decide +kernel

theorem eq_extract_of_name {call : Call} (named : call.name = "extract") : ∃ path, call = .extract path := by
  cases call with
  | extract path => exact ⟨path, rfl⟩
  | _ => simp [Call.name] at named

theorem eq_remove_of_name {call : Call} (named : call.name = "remove") :
    ∃ id force, call = .remove id force := by
  cases call with
  | remove id force => exact ⟨id, force, rfl⟩
  | _ => simp [Call.name] at named

theorem failure_aborts_app :
    let cut n fault := runFailing willing app bareContext none appStart n fault fun _ script => script
    (cut 3 (.runtime "lost")).1 = .error (.runtime "lost") ∧
    (∃ later, (cut 0 (.system "denied")).2.trace =
        (callsOf willing app bareContext none appStart).take 1 ++ later ∧
      ∀ other ∈ later, other.isQuiet = true) ∧
    ∃ new, (cut 8 (.daemon ⟨"in use", none⟩)).1 = .ok new := by
  have place {n : Nat} {name : String} (told : ((callsOf willing app bareContext none appStart).map
      Call.name)[n]? = some name) : ∃ call, (callsOf willing app bareContext none appStart)[n]? = some call ∧
        call.name = name := by
    rw [List.getElem?_map] at told
    exact Option.map_eq_some_iff.1 told
  rw [names_app] at place
  obtain ⟨-, fails⟩ := failure_aborts willing app bareContext none appStart
  refine ⟨?_, ?_, ?_⟩
  · obtain ⟨call, made, -⟩ := @place 3 "pull" rfl
    obtain ⟨-, -, aborts, -⟩ := fails 3 call made (.runtime "lost") fun _ script => script
    exact (aborts (by cases call <;> rfl)).1
  · obtain ⟨call, made, name⟩ := @place 0 "extract" rfl
    obtain ⟨path, rfl⟩ := eq_extract_of_name name
    obtain ⟨-, -, -, resumes, -⟩ := fails 0 _ made (.system "denied") fun _ script => script
    obtain ⟨record, same, quiet, -⟩ := resumes path rfl rfl
    dsimp only
    rw [same]
    exact quiet
  · obtain ⟨call, made, name⟩ := @place 8 "remove" rfl
    obtain ⟨id, force, rfl⟩ := eq_remove_of_name name
    obtain ⟨-, -, -, -, passes⟩ := fails 8 _ made (.daemon ⟨"in use", none⟩) fun _ script => script
    obtain ⟨new, -, ends, -⟩ := passes id force rfl rfl rfl rfl
    exact ⟨new, ends⟩

end ImageBuild.Workflow
