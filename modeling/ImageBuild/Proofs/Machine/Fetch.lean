import ImageBuild.Machine.Run
import ImageBuild.Machine.World
import ImageBuild.Proofs.Machine.Answering
import ImageBuild.Proofs.Session.Play

namespace ImageBuild.Machine

open Program Workflow
open Cache (PullCache held cacheKey grows_add)

abbrev Query := Option String → String → Bool → PullCache → Routine Bool

def answering (query : Query) : (call : Workflow.Call) → Routine call.Answer
  | .requiresPull policy image alwaysAllowed cached => query policy image alwaysAllowed cached
  | call => routine call

def onMachineAsking {α : Type} (query : Query) (build : Build α) : Routine α :=
  build.interpret fun call => (answering query call).outcome

theorem onMachineAsking_daemon {α : Type} (build : Build α) :
    onMachineAsking (Pull.decide hasImage) build = onMachine build := by
  have same : answering (Pull.decide hasImage) = routine := by
    funext call
    cases call <;> rfl
  rw [onMachineAsking, same, onMachine]

/-! ### Credentials -/

/-- The credentials for a server: its own, or else the fallback. -/
def meantFor (auth : Config.Auth) (server : Option String) : Option Config.Credentials :=
  (server.bind auth.registries.get?).or auth.fallback

theorem resolve_meant (auth : Config.Auth) {image : Reference} {server : Option String}
    (chosen : Reference.findRegistry [image.registry, server] = server) :
    (Login.resolve auth image server false).1 = (meantFor auth server).map (Login.mk · server) := by
  have nobody : auth.push.filter (fun _ => false) = none := by cases auth.push <;> rfl
  unfold Login.resolve Login.pick meantFor
  rw [chosen, nobody]
  cases server with
  | none => cases auth.fallback <;> rfl
  | some name =>
    dsimp only [Option.bind_some]
    cases auth.registries.get? name with
    | some own => rfl
    | none => cases auth.fallback <;> rfl

/-! ### The fetch -/

theorem server_again (check : Check) (name : Reference) :
    Reference.findRegistry [name.registry, check.server? name] = check.server? name := by
  rw [← check.findRegistry_candidates]
  exact Reference.findRegistry_again _ _

section fetch

variable {query : Query} {check : Check} {name : Reference} {i j : Inside} {es : List Seen}
  {r : Except Fault Unit}

theorem fetched_of_pull {k : Inside} {first : List Seen} {ended : Except Fault Unit}
    (parsed : Reference.parse check.image = .ok name)
    (h : Behaves (pull name.withLatest
      ((meantFor check.context.auth (check.server? name)).map (Login.mk · (check.server? name)))
      (check.server? name)) i first ended k) :
    Fetched (check.server? name) (meantFor check.context.auth (check.server? name))
      (name.pulledFrom (check.server? name)) first ended := by
  have fetched := behaves_pull (Reference.parse_withLatest parsed) (check.server_ne name) h
  rwa [Reference.fullName_pulled parsed (server_again check name)] at fetched

/-- The image comes from a server that the name does not show. -/
def Unshown (check : Check) (name : Reference) : Prop := (check.server? name).isSome = true ∧ name.registry = none

def aliasing (source target : String) (answer : Except Daemon.ClientError Unit) : Seen :=
  ⟨.client (.tag source target), answer⟩

theorem unshown_iff (parsed : Reference.parse check.image = .ok name) :
    ((check.server? name).isSome = true ∧ (!name.hasRegistry) = true) ↔ Unshown check name := by
  obtain ⟨-, -, -, admitted⟩ := Reference.parse_eq_ok_iff.1 parsed
  rw [Unshown, Reference.hasRegistry, Reference.filled_eq_self (Reference.registry_ne admitted)]
  simp

/-- A fetch shows the pull from the server of the check, with the credentials meant for it; where that
has succeeded, the rest follows on the same store. -/
theorem behaves_pulling (parsed : Reference.parse check.image = .ok name)
    (h : Behaves (onMachineAsking query (pullImage check.image name check.registry check.context)) i es r j) :
    ∃ first ended, Fetched (check.server? name) (meantFor check.context.auth (check.server? name))
        (name.pulledFrom (check.server? name)) first ended ∧
      ((∃ fault, ended = .error fault ∧ es = first ∧ r = .error fault) ∨
        ∃ start k rest, ended = .ok () ∧ es = first ++ rest ∧ start ∈ i.clock.readings ∧
          k.clock.readings ⊆ i.clock.readings ∧ k.ledger.store = i.ledger.store ∧
          Behaves (onMachineAsking query (afterFetch check name start)) k rest r j) := by
  unfold onMachineAsking at h
  rw [pullImage_eq] at h
  have first := behaves_now_bind h
  -- The login service never fails, and its choice is the one for the server that is pulled from.
  rcases behaves_answered first with ⟨fault, refused, -⟩ | ⟨login, k, front, es, resolved, second, rfl⟩
  · obtain ⟨-, impossible⟩ := behaves_resolveLogin refused
    cases impossible
  obtain ⟨rfl, told⟩ := behaves_resolveLogin resolved
  have silent := (behaves_confined (confined_routine (check.login name)) resolved).2
  have sooner := behaves_readings resolved
  obtain rfl : login = (meantFor check.context.auth (check.server? name)).map (Login.mk · (check.server? name)) :=
    (Except.ok.inj told).trans (resolve_meant check.context.auth (server_again check name))
  rcases behaves_answered second with ⟨fault, failed, rfl⟩ | ⟨⟨⟩, l, front, rest, pulled, third, rfl⟩
  · exact ⟨es, .error fault, fetched_of_pull parsed failed, .inl ⟨fault, rfl, rfl, rfl⟩⟩
  have kept := (behaves_confined (confined_routine (check.pull name _)) pulled).2
  refine ⟨front, .ok (), fetched_of_pull parsed pulled, .inr ⟨i.clock.millis.1, l, rest, rfl, rfl, ?_, ?_, ?_, third⟩⟩
  · exact i.clock.millis_mem_readings
  · exact List.Subset.trans (behaves_readings pulled) (List.Subset.trans sooner i.clock.readings_millis_subset)
  · exact kept.trans silent

/-- After a pull the image gets its name where the server is not shown, unless the time cannot be told or
the cache cannot be read; a refusal of the name ends the check. -/
theorem behaves_afterFetch (parsed : Reference.parse check.image = .ok name) {start : Float}
    (h : Behaves (onMachineAsking query (afterFetch check name start)) i es r j) :
    (Unshown check name ∧ ∃ answer, es = [aliasing (name.pulledFrom (check.server? name)) check.image answer] ∧
      ∀ error, answer = .error error → r = .error (refusal (.tag (name.pulledFrom (check.server? name)) check.image) error)) ∨
    es = [] ∧ (Unshown check name → (∀ time, (Duration.real (i.clock.millis.1 - start)).text ≠ .ok time) ∨
      ∀ cached, held (i.ledger.store.get? cacheKey) ≠ .ok cached) := by
  rcases behaves_ofExcept_bind (behaves_now_bind h) with ⟨error, untold, rfl, -⟩ | ⟨time, -, told⟩
  · refine .inr ⟨rfl, fun _ => .inl fun time told => ?_⟩
    rw [untold] at told
    cases told
  obtain ⟨k, same, -, noted⟩ := behaves_note_bind told
  rcases behaves_ofStep_bind noted with ⟨reason, failed, rfl, -⟩ | ⟨⟨⟩, l, -, -, -, recorded⟩
  · refine .inr ⟨rfl, fun _ => .inr fun cached known => ?_⟩
    rw [← same] at known
    rw [(grows_add known).1] at failed
    cases failed
  split at recorded
  · rename_i unshown
    refine .inl ⟨(unshown_iff parsed).1 unshown, ?_⟩
    have again := Reference.parse_withLatest parsed
    rcases behaves_ofExcept_bind recorded with ⟨error, rejected, -⟩ | ⟨found, parsed', tagging⟩
    · rw [again] at rejected
      cases rejected
    obtain rfl := Except.ok.inj (again.symm.trans parsed')
    have source := Reference.fullName_pulled parsed (server_again check name)
    rw [← source]
    rcases behaves_answered tagging with ⟨fault, tagged, rfl⟩ | ⟨⟨⟩, m, shown, rest, tagged, last, rfl⟩
    · obtain ⟨answer, rfl, ended⟩ := behaves_tag tagged
      refine ⟨answer, rfl, ?_⟩
      rintro error rfl
      exact ended
    · obtain ⟨answer, rfl, ended⟩ := behaves_tag tagged
      obtain ⟨rfl, -⟩ := behaves_note last
      refine ⟨answer, rfl, fun error refused => ?_⟩
      rw [refused] at ended
      cases ended
  · rename_i shown
    obtain ⟨rfl, -⟩ := behaves_pure recorded
    exact .inr ⟨rfl, fun unshown => absurd ((unshown_iff parsed).2 unshown) shown⟩

theorem behaves_fetch (parsed : Reference.parse check.image = .ok name)
    (h : Behaves (onMachineAsking query (pullImage check.image name check.registry check.context)) i es r j) :
    ∃ first tags ended, es = first ++ tags ∧
      Fetched (check.server? name) (meantFor check.context.auth (check.server? name))
        (name.pulledFrom (check.server? name)) first ended ∧
      (∀ e ∈ tags, e.call = .client (.tag (name.pulledFrom (check.server? name)) check.image)) ∧
      ∀ fault, ended = .error fault → tags = [] ∧ r = .error fault := by
  obtain ⟨first, ended, fetched, ⟨fault, rfl, rfl, rfl⟩ | ⟨start, k, tags, rfl, rfl, -, -, -, rest⟩⟩ :=
    behaves_pulling parsed h
  · refine ⟨es, [], .error fault, by simp, fetched, by simp, ?_⟩
    intro other same
    exact ⟨rfl, same⟩
  · refine ⟨first, tags, .ok (), rfl, fetched, ?_, by simp⟩
    rcases behaves_afterFetch parsed rest with ⟨-, answer, rfl, -⟩ | ⟨rfl, -⟩
    · rintro e (⟨⟩ | ⟨_, ⟨⟩⟩)
      rfl
    · simp

def decision (query : Query) (check : Check) (cached : PullCache) : Routine Bool :=
  query check.context.autoPull check.image check.alwaysAllowed cached

def decided (query : Query) (check : Check) (name : Reference) (wanted : Bool) : Routine Unit :=
  onMachineAsking query
    (if wanted = true then pullImage check.image name check.registry check.context
     else Program.debug .puller s!"[AutoPull] '{check.image}' does not need to be pulled")

theorem onMachineAsking_check (query : Query) (parsed : Reference.parse check.image = .ok name) :
    onMachineAsking query check.program =
      Program.ofStep Cache.load >>= fun cached => decision query check cached >>= decided query check name := by
  unfold onMachineAsking Check.program checkImage
  rw [parsed]
  show (Program.ofStep Cache.load >>= _).interpret _ = _
  rw [interpret_bind, interpret_ofStep]
  exact congrArg _ (funext fun cached => interpret_ask _ _)

/-- A check on the machine whose query wants the image presents the credentials meant for the server
that it pulls from, to that server and to no other, and pulls nothing where they are refused. -/
theorem presents_meant_credentials {W : Type} {cached : PullCache} {ledger : Cache.Ledger}
    {answers : Answers interface W} {s t : State interface W} (parsed : Reference.parse check.image = .ok name)
    (loaded : Cache.load.run.run s.ledger = (.ok cached, ledger))
    (asked : (decision query check cached).run answers { s with ledger } = (.ok true, t)) :
    ∃ first tags ended,
      (onMachineAsking query check.program).events answers s =
        (decision query check cached).events answers { s with ledger } ++ (first ++ tags) ∧
      Fetched (check.server? name) (meantFor check.context.auth (check.server? name))
        (name.pulledFrom (check.server? name)) first ended ∧
      (∀ e ∈ tags, e.call = .client (.tag (name.pulledFrom (check.server? name)) check.image)) ∧
      (∀ fault, ended = .error fault →
        tags = [] ∧ ((onMachineAsking query check.program).run answers s).1 = .error fault) ∧
      (query = Pull.decide hasImage →
        ∀ e ∈ (decision query check cached).events answers { s with ledger }, e.call.isInspection = true) := by
  obtain ⟨opened, silent⟩ := run_ofStep answers loaded
  have shown := run_behaves answers (decided query check name true) t
  obtain ⟨first, tags, ended, split, fetched, tagged, stopped⟩ := behaves_fetch parsed shown
  refine ⟨first, tags, ended, ?_, fetched, tagged, ?_, ?_⟩
  · rw [onMachineAsking_check query parsed, events_bind, silent, opened, List.nil_append]
    dsimp only
    rw [events_bind, asked]
    dsimp only
    rw [split]
  · rw [onMachineAsking_check query parsed, run_bind, opened]
    dsimp only
    rw [run_bind, asked]
    exact stopped
  · rintro rfl
    have looks : (decision (Pull.decide hasImage) check cached).Confined fun call : Machine.Call =>
        call.isInspection = true := confined_decide confined_hasImage _ _ _ _
    exact (behaves_confined looks (run_behaves answers _ _)).1

end fetch

/-- A check of an image from a registry that has credentials of its own. -/
def guarded : Check :=
  { alpine with
    registry := some "reg.io"
    context := { bareContext with
      auth := ⟨some ⟨"anyone", "a", none⟩, some ⟨"pusher", "p", none⟩,
        .ofList [("reg.io", ⟨"reader", "r", none⟩)]⟩ } }

def offering : State interface World :=
  .start ⟨{ remote := .ofList [("reg.io/alpine:latest", "1f2e")], present := .empty }, .empty⟩ .empty (.ofList [])

theorem presents_meant_credentials_guarded :
    ∃ front first tags ended,
      (onMachine guarded.program).events World.answers offering = front ++ (first ++ tags) ∧
      Fetched (some "reg.io") (some ⟨"reader", "r", none⟩) "reg.io/alpine:latest" first ended ∧
      ∀ e ∈ front, e.call.isInspection = true := by
  have parsed : Reference.parse guarded.image = .ok ⟨"alpine", none, "alpine", none, none⟩ := by decide +kernel
  have loaded : Cache.load.run.run offering.ledger = (.ok .empty, (Cache.load.run.run offering.ledger).2) := rfl
  have asked : (decision (Pull.decide hasImage) guarded .empty).run World.answers
      { offering with ledger := (Cache.load.run.run offering.ledger).2 } = (.ok true, _) := rfl
  obtain ⟨first, tags, ended, shown, fetched, -, -, front⟩ := presents_meant_credentials parsed loaded asked
  rw [onMachineAsking_daemon] at shown
  exact ⟨_, first, tags, ended, shown, fetched, front rfl⟩

end ImageBuild.Machine
