import ImageBuild.Proofs.Program.Warnings
import ImageBuild.Proofs.Session.Play
import ImageBuild.Proofs.Workflow.Execution

/-!
# Retiring the old image

All that a generative build can do from the lookup of the old id on, however its calls end: where one of
them fails nothing is removed, and otherwise the old image goes, and it alone, when the mode asks for it and
its name has another id.
-/

namespace ImageBuild.Workflow

open Program Config Data

/-! ### Stages without warnings -/

theorem calm_ask (call : Call) : (ask call).Calm := by
  intro answer
  cases answer <;> trivial

theorem calm_elapsed (start : Float) : (elapsed start).Calm :=
  calm_bind calm_now fun _ => calm_ofExcept _ _

theorem calm_oldId (image : Image) : (oldId image).Calm := by
  unfold oldId
  cases image.build.cleanup.isRemovalRequested
  · trivial
  · exact calm_ask _

theorem calm_buildImage (image : Image) (context : Context) (nocache : Option String) (args : Table String) :
    (buildImage image context nocache args).Calm :=
  calm_bind calm_now fun _ =>
    calm_bind (calm_ask _) fun _ =>
      calm_bind (calm_elapsed _) fun _ =>
        calm_bind (calm_note nofun) fun _ =>
          calm_bind (calm_ask _) fun _ =>
            calm_bind (calm_ask _) fun _ =>
              calm_bind (calm_note nofun) fun _ => trivial

section behaviours

variable {i j : Inside} {es : List Happening}

/-! ### Removing -/

/-- How a build with a new id ends once the old image is to go, by how its removal ends. -/
inductive Dismissed (image : Image) (new : Option String) : Except Fault Unit → Except Fault (Option String) →
    List Log.Record → Prop where
  | removed : Dismissed image new (.ok ()) (.ok new) []
  | warned {error : Daemon.Error} (tries : image.build.cleanup = .attempt) :
    Dismissed image new (.error (.daemon error)) (.ok new) [warning image.description error]
  | raised {error : Daemon.Error} (insists : image.build.cleanup = .remove) :
    Dismissed image new (.error (.daemon error)) (.error (.daemon error)) []
  | broken {fault : Fault} (other : ∀ error, fault ≠ .daemon error) : Dismissed image new (.error fault) (.error fault) []

/-- What a build still does that knows the old and the new id, how it ends, and what it warns of. -/
inductive Settled (image : Image) (old new : Option String) : List Happening → Except Fault (Option String) →
    List Log.Record → Prop where
  | spared (needless : image.build.cleanup = .keep ∨ old = none ∨ old = new) : Settled image old new [] (.ok new) []
  | retired {id : String} {answer : Except Fault Unit} {r : Except Fault (Option String)} {warned : List Log.Record}
    (requested : image.build.cleanup ≠ .keep) (stale : old = some id) (different : new ≠ some id)
    (retires : Dismissed image new answer r warned) : Settled image old new [⟨.remove id true, answer⟩] r warned

/-- What a removal comes to, and what it warns of. -/
inductive Removes (mode : Cleanup) (id description : String) : Except Fault Unit → Except Fault Removal →
    List Log.Record → Prop where
  | removed : Removes mode id description (.ok ()) (.ok (.removed id)) []
  | warned {error : Daemon.Error} (tries : mode = .attempt) :
    Removes mode id description (.error (.daemon error)) (.ok (.warned id error)) [warning description error]
  | failed {error : Daemon.Error} (insists : mode = .remove) :
    Removes mode id description (.error (.daemon error)) (.ok (.failed id error)) []
  | broken {fault : Fault} (other : ∀ error, fault ≠ .daemon error) :
    Removes mode id description (.error fault) (.error fault) []

theorem behaves_removal {mode : Cleanup} {id description : String} {r : Except Fault Removal} (requested : mode ≠ .keep)
    (h : Behaves (attemptRemoval mode id description) i es r j) :
    ∃ answer warned, es = [⟨.remove id true, answer⟩] ∧ j.warnings = i.warnings ++ warned ∧
      Removes mode id description answer r warned := by
  have asks : mode.isRemovalRequested = true := by
    cases mode with
    | keep => exact absurd rfl requested
    | _ => rfl
  unfold attemptRemoval at h
  rw [asks] at h
  obtain ⟨answer, rest, rfl, tail⟩ := behaves_attempt_bind h
  cases answer with
  | ok value =>
    obtain ⟨k, kept, ending⟩ := warnings_note_bind tail
    obtain ⟨rfl, rfl, rfl⟩ := behaves_pure ending
    exact ⟨_, [], rfl, kept, .removed⟩
  | error fault =>
    by_cases refused : ∃ error, fault = .daemon error
    · obtain ⟨error, rfl⟩ := refused
      dsimp only at tail
      by_cases tries : mode = .attempt
      · rw [if_pos tries] at tail
        obtain ⟨k, kept, ending⟩ := warnings_note_bind tail
        obtain ⟨rfl, rfl, rfl⟩ := behaves_pure ending
        exact ⟨_, _, rfl, kept, .warned tries⟩
      · rw [if_neg tries] at tail
        obtain ⟨rfl, rfl, rfl⟩ := behaves_pure tail
        have insists : mode = .remove := by
          cases mode with
          | keep => exact absurd rfl requested
          | attempt => exact absurd rfl tries
          | remove => rfl
        exact ⟨_, [], rfl, (List.append_nil _).symm, .failed insists⟩
    · have other : ∀ error, fault ≠ .daemon error := fun error same => refused ⟨error, same⟩
      have broken : Behaves (.failed fault : Build Removal) i rest r j := by
        cases fault with
        | daemon error => exact absurd rfl (other error)
        | _ => exact tail
      obtain ⟨rfl, rfl, rfl⟩ := behaves_failed broken
      exact ⟨_, [], rfl, (List.append_nil _).symm, .broken other⟩

theorem behaves_settling {image : Image} {old new : Option String} {r : Except Fault (Option String)}
    (h : Behaves (retire image old new >>= fun _ => pure new) i es r j) :
    ∃ warned, j.warnings = i.warnings ++ warned ∧ Settled image old new es r warned := by
  unfold retire at h
  cases old with
  | none =>
    obtain ⟨rfl, rfl, rfl⟩ := behaves_pure h
    exact ⟨[], (List.append_nil _).symm, .spared (.inr (.inl rfl))⟩
  | some id =>
    dsimp only at h
    by_cases same : some id = new
    · rw [if_pos same] at h
      obtain ⟨rfl, rfl, rfl⟩ := behaves_pure h
      exact ⟨[], (List.append_nil _).symm, .spared (.inr (.inr same))⟩
    · rw [if_neg same] at h
      by_cases kept : image.build.cleanup = .keep
      · rw [kept] at h
        obtain ⟨rfl, rfl, rfl⟩ := behaves_pure h
        exact ⟨[], (List.append_nil _).symm, .spared (.inl kept)⟩
      · have different : new ≠ some id := Ne.symm same
        rw [LawfulMonad.bind_assoc] at h
        rcases behaves_bind h with ⟨fault, early, rfl⟩ | ⟨removal, k, first, rest, head, tail, rfl⟩
        · obtain ⟨answer, warned, rfl, told, removes⟩ := behaves_removal kept early
          cases removes with
          | broken other => exact ⟨[], told, .retired kept rfl different (.broken other)⟩
        · obtain ⟨answer, warned, rfl, told, removes⟩ := behaves_removal kept head
          cases removes with
          | removed =>
            obtain ⟨rfl, rfl, rfl⟩ := behaves_pure tail
            exact ⟨[], told, .retired kept rfl different .removed⟩
          | warned tries =>
            obtain ⟨rfl, rfl, rfl⟩ := behaves_pure tail
            exact ⟨_, told, .retired kept rfl different (.warned tries)⟩
          | failed insists =>
            obtain ⟨rfl, rfl, rfl⟩ := behaves_failed tail
            exact ⟨[], told, .retired kept rfl different (.raised insists)⟩

/-! ### The whole build -/

/-- The calls of a build that comes to know both ids. -/
inductive Remade (image : Image) (context : Context) (options : BuildOptions) (old new : Option String) :
    List Happening → Prop where
  | intro {front : List Happening} {archive : Path} (looked : Looked image old front) :
    Remade image context options old new (front ++ remaking image context options archive new)

/-- The calls of a build that does not. -/
inductive Unmade (image : Image) (context : Context) (options : BuildOptions) (fault : Fault) : List Happening → Prop where
  | rejected : Unmade image context options fault []
  | unknown (requested : image.build.cleanup ≠ .keep) :
    Unmade image context options fault [⟨.resolveId image.name, .error fault⟩]
  | short {old : Option String} {front rest : List Happening} (looked : Looked image old front)
    (short : Short image context options fault rest) : Unmade image context options fault (front ++ rest)

theorem unknown_of_oldId {image : Image} {fault : Fault} (h : Behaves (oldId image) i es (.error fault) j) :
    image.build.cleanup ≠ .keep ∧ es = [⟨.resolveId image.name, .error fault⟩] := by
  unfold oldId at h
  cases requested : image.build.cleanup.isRemovalRequested with
  | false =>
    rw [requested] at h
    cases behaves_pure h |>.2.1
  | true =>
    rw [requested] at h
    refine ⟨fun kept => by simp [kept, Cleanup.isRemovalRequested] at requested, ?_⟩
    cases h with
    | @perform _ _ told _ _ rest _ tail =>
      cases told with
      | ok answer => cases behaves_pure tail |>.2.1
      | error fault' =>
        obtain ⟨rfl, same, -⟩ := behaves_failed tail
        rw [Except.error.inj same]

theorem behaves_generative {image : Image} {context : Context} {nocache : Option String} {args : Table String}
    {r : Except Fault (Option String)} (generative : image.build.isArchiveMode = false)
    (h : Behaves (execute image context nocache args) i es r j) :
    (∃ old new made back warned, es = made ++ back ∧
      Remade image context (buildOptions image.build nocache args) old new made ∧
      j.warnings = i.warnings ++ warned ∧ Settled image old new back r warned) ∨
    ∃ fault, Unmade image context (buildOptions image.build nocache args) fault es ∧ r = .error fault := by
  rw [execute_eq] at h
  rcases behaves_bind h with ⟨fault, early, rfl⟩ | ⟨name, k, first, rest, named, looking, rfl⟩
  · obtain rfl := behaves_silent (confined_ofExcept _ _) early
    exact .inr ⟨fault, .rejected, rfl⟩
  obtain rfl := behaves_silent (confined_ofExcept _ _) named
  rw [List.nil_append]
  rcases behaves_bind looking with ⟨fault, early, rfl⟩ | ⟨old, l, front, later, known, renewing, rfl⟩
  · obtain ⟨requested, rfl⟩ := unknown_of_oldId early
    exact .inr ⟨fault, .unknown requested, rfl⟩
  have looked := behaves_oldId known
  unfold renew at renewing
  split at renewing
  · rename_i path source
    cases generative.symm.trans (archivePath_of_source source).1
  rcases behaves_bind renewing with ⟨fault, early, rfl⟩ | ⟨new, m, middle, back, built, settling, rfl⟩
  · rcases behaves_remaking early with ⟨_, _, _, impossible⟩ | ⟨other, short, same⟩
    · cases impossible
    · obtain rfl := Except.error.inj same
      exact .inr ⟨fault, .short looked short, rfl⟩
  rcases behaves_remaking built with ⟨archive, _, rfl, same⟩ | ⟨_, _, impossible⟩
  · obtain rfl := Except.ok.inj same
    obtain ⟨warned, told, settled⟩ := behaves_settling settling
    -- what warns is the removal, and nothing before it
    have calm : m.warnings = i.warnings := by
      rw [behaves_calm (calm_buildImage _ _ _ _) built, behaves_calm (calm_oldId _) known,
        behaves_calm (calm_ofExcept _ _) named]
    exact .inl ⟨old, new, _, back, warned, (List.append_assoc _ _ _).symm, .intro looked, calm ▸ told, settled⟩
  · cases impossible

end behaviours

section courses

variable {image : Image} {context : Context} {options : BuildOptions} {old new : Option String} {es : List Happening}

theorem isRemoval_of_remade (remade : Remade image context options old new es) : ∀ e ∈ es, e.call.isRemoval = false := by
  cases remade with
  | intro looked =>
    rw [List.forall_mem_append]
    exact ⟨isRemoval_of_looked looked, by simp [remaking, Call.isRemoval]⟩

theorem answered_of_looked (looked : Looked image old es) : ∀ e ∈ es, ∀ fault, e.answer ≠ .error fault := by
  cases looked <;> simp

theorem answered_of_remade (remade : Remade image context options old new es) :
    ∀ e ∈ es, ∀ fault, e.answer ≠ .error fault := by
  cases remade with
  | intro looked =>
    rw [List.forall_mem_append]
    exact ⟨answered_of_looked looked, by simp [remaking]⟩

theorem isRemoval_of_unmade {fault : Fault} (unmade : Unmade image context options fault es) :
    ∀ e ∈ es, e.call.isRemoval = false := by
  cases unmade with
  | rejected => simp
  | unknown => simp [Call.isRemoval]
  | short looked short =>
    rw [List.forall_mem_append]
    refine ⟨isRemoval_of_looked looked, ?_⟩
    cases short <;> simp [Call.isRemoval]

/-- The fault of a build is that of the call which fails. -/
theorem failed_of_unmade {fault : Fault} (unmade : Unmade image context options fault es) :
    ∀ e ∈ es, ∀ reason, e.answer = .error reason → reason = fault := by
  cases unmade with
  | rejected => simp
  | unknown => simp
  | short looked short =>
    rw [List.forall_mem_append]
    refine ⟨fun e member reason failed => absurd failed (answered_of_looked looked e member reason), ?_⟩
    cases short <;> simp

theorem not_remade_of_unmade {fault : Fault} (unmade : Unmade image context options fault es) {made : List Happening}
    (remade : Remade image context options old new made) : ¬made <+: es := by
  obtain ⟨known⟩ := remade
  cases unmade with
  | rejected => cases known <;> simp [remaking]
  | unknown => cases known <;> simp [remaking]
  | short looked short => cases known <;> cases looked <;> cases short <;> simp [remaking]

theorem count_of_settled {r : Except Fault (Option String)} {warned : List Log.Record}
    (settled : Settled image old new es r warned) :
    (es.countP fun e => e.call.isRemoval) = if image.build.cleanup ≠ .keep ∧ old ≠ none ∧ old ≠ new then 1 else 0 := by
  cases settled with
  | spared needless =>
    have idle : ¬(image.build.cleanup ≠ .keep ∧ old ≠ none ∧ old ≠ new) := by
      rintro ⟨requested, known, different⟩
      rcases needless with kept | unknown | same
      · exact requested kept
      · exact known unknown
      · exact different same
    rw [if_neg idle]
    rfl
  | retired requested stale different =>
    have goes : image.build.cleanup ≠ .keep ∧ old ≠ none ∧ old ≠ new := by
      rw [stale]
      exact ⟨requested, nofun, different.symm⟩
    rw [if_pos goes]
    rfl

/-! ### Lookups -/

variable {front back : List Happening} {name : String} {answer : Except Fault (Option String)}

theorem built_of_split {archive : Path} {rest : List Happening}
    (split : ⟨.createArchive image.name image.build context, .ok archive⟩ :: ⟨.build image.name archive options, .ok ()⟩ ::
      rest = front ++ ⟨.resolveId name, answer⟩ :: back) :
    ∃ archive, ⟨.build image.name archive options, .ok ()⟩ ∈ front := by
  refine ⟨archive, ?_⟩
  rcases front with _ | ⟨first, _ | ⟨second, later⟩⟩
  · cases split
  · cases split
  · cases split
    simp

theorem built_of_remade (kept : image.build.cleanup = .keep) {made later : List Happening}
    (remade : Remade image context options old new made) (split : made ++ later = front ++ ⟨.resolveId name, answer⟩ :: back) :
    ∃ archive, ⟨.build image.name archive options, .ok ()⟩ ∈ front := by
  obtain ⟨looked⟩ := remade
  cases looked with
  | unasked => exact built_of_split split
  | asked requested => simp [kept, Cleanup.isRemovalRequested] at requested

theorem built_of_unmade (kept : image.build.cleanup = .keep) {fault : Fault}
    (unmade : Unmade image context options fault es) (split : es = front ++ ⟨.resolveId name, answer⟩ :: back) :
    ∃ archive, ⟨.build image.name archive options, .ok ()⟩ ∈ front := by
  have member : ⟨.resolveId name, answer⟩ ∈ es := by simp [split]
  cases unmade with
  | rejected => cases member
  | unknown requested => exact absurd kept requested
  | short looked short =>
    cases looked with
    | asked requested => simp [kept, Cleanup.isRemovalRequested] at requested
    | unasked =>
      cases short with
      | unknown => exact built_of_split split
      | untold => cases member
      | unpacked | untimed => cases List.mem_singleton.1 member
      | unbuilt =>
        rcases List.mem_cons.1 member with same | later
        · cases same
        · cases List.mem_singleton.1 later

end courses

/-- A generative build removes the image that its name had before, once and by force, when everything before
succeeded, the mode asks for it and the name has another id; a removal that fails ends the build or is warned of,
as the mode says. -/
theorem superseded_retired {image : Image} {context : Context} {nocache : Option String} {args : Table String}
    {i j : Inside} {es : List Happening} {r : Except Fault (Option String)} (generative : image.build.isArchiveMode = false)
    (h : Behaves (execute image context nocache args) i es r j) :
    ((∃ old new made back warned, es = made ++ back ∧
        Remade image context (buildOptions image.build nocache args) old new made ∧
        j.warnings = i.warnings ++ warned ∧ Settled image old new back r warned ∧
        (es.countP fun e => e.call.isRemoval) =
          if image.build.cleanup ≠ .keep ∧ old ≠ none ∧ old ≠ new then 1 else 0) ∨
      (∃ fault, r = .error fault) ∧ (∀ e ∈ es, e.call.isRemoval = false) ∧
        ∀ old new made, Remade image context (buildOptions image.build nocache args) old new made → ¬made <+: es) ∧
    (∀ e ∈ es, e.call.isRemoval = false → ∀ fault, e.answer = .error fault →
      r = .error fault ∧ ∀ other ∈ es, other.call.isRemoval = false) ∧
    (image.build.cleanup = .keep → ∀ front name answer back, es = front ++ ⟨.resolveId name, answer⟩ :: back →
      ∃ archive, ⟨.build image.name archive (buildOptions image.build nocache args), .ok ()⟩ ∈ front) := by
  rcases behaves_generative generative h with ⟨old, new, made, back, warned, rfl, remade, told, settled⟩ | ⟨fault, unmade, rfl⟩
  · refine ⟨.inl ⟨old, new, made, back, warned, rfl, remade, told, settled, ?_⟩, ?_, ?_⟩
    · have none : (made.countP fun e => e.call.isRemoval) = 0 := by
        rw [List.countP_eq_zero]
        exact fun e member => by simp [isRemoval_of_remade remade e member]
      rw [List.countP_append, none, Nat.zero_add, count_of_settled settled]
    · intro e member other fault failed
      rcases List.mem_append.1 member with early | late
      · exact absurd failed (answered_of_remade remade e early fault)
      · cases settled with
        | spared => cases late
        | retired =>
          obtain rfl := List.mem_singleton.1 late
          cases other
    · intro kept front name answer later split
      exact built_of_remade kept remade split
  · refine ⟨.inr ⟨⟨fault, rfl⟩, isRemoval_of_unmade unmade, fun _ _ _ => not_remade_of_unmade unmade⟩, ?_, ?_⟩
    · intro e member _ reason failed
      rw [failed_of_unmade unmade e member reason failed]
      exact ⟨rfl, isRemoval_of_unmade unmade⟩
    · intro kept front name answer later split
      exact built_of_unmade kept unmade split

/-- The name has a new id, and the daemon does not let go of the old image. -/
def clinging : State surroundings Script :=
  .start { plainScript with
    ids := .ofList [("app", [some "x", some "y"])]
    failing := .ofList [("remove", ⟨.daemon ⟨"in use", none⟩, none⟩)] } .empty (.ofList [])

theorem superseded_retired_clinging :
    let image : Image := ⟨"app", none, .default⟩
    let program := execute image bareContext none .empty
    let warned : List Log.Record := [⟨.warning, .executor, "[app]: in use (old image)"⟩]
    (program.run Script.answers clinging).2.inside.warnings = warned ∧ ∃ old new made back,
      program.events Script.answers clinging = made ++ back ∧
      Remade image bareContext (buildOptions image.build none .empty) old new made ∧
      Settled image old new back (.ok (some "y")) warned := by
  intro image program warned
  have succeeds : (program.run Script.answers clinging).1 = .ok (some "y") := by decide +kernel
  have warns : (program.run Script.answers clinging).2.inside.warnings = warned := by decide +kernel
  have fresh : clinging.inside.warnings = [] := by decide +kernel
  have behaves := run_behaves Script.answers program clinging
  rw [succeeds] at behaves
  refine ⟨warns, ?_⟩
  rcases (superseded_retired (by decide) behaves).1 with
    ⟨old, new, made, back, _, same, remade, told, settled, -⟩ | ⟨⟨fault, impossible⟩, -⟩
  · rw [warns, fresh, List.nil_append] at told
    exact ⟨old, new, made, back, same, remade, told ▸ settled⟩
  · cases impossible

end ImageBuild.Workflow
