import ImageBuild.Machine.Run
import ImageBuild.Machine.World
import ImageBuild.Proofs.Files.Place
import ImageBuild.Proofs.Program.Behaviour
import ImageBuild.Proofs.Workflow.Modes
import ImageBuild.Proofs.Workflow.Stages

/-!
# Base images that are not known

A Dockerfile that cannot be read, or that tells no base image, leaves the base image unknown: nothing is
pulled and the build goes on. Two kinds of files end the build instead: their path holds the null
character, or their bytes are no text.
-/

namespace ImageBuild.Dockerfile

open Text

def Foreign (tree : Files.Node) (path : Path) : Prop :=
  Char.ofNat 0 ∈ path.text.toList ∨
    ∃ content fault, Files.read tree path = .ok content ∧ Utf8.decode content = .error fault

/-- How a failure ends the program that asked for the base image. -/
def Failure.fault : Failure → Fault
  | noBase error => .baseImage error
  | notUnicode fault => .notUnicode fault
  | nullCharacter => .nullCharacter

def Failure.isForeign : Failure → Bool
  | noBase _ => false
  | notUnicode _ | nullCharacter => true

section foreign

variable {tree : Files.Node} {path : Path}

theorem foreign_iff : Foreign tree path ↔ ∃ failure, extract tree path = .error failure ∧ failure.isForeign = true := by
  unfold Foreign
  rw [← Files.read_eq_nullCharacter tree]
  rcases read : Files.read tree path with (⟨problem, text⟩ | _) | content
  · simp [extract, read, Failure.isForeign]
  · simp [extract, read, Failure.isForeign]
  · cases decoded : Utf8.decode content with
    | error fault => simp [extract, read, decoded, Failure.isForeign]
    | ok text =>
      cases found : baseImage path.text (String.ofList (plainNewlines text)) <;>
        simp [extract, read, decoded, found, Failure.isForeign]

end foreign

end ImageBuild.Dockerfile

namespace ImageBuild.Machine

open Program Workflow

def searched? (build : Config.Build) (base : Path) : Option Path :=
  if build.isArchiveMode then none else (build.dockerfilePath base).toOption

section searched

variable {build : Config.Build} {base path : Path}

theorem searched?_eq_some : searched? build base = some path ↔
    build.isArchiveMode = false ∧ build.isDockerfileMode = true ∧ build.dockerfilePath base = .ok path := by
  unfold searched? Config.Build.isDockerfileMode Config.Build.dockerfilePath
  cases build.isArchiveMode <;> cases build.dockerfile? <;> simp [Except.toOption]

theorem searched?_eq_none : searched? build base = none ↔
    build.isArchiveMode = true ∨ build.isDockerfileMode = false := by
  unfold searched? Config.Build.isDockerfileMode Config.Build.dockerfilePath
  cases build.isArchiveMode <;> cases build.dockerfile? <;> simp [Except.toOption]

end searched

/-- What looking for the base image in a file comes to. -/
def baseIn (tree : Files.Node) (path : Path) : Except Fault (Option String) :=
  match Dockerfile.extract tree path with
  | .ok image => .ok (some image)
  | .error failure => if failure.isForeign then .error failure.fault else .ok none

section base

variable {tree : Files.Node} {path : Path}

theorem baseIn_of_foreign (foreign : Dockerfile.Foreign tree path) :
    ∃ failure, Dockerfile.extract tree path = .error failure ∧ baseIn tree path = .error failure.fault := by
  obtain ⟨failure, failed, isForeign⟩ := Dockerfile.foreign_iff.1 foreign
  refine ⟨failure, failed, ?_⟩
  unfold baseIn
  rw [failed]
  exact if_pos isForeign

theorem baseIn_of_native (native : ¬Dockerfile.Foreign tree path) :
    baseIn tree path = .ok (Dockerfile.extract tree path).toOption := by
  unfold baseIn
  cases found : Dockerfile.extract tree path with
  | ok image => rfl
  | error failure => exact if_neg fun isForeign => native (Dockerfile.foreign_iff.2 ⟨failure, found, isForeign⟩)

end base

/-- A later state, some calls further on: the world, the store and the clock are as they were. -/
structure Asked (calls : List Machine.Call) (s t : State interface World) : Prop where
  world : t.world = s.world
  store : t.ledger.store = s.ledger.store
  clock : t.clock = s.clock
  trace : t.trace = s.trace ++ calls

theorem Asked.trans {early late : List Machine.Call} {s t u : State interface World} (first : Asked early s t)
    (later : Asked late t u) : Asked (early ++ late) s u where
  world := later.world.trans first.world
  store := later.store.trans first.store
  clock := later.clock.trans first.clock
  trace := by rw [later.trace, first.trace, List.append_assoc]

section runs

variable {α β : Type} {build : Config.Build} {context : Context} {path : Path}

theorem run_note (record : Log.Record) (p : Unit → Routine α) (s : State interface World) :
    ∃ t, Asked [] s t ∧ (Program.note record >>= p).run World.answers s = (p ()).run World.answers t :=
  ⟨{ s with ledger := s.ledger.note record.severity record.channel record.message },
    ⟨rfl, rfl, rfl, (List.append_nil _).symm⟩, rfl⟩

theorem run_perform (call : Workflow.Call) (f : Except Fault call.Answer → Build α) (s : State interface World) :
    (onMachine (.perform call f)).run World.answers s =
      (onMachine (f ((routine call).run World.answers s).1)).run World.answers ((routine call).run World.answers s).2 := by
  show Program.run _ ((routine call).outcome >>= fun answer => (f answer).interpret fun call => (routine call).outcome) s = _
  rw [run_bind, run_outcome]
  rfl

def tellBase (path : Path) : Except Dockerfile.Failure String → Routine String
  | .ok image => noteBase path image
  | .error failure => .failed failure.fault

theorem run_tellBase (path : Path) (s : State interface World) :
    (extract path).run World.answers s =
      (tellBase path (Dockerfile.extract s.world.tree path)).run World.answers { s with trace := s.trace ++ [.extract path] } := by
  have same : extract path = .perform (.extract path) (tellBase path) := by
    refine congrArg _ (funext fun answer => ?_)
    rcases answer with (_ | _ | _) | _ <;> rfl
  rw [same]
  rfl

theorem run_extract (path : Path) (s : State interface World) :
    ∃ t, Asked [.extract path] s t ∧
      (extract path).run World.answers s = ((Dockerfile.extract s.world.tree path).mapError Dockerfile.Failure.fault, t) := by
  have called : Asked [.extract path] s { s with trace := s.trace ++ [.extract path] } := ⟨rfl, rfl, rfl, rfl⟩
  rw [run_tellBase]
  cases Dockerfile.extract s.world.tree path with
  | ok image =>
    obtain ⟨t, noted, run⟩ := run_note ⟨.debug, .base, s!"[Dockerfile] Base image of '{path.text}' is '{image}'"⟩
      (fun _ => pure image) { s with trace := s.trace ++ [.extract path] }
    exact ⟨t, called.trans noted, run⟩
  | error failure => exact ⟨_, called, rfl⟩

/-- What a build makes of a base image, or of the failure to find one. -/
def knownBase (path : Path) : Except Fault String → Build (Option String)
  | .ok image => pure (some image)
  | .error (.baseImage error) => unknownBase path (.baseImage error)
  | .error (.system message) => unknownBase path (.system message)
  | .error fault => .failed fault
where
  unknownBase (path : Path) (fault : Fault) : Build (Option String) :=
    Program.debug .puller s!"[AutoPull] Cannot extract base image from '{path.text}': {fault.message}" >>= fun _ => pure none

theorem resolveBase_searched (searched : searched? build context.baseDir = some path) :
    resolveBase build context = .perform (.extract path) (knownBase path) := by
  obtain ⟨generated, configured, located⟩ := searched?_eq_some.1 searched
  unfold resolveBase
  rw [if_neg (ne_true_of_eq_false generated), if_pos configured]
  unfold baseOfDockerfile
  rw [located]
  refine congrArg (Program.perform (I := surroundings) (.extract path)) (funext fun answer => ?_)
  rcases answer with fault | image
  · cases fault <;> rfl
  · rfl

/-- Where a base image is looked for, it is what the file tells. -/
theorem run_resolveBase (searched : searched? build context.baseDir = some path) (s : State interface World) :
    ∃ t, Asked [.extract path] s t ∧
      (onMachine (resolveBase build context)).run World.answers s = (baseIn s.world.tree path, t) := by
  obtain ⟨t, asked, ended⟩ := run_extract path s
  have goesOn : (onMachine (resolveBase build context)).run World.answers s =
      (onMachine (knownBase path ((extract path).run World.answers s).1)).run World.answers
        ((extract path).run World.answers s).2 := by
    rw [resolveBase_searched searched]
    exact run_perform (.extract path) (knownBase path) s
  rw [goesOn, ended]
  unfold baseIn
  cases Dockerfile.extract s.world.tree path with
  | ok image => exact ⟨t, asked, rfl⟩
  | error failure =>
    cases failure with
    | noBase error =>
      obtain ⟨u, noted, run⟩ := run_note
        ⟨.debug, .puller, s!"[AutoPull] Cannot extract base image from '{path.text}': {(Fault.baseImage error).message}"⟩
        (fun _ => pure none) t
      exact ⟨u, asked.trans noted, run⟩
    | notUnicode fault => exact ⟨t, asked, rfl⟩
    | nullCharacter => exact ⟨t, asked, rfl⟩

theorem run_resolveBase_unsearched (unsearched : searched? build context.baseDir = none) (s : State interface World) :
    ∃ base?, (onMachine (resolveBase build context)).run World.answers s = (.ok base?, s) := by
  unfold resolveBase
  rcases searched?_eq_none.1 unsearched with loaded | unconfigured
  · rw [if_pos loaded]
    exact ⟨none, rfl⟩
  · rw [if_neg (ne_true_of_eq_false unconfigured)]
    split
    · exact ⟨none, rfl⟩
    · exact ⟨configuredBase build, rfl⟩

theorem onMachine_bind (p : Build α) (f : α → Build β) :
    onMachine (p >>= f) = onMachine p >>= fun value => onMachine (f value) := interpret_bind p f

end runs

section builds

variable {image : Config.Image} {context : Context} {name : Reference} {path : Path}

/-- A build looks for its base image before anything else, and goes on where that comes to an answer. -/
theorem run_buildOne (nocache : Option String) (parsed : Reference.parse image.name = .ok name)
    (searched : searched? image.build context.baseDir = some path) (s : State interface World) :
    ∃ t, Asked [.extract path] s t ∧
      (onMachine (buildOne image context nocache)).run World.answers s =
        match baseIn s.world.tree path with
        | .ok base? => (onMachine (checkBase image context base? >>= fun _ => afterPull image context nocache)).run World.answers t
        | .error fault => (.error fault, t) := by
  obtain ⟨u, begun, goesOn⟩ := run_note ⟨.info, .workflow, s!"[BuildService] Starting build workflow for {image.description}"⟩
    (fun _ => onMachine (prepare image context >>= fun _ => afterPull image context nocache)) s
  obtain ⟨t, asked, told⟩ := run_resolveBase searched u
  have pulls : prepare image context = resolveBase image.build context >>= checkBase image context := by
    unfold prepare
    rw [if_neg (ne_true_of_eq_false (searched?_eq_some.1 searched).1), autoPullBase_eq]
  refine ⟨t, begun.trans asked, ?_⟩
  rw [buildOne_eq, parsed]
  refine goesOn.trans ?_
  rw [pulls, LawfulMonad.bind_assoc, onMachine_bind, run_bind, told, begun.world]
  cases baseIn s.world.tree path <;> rfl

end builds

/-- Looking for a base image comes to an answer unless the file is foreign, and the answer is what the file tells.
Where that is nothing, the build goes on with what follows the pull; where there is no answer, the build ends. -/
theorem resolution_answers_iff (image : Config.Image) (context : Context) (nocache : Option String)
    (s : State interface World) :
    ((∃ base?, ((onMachine (resolveBase image.build context)).run World.answers s).1 = .ok base?) ↔
      ∀ path, searched? image.build context.baseDir = some path → ¬Dockerfile.Foreign s.world.tree path) ∧
    ∀ path, searched? image.build context.baseDir = some path →
      (¬Dockerfile.Foreign s.world.tree path →
        ((onMachine (resolveBase image.build context)).run World.answers s).1 =
          .ok (Dockerfile.extract s.world.tree path).toOption) ∧
      ∀ name, Reference.parse image.name = .ok name →
        (¬Dockerfile.Foreign s.world.tree path → (Dockerfile.extract s.world.tree path).toOption = none →
          ∃ t, Asked [.extract path] s t ∧ (onMachine (buildOne image context nocache)).run World.answers s =
            (onMachine (afterPull image context nocache)).run World.answers t) ∧
        (Dockerfile.Foreign s.world.tree path → ∃ failure t, Dockerfile.extract s.world.tree path = .error failure ∧
          Asked [.extract path] s t ∧
          (onMachine (buildOne image context nocache)).run World.answers s = (.error failure.fault, t)) := by
  refine ⟨?_, fun path searched => ⟨fun native => ?_, fun name parsed => ?_⟩⟩
  · cases searched : searched? image.build context.baseDir with
    -- no file is read for an archive or an assembly
    | none =>
      obtain ⟨base?, told⟩ := run_resolveBase_unsearched searched s
      exact iff_of_true ⟨base?, by rw [told]⟩ fun path same => nomatch same
    | some path =>
      obtain ⟨t, -, told⟩ := run_resolveBase searched s
      rw [told]
      by_cases foreign : Dockerfile.Foreign s.world.tree path
      · obtain ⟨failure, -, ends⟩ := baseIn_of_foreign foreign
        rw [ends]
        exact iff_of_false nofun fun native => native path rfl foreign
      · refine iff_of_true ⟨_, baseIn_of_native foreign⟩ ?_
        rintro _ ⟨⟩
        exact foreign
  · obtain ⟨t, -, told⟩ := run_resolveBase searched s
    rw [told, baseIn_of_native native]
  · obtain ⟨u, asked, goesOn⟩ := run_buildOne nocache parsed searched s
    refine ⟨fun native unfound => ?_, fun foreign => ?_⟩
    · rw [goesOn, baseIn_of_native native, unfound]
      obtain ⟨v, noted, skips⟩ := run_note
        ⟨.debug, .puller, s!"[AutoPull] {image.description}: no base image known, skipping auto-pull"⟩
        (fun _ => onMachine (afterPull image context nocache)) u
      exact ⟨v, asked.trans noted, skips⟩
    · obtain ⟨failure, failed, ends⟩ := baseIn_of_foreign foreign
      rw [ends] at goesOn
      exact ⟨failure, u, failed, asked, goesOn⟩

def workingOn (content : ByteArray) : State interface World :=
  .start ⟨{ present := .empty }, .folder [("work", .folder [("Dockerfile", .file (.bytes content))])]⟩ .empty (.ofList [])

def workFile : Path := .ofText "/work/Dockerfile"

theorem searched_packed : searched? packed.build Archive.workContext.baseDir = some workFile := by decide

theorem resolution_answers_iff_baseless :
    let s := workingOn "RUN make".toUTF8
    ((onMachine (resolveBase packed.build Archive.workContext)).run World.answers s).1 = .ok none ∧
      ∃ t, Asked [.extract workFile] s t ∧
        (onMachine (buildOne packed Archive.workContext none)).run World.answers s =
          (onMachine (afterPull packed Archive.workContext none)).run World.answers t := by
  intro s
  have parsed : Reference.parse packed.name = .ok ⟨"app", none, "app", none, none⟩ := by decide +kernel
  have failed : Dockerfile.extract s.world.tree workFile = .error (.noBase (.noFrom "/work/Dockerfile")) := by decide +kernel
  have native : ¬Dockerfile.Foreign s.world.tree workFile := by
    rw [Dockerfile.foreign_iff, failed]
    rintro ⟨failure, ⟨⟩, isForeign⟩
    cases isForeign
  obtain ⟨known, goesOn⟩ := (resolution_answers_iff packed Archive.workContext none s).2 workFile searched_packed
  have unfound : (Dockerfile.extract s.world.tree workFile).toOption = none := by
    rw [failed]
    rfl
  exact ⟨unfound ▸ known native, (goesOn _ parsed).1 native unfound⟩

/-- Bytes that are no text end the build, and so does a path with the null character. -/
theorem foreign_file_aborts :
    let s := workingOn ⟨#[0xff]⟩
    let fault := Fault.notUnicode ⟨.badStart, 0xff, 0, 1⟩
    let unnamed := { packed.build with dockerfile := some (String.ofList [Char.ofNat 0]) }
    ((onMachine (resolveBase packed.build Archive.workContext)).run World.answers s).1 = .error fault ∧
    ((onMachine (buildOne packed Archive.workContext none)).run World.answers s).1 = .error fault ∧
    ((onMachine (resolveBase unnamed Archive.workContext)).run World.answers s).1 = .error .nullCharacter := by
  decide +kernel

end ImageBuild.Machine
