import ImageBuild.Proofs.Workflow.Handlers
import ImageBuild.Proofs.Workflow.Unlogged

namespace ImageBuild.Workflow

open Program Config Data

inductive Looked (image : Image) : Option String → List Happening → Prop where
  | unasked (needless : image.build.cleanup.isRemovalRequested = false) : Looked image none []
  | asked {old : Option String} (requested : image.build.cleanup.isRemovalRequested = true) :
      Looked image old [⟨.resolveId image.name, .ok old⟩]

inductive Retired (image : Image) (old new : Option String) : List Happening → Prop where
  | spared (needless : old = none ∨ old = new ∨ image.build.cleanup.isRemovalRequested = false) :
      Retired image old new []
  | removed {id : String} {answer : Except Fault Unit} (stale : old = some id) (different : old ≠ new)
      (requested : image.build.cleanup.isRemovalRequested = true) :
      Retired image old new [⟨.remove id true, answer⟩]

/-- What a build does from the lookup of the old id on, and the id it tells. -/
inductive Executed (image : Image) (context : Context) (nocache : Option String) (args : Table String) :
    List Happening → Option String → Prop where
  | loaded {old : Option String} {front : List Happening} {path : Path}
      (source : image.build.source context.baseDir = .archive path) (looked : Looked image old front) :
      Executed image context nocache args (front ++ [⟨.load image.name path, .ok ()⟩]) none
  | built {old new : Option String} {front back : List Happening} {archive : Path}
      (generative : image.build.isArchiveMode = false)
      (looked : Looked image old front) (retired : Retired image old new back) :
      Executed image context nocache args
        (front ++ ⟨.createArchive image.name image.build context, .ok archive⟩ ::
          ⟨.build image.name archive (buildOptions image.build nocache args), .ok ()⟩ ::
          ⟨.resolveId image.name, .ok new⟩ :: back) new

/-- The calls of a build that comes to its end. -/
def remaking (image : Image) (context : Context) (options : BuildOptions) (archive : Path) (new : Option String) :
    List Happening :=
  [⟨.createArchive image.name image.build context, .ok archive⟩, ⟨.build image.name archive options, .ok ()⟩,
    ⟨.resolveId image.name, .ok new⟩]

/-- The calls of a build that fails before the new id is known. -/
inductive Short (image : Image) (context : Context) (options : BuildOptions) (fault : Fault) : List Happening → Prop where
  | untold : Short image context options fault []
  | unpacked : Short image context options fault [⟨.createArchive image.name image.build context, .error fault⟩]
  | untimed {archive : Path} :
    Short image context options fault [⟨.createArchive image.name image.build context, .ok archive⟩]
  | unbuilt {archive : Path} :
    Short image context options fault [⟨.createArchive image.name image.build context, .ok archive⟩,
      ⟨.build image.name archive options, .error fault⟩]
  | unknown {archive : Path} :
    Short image context options fault [⟨.createArchive image.name image.build context, .ok archive⟩,
      ⟨.build image.name archive options, .ok ()⟩, ⟨.resolveId image.name, .error fault⟩]

def Call.isRemoval : Call → Bool
  | remove .. => true
  | _ => false

theorem isRemoval_of_looked {image : Image} {old : Option String} {es : List Happening}
    (looked : Looked image old es) : ∀ e ∈ es, e.call.isRemoval = false := by
  cases looked <;> simp [Call.isRemoval]

section behaviours

variable {i j : Inside} {es : List Happening}

theorem behaves_ask_either {α : Type} {call : Call} {f : call.Answer → Build α} {r : Except Fault α}
    (h : Behaves (ask call >>= f) i es r j) :
    (∃ fault, es = [⟨call, .error fault⟩] ∧ r = .error fault) ∨
      ∃ answer rest, es = ⟨call, .ok answer⟩ :: rest ∧ Behaves (f answer) i rest r j := by
  cases h with
  | @perform _ _ told _ _ rest _ tail =>
    cases told with
    | ok answer => exact .inr ⟨answer, rest, rfl, tail⟩
    | error fault =>
      obtain ⟨rfl, rfl, -⟩ := behaves_failed tail
      exact .inl ⟨fault, rfl, rfl⟩

theorem behaves_ask_ok {α : Type} {call : Call} {f : call.Answer → Build α} {value : α}
    (h : Behaves (ask call >>= f) i es (.ok value) j) :
    ∃ answer rest, es = ⟨call, .ok answer⟩ :: rest ∧ Behaves (f answer) i rest (.ok value) j := by
  rcases behaves_ask_either h with ⟨_, _, impossible⟩ | succeeds
  · cases impossible
  · exact succeeds

theorem behaves_oldId {image : Image} {old : Option String} (h : Behaves (oldId image) i es (.ok old) j) :
    Looked image old es := by
  unfold oldId at h
  cases requested : image.build.cleanup.isRemovalRequested with
  | true =>
    simp only [requested] at h
    cases h with
    | @perform _ _ told _ _ rest _ tail =>
      cases told with
      | ok answer =>
        cases tail
        exact .asked requested
      | error fault => cases tail
  | false =>
    rw [requested] at h
    obtain ⟨rfl, same, -⟩ := behaves_pure h
    obtain rfl := Except.ok.inj same
    exact .unasked requested

theorem behaves_loadImage {image : Image} {archive : Path} {value : Unit}
    (h : Behaves (loadImage image archive) i es (.ok value) j) : es = [⟨.load image.name archive, .ok ()⟩] := by
  unfold loadImage at h
  obtain ⟨start, k, -, loading⟩ := behaves_silent_bind confined_now h
  obtain ⟨⟨⟩, rest, rfl, loaded⟩ := behaves_ask_ok loading
  obtain ⟨time, l, -, noting⟩ := behaves_silent_bind (confined_elapsed start) loaded
  obtain ⟨rfl, -⟩ := behaves_note noting
  rfl

theorem behaves_remaking {image : Image} {context : Context} {nocache : Option String} {args : Table String}
    {r : Except Fault (Option String)} (h : Behaves (buildImage image context nocache args) i es r j) :
    (∃ archive new, es = remaking image context (buildOptions image.build nocache args) archive new ∧ r = .ok new) ∨
      ∃ fault, Short image context (buildOptions image.build nocache args) fault es ∧ r = .error fault := by
  unfold buildImage at h
  rcases behaves_silent_either confined_now h with ⟨fault, rfl, rfl⟩ | ⟨start, k, packing⟩
  · exact .inr ⟨fault, .untold, rfl⟩
  rcases behaves_ask_either packing with ⟨fault, rfl, rfl⟩ | ⟨archive, rest, rfl, packed⟩
  · exact .inr ⟨fault, .unpacked, rfl⟩
  rcases behaves_silent_either (confined_elapsed start) packed with ⟨fault, rfl, rfl⟩ | ⟨time, l, noting⟩
  · exact .inr ⟨fault, .untimed, rfl⟩
  rcases behaves_silent_either (confined_note _) noting with ⟨fault, rfl, rfl⟩ | ⟨done, m, building⟩
  · exact .inr ⟨fault, .untimed, rfl⟩
  rcases behaves_ask_either building with ⟨fault, rfl, rfl⟩ | ⟨⟨⟩, rest, rfl, built⟩
  · exact .inr ⟨fault, .unbuilt, rfl⟩
  rcases behaves_ask_either built with ⟨fault, rfl, rfl⟩ | ⟨new, rest, rfl, looked⟩
  · exact .inr ⟨fault, .unknown, rfl⟩
  obtain ⟨rfl, rfl⟩ : rest = [] ∧ r = .ok new := by
    cases looked with
    | ledger ending => exact ⟨(behaves_pure ending).1, (behaves_pure ending).2.1⟩
  exact .inl ⟨archive, new, rfl, rfl⟩

theorem behaves_buildImage {image : Image} {context : Context} {nocache : Option String} {args : Table String}
    {new : Option String} (h : Behaves (buildImage image context nocache args) i es (.ok new) j) :
    ∃ archive, es = remaking image context (buildOptions image.build nocache args) archive new := by
  rcases behaves_remaking h with ⟨archive, _, same, told⟩ | ⟨_, _, impossible⟩
  · obtain rfl := Except.ok.inj told
    exact ⟨archive, same⟩
  · cases impossible

theorem behaves_attemptRemoval {mode : Cleanup} {id description : String} {r : Except Fault Removal}
    (requested : mode.isRemovalRequested = true) (h : Behaves (attemptRemoval mode id description) i es r j) :
    ∃ answer, es = [⟨.remove id true, answer⟩] := by
  unfold attemptRemoval at h
  rw [requested] at h
  obtain ⟨answer, rest, rfl, tail⟩ := behaves_attempt_bind h
  -- what follows the answer only reports
  have silent : rest = [] := by
    cases answer with
    | ok value =>
      exact behaves_silent (confined_bind (confined_note _) fun _ => confined_pure _) tail
    | error fault =>
      refine behaves_silent ?_ tail
      cases fault with
      | daemon error =>
        exact confined_ite (fun _ => confined_bind (confined_note _) fun _ => confined_pure _)
          fun _ => confined_pure _
      | _ => trivial
  rw [silent]
  exact ⟨answer, rfl⟩

theorem behaves_retire {image : Image} {old new : Option String} {value : Unit}
    (h : Behaves (retire image old new) i es (.ok value) j) : Retired image old new es := by
  unfold retire at h
  cases old with
  | none =>
    obtain ⟨rfl, -⟩ := behaves_pure h
    exact .spared (.inl rfl)
  | some id =>
    dsimp only at h
    by_cases same : some id = new
    · rw [if_pos same] at h
      obtain ⟨rfl, -⟩ := behaves_pure h
      exact .spared (.inr (.inl same))
    · rw [if_neg same] at h
      obtain ⟨removal, k, first, rest, head, tail, rfl⟩ := behaves_bind_ok h
      obtain rfl : rest = [] := by
        split at tail
        · cases tail
        · exact (behaves_pure tail).1
      rw [List.append_nil]
      cases requested : image.build.cleanup.isRemovalRequested with
      | true =>
        obtain ⟨answer, rfl⟩ := behaves_attemptRemoval requested head
        exact .removed rfl same requested
      | false =>
        unfold attemptRemoval at head
        rw [requested] at head
        obtain ⟨rfl, -⟩ := behaves_pure head
        exact .spared (.inr (.inr requested))

theorem generative_of_source {build other : Config.Build} {base : Path}
    (source : build.source base = .generated other) : build.isArchiveMode = false := by
  unfold Config.Build.source at source
  unfold Config.Build.isArchiveMode
  cases ready : build.archive? with
  | none => rfl
  | some file =>
    rw [ready] at source
    cases source

theorem archivePath_of_source {build : Config.Build} {base path : Path} (source : build.source base = .archive path) :
    build.isArchiveMode = true ∧ build.archivePath base = .ok path := by
  unfold Config.Build.source at source
  unfold Config.Build.isArchiveMode Config.Build.archivePath
  split at source
  · rename_i file configured
    obtain rfl := Config.Build.Source.archive.inj source
    rw [configured]
    exact ⟨rfl, rfl⟩
  · cases source

theorem behaves_execute {image : Image} {context : Context} {nocache : Option String} {args : Table String}
    {new : Option String} (h : Behaves (execute image context nocache args) i es (.ok new) j) :
    Executed image context nocache args es new := by
  rw [execute_eq] at h
  obtain ⟨name, k, -, looking⟩ := behaves_silent_bind (confined_ofExcept _ _) h
  obtain ⟨old, l, front, rest, head, tail, rfl⟩ := behaves_bind_ok looking
  have looked := behaves_oldId head
  unfold renew at tail
  split at tail
  · rename_i path source
    obtain ⟨value, m, loading, last, loaded, ending, rfl⟩ := behaves_bind_ok tail
    obtain rfl := behaves_loadImage loaded
    obtain ⟨rfl, same, -⟩ := behaves_pure ending
    obtain rfl := Except.ok.inj same
    exact .loaded source looked
  · rename_i source
    obtain ⟨found, m, building, last, built, ending, rfl⟩ := behaves_bind_ok tail
    obtain ⟨archive, rfl⟩ := behaves_buildImage built
    obtain ⟨value, n, retiring, rest, retired, ended, rfl⟩ := behaves_bind_ok ending
    obtain ⟨rfl, same, -⟩ := behaves_pure ended
    obtain rfl := Except.ok.inj same
    rw [List.append_nil]
    exact .built (generative_of_source source) looked (behaves_retire retired)

def buildArgs (image : Image) (context : Context) : Table String :=
  Args.resolve Args.marker context.buildArgs context.projectProperties context.globalProperties image.build.args

/-- A build that succeeds deals with its base image, and then makes the image. -/
theorem behaves_parts {image : Image} {context : Context} {nocache new : Option String}
    (h : Behaves (buildOne image context nocache) i es (.ok new) j) :
    ∃ front back k l, es = front ++ back ∧ Behaves (prepare image context) k front (.ok ()) l ∧
      Executed image context (nocache.or (nocacheOverride context)) (buildArgs image context) back new := by
  rw [buildOne_eq] at h
  obtain ⟨name, k, -, starting⟩ := behaves_silent_bind (confined_ofExcept _ _) h
  obtain ⟨⟨⟩, l, -, preparing⟩ := behaves_silent_bind (confined_note _) starting
  obtain ⟨⟨⟩, m, front, back, prepared, tail, rfl⟩ := behaves_bind_ok preparing
  refine ⟨front, back, l, m, rfl, prepared, ?_⟩
  obtain ⟨args, n, quiet, rest, resolved, executing, rfl⟩ := behaves_bind_ok tail
  obtain ⟨⟨⟩, o, -, known⟩ := behaves_silent_bind (confined_note _) resolved
  obtain ⟨rfl, same, -⟩ := behaves_pure known
  obtain rfl := Except.ok.inj same
  obtain ⟨id, p, executed, last, ran, ending, rfl⟩ := behaves_bind_ok executing
  obtain ⟨⟨⟩, q, -, ended⟩ := behaves_silent_bind (confined_note _) ending
  obtain ⟨rfl, told, -⟩ := behaves_pure ended
  obtain rfl := Except.ok.inj told
  rw [List.append_nil, List.nil_append]
  exact behaves_execute ran

theorem behaves_buildOne {image : Image} {context : Context} {nocache new : Option String}
    (h : Behaves (buildOne image context nocache) i es (.ok new) j) :
    ∃ front back, es = front ++ back ∧ (∀ e ∈ front, e.call.isUpkeep = true) ∧
      Executed image context (nocache.or (nocacheOverride context)) (buildArgs image context) back new := by
  obtain ⟨front, back, k, l, same, prepared, executed⟩ := behaves_parts h
  exact ⟨front, back, same, behaves_blind (upkeep_prepare image context) prepared, executed⟩

end behaviours

end ImageBuild.Workflow
