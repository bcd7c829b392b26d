import ImageBuild.Proofs.Archive.RoundTrip
import ImageBuild.Proofs.Config.Accepted
import ImageBuild.Proofs.Session.Play
import ImageBuild.Proofs.Workflow.Execution

namespace ImageBuild.Workflow

open Program Config Data
open Archive (Job Made memberOf memberName dockerfileName)
open Files (Content Item Member Node)

section modes

variable {image : Image} {context : Context} {nocache new : Option String} {i j : Inside} {es : List Happening}

/-! ### The base image -/

/-- Whether a call is about a base image: it asks about it, pulls it, or gives it its name. -/
def Call.Concerns (base : String) : Call → Prop
  | requiresPull _ image _ _ => image = base
  | resolveLogin name _ _ _ => Reference.parse base = .ok name
  | pull reference _ _ => ∃ name, Reference.parse base = .ok name ∧ reference = name.withLatest
  | tag _ target _ => target = base
  | _ => False

theorem concerns_checkImage (base : String) (registry : Option String) (alwaysAllowed : Bool) (context : Context) :
    (checkImage base registry alwaysAllowed context).Blind (Call.Concerns base) := by
  unfold checkImage
  refine blind_ofExcept_bind fun name parsed => ?_
  refine blind_bind (blind_load Cache.cacheKey) fun cached => blind_bind (blind_ask rfl) fun wanted => ?_
  split
  · unfold pullImage
    refine blind_bind blind_now fun start => blind_bind (blind_ask parsed) fun login => ?_
    refine blind_bind (blind_ask ⟨name, parsed, rfl⟩) fun _ => blind_bind (blind_elapsed start) fun time => ?_
    refine blind_bind (blind_note _) fun _ => blind_bind (blind_add base Cache.cacheKey) fun _ => ?_
    split
    · refine blind_bind (blind_ofExcept _ _) fun qualified => ?_
      exact blind_bind (blind_ask rfl) fun _ => blind_note _
    · exact blind_pure _
  · exact blind_note _

theorem behaves_checkBase {base? : Option String} {value : Unit}
    (h : Behaves (checkBase image context base?) i es (.ok value) j) :
    ∀ e ∈ es, ∃ base, base? = some base ∧ e.call.Concerns base := by
  unfold checkBase at h
  split at h
  · obtain ⟨rfl, -⟩ := behaves_note h
    simp
  · rename_i base
    split at h
    · obtain ⟨rfl, -⟩ := behaves_note h
      simp
    · intro e member
      exact ⟨base, rfl, behaves_blind (concerns_checkImage base none true context) h e member⟩

theorem behaves_baseOfDockerfile {build : Config.Build} {dockerfile : Path} {base? : Option String}
    (mode : build.dockerfilePath context.baseDir = .ok dockerfile)
    (h : Behaves (baseOfDockerfile build context) i es (.ok base?) j) :
    ∃ answer : Except Fault String, es = [⟨.extract dockerfile, answer⟩] ∧ base? = answer.toOption := by
  unfold baseOfDockerfile at h
  rw [mode] at h
  obtain ⟨answer, rest, rfl, tail⟩ := behaves_attempt_bind h
  refine ⟨answer, ?_⟩
  cases answer with
  | ok base =>
    obtain ⟨rfl, told, -⟩ := behaves_pure tail
    exact ⟨rfl, Except.ok.inj told⟩
  | error fault =>
    cases fault with
    | baseImage | system =>
      obtain ⟨⟨⟩, k, -, ending⟩ := behaves_silent_bind (confined_note _) tail
      obtain ⟨rfl, told, -⟩ := behaves_pure ending
      exact ⟨rfl, Except.ok.inj told⟩
    | _ => cases tail

/-! ### The course of a build -/

/-- Packs and builds an image under options, and retires the old one. -/
inductive Generated (image : Image) (context : Context) (options : BuildOptions) : List Happening → Option String → Prop where
  | intro {old new : Option String} {front back : List Happening} {archive : Path}
      (looked : Looked image old front) (retired : Retired image old new back) :
      Generated image context options
        (front ++ ⟨.createArchive image.name image.build context, .ok archive⟩ ::
          ⟨.build image.name archive options, .ok ()⟩ :: ⟨.resolveId image.name, .ok new⟩ :: back) new

/-- What a build does in each mode. -/
inductive Conducted (image : Image) (context : Context) : List Happening → Option String → Prop where
  | archive {path : Path} {old : Option String} {front : List Happening}
      (mode : image.build.archivePath context.baseDir = .ok path) (looked : Looked image old front) :
      Conducted image context (front ++ [⟨.load image.name path, .ok ()⟩]) none
  | dockerfile {dockerfile : Path} {answer : Except Fault String} {checks made : List Happening} {options : BuildOptions}
      {new : Option String} (applies : image.build.Applies .dockerfile)
      (mode : image.build.dockerfilePath context.baseDir = .ok dockerfile)
      (checked : ∀ e ∈ checks, ∃ base, answer = .ok base ∧ e.call.Concerns base)
      (named : options.dockerfile = image.build.dockerfileName?) (set : options.dockerfile.isSome = true)
      (generated : Generated image context options made new) :
      Conducted image context (⟨.extract dockerfile, answer⟩ :: (checks ++ made)) new
  | assembly {checks made : List Happening} {options : BuildOptions} {new : Option String}
      (applies : image.build.Applies .assembly)
      (checked : ∀ e ∈ checks, ∃ base, configuredBase image.build = some base ∧ e.call.Concerns base)
      (unset : options.dockerfile = none) (generated : Generated image context options made new) :
      Conducted image context (checks ++ made) new

theorem generated_of_executed {args : Table String} (generative : image.build.isArchiveMode = false)
    (executed : Executed image context nocache args es new) :
    Generated image context (buildOptions image.build nocache args) es new := by
  cases executed with
  | loaded source => cases generative.symm.trans (archivePath_of_source source).1
  | built _ looked retired => exact .intro looked retired

theorem conducted_of_executed {args : Table String} (ready : image.build.isArchiveMode = true)
    (executed : Executed image context nocache args es new) : Conducted image context es new := by
  cases executed with
  | loaded source looked => exact .archive (archivePath_of_source source).2 looked
  | built generative => cases ready.symm.trans generative

theorem dockerfilePath_of_mode {build : Config.Build} (configured : build.isDockerfileMode = true) (base : Path) :
    build.dockerfileName?.isSome = true ∧ ∃ dockerfile, build.dockerfilePath base = .ok dockerfile := by
  obtain ⟨file, known⟩ := Option.isSome_iff_exists.1 configured
  unfold Config.Build.dockerfileName? Config.Build.dockerfilePath
  rw [known]
  exact ⟨rfl, _, rfl⟩

/-- Every build that succeeds goes the way of its mode. -/
theorem behaves_conducted (h : Behaves (buildOne image context nocache) i es (.ok new) j) :
    Conducted image context es new := by
  obtain ⟨front, back, k, l, rfl, prepared, executed⟩ := behaves_parts h
  unfold prepare at prepared
  split at prepared
  · rename_i ready
    obtain ⟨rfl, -⟩ := behaves_pure prepared
    exact conducted_of_executed ready executed
  · rename_i generative
    have other : image.build.isArchiveMode = false := by simpa using generative
    have generated := generated_of_executed other executed
    rw [autoPullBase_eq] at prepared
    obtain ⟨base?, m, first, rest, found, checked, rfl⟩ := behaves_bind_ok prepared
    have checks := behaves_checkBase checked
    unfold resolveBase at found
    rw [if_neg generative] at found
    split at found
    · -- the base image is the Dockerfile's, whatever is configured
      rename_i configured
      obtain ⟨named, dockerfile, mode⟩ := dockerfilePath_of_mode configured context.baseDir
      obtain ⟨answer, rfl, rfl⟩ := behaves_baseOfDockerfile mode found
      refine .dockerfile configured mode ?_ rfl named generated
      intro e member
      obtain ⟨base, told, concerns⟩ := checks e member
      cases answer with
      | ok _ => exact ⟨base, congrArg Except.ok (Option.some.inj told), concerns⟩
      | error => cases told
    · rename_i unconfigured
      have none : image.build.isDockerfileMode = false := by simpa using unconfigured
      obtain ⟨rfl, told, -⟩ := behaves_pure found
      obtain rfl := Except.ok.inj told
      refine .assembly ⟨other, none⟩ checks ?_ generated
      have unset : image.build.dockerfile? = .none := by
        simpa [Config.Build.isDockerfileMode] using none
      rw [buildOptions, Config.Build.dockerfileName?, unset, Option.map_none]

end modes

/-! ### The archive -/

/-- What an archive holds in the modes that make one: the context directory and the Dockerfile, or the
files of an assembly and the Dockerfile that is generated for them. -/
inductive Holds (job : Job) (build : Config.Build) (opened : Node) : List Member → Prop where
  | context {dockerfile : Path} {found : List (List String × Item)} {added : List Member}
      (mode : build.dockerfilePath job.context.baseDir = .ok dockerfile)
      (named : opened.item? job.context.baseDir.place = some .directory →
        build.dockerfileName? = some dockerfile.name ∧ dockerfile.name ≠ "")
      (context : ∀ one, one ∈ found ↔ one.1 ≠ [] ∧ ¬job.Omits (build.contextPath job.context.baseDir) one.1 ∧
        opened.item? ((build.contextPath job.context.baseDir).place ++ one.1) = some one.2)
      (dockerfile : added = [] ∨ ∃ content, opened.item? dockerfile.place = some (.file content) ∧
        added = [(memberName dockerfile.name, .file content)]) :
      Holds job build opened (found.map (memberOf "") ++ added)
  | generated (mode : build.dockerfile? = none) :
      Holds job build opened (job.files build (job.begun opened) ++
        [(dockerfileName, .file (.bytes (Job.dockerfileText build).toUTF8))])

section archive

variable {job : Job} {build : Config.Build} {tree opened final tree' : Node} {members : List Member}

theorem named_of_made (made : Made job build tree opened final tree' members) (plain : job.context.baseDir.Plain)
    (proper : tree.Proper) {dockerfile : Path} (mode : build.dockerfilePath job.context.baseDir = .ok dockerfile)
    (base : opened.item? job.context.baseDir.place = some .directory) :
    build.dockerfileName? = some dockerfile.name ∧ dockerfile.name ≠ "" := by
  obtain ⟨-, directories, tested, content, isFile, -⟩ := made.context plain proper mode
  obtain ⟨file, configured⟩ := Archive.dockerfile?_of_ok mode
  have directory := directories _ (Archive.source?_of_dockerfile configured)
  obtain ⟨isName, -⟩ := Files.isFile_named (made.proper_begun plain proper) tested (Files.directory_top directory)
  refine ⟨Archive.dockerfileName_eq mode directory isFile ?_, isName.nonempty⟩
  intro same
  have elsewhere : job.context.baseDir.place ≠ job.archivePlace := by
    intro archive
    rw [archive] at base
    exact made.vacant base
  rw [same, made.item?_elsewhere elsewhere, base] at isFile
  cases isFile

theorem holds_of_made (made : Made job build tree opened final tree' members) (plain : job.context.baseDir.Plain)
    (proper : tree.Proper) : Holds job build opened members := by
  cases mode : build.dockerfilePath job.context.baseDir with
  | error error =>
    have none := Archive.dockerfile?_of_error mode
    rw [(made.assembly plain proper none).2.2.2]
    exact .generated none
  | ok dockerfile =>
    obtain ⟨-, directories, -, content, isFile, alone, added⟩ := made.context plain proper mode
    obtain ⟨file, configured⟩ := Archive.dockerfile?_of_ok mode
    have directory := directories _ (Archive.source?_of_dockerfile configured)
    have named := named_of_made made plain proper mode
    have context : ∀ one, one ∈ job.listed (job.begun opened) (build.contextPath job.context.baseDir) ↔
        one.1 ≠ [] ∧ ¬job.Omits (build.contextPath job.context.baseDir) one.1 ∧
          opened.item? ((build.contextPath job.context.baseDir).place ++ one.1) = some one.2 := by
      intro one
      rw [Archive.mem_listed made plain proper directory, and_congr_right_iff]
      intro further
      rw [and_comm, and_congr_right_iff]
      intro kept
      rw [made.item?_elsewhere fun archive => kept (.inr archive)]
    have files := (Archive.files_of_dockerfile configured (job.begun opened)).trans
      (Archive.below_listed (job.begun opened) (build.contextPath job.context.baseDir))
    by_cases skipped : job.atTop build dockerfile ∨ dockerfile.place = job.archivePlace
    · rw [alone skipped, files, ← List.append_nil (List.map _ _)]
      exact .context mode named context (.inl rfl)
    · obtain ⟨further, other⟩ := not_or.1 skipped
      rw [added further other, files]
      refine .context mode named context (.inr ⟨content, ?_, rfl⟩)
      rw [← made.item?_elsewhere other]
      exact isFile

theorem base_ignored (configured : build.isDockerfileMode = true) (base : Option String) (context : Context)
    (image : String) :
    resolveBase { build with base } context = resolveBase build context ∧
      Archive.create image { build with base } context = Archive.create image build context := by
  obtain ⟨-, dockerfile, mode⟩ := dockerfilePath_of_mode configured context.baseDir
  have other : Config.Build.dockerfilePath { build with base } context.baseDir = .ok dockerfile := mode
  have mode' : Config.Build.isDockerfileMode { build with base } = true := configured
  constructor
  · unfold resolveBase
    rw [configured, mode']
    rfl
  · unfold Archive.create Job.run Job.addAll
    rw [mode, other]
    rfl

end archive

/-- A configuration that is accepted has one mode, and the build, its base image and its archive all go by
that mode. -/
theorem modes_agree {at_ : List Step} {value : Value} {build : Config.Build}
    (accepted : Config.Build.read at_ value = .valid build) :
    (∃ mode, build.Applies mode ∧ ∀ other, build.Applies other → other = mode) ∧
    (build.isArchiveMode = true → build.base? = none ∧ build.dockerfile? = none ∧ build.contextDir? = none ∧
      build.assembly = none ∧ build.args.isEmpty = true) ∧
    (build.isDockerfileMode = true → build.assembly = none ∧ ∀ base context image,
      resolveBase { build with base } context = resolveBase build context ∧
        Archive.create image { build with base } context = Archive.create image build context) ∧
    (∀ (image : Image) (context : Context) (nocache new : Option String) (i j : Inside) (es : List Happening),
      image.build = build → Behaves (buildOne image context nocache) i es (.ok new) j → Conducted image context es new) ∧
    (∀ (image : String) (context : Context) (tree tree' : Node) (path : Path), context.baseDir.Plain → tree.Proper →
      Archive.create image build context tree = (.ok path, tree') →
      ∃ opened members, Gives (Files.ensureDirectory (Job.mk image context).directory) tree () opened ∧
        Files.contentAt tree' path = .ok (.archive members) ∧ Holds ⟨image, context⟩ build opened members) := by
  have agrees := conflict?_of_read accepted
  refine ⟨one_mode agrees, excluded_by_archive agrees, ?_, ?_, ?_⟩
  · intro configured
    exact ⟨excluded_by_dockerfile agrees configured, fun base context image => base_ignored configured base context image⟩
  · intro image context nocache new i j es _ behaves
    exact behaves_conducted behaves
  · intro image context tree tree' path plain proper created
    obtain ⟨rfl, opened, final, members, made⟩ := Archive.create_ok created
    exact ⟨opened, members, made.ensured, made.read, holds_of_made made plain proper⟩

def packed : Image := ⟨"app", none, (Archive.workRecipe "app").2⟩

def fromAlpine : State surroundings Script :=
  .start { plainScript with base := some "alpine:3" } .empty (.ofList [])

theorem modes_agree_dockerfile :
    Config.Build.read [] (.map [(.text "dockerFile", .text "Dockerfile")]) = .valid packed.build ∧
    ((buildOne packed Archive.workContext none).run Script.answers fromAlpine).1 = .ok none ∧
    Conducted packed Archive.workContext ((buildOne packed Archive.workContext none).events Script.answers fromAlpine) none ∧
    ∃ opened members, Files.contentAt (Archive.afterwards Archive.workTree "app") (Path.ofText "/work/out/app/docker-build.tar") =
      .ok (.archive members) ∧ Holds ⟨"app", Archive.workContext⟩ packed.build opened members := by
  have accepted : Config.Build.read [] (.map [(.text "dockerFile", .text "Dockerfile")]) = .valid packed.build := by
    decide +kernel
  have succeeds : ((buildOne packed Archive.workContext none).run Script.answers fromAlpine).1 = .ok none := by
    decide +kernel
  have packs : (Archive.create "app" packed.build Archive.workContext Archive.workTree).1 =
      .ok (Path.ofText "/work/out/app/docker-build.tar") := by decide +kernel
  obtain ⟨-, -, -, conducts, holds⟩ := modes_agree accepted
  have behaves := run_behaves Script.answers (buildOne packed Archive.workContext none) fromAlpine
  rw [succeeds] at behaves
  have created : Archive.create "app" packed.build Archive.workContext Archive.workTree =
      (.ok (Path.ofText "/work/out/app/docker-build.tar"), Archive.afterwards Archive.workTree "app") := Prod.ext packs rfl
  obtain ⟨opened, members, -, read, held⟩ := holds "app" Archive.workContext _ _ _ Archive.plain_workContext
    Archive.proper_workTree created
  exact ⟨accepted, succeeds, conducts packed _ _ _ _ _ _ rfl behaves, opened, members, read, held⟩

end ImageBuild.Workflow
