import ImageBuild.Proofs.Machine.Answering
import ImageBuild.Proofs.Text.Upper
import ImageBuild.Proofs.Workflow.Modes
import ImageBuild.Proofs.Workflow.Unlogged

namespace ImageBuild.Machine

open Program Workflow Config Data

/-! ### Settings -/

/-- An override that asks for a build without the cache is empty, or reads `true` with letters of either case
and blanks around them. -/
def SaysYes (text : String) : Prop :=
  text = "" ∨ ∃ left t r u e right, text.toList = left ++ [t, r, u, e] ++ right ∧ Text.Blanks left ∧
    Text.Blanks right ∧ t ∈ ['t', 'T'] ∧ r ∈ ['r', 'R'] ∧ u ∈ ['u', 'U'] ∧ e ∈ ['e', 'E']

theorem nocache_iff_saysYes {text : String} {configured : Bool} :
    Args.nocache (some text) configured = true ↔ SaysYes text := by
  have letters : Text.plainWord text = "true" ↔ (Text.trim text.toList).map Char.toLower = ['t', 'r', 'u', 'e'] := by
    rw [← String.toList_inj, Text.plainWord, String.toList_ofList]
    rfl
  rw [Args.nocache, Bool.or_eq_true, beq_iff_eq, beq_iff_eq, letters]
  refine or_congr_right ⟨?_, ?_⟩
  · intro reads
    obtain ⟨left, right, before, behind, whole⟩ := Text.exists_padded text.toList
    simp only [List.map_eq_cons_iff, List.map_eq_nil_iff] at reads
    obtain ⟨t, _, trimmed, t', r, _, rfl, r', u, _, rfl, u', e, _, rfl, e', rfl⟩ := reads
    rw [trimmed] at whole
    exact ⟨left, t, r, u, e, right, whole, before, behind, (Text.toLower_eq_iff (by decide) rfl).1 t',
      (Text.toLower_eq_iff (by decide) rfl).1 r', (Text.toLower_eq_iff (by decide) rfl).1 u',
      (Text.toLower_eq_iff (by decide) rfl).1 e'⟩
  · rintro ⟨left, t, r, u, e, right, whole, before, behind, t', r', u', e'⟩
    have first : Text.isBlank t = false := by rcases List.mem_pair.1 t' with rfl | rfl <;> rfl
    have last : Text.isBlank e = false := by rcases List.mem_pair.1 e' with rfl | rfl <;> rfl
    have trimmed : Text.trim text.toList = [t, r, u, e] := by
      rw [whole, Text.trim_padded before behind]
      exact Text.trim_eq_self (by simpa using first) (by simpa using last)
    simp only [trimmed, List.map_cons, List.map_nil]
    rw [(Text.toLower_eq_iff (by decide) rfl).2 t', (Text.toLower_eq_iff (by decide) rfl).2 r',
      (Text.toLower_eq_iff (by decide) rfl).2 u', (Text.toLower_eq_iff (by decide) rfl).2 e']

/-- Whether the cache is left out, and who decides that: the override that is given, or else the global
properties, the project's properties, the image. -/
inductive LeavesCacheOut (image : Image) (context : Context) : Option String → Bool → Prop where
  | given {text : String} {answer : Bool} (reads : answer = true ↔ SaysYes text) :
      LeavesCacheOut image context (some text) answer
  | global {text : String} {answer : Bool} (found : context.globalProperties.get? "docker.nocache" = some text)
      (reads : answer = true ↔ SaysYes text) : LeavesCacheOut image context none answer
  | project {text : String} {answer : Bool} (unset : context.globalProperties.get? "docker.nocache" = none)
      (found : context.projectProperties.get? "docker.nocache" = some text) (reads : answer = true ↔ SaysYes text) :
      LeavesCacheOut image context none answer
  | configured (unset : context.globalProperties.get? "docker.nocache" = none)
      (unset' : context.projectProperties.get? "docker.nocache" = none) :
      LeavesCacheOut image context none image.build.nocache

def buildArgs (image : Image) (context : Context) : Table String :=
  Args.resolve Args.marker context.buildArgs context.projectProperties context.globalProperties image.build.args

/-- The request has the settings that the configuration and the run have for it. -/
structure Configured (image : Image) (context : Context) (nocache : Option String) (request : Daemon.Request) : Prop where
  tags : request.tags = [image.name]
  args : request.args = buildArgs image context
  cache : LeavesCacheOut image context nocache (!request.useCache)
  dockerfile : request.dockerfile = image.build.dockerfileName?.filter (· ≠ "")
  pull : request.pull = (image.build.options.get? "pull").map fun text =>
    String.ofList (text.toList.map Char.toLower) == "true"
  passed : ∀ name, request.passed.get? name =
    if name = "network" ∨ name = "target" then (image.build.options.get? name).map Value.text else none

section settings

variable {image : Image} {context : Context} {nocache : Option String}

def optionsOf (image : Image) (context : Context) (nocache : Option String) : BuildOptions :=
  buildOptions image.build (nocache.or (nocacheOverride context)) (buildArgs image context)

theorem leavesCacheOut_optionsOf : LeavesCacheOut image context nocache (optionsOf image context nocache).nocache := by
  show LeavesCacheOut image context nocache (Args.nocache (nocache.or (nocacheOverride context)) image.build.nocache)
  cases nocache with
  | some text => exact .given nocache_iff_saysYes
  | none =>
    show LeavesCacheOut image context none (Args.nocache ((context.globalProperties.get? "docker.nocache").or
      (context.projectProperties.get? "docker.nocache")) image.build.nocache)
    cases global : context.globalProperties.get? "docker.nocache" with
    | some text => exact .global global nocache_iff_saysYes
    | none =>
      cases project : context.projectProperties.get? "docker.nocache" with
      | some text => exact .project global project nocache_iff_saysYes
      | none => exact .configured global project

theorem contains_passedNames (name : String) : passedNames.contains name = true ↔ name = "network" ∨ name = "target" := by
  simp [passedNames]

theorem configured_request (files : Archive.Unpacked) :
    Configured image context nocache (request image.name (optionsOf image context nocache) files) where
  tags := rfl
  args := rfl
  cache := by
    show LeavesCacheOut image context nocache (!!(optionsOf image context nocache).nocache)
    rw [Bool.not_not]
    exact leavesCacheOut_optionsOf
  dockerfile := rfl
  pull := by
    show ((image.build.options.mapValues Value.text).get? "pull").map asksPull = _
    rw [Table.get?_mapValues, Option.map_map]
    rfl
  passed name := by
    show (Table.ofList ((image.build.options.mapValues Value.text).entries.filter
      fun entry => passedNames.contains entry.1)).get? name = _
    rw [Table.get?_filter, Table.get?_mapValues]
    exact if_congr (contains_passedNames name) rfl rfl

end settings

/-! ### Where a request comes from -/

section requests

variable {image : Image} {context : Context} {nocache : Option String} {options : BuildOptions} {i j : Inside}
  {es : List Seen} {wanted : Daemon.Request} {answer : Except Daemon.ClientError Unit}

abbrev requested (wanted : Daemon.Request) (answer : Except Daemon.ClientError Unit) : Seen :=
  ⟨.client (.build wanted), answer⟩

def Prepared (image : Image) (context : Context) (options : BuildOptions) (es : List Seen) (wanted : Daemon.Request) : Prop :=
  ∃ path files, ⟨.pack image.name image.build context, .ok path⟩ ∈ es ∧ ⟨.unpack path, .ok files⟩ ∈ es ∧
    wanted = request image.name options files

theorem Prepared.mono {more : List Seen} (prepared : Prepared image context options es wanted) (subset : es ⊆ more) :
    Prepared image context options more wanted := by
  obtain ⟨path, files, packed, unpacked, made⟩ := prepared
  exact ⟨path, files, subset packed, subset unpacked, made⟩

theorem packed_of_createArchive {path : Path}
    (h : Behaves (createArchive image.name image.build context) i es (.ok path) j) :
    es = [⟨.pack image.name image.build context, .ok path⟩] := by
  cases h with
  | @perform _ _ answer _ _ rest _ tail =>
    rcases answer with (_ | _ | _ | ⟨_, _ | _⟩) | found
    iterate 5 exact nomatch (behaves_failed tail).2.1
    cases tail with
    | ledger last =>
      obtain ⟨rfl, told, -⟩ := behaves_pure last
      obtain rfl := Except.ok.inj told
      rfl

theorem unpacked_of_build {name : String} {archive : Path} {r : Except Fault Unit}
    (h : Behaves (build name archive options) i es r j) (member : requested wanted answer ∈ es) :
    ∃ files, ⟨.unpack archive, .ok files⟩ ∈ es ∧ wanted = request name options files := by
  rcases behaves_build h with ⟨failure, fault, rfl, -⟩ | ⟨files, told, rfl, -⟩
  · cases List.mem_singleton.1 member
  · refine ⟨files, List.mem_cons_self, ?_⟩
    rcases List.mem_cons.1 member with same | last
    · cases same
    · cases List.mem_singleton.1 last
      rfl

/-- The request comes from the call of the daemon, and nothing that follows it makes another. -/
theorem unpacked_of_asked {α : Type} {name : String} {archive : Path} {f : Unit → Build α} {r : Except Fault α}
    (never : (f ()).Every fun call _ => issues call (.client (.build wanted)) = false)
    (h : Behaves (onMachine (ask (.build name archive options) >>= f)) i es r j) (member : requested wanted answer ∈ es) :
    ∃ files, ⟨.unpack archive, .ok files⟩ ∈ es ∧ wanted = request name options files := by
  rcases behaves_answered h with ⟨fault, building, -⟩ | ⟨⟨⟩, k, part, last, building, later, rfl⟩
  · exact unpacked_of_build building member
  · have inside := (List.mem_append.1 member).resolve_right (behaves_without never later)
    obtain ⟨files, unpacked, made⟩ := unpacked_of_build building inside
    exact ⟨files, List.mem_append_left _ unpacked, made⟩

theorem prepared_of_buildImage {override : Option String} {args : Table String} {r : Except Fault (Option String)}
    (h : Behaves (onMachine (buildImage image context override args)) i es r j) (member : requested wanted answer ∈ es) :
    Prepared image context (buildOptions image.build override args) es wanted := by
  unfold onMachine buildImage at h
  rcases behaves_answered (behaves_now_bind h) with
    ⟨fault, packing, -⟩ | ⟨path, k, first, rest, packing, packed, rfl⟩
  · cases (behaves_confined (confined_routine _) packing).1 _ member
  obtain rfl := packed_of_createArchive packing
  have further : requested wanted answer ∈ rest := (List.mem_cons.1 member).resolve_left nofun
  obtain ⟨time, l, rest₁, timed, further₁, subset₁⟩ :=
    behaves_later (every_of_confined (confined_elapsed _)) packed further
  obtain ⟨⟨⟩, m, rest₂, noted, further₂, subset₂⟩ :=
    behaves_later (every_of_confined (confined_note _)) timed further₁
  have opened : ∃ files, ⟨.unpack path, .ok files⟩ ∈ rest₂ ∧
      wanted = request image.name (buildOptions image.build override args) files := by
    refine unpacked_of_asked (every_of_confined ?_) noted further₂
    exact confined_bind (confined_ask rfl) fun id => confined_bind (confined_note _) fun _ => confined_pure _
  obtain ⟨files, unpacked, made⟩ := opened
  exact ⟨path, files, List.mem_cons_self, List.mem_cons_of_mem _ (subset₁ (subset₂ unpacked)), made⟩

theorem prepared_of_renew {override : Option String} {args : Table String} {old : Option String}
    {r : Except Fault (Option String)} (h : Behaves (onMachine (renew image context override args old)) i es r j)
    (member : requested wanted answer ∈ es) :
    Prepared image context (buildOptions image.build override args) es wanted := by
  unfold renew at h
  split at h
  · refine absurd member (behaves_without (every_of_confined ?_) h)
    exact confined_bind (confined_loadImage rfl) fun _ => confined_pure none
  · obtain ⟨told, k, first, making, inside, subset⟩ := behaves_earlier (fun new => every_of_confined <|
      confined_bind (confined_retire image old new fun _ => rfl) fun _ => confined_pure new) h member
    exact (prepared_of_buildImage making inside).mono subset

theorem prepared_of_execute {override : Option String} {args : Table String} {r : Except Fault (Option String)}
    (h : Behaves (onMachine (execute image context override args)) i es r j) (member : requested wanted answer ∈ es) :
    Prepared image context (buildOptions image.build override args) es wanted := by
  rw [execute_eq] at h
  obtain ⟨name, k, rest₁, parsed, member₁, subset₁⟩ :=
    behaves_later (every_of_confined (confined_ofExcept _ _)) h member
  obtain ⟨old, l, rest₂, looked, member₂, subset₂⟩ :=
    behaves_later (every_of_confined (confined_oldId rfl)) parsed member₁
  exact (prepared_of_renew looked member₂).mono fun _ here => subset₁ (subset₂ here)

theorem issues_of_isUpkeep {call : Workflow.Call} (upkeep : call.isUpkeep = true) :
    issues call (.client (.build wanted)) = false := by
  cases call with
  | build => cases upkeep
  | _ => rfl

/-- Every request of a build is made of its configuration, and of the files that were packed for it. -/
theorem prepared_of_buildOne {r : Except Fault (Option String)}
    (h : Behaves (onMachine (buildOne image context nocache)) i es r j) (member : requested wanted answer ∈ es) :
    Prepared image context (optionsOf image context nocache) es wanted := by
  rw [buildOne_eq] at h
  obtain ⟨name, k, rest₁, parsed, member₁, subset₁⟩ :=
    behaves_later (every_of_confined (confined_ofExcept _ _)) h member
  obtain ⟨⟨⟩, l, rest₂, started, member₂, subset₂⟩ :=
    behaves_later (every_of_confined (confined_note _)) parsed member₁
  obtain ⟨⟨⟩, m, rest₃, ready, member₃, subset₃⟩ :=
    behaves_later (every_of_blind ((upkeep_prepare image context).mono fun _ => issues_of_isUpkeep)) started member₂
  have resolved : Behaves (onMachine (Program.note (Args.resolvedRecord (buildArgs image context)) >>= fun _ =>
      execute image context (nocache.or (nocacheOverride context)) (buildArgs image context) >>= _)) m rest₃ r j := ready
  obtain ⟨⟨⟩, n, rest₄, executing, member₄, subset₄⟩ :=
    behaves_later (every_of_confined (confined_note _)) resolved member₃
  obtain ⟨told, o, first, executed, inside, subset₅⟩ := behaves_earlier (fun id => every_of_confined <|
    confined_bind (confined_note _) fun _ => confined_pure id) executing member₄
  exact (prepared_of_execute executed inside).mono fun _ here =>
    subset₁ (subset₂ (subset₃ (subset₄ (subset₅ here))))

/-- A disk on which the base directory is one and the files of a build can be packed. -/
structure PacksOn (image : Image) (context : Context) (tree : Files.Node) : Prop where
  plain : context.baseDir.Plain
  proper : tree.Proper
  base : tree.item? context.baseDir.place = some .directory
  packs : ∃ path, (Archive.create image.name image.build context tree).1 = .ok path

theorem dockerfile_isSome {tree : Files.Node} (disk : PacksOn image context tree) :
    (image.build.dockerfileName?.filter (· ≠ "")).isSome = image.build.isDockerfileMode := by
  obtain ⟨path, packs⟩ := disk.packs
  obtain ⟨-, opened, final, members, made⟩ := Archive.create_ok (Prod.ext packs rfl)
  cases configured : image.build.isDockerfileMode with
  | true =>
    obtain ⟨-, dockerfile, mode⟩ := dockerfilePath_of_mode configured context.baseDir
    obtain ⟨named, nonempty⟩ :=
      named_of_made made disk.plain disk.proper mode ((made.laid disk.plain).stays disk.base)
    simp [named, nonempty]
  | false =>
    have none : image.build.dockerfile? = .none := by simpa [Config.Build.isDockerfileMode] using configured
    simp [Config.Build.dockerfileName?, none]

/-- The settings that reach the client are the configured ones, and no free option changes the name, the
arguments, the use of the cache or the Dockerfile. -/
theorem request_configured {r : Except Fault (Option String)}
    (h : Behaves (onMachine (buildOne image context nocache)) i es r j) (member : requested wanted answer ∈ es) :
    Configured image context nocache wanted ∧
    (∃ path files, ⟨.pack image.name image.build context, .ok path⟩ ∈ es ∧ ⟨.unpack path, .ok files⟩ ∈ es ∧
      wanted.files = files.listing) ∧
    (∀ tree, PacksOn image context tree → wanted.dockerfile.isSome = image.build.isDockerfileMode) ∧
    ∀ free i' es' r' j' wanted' answer',
      Behaves (onMachine (buildOne { image with build := { image.build with options := free } } context nocache))
        i' es' r' j' →
      requested wanted' answer' ∈ es' →
      wanted'.tags = wanted.tags ∧ wanted'.args = wanted.args ∧ wanted'.useCache = wanted.useCache ∧
        wanted'.dockerfile = wanted.dockerfile := by
  obtain ⟨path, files, packed, unpacked, rfl⟩ := prepared_of_buildOne h member
  refine ⟨configured_request files, ⟨path, files, packed, unpacked, rfl⟩, fun tree disk => dockerfile_isSome disk, ?_⟩
  intro free i' es' r' j' wanted' answer' h' member'
  obtain ⟨path', files', -, -, rfl⟩ := prepared_of_buildOne h' member'
  exact ⟨rfl, rfl, rfl, rfl⟩

end requests

def tuned : Image :=
  ⟨"app", none, { (Archive.workRecipe "app").2 with
    options := .ofList [("pull", "TRUE"), ("cache", "true"), ("network", "host")] }⟩

def uncached : Context := { Archive.workContext with globalProperties := .ofList [("docker.nocache", " TRUE ")] }

def ready : State interface Images := .start { present := .ofList [("alpine", "5c1b")] } .empty (.ofList [])

theorem request_configured_tuned :
    ∃ wanted, requested wanted (.ok ()) ∈ (onMachine (buildOne tuned uncached none)).events handy ready ∧
      Configured tuned uncached none wanted ∧ wanted.useCache = false ∧ wanted.dockerfile.isSome = true := by
  have shown : ((onMachine (buildOne tuned uncached none)).events handy ready)[5]? =
      some (requested (request "app" (optionsOf tuned uncached none) .empty) (.ok ())) := rfl
  have packs : (Archive.create "app" tuned.build uncached Archive.workTree).1 =
      .ok (Path.ofText "/work/out/app/docker-build.tar") := by decide +kernel
  have disk : PacksOn tuned uncached Archive.workTree :=
    ⟨Archive.plain_workContext, Archive.proper_workTree, rfl, _, packs⟩
  have member := List.mem_of_getElem? shown
  obtain ⟨configured, -, named, -⟩ :=
    request_configured (run_behaves handy (onMachine (buildOne tuned uncached none)) ready) member
  exact ⟨_, member, configured, rfl, named Archive.workTree disk⟩

end ImageBuild.Machine
