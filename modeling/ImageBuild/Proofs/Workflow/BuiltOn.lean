import ImageBuild.Proofs.Archive.Location
import ImageBuild.Proofs.Archive.Repeated
import ImageBuild.Proofs.Dockerfile.FirstLine
import ImageBuild.Proofs.Session.Play
import ImageBuild.Proofs.Text.Utf8
import ImageBuild.Proofs.Workflow.Modes

namespace ImageBuild.Workflow

open Program Config Data
open Archive (Job Made dockerfileName)
open Dockerfile (Inert)
open Files (Node)

/-! ### First lines -/

def firstLine (text : String) : List Char := text.toList.takeWhile fun c => c ≠ '\n'

theorem firstLine_of_free {text : String} (free : '\n' ∉ text.toList) : firstLine text = text.toList := by
  refine List.takeWhile_eq_self_iff.2 fun c member => ?_
  have other : c ≠ '\n' := fun same => free (same ▸ member)
  simpa using other

theorem firstLine_eq_iff (text : String) : String.ofList (firstLine text) = text ↔ '\n' ∉ text.toList := by
  constructor
  · intro same member
    have inside : '\n' ∈ firstLine text := by
      rw [← String.toList_ofList (l := firstLine text), same]
      exact member
    simpa using List.mem_takeWhile_imp inside
  · intro free
    rw [firstLine_of_free free, String.ofList_toList]

theorem firstLine_append (text : String) (rest : List Char) :
    ∃ more, text.toList ++ '\n' :: rest = firstLine text ++ '\n' :: more := by
  unfold firstLine
  induction text.toList with
  | nil => exact ⟨rest, rfl⟩
  | cons c chars ih =>
    by_cases feed : c = '\n'
    · exact ⟨chars ++ '\n' :: rest, by simp [feed]⟩
    · obtain ⟨more, same⟩ := ih
      exact ⟨more, by simp [feed, same]⟩

/-- The first line of a reference stands for itself in a Dockerfile. -/
theorem inert_firstLine {text : String} {r : Reference} (parsed : Reference.parse text = .ok r) :
    Inert (firstLine text) := by
  obtain ⟨rfl, spelled⟩ := Reference.parse_eq_ok_iff.1 parsed
  have signs (mark : Char) (word : Text.isWordChar mark = false) (other : mark ∉ ['-', '_', '+', '.', ':', '/', '@', '\n']) :
      mark ∉ firstLine r.raw := by
    intro member
    rcases Reference.signs_of_patterns spelled mark (List.takeWhile_subset _ member) with known | known
    · cases word.symm.trans known
    · exact other known
  refine ⟨?_, signs '$' (by decide +kernel) (by decide), signs '\\' (by decide +kernel) (by decide), ?_⟩
  · intro c member
    cases blank : Text.isBlank c with
    | false => rfl
    | true =>
      have feed := Reference.blank_of_patterns spelled c (List.takeWhile_subset _ member) blank
      simpa [feed] using List.mem_takeWhile_imp member
  · obtain ⟨c, rest, begins, alnum⟩ := Archive.head_of_parse parsed
    have other (d : Char) (mark : ¬Reference.Words.Alnum d) : c ≠ d := Archive.ne_of_alnum alnum mark
    refine ⟨c, rest.takeWhile fun c => c ≠ '\n', ?_, other '-' (by decide)⟩
    unfold firstLine
    rw [begins, List.takeWhile_cons_of_pos (by simpa using other '\n' (by decide))]

/-! ### The generated Dockerfile -/

theorem getD_configuredBase (build : Config.Build) :
    (configuredBase build).getD scratch = build.base?.getD Job.emptyBase := by
  unfold configuredBase
  cases build.base? with
  | some base => rfl
  | none => cases build.assembly <;> rfl

theorem dockerfileText_eq (build : Config.Build) : ∃ rest,
    (Job.dockerfileText build).toList = "FROM ".toList ++ firstLine (build.base?.getD Job.emptyBase) ++ '\n' :: rest := by
  obtain ⟨copied, lines⟩ : ∃ copied,
      Job.dockerfileLines build = ("FROM " ++ build.base?.getD Job.emptyBase) :: copied := ⟨_, rfl⟩
  generalize build.base?.getD Job.emptyBase = base at lines ⊢
  have begins : ∃ rest, (Job.dockerfileText build).toList = "FROM ".toList ++ (base.toList ++ '\n' :: rest) := by
    unfold Job.dockerfileText
    rw [lines]
    cases copied with
    | nil => exact ⟨[], by simp [String.intercalate_singleton]⟩
    | cons line more => exact ⟨("\n".intercalate (line :: more) ++ "\n").toList, by simp [String.intercalate_cons_cons]⟩
  obtain ⟨rest, begins⟩ := begins
  obtain ⟨more, same⟩ := firstLine_append base rest
  exact ⟨more, by rw [begins, same, List.append_assoc]⟩

theorem extract_of_made {job : Job} {build : Config.Build} {tree opened final tree' : Node} {members : List Files.Member}
    (made : Made job build tree opened final tree' members) (plain : job.context.baseDir.Plain) (proper : tree.Proper)
    (assembled : build.dockerfile? = none) {r : Reference}
    (parsed : Reference.parse (build.base?.getD Job.emptyBase) = .ok r) :
    Dockerfile.extract tree' (job.directory.child dockerfileName) =
      .ok (String.ofList (firstLine (build.base?.getD Job.emptyBase))) := by
  have inert := inert_firstLine parsed
  obtain ⟨rest, text⟩ := dockerfileText_eq build
  have read : Files.read tree' (job.directory.child dockerfileName) = .ok (Job.dockerfileText build).toUTF8 := by
    rw [Files.read, made.contentAt_dockerfile plain proper assembled]
    rfl
  have free : '\r' ∉ "FROM ".toList ++ firstLine (build.base?.getD Job.emptyBase) := by
    intro member
    rcases List.mem_append.1 member with early | late
    · exact absurd early (by decide)
    · cases inert.visible '\r' late
  have plain : Text.plainNewlines (Job.dockerfileText build).toList =
      "FROM ".toList ++ firstLine (build.base?.getD Job.emptyBase) ++ '\n' :: Text.plainNewlines rest := by
    rw [text, Text.plainNewlines_append free, Text.plainNewlines_cons (by decide)]
  unfold Dockerfile.extract
  rw [read]
  dsimp only
  rw [Text.Utf8.decode_toUTF8]
  dsimp only
  rw [plain, inert.baseImage]

/-! ### The base image that is pulled -/

section course

variable {image : Image} {context : Context} {nocache : Option String} {i j : Inside} {es : List Happening}

theorem resolveBase_eq (generative : image.build.isArchiveMode = false) (assembled : image.build.isDockerfileMode = false) :
    resolveBase image.build context = pure (configuredBase image.build) := by
  unfold resolveBase
  rw [generative, assembled]
  rfl

theorem prepared_of_mem {r : Except Fault (Option String)} {e : Happening} (h : Behaves (buildOne image context nocache) i es r j)
    (member : e ∈ es) (later : e.call.isUpkeep = false) : ∃ k front l, Behaves (prepare image context) k front (.ok ()) l := by
  rw [buildOne_eq] at h
  rcases behaves_silent_either (confined_ofExcept _ _) h with ⟨_, rfl, -⟩ | ⟨_, _, starting⟩
  · cases member
  rcases behaves_silent_either (confined_note _) starting with ⟨_, rfl, -⟩ | ⟨_, _, preparing⟩
  · cases member
  rcases behaves_bind preparing with ⟨_, early, -⟩ | ⟨⟨⟩, _, front, _, prepared, -, -⟩
  · have upkeep := behaves_blind (upkeep_prepare image context) early e member
    cases later.symm.trans upkeep
  · exact ⟨_, front, _, prepared⟩

theorem packed_of_ok {new : Option String} (generative : image.build.isArchiveMode = false)
    (h : Behaves (buildOne image context nocache) i es (.ok new) j) :
    ∃ answer, ⟨.createArchive image.name image.build context, answer⟩ ∈ es := by
  obtain ⟨front, back, _, _, rfl, -, executed⟩ := behaves_parts h
  cases generated_of_executed generative executed with
  | @intro _ _ _ _ archive => exact ⟨.ok archive, by simp⟩

theorem parsed_of_prepared (generative : image.build.isArchiveMode = false) (assembled : image.build.isDockerfileMode = false)
    (h : Behaves (prepare image context) i es (.ok ()) j) :
    ∃ name, Reference.parse ((configuredBase image.build).getD scratch) = .ok name := by
  have placeholder : ∃ name, Reference.parse scratch = .ok name :=
    ⟨⟨"scratch", none, "scratch", none, none⟩, by decide⟩
  unfold prepare at h
  rw [generative, if_neg (by decide), autoPullBase_eq, resolveBase_eq generative assembled] at h
  have checked : Behaves (checkBase image context (configuredBase image.build)) i es (.ok ()) j := h
  cases known : configuredBase image.build with
  | none => exact placeholder
  | some base =>
    rw [known] at checked
    unfold checkBase at checked
    rw [Option.getD_some]
    by_cases same : base = scratch
    · rw [same]
      exact placeholder
    · dsimp only at checked
      rw [if_neg same] at checked
      obtain ⟨name, _, _, _, parsed, -, -⟩ := behaves_bind_ok checked
      have read := (behaves_ofExcept parsed).2.1
      cases reference : Reference.parse base with
      | ok found => exact ⟨found, rfl⟩
      | error problem =>
        rw [reference] at read
        cases read

/-- The Dockerfile that is generated for a build names the base image that was resolved for its pull, or the
placeholder for none: all of it, unless a line ends within it. -/
theorem built_on_base {answer : Except Fault Path} {path : Path} {tree tree' : Node}
    (generative : image.build.isArchiveMode = false) (assembled : image.build.isDockerfileMode = false)
    (h : Behaves (buildOne image context nocache) i es r j)
    (reached : ⟨.createArchive image.name image.build context, answer⟩ ∈ es)
    (plain : context.baseDir.Plain) (proper : tree.Proper)
    (made : Archive.create image.name image.build context tree = (.ok path, tree')) :
    resolveBase image.build context = pure (configuredBase image.build) ∧
      let base := (configuredBase image.build).getD scratch
      let read := Dockerfile.extract tree' ((Job.mk image.name context).directory.child dockerfileName)
      read = .ok (String.ofList (firstLine base)) ∧ (read = .ok base ↔ '\n' ∉ base.toList) := by
  obtain ⟨_, _, _, prepared⟩ := prepared_of_mem h reached rfl
  obtain ⟨name, parsed⟩ := parsed_of_prepared generative assembled prepared
  obtain ⟨-, _, _, _, done⟩ := Archive.create_ok made
  have unconfigured : image.build.dockerfile? = none := by simpa [Build.isDockerfileMode] using assembled
  rw [getD_configuredBase] at parsed
  have read := extract_of_made done plain proper unconfigured parsed
  rw [← getD_configuredBase] at read
  refine ⟨resolveBase_eq generative assembled, read, ?_⟩
  rw [read, Except.ok.injEq]
  exact firstLine_eq_iff _

end course

def basedOn (base : String) : Image := ⟨"app", none, { Build.default with base := some base }⟩

def plainly : State surroundings Script := .start plainScript .empty (.ofList [])

def generatedBase (image : Image) : Except Dockerfile.Failure String :=
  Dockerfile.extract (Archive.create image.name image.build Archive.workContext Archive.workTree).2
    ((Job.mk image.name Archive.workContext).directory.child dockerfileName)

theorem packed_of_plainly {image : Image} {new : Option String} (generative : image.build.isArchiveMode = false)
    (succeeds : ((buildOne image Archive.workContext none).run Script.answers plainly).1 = .ok new) :
    ∃ answer, ⟨.createArchive image.name image.build Archive.workContext, answer⟩ ∈
      (buildOne image Archive.workContext none).events Script.answers plainly := by
  have behaves := run_behaves Script.answers (buildOne image Archive.workContext none) plainly
  rw [succeeds] at behaves
  exact packed_of_ok generative behaves

theorem built_on_base_alpine :
    let image := basedOn "alpine:3"
    resolveBase image.build Archive.workContext = pure (some "alpine:3") ∧ generatedBase image = .ok "alpine:3" := by
  intro image
  have succeeds : ((buildOne image Archive.workContext none).run Script.answers plainly).1 = .ok none := by decide +kernel
  have made : (Archive.create image.name image.build Archive.workContext Archive.workTree).1 =
      .ok (Path.ofText "/work/out/app/docker-build.tar") := by decide +kernel
  obtain ⟨answer, reached⟩ := packed_of_plainly (by decide) succeeds
  have behaves := run_behaves Script.answers (buildOne image Archive.workContext none) plainly
  obtain ⟨resolved, -, same⟩ := built_on_base (by decide) (by decide) behaves reached Archive.plain_workContext
    Archive.proper_workTree (Prod.ext made rfl)
  exact ⟨resolved, same.2 (by decide)⟩

/-- A line feed at the end of a base image is lost. -/
theorem built_on_shortened_base :
    let image := basedOn "alpine\n"
    resolveBase image.build Archive.workContext = pure (some "alpine\n") ∧
      (∃ answer, ⟨.createArchive image.name image.build Archive.workContext, answer⟩ ∈
        (buildOne image Archive.workContext none).events Script.answers plainly) ∧
      generatedBase image = .ok "alpine" := by
  intro image
  have succeeds : ((buildOne image Archive.workContext none).run Script.answers plainly).1 = .ok none := by decide +kernel
  exact ⟨rfl, packed_of_plainly (by decide) succeeds, by decide +kernel⟩

end ImageBuild.Workflow
