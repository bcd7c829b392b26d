import ImageBuild.Proofs.Archive.Prefixed
import ImageBuild.Proofs.Archive.RoundTrip
import ImageBuild.Proofs.Config.Accepted

namespace ImageBuild.Archive

open Config Data Files

variable {job : Job} {build : Build} {tree opened final tree' : Node} {members : List Member} {root : Path}
  {name : String}

theorem members_assembly (made : Made job build tree opened final tree' members) (plain : job.context.baseDir.Plain)
    (proper : tree.Proper) (mode : build.dockerfile? = none) (source : job.source? build = some (root, name)) :
    (job.begun opened).item? root.place = some .directory ∧
    Unfolds (job.chosen (job.begun opened) root name) ∧
    members = (job.chosen (job.begun opened) root name).map (memberOf (Job.nameStart name)) ++
      [(dockerfileName, .file (generated build))] := by
  obtain ⟨-, -, directories, same⟩ := made.assembly plain proper mode
  have directory := directories _ source
  refine ⟨directory, unfolds_chosen plain (made.proper_begun plain proper) directory name, ?_⟩
  rw [same, Job.files, source, Option.elim_some, below_chosen]

theorem passes_single {part : String} {place : List String} (isName : IsName part) :
    Unpacked.Passes [part] place ↔ place = [] ∨ place = [part] := by
  have leads : Unpacked.reach [] [part] = some [part] := Unpacked.reach_names (by simpa using isName) []
  rw [← List.nil_append [part], Unpacked.passes_concat, List.nil_append, leads, Option.some.injEq]
  constructor
  · rintro (rfl | ⟨front, early, reached⟩)
    · exact .inr rfl
    · rw [List.prefix_nil.1 early] at reached
      exact .inl (Option.some.inj reached).symm
  · rintro (rfl | rfl)
    · exact .inr ⟨[], List.prefix_rfl, rfl⟩
    · exact .inl rfl

def assemblyNamed (name : String) : Build := { Build.default with assembly := some ⟨name, some ".", none, none⟩ }

def assemblyText (name : String) : Value :=
  .map [(.text "assembly", .map [(.text "name", .text name), (.text "sourceDir", .text ".")])]

theorem resolve_here : workContext.resolve "." = Path.ofText "/work" := by decide

theorem place_base : (Path.ofText "/work").place = ["work"] := by decide

theorem source?_named (name : String) :
    (Job.mk "app" workContext).source? (assemblyNamed name) = some (Path.ofText "/work", name) := by
  rw [← resolve_here]
  rfl

theorem unpackFile_named {name : String} {path : Path}
    (succeeds : (create "app" (assemblyNamed name) workContext staleTree).1 = .ok path) :
    ∃ found, Unfolds found ∧
      unpackFile (create "app" (assemblyNamed name) workContext staleTree).2 path =
        unpack (found.map (memberOf (Job.nameStart name)) ++
          [(dockerfileName, .file (generated (assemblyNamed name)))]) ∧
      ∀ place item, place ≠ [] → staleTree.item? ("work" :: place) = some item →
        "work" :: place ≠ ["work", "out", "app", "docker-build.tar"] →
        packs ((Job.mk "app" workContext).exclusion (Path.ofText "/work") name) ["work"] (Job.nameStart name)
          (place, item) →
        (place, item) ∈ found := by
  have made : create "app" (assemblyNamed name) workContext staleTree =
      (.ok path, (create "app" (assemblyNamed name) workContext staleTree).2) := Prod.ext succeeds rfl
  obtain ⟨same, opened, final, members, done⟩ := create_ok made
  obtain ⟨directory, unfolds, packed⟩ :=
    members_assembly done plain_workContext proper_staleTree rfl (source?_named name)
  refine ⟨_, unfolds, by rw [same, unpackFile_made done, packed], ?_⟩
  intro place item further there elsewhere kept
  have begun := done.proper_begun plain_workContext proper_staleTree
  have own : (Job.mk "app" workContext).archivePlace = ["work", "out", "app", "docker-build.tar"] := by decide
  rw [Job.chosen, List.mem_filter, mem_underAll_at begun directory, place_base]
  refine ⟨⟨further, ?_⟩, kept⟩
  rw [List.singleton_append, done.item?_elsewhere (own ▸ elsewhere)]
  exact (done.laid plain_workContext).stays there

theorem blocked_by_dockerfile_name :
    ∃ path tree', Build.read [] (assemblyText "Dockerfile") = .valid (assemblyNamed "Dockerfile") ∧
      create "app" (assemblyNamed "Dockerfile") workContext staleTree = (.ok path, tree') ∧
      unpackFile tree' path = .error (.problem (.file .isDirectory)) := by
  have accepted : Build.read [] (assemblyText "Dockerfile") = .valid (assemblyNamed "Dockerfile") := by decide +kernel
  have succeeds : (create "app" (assemblyNamed "Dockerfile") workContext staleTree).1 =
      .ok (Path.ofText "/work/out/app/docker-build.tar") := by decide +kernel
  obtain ⟨found, unfolds, read, listed⟩ := unpackFile_named succeeds
  have member := listed ["Dockerfile"] _ (by decide) rfl (by decide) (by decide +kernel)
  have single : pathParts "Dockerfile" = [dockerfileName] := by decide
  have sound : Sound (pathParts "Dockerfile") [dockerfileName] := by constructor <;> decide
  refine ⟨_, _, accepted, Prod.ext succeeds rfl, read.trans ?_⟩
  refine unpack_blocked sound unfolds (List.ne_nil_of_mem member) ?_ ?_ _
  · intro one inside _
    rw [single, passes_single isName_dockerfileName]
    simpa using unfolds.further one inside
  · rw [single, passes_single isName_dockerfileName]
    exact .inr rfl

theorem climbing_name_refused :
    ∃ path tree', Build.read [] (assemblyText "../up") = .valid (assemblyNamed "../up") ∧
      create "app" (assemblyNamed "../up") workContext staleTree = (.ok path, tree') ∧
      unpackFile tree' path = .error (.problem .outside) := by
  have accepted : Build.read [] (assemblyText "../up") = .valid (assemblyNamed "../up") := by decide +kernel
  have succeeds : (create "app" (assemblyNamed "../up") workContext staleTree).1 =
      .ok (Path.ofText "/work/out/app/docker-build.tar") := by decide +kernel
  obtain ⟨found, unfolds, read, listed⟩ := unpackFile_named succeeds
  have member := listed ["Dockerfile"] _ (by decide) rfl (by decide) (by decide +kernel)
  refine ⟨_, _, accepted, Prod.ext succeeds rfl, read.trans ?_⟩
  exact unpack_outside unfolds (List.ne_nil_of_mem member) (by decide) _

end ImageBuild.Archive
