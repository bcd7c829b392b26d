import ImageBuild.Proofs.Archive.Listing
import ImageBuild.Proofs.Files.Change

namespace ImageBuild.Archive

open Config Files

variable {job : Job} {draft draft' : Draft}

/-! ### Steps of a packing -/

theorem ofFiles_gives {α : Type} {image : String} {result : Except Files.Error α} {a : α} :
    Gives (Packing.ofFiles image result) draft a draft' ↔ result = .ok a ∧ draft = draft' := by
  cases result with
  | ok found =>
    rw [Packing.ofFiles, pure_gives, Except.ok.injEq]
  | error error =>
    constructor
    · intro gives
      exact absurd gives throw_gives
    · rintro ⟨same, -⟩
      cases same

theorem change_gives {α : Type} {image : String} {step : Change α} {a : α}
    (gives : Gives (Packing.change image step) draft a draft') :
    ∃ tree, Gives step draft.tree a tree ∧ { draft with tree } = draft' := by
  unfold Packing.change at gives
  obtain ⟨_, _, same, gives⟩ := bind_gives.1 gives
  obtain ⟨rfl, rfl⟩ := get_gives.1 same
  cases ended : step.run.run draft.tree with
  | mk result tree =>
    rw [ended] at gives
    obtain ⟨_, _, modified, gives⟩ := bind_gives.1 gives
    obtain rfl := modify_gives.1 modified
    obtain ⟨rfl, rfl⟩ := ofFiles_gives.1 gives
    exact ⟨tree, ended, rfl⟩

theorem require_gives {test : Except Files.Error Bool} {error : Error}
    (gives : Gives (job.require test error) draft () draft') : test = .ok true ∧ draft = draft' := by
  unfold Job.require at gives
  obtain ⟨passed, _, same, gives⟩ := bind_gives.1 gives
  obtain ⟨rfl, rfl⟩ := ofFiles_gives.1 same
  cases passed with
  | true => exact ⟨rfl, (pure_gives.1 gives).2⟩
  | false => exact absurd gives throw_gives

namespace Job

abbrev place (job : Job) : List String := job.directory.place

abbrev archivePlace (job : Job) : List String := job.place ++ [fileName]

theorem path_place (job : Job) : job.path.place = job.archivePlace :=
  Path.place_child (by decide) job.directory

theorem plain_directory {job : Job} (plain : job.context.baseDir.Plain) : job.directory.Plain := by
  unfold directory Archive.directory Context.absoluteOutputDir Context.resolve
  exact (plain.resolve _).join (Path.plain_ofText _)

def exclusion (job : Job) (root : Path) (folder : String) : Exclusion :=
  ⟨folder, (job.directory.relativeTo? root).map Path.text, job.archivePlace⟩

@[simp] theorem exclusion_folder (job : Job) (root : Path) (folder : String) : (job.exclusion root folder).folder = folder := by
  rw [exclusion]

@[simp] theorem exclusion_own (job : Job) (root : Path) (folder : String) :
    (job.exclusion root folder).own = (job.directory.relativeTo? root).map Path.text := by
  rw [exclusion]

@[simp] theorem exclusion_archive (job : Job) (root : Path) (folder : String) :
    (job.exclusion root folder).archive = job.archivePlace := by
  rw [exclusion]

def nameStart (folder : String) : String := if folder.isEmpty then "" else folder ++ "/"

end Job

theorem addTree_gives {root : Path} {folder : String} {entries : List (String × Node)}
    (there : draft.tree.get? root.place = some (.folder entries)) (gives : Gives (job.addTree root folder) draft () draft') :
    ⟨draft.tree, draft.members ++
      entryMembers (job.exclusion root folder) root.place (Job.nameStart folder) entries⟩ = draft' := by
  unfold Job.addTree at gives
  obtain ⟨_, _, same, gives⟩ := bind_gives.1 gives
  obtain ⟨rfl, rfl⟩ := get_gives.1 same
  obtain ⟨place, _, found, gives⟩ := bind_gives.1 gives
  obtain ⟨here, rfl⟩ := ofFiles_gives.1 found
  obtain ⟨archive, _, found, gives⟩ := bind_gives.1 gives
  obtain ⟨here', rfl⟩ := ofFiles_gives.1 found
  rw [(find_ok here).1, (find_ok here').1, there] at gives
  rw [← modify_gives.1 gives, job.path_place]
  rfl

theorem addFile_gives {tree : Node} {found : List Member} {path : Path} {name : String} {content : Content}
    (known : tree.item? path.place = some (.file content)) (gives : Gives (job.addFile path name) ⟨tree, found⟩ () draft') :
    ⟨tree, found ++ if path.place = job.archivePlace then [] else [(memberName name, .file content)]⟩ = draft' := by
  unfold Job.addFile at gives
  obtain ⟨_, _, same, gives⟩ := bind_gives.1 gives
  obtain ⟨rfl, rfl⟩ := get_gives.1 same
  obtain ⟨place, _, found, gives⟩ := bind_gives.1 gives
  obtain ⟨here, rfl⟩ := ofFiles_gives.1 found
  obtain ⟨archive, _, found, gives⟩ := bind_gives.1 gives
  obtain ⟨here', rfl⟩ := ofFiles_gives.1 found
  obtain ⟨other, _, reading, gives⟩ := bind_gives.1 gives
  obtain ⟨read, rfl⟩ := ofFiles_gives.1 reading
  have same : content = other := Item.file.inj (Option.some.inj (known.symm.trans (contentAt_ok read)))
  rw [(find_ok here).1, (find_ok here').1, job.path_place, ← same] at gives
  by_cases archive : path.place = job.archivePlace
  · rw [if_pos archive, List.append_nil]
    rw [if_pos (by simpa using archive)] at gives
    exact (pure_gives.1 gives).2
  · rw [if_neg archive]
    rw [if_neg (by simpa using archive)] at gives
    exact modify_gives.1 gives

/-! ### The packed files -/

def Job.below (job : Job) (tree : Node) (root : Path) (folder : String) : List Member :=
  packed (job.exclusion root folder) root.place (Job.nameStart folder)
    (Node.underAll ((tree.get? root.place).elim [] Node.entries))

theorem text_ne_empty {path : Path} (plain : path.Plain) : path.text ≠ "" := by
  obtain ⟨root, parts⟩ := path
  cases parts with
  | nil => cases root <;> decide
  | cons first rest =>
    have nonempty : "/".intercalate (first :: rest) ≠ "" := by
      cases rest with
      | nil =>
        rw [String.intercalate_singleton]
        exact (plain first List.mem_cons_self).nonempty
      | cons second rest =>
        rw [String.intercalate_cons_cons]
        simp [String.append_eq_empty_iff]
    intro empty
    cases root <;> exact nonempty (String.append_eq_empty_iff.1 empty).2

theorem own_ne_empty (plain : job.context.baseDir.Plain) (root : Path) (folder : String) :
    (job.exclusion root folder).own ≠ some "" := by
  intro empty
  simp only [Job.exclusion_own, Option.map_eq_some_iff] at empty
  obtain ⟨relative, below, nothing⟩ := empty
  obtain ⟨-, parts, -⟩ := Path.parts_of_relativeTo below
  refine text_ne_empty ?_ nothing
  intro part member
  exact Job.plain_directory plain part (by rw [parts]; exact List.mem_append_right _ member)

theorem below_eq (plain : job.context.baseDir.Plain) {tree : Node} (proper : tree.Proper) {root : Path}
    {entries : List (String × Node)} (there : tree.get? root.place = some (.folder entries)) (folder : String) :
    entryMembers (job.exclusion root folder) root.place (Job.nameStart folder) entries = job.below tree root folder := by
  rw [entryMembers_eq (own_ne_empty plain root folder) _ _ entries (proper.child there), Job.below, there]
  rfl

theorem addTree_below {tree : Node} {found : List Member} (plain : job.context.baseDir.Plain) (proper : tree.Proper)
    {root : Path} {folder : String} (directory : tree.item? root.place = some .directory)
    (gives : Gives (job.addTree root folder) ⟨tree, found⟩ () draft') :
    ⟨tree, found ++ job.below tree root folder⟩ = draft' := by
  obtain ⟨entries, there⟩ := Node.item?_directory.1 directory
  rw [← addTree_gives there gives, below_eq plain proper there]

theorem addContext_gives {tree : Node} {found : List Member} {build : Build} {dockerfile : Path}
    (plain : job.context.baseDir.Plain) (proper : tree.Proper)
    (gives : Gives (job.addContext build dockerfile) ⟨tree, found⟩ () draft') :
    tree.item? (build.contextPath job.context.baseDir).place = some .directory ∧ isFile tree dockerfile = .ok true ∧
    ∃ content, tree.item? dockerfile.place = some (.file content) ∧
      ⟨tree, found ++ (job.below tree (build.contextPath job.context.baseDir) "" ++
        if (dockerfile.relativeTo? (build.contextPath job.context.baseDir)).map Path.text = some dockerfile.name ∨
            dockerfile.place = job.archivePlace then []
        else [(memberName dockerfile.name, .file content)])⟩ = draft' := by
  unfold Job.addContext at gives
  obtain ⟨_, _, same, gives⟩ := bind_gives.1 gives
  obtain ⟨rfl, rfl⟩ := get_gives.1 same
  obtain ⟨_, _, required, gives⟩ := bind_gives.1 gives
  obtain ⟨tested, rfl⟩ := require_gives required
  obtain ⟨-, content, isFile⟩ := isFile_ok tested
  obtain ⟨_, _, same, gives⟩ := bind_gives.1 gives
  obtain ⟨rfl, rfl⟩ := get_gives.1 same
  obtain ⟨_, _, required, gives⟩ := bind_gives.1 gives
  obtain ⟨passed, rfl⟩ := require_gives required
  have directory := isDirectory_ok passed
  obtain ⟨_, _, added, gives⟩ := bind_gives.1 gives
  obtain rfl := addTree_below plain proper directory added
  refine ⟨directory, tested, content, isFile, ?_⟩
  split at gives
  · rename_i atTop
    rw [if_pos (.inl atTop), List.append_nil]
    exact (pure_gives.1 gives).2
  · rename_i elsewhere
    rw [← addFile_gives isFile gives]
    by_cases archive : dockerfile.place = job.archivePlace
    · rw [if_pos archive, if_pos (.inr archive), List.append_assoc]
    · rw [if_neg archive, if_neg (by simp [elsewhere, archive]), List.append_assoc]

/-- The directory from which a build packs files, and the name under which it does. -/
def Job.source? (job : Job) (build : Build) : Option (Path × String) :=
  match build.dockerfile?, build.assembly with
  | some _, _ => some (build.contextPath job.context.baseDir, "")
  | none, some assembly => assembly.source?.map fun dir => (job.context.resolve dir, assembly.name)
  | none, none => none

def Job.files (job : Job) (build : Build) (tree : Node) : List Member :=
  (job.source? build).elim [] fun source => job.below tree source.1 source.2

def generated (build : Build) : Content := .bytes (Job.dockerfileText build).toUTF8

theorem addSource_gives {tree : Node} {found : List Member} {build : Build} (mode : build.dockerfile? = none)
    (plain : job.context.baseDir.Plain) (proper : tree.Proper)
    (gives : Gives (job.addSource build) ⟨tree, found⟩ () draft') :
    (∀ source ∈ job.source? build, tree.item? source.1.place = some .directory) ∧
      ⟨tree, found ++ job.files build tree⟩ = draft' := by
  unfold Job.addSource at gives
  split at gives
  · rename_i none
    simp [← (pure_gives.1 gives).2, Job.files, Job.source?, mode, none]
  · rename_i assembly configured
    split at gives
    · rename_i none
      simp [← (pure_gives.1 gives).2, Job.files, Job.source?, mode, configured, none]
    · rename_i dir told
      obtain ⟨_, _, same, gives⟩ := bind_gives.1 gives
      obtain ⟨rfl, rfl⟩ := get_gives.1 same
      obtain ⟨_, _, required, gives⟩ := bind_gives.1 gives
      obtain ⟨passed, rfl⟩ := require_gives required
      have directory := isDirectory_ok passed
      obtain rfl := addTree_below plain proper directory gives
      simp [Job.files, Job.source?, mode, configured, told, directory]

theorem addAssembly_gives {tree : Node} {found : List Member} {build : Build} (mode : build.dockerfile? = none)
    (plain : job.context.baseDir.Plain) (proper : tree.Proper)
    (gives : Gives (job.addAssembly build) ⟨tree, found⟩ () draft') :
    (∀ source ∈ job.source? build, tree.item? source.1.place = some .directory) ∧
    Opening tree job.directory dockerfileName ∧
    tree.item? (job.place ++ [dockerfileName]) ≠ some .directory ∧
    ⟨tree.put (job.place ++ [dockerfileName]) (.file (generated build)),
      found ++ (job.files build tree ++ [(dockerfileName, .file (generated build))])⟩ = draft' := by
  unfold Job.addAssembly at gives
  obtain ⟨_, _, packed, gives⟩ := bind_gives.1 gives
  obtain ⟨directories, rfl⟩ := addSource_gives mode plain proper packed
  obtain ⟨_, _, changed, gives⟩ := bind_gives.1 gives
  obtain ⟨after, wrote, rfl⟩ := change_gives changed
  have written : Gives (writeContent (job.directory.child dockerfileName) (generated build)) tree () after := wrote
  obtain ⟨opening, file, rfl⟩ := writeContent_gives (by decide) written
  have place : (job.directory.child dockerfileName).place = job.place ++ [dockerfileName] :=
    Path.place_child (by decide) _
  have apart : (job.directory.child dockerfileName).place ≠ job.archivePlace := by
    rw [place]
    intro same
    exact absurd (List.append_cancel_left same) (by decide)
  have known : (tree.put (job.place ++ [dockerfileName]) (.file (generated build))).item?
      (job.directory.child dockerfileName).place = some (.file (generated build)) := by
    rw [place]
    exact Node.item?_put_self opening.directory dockerfileName _
  have named : memberName dockerfileName = dockerfileName := memberName_eq (by decide)
  have ends := addFile_gives known gives
  rw [if_neg apart, named, List.append_assoc] at ends
  exact ⟨directories, opening, file, ends⟩

/-! ### The archive -/

def Job.begun (job : Job) (opened : Node) : Node := opened.put job.archivePlace (.file (.bytes .empty))

/-- A packing that has succeeded: the tree once the directory has been made, the one in which the files
were packed, and what was packed. -/
structure Made (job : Job) (build : Build) (tree opened final tree' : Node) (members : List Member) : Prop where
  ensured : Gives (ensureDirectory job.directory) tree () opened
  opening : Opening opened job.directory fileName
  vacant : opened.item? job.archivePlace ≠ some .directory
  filled : Gives (job.addAll build) ⟨job.begun opened, []⟩ () ⟨final, members⟩
  closing : Opening final job.directory fileName
  free : final.item? job.archivePlace ≠ some .directory
  written : final.put job.archivePlace (.file (.archive members)) = tree'

theorem create_ok {image : String} {build : Build} {context : Context} {tree tree' : Node} {path : Path}
    (made : create image build context tree = (.ok path, tree')) :
    path = (Job.mk image context).path ∧
      ∃ opened final members, Made ⟨image, context⟩ build tree opened final tree' members := by
  generalize of : Job.mk image context = job
  unfold create at made
  rw [of] at made
  cases ended : (job.run build).run.run ⟨tree, []⟩ with
  | mk result draft =>
  rw [ended] at made
  obtain ⟨rfl, rfl⟩ := Prod.mk.inj made
  have gives : Gives (job.run build) ⟨tree, []⟩ path draft := ended
  unfold Job.run Job.start at gives
  obtain ⟨_, _, started, gives⟩ := bind_gives.1 gives
  obtain ⟨_, _, first, second⟩ := bind_gives.1 started
  obtain ⟨opened, ensured, rfl⟩ := change_gives first
  obtain ⟨begun, wrote, rfl⟩ := change_gives second
  obtain ⟨opening, vacant, rfl⟩ := writeContent_gives (by decide) wrote
  obtain ⟨result, ⟨final, members⟩, filled, gives⟩ := bind_gives.1 gives
  obtain ⟨_, _, finished, gives⟩ := bind_gives.1 gives
  cases result with
  | error error => exact absurd gives throw_gives
  | ok _ =>
    have ends := pure_gives.1 gives
    rw [← ends.1, ← ends.2]
    unfold Job.finish at finished
    obtain ⟨_, _, same, finished⟩ := bind_gives.1 finished
    obtain ⟨rfl, rfl⟩ := get_gives.1 same
    rw [if_neg (by simp [Except.isOk, Except.toBool])] at finished
    obtain ⟨last, wrote, rfl⟩ := change_gives finished
    obtain ⟨closing, free, rfl⟩ := writeContent_gives (by decide) wrote
    refine ⟨rfl, opened, final, members, ensured, opening, vacant, lift_gives.1 filled, closing, free, ?_⟩
    dsimp only

/-- A Dockerfile that the packed directory already has at its top is not packed again. -/
abbrev Job.atTop (job : Job) (build : Build) (dockerfile : Path) : Prop :=
  (dockerfile.relativeTo? (build.contextPath job.context.baseDir)).map Path.text = some dockerfile.name

theorem source?_of_dockerfile {build : Build} {file : String} (configured : build.dockerfile? = some file) :
    job.source? build = some (build.contextPath job.context.baseDir, "") := by
  unfold Job.source?
  rw [configured]

theorem files_of_dockerfile {build : Build} {file : String} (configured : build.dockerfile? = some file) (tree : Node) :
    job.files build tree = job.below tree (build.contextPath job.context.baseDir) "" := by
  rw [Job.files, source?_of_dockerfile configured, Option.elim_some]

theorem dockerfile?_of_ok {build : Build} {base dockerfile : Path} (mode : build.dockerfilePath base = .ok dockerfile) :
    ∃ file, build.dockerfile? = some file := by
  unfold Build.dockerfilePath at mode
  split at mode
  · cases mode
  · exact ⟨_, ‹_›⟩

theorem dockerfile?_of_error {build : Build} {base : Path} {error : Refusal}
    (mode : build.dockerfilePath base = .error error) : build.dockerfile? = none := by
  unfold Build.dockerfilePath at mode
  split at mode
  · assumption
  · cases mode

theorem isName_fileName : IsName fileName := by
  constructor <;> decide

theorem isName_dockerfileName : IsName dockerfileName := by
  constructor <;> decide

namespace Made

variable {build : Build} {tree opened final tree' : Node} {members : List Member}

theorem read (made : Made job build tree opened final tree' members) :
    contentAt tree' job.path = .ok (.archive members) := by
  rw [← made.written]
  exact contentAt_written (by decide) made.closing made.free _

theorem laid (made : Made job build tree opened final tree' members) (plain : job.context.baseDir.Plain) :
    Laid job.directory tree opened :=
  laid_ensureDirectory (Job.plain_directory plain) made.ensured

theorem item?_begun (made : Made job build tree opened final tree' members) {place : List String}
    (outside : ¬job.archivePlace <+: place) : (job.begun opened).item? place = opened.item? place := by
  rw [Job.begun, Node.item?_put made.opening.directory, if_neg outside]

theorem item?_archive (made : Made job build tree opened final tree' members) :
    (job.begun opened).item? job.archivePlace = some (.file (.bytes .empty)) :=
  Node.item?_put_self made.opening.directory fileName _

/-- The files are packed in the tree that was there once the image's directory had been made, the
archive apart. -/
theorem item?_elsewhere (made : Made job build tree opened final tree' members) {place : List String}
    (elsewhere : place ≠ job.archivePlace) : (job.begun opened).item? place = opened.item? place :=
  Node.item?_put_other made.opening.directory made.vacant (fun _ => Node.item?_file_below _) elsewhere

theorem proper_begun (made : Made job build tree opened final tree' members) (plain : job.context.baseDir.Plain)
    (proper : tree.Proper) : (job.begun opened).Proper :=
  ((made.laid plain).proper proper).put made.opening.directory isName_fileName (Node.proper_file _)

theorem context (made : Made job build tree opened final tree' members) (plain : job.context.baseDir.Plain)
    (proper : tree.Proper) {dockerfile : Path} (mode : build.dockerfilePath job.context.baseDir = .ok dockerfile) :
    final = job.begun opened ∧
    (∀ source ∈ job.source? build, (job.begun opened).item? source.1.place = some .directory) ∧
    isFile (job.begun opened) dockerfile = .ok true ∧
    ∃ content, (job.begun opened).item? dockerfile.place = some (.file content) ∧
      (job.atTop build dockerfile ∨ dockerfile.place = job.archivePlace → members = job.files build (job.begun opened)) ∧
      (¬job.atTop build dockerfile → dockerfile.place ≠ job.archivePlace →
        members = job.files build (job.begun opened) ++ [(memberName dockerfile.name, .file content)]) := by
  have filled := made.filled
  unfold Job.addAll at filled
  rw [mode] at filled
  obtain ⟨directory, tested, content, isFile, ends⟩ := addContext_gives plain (made.proper_begun plain proper) filled
  obtain ⟨same, found⟩ := Draft.mk.inj ends
  obtain ⟨file, configured⟩ := dockerfile?_of_ok mode
  have source : job.source? build = some (build.contextPath job.context.baseDir, "") := source?_of_dockerfile configured
  have files : job.files build (job.begun opened) =
      job.below (job.begun opened) (build.contextPath job.context.baseDir) "" := files_of_dockerfile configured _
  rw [files, source, ← found, List.nil_append]
  refine ⟨same.symm, ?_, tested, content, isFile, ?_, ?_⟩
  · rintro _ ⟨⟩
    exact directory
  · intro skipped
    rw [if_pos skipped, List.append_nil]
  · intro below elsewhere
    rw [if_neg (not_or.2 ⟨below, elsewhere⟩)]

theorem assembly (made : Made job build tree opened final tree' members) (plain : job.context.baseDir.Plain)
    (proper : tree.Proper) (mode : build.dockerfile? = none) :
    final = (job.begun opened).put (job.place ++ [dockerfileName]) (.file (generated build)) ∧
    Opening (job.begun opened) job.directory dockerfileName ∧
    (∀ source ∈ job.source? build, (job.begun opened).item? source.1.place = some .directory) ∧
    members = job.files build (job.begun opened) ++ [(dockerfileName, .file (generated build))] := by
  have filled := made.filled
  unfold Job.addAll Build.dockerfilePath at filled
  rw [mode] at filled
  obtain ⟨directories, opening, -, ends⟩ := addAssembly_gives mode plain (made.proper_begun plain proper) filled
  obtain ⟨same, found⟩ := Draft.mk.inj ends
  exact ⟨same.symm, opening, directories, found.symm⟩

theorem contentAt_dockerfile (made : Made job build tree opened final tree' members) (plain : job.context.baseDir.Plain)
    (proper : tree.Proper) (mode : build.dockerfile? = none) :
    contentAt tree' (job.directory.child dockerfileName) = .ok (generated build) := by
  have filled := made.filled
  unfold Job.addAll Build.dockerfilePath at filled
  rw [mode] at filled
  obtain ⟨-, opening, vacant, ends⟩ := addAssembly_gives mode plain (made.proper_begun plain proper) filled
  obtain ⟨same, -⟩ := Draft.mk.inj ends
  have written : contentAt final (job.directory.child dockerfileName) = .ok (generated build) := by
    rw [← same]
    exact contentAt_written (by decide) opening vacant _
  have kept : Kept final tree' := by
    rw [← made.written]
    exact kept_put made.closing.directory made.free _
  refine contentAt_kept kept written ?_
  have place : (job.directory.child dockerfileName).place = job.place ++ [dockerfileName] :=
    Path.place_child (by decide) _
  have apart : ¬job.archivePlace <+: job.place ++ [dockerfileName] := by
    rw [List.prefix_append_right_inj]
    decide
  have there := contentAt_ok written
  rw [place] at there ⊢
  rw [← made.written, Node.item?_put made.closing.directory, if_neg apart, there]

theorem directories (made : Made job build tree opened final tree' members) (plain : job.context.baseDir.Plain)
    (proper : tree.Proper) :
    ∀ source ∈ job.source? build, (job.begun opened).item? source.1.place = some .directory := by
  cases mode : build.dockerfilePath job.context.baseDir with
  | ok dockerfile => exact (made.context plain proper mode).2.1
  | error error => exact (made.assembly plain proper (dockerfile?_of_error mode)).2.2.1

/-- Nothing outside the image's own directory is touched once that has been made. -/
theorem outside (made : Made job build tree opened final tree' members) (plain : job.context.baseDir.Plain)
    (proper : tree.Proper) {place : List String} (outside : ¬job.place <+: place) :
    tree'.item? place = opened.item? place := by
  have apart : ∀ name, ¬job.place ++ [name] <+: place := by
    intro name below
    exact outside ((List.prefix_append _ _).trans below)
  rw [← made.written, Node.item?_put made.closing.directory, if_neg (apart _), ← made.item?_begun (apart _)]
  cases mode : build.dockerfilePath job.context.baseDir with
  | ok dockerfile => rw [(made.context plain proper mode).1]
  | error error =>
    obtain ⟨same, opening, -⟩ := made.assembly plain proper (dockerfile?_of_error mode)
    rw [same, Node.item?_put opening.directory, if_neg (apart _)]

theorem proper_after (made : Made job build tree opened final tree' members) (plain : job.context.baseDir.Plain)
    (proper : tree.Proper) : tree'.Proper := by
  have begun := made.proper_begun plain proper
  have filled : final.Proper := by
    cases mode : build.dockerfilePath job.context.baseDir with
    | ok dockerfile => rwa [(made.context plain proper mode).1]
    | error error =>
      obtain ⟨same, opening, -⟩ := made.assembly plain proper (dockerfile?_of_error mode)
      rw [same]
      exact begun.put opening.directory isName_dockerfileName (Node.proper_file _)
  rw [← made.written]
  exact filled.put made.closing.directory isName_fileName (Node.proper_file _)

theorem onTheWay (made : Made job build tree opened final tree' members) {front : List String}
    (early : front <+: job.directory.parts) : opened.item? (Path.normalParts front) = some .directory := by
  obtain ⟨rest, parts⟩ := early
  by_cases whole : rest = []
  · rw [whole, List.append_nil] at parts
    rw [parts]
    exact made.opening.directory
  · have follows := made.opening.follows
    rw [← parts] at follows
    exact follow_above whole follows

end Made

end ImageBuild.Archive
