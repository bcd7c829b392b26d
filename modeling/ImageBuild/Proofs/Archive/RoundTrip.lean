import ImageBuild.Proofs.Archive.Repeated
import ImageBuild.Proofs.Archive.Unpacking
import ImageBuild.Proofs.Machine.Routines

namespace ImageBuild.Archive

open Config Files

variable {job : Job}

/-- What is left out of a packed directory: the archive, and the image's own directory where that lies
below the packed one as their paths are written. -/
def Job.Omits (job : Job) (root : Path) (place : List String) : Prop :=
  (∃ relative, job.directory.relativeTo? root = some relative ∧ relative.parts ≠ [] ∧ ".." ∉ relative.parts ∧
    relative.parts <+: place) ∨ root.place ++ place = job.archivePlace

section packed

variable {build : Build} {tree opened final tree' : Node} {members : List Member} {root : Path}

/-- The name under which a directory is packed does not hide the image's own directory in it: a slash in front
of the name would shift the names that are compared. -/
def Job.Straight (job : Job) (root : Path) (folder : String) : Prop :=
  folder.toList.head? ≠ some '/' ∨ job.directory.relativeTo? root = none

theorem packs_iff (plain : job.context.baseDir.Plain) {folder : String} (straight : job.Straight root folder)
    {found : List String × Item} (further : found.1 ≠ []) (named : ∀ name ∈ found.1, IsName name)
    (file : root.place ++ found.1 = job.archivePlace → found.2.isFile = true) :
    packs (job.exclusion root folder) root.place (Job.nameStart folder) found = true ↔ ¬job.Omits root found.1 := by
  have lexically : (∃ relative, job.directory.relativeTo? root = some relative ∧ relative.parts ≠ [] ∧
      relative.parts <+: found.1) ↔ ∃ relative, job.directory.relativeTo? root = some relative ∧ relative.parts ≠ [] ∧
        ".." ∉ relative.parts ∧ relative.parts <+: found.1 := by
    constructor
    · rintro ⟨relative, told, nonempty, covered⟩
      exact ⟨relative, told, nonempty, fun up => (named ".." (covered.subset up)).notAbove rfl, covered⟩
    · rintro ⟨relative, told, nonempty, -, covered⟩
      exact ⟨relative, told, nonempty, covered⟩
  have keeps : (job.exclusion root folder).keeps (memberName (Job.nameStart folder ++ slashed found.1)) = true ↔
      ¬∃ relative, job.directory.relativeTo? root = some relative ∧ relative.parts ≠ [] ∧ relative.parts <+: found.1 := by
    rcases straight with relative | apart
    · exact keeps_iff plain relative further named
    · have free : (job.exclusion root folder).own = none := by rw [Job.exclusion_own, apart, Option.map_none]
      rw [← Bool.not_eq_false, Exclusion.keeps_eq_false, free]
      simp [apart]
  unfold packs Job.Omits
  rw [Bool.and_eq_true, keeps, lexically, not_or, and_comm, Job.exclusion_archive, and_congr_right_iff]
  intro kept
  by_cases archive : root.place ++ found.1 = job.archivePlace
  · simp [archive, file archive]
  · simp [archive]

theorem straight_top (job : Job) (root : Path) : job.Straight root "" := .inl (by decide)

def Job.listed (job : Job) (tree : Node) (root : Path) : List (List String × Item) :=
  (Node.underAll ((tree.get? root.place).elim [] Node.entries)).filter
    (packs (job.exclusion root "") root.place (Job.nameStart ""))

theorem mem_listed (made : Made job build tree opened final tree' members) (plain : job.context.baseDir.Plain)
    (proper : tree.Proper) (directory : (job.begun opened).item? root.place = some .directory) (found : List String × Item) :
    found ∈ job.listed (job.begun opened) root ↔
      found.1 ≠ [] ∧ (job.begun opened).item? (root.place ++ found.1) = some found.2 ∧ ¬job.Omits root found.1 := by
  have begun := made.proper_begun plain proper
  unfold Job.listed
  rw [List.mem_filter, mem_underAll_at begun directory, and_assoc, and_congr_right_iff]
  intro further
  rw [and_congr_right_iff]
  intro there
  refine packs_iff plain (straight_top job root) further (names_of_item begun there) ?_
  intro archive
  rw [archive, made.item?_archive] at there
  rw [← Option.some.inj there]
  rfl

theorem isPlain_item {place : List String} {item : Item} (found : tree.item? place = some item) : isPlain item := by
  obtain ⟨node, -, rfl⟩ := Option.map_eq_some_iff.1 found
  cases node <;> rfl

def Job.chosen (job : Job) (tree : Node) (root : Path) (folder : String) : List (List String × Item) :=
  (Node.underAll ((tree.get? root.place).elim [] Node.entries)).filter
    (packs (job.exclusion root folder) root.place (Job.nameStart folder))

theorem below_chosen (tree : Node) (root : Path) (folder : String) :
    job.below tree root folder = (job.chosen tree root folder).map (memberOf (Job.nameStart folder)) := rfl

theorem unfolds_chosen (plain : job.context.baseDir.Plain) {tree : Node} (proper : tree.Proper)
    (directory : tree.item? root.place = some .directory) (folder : String) : Unfolds (job.chosen tree root folder) := by
  have known : ∀ found, found ∈ job.chosen tree root folder ↔ (found.1 ≠ [] ∧ tree.item? (root.place ++ found.1) = some found.2) ∧
      packs (job.exclusion root folder) root.place (Job.nameStart folder) found = true := by
    intro found
    rw [Job.chosen, List.mem_filter, mem_underAll_at proper directory]
  refine ⟨(ascending_underAll_at proper root.place).filter _, ?_, ?_, ?_, ?_⟩
  · intro one member
    exact ((known one).1 member).1.1
  · intro one member
    exact names_of_item proper ((known one).1 member).1.2
  · intro one member
    exact isPlain_item ((known one).1 member).1.2
  · intro one member front early shorter further
    obtain ⟨⟨-, there⟩, kept⟩ := (known one).1 member
    have named := names_of_item proper there
    obtain ⟨rest, same⟩ := early
    have more : rest ≠ [] := by
      rintro rfl
      exact shorter (by rw [← same, List.append_nil])
    rw [← same, ← List.append_assoc] at there
    refine (known _).2 ⟨⟨further, Node.directory_above more there⟩, ?_⟩
    -- what leaves a directory out leaves out what is in it
    by_contra out
    have hidden : (job.exclusion root folder).keeps (memberName (Job.nameStart folder ++ slashed front)) = false := by
      simpa [packs, Item.isFile] using out
    obtain ⟨c, last, other⟩ := getLast?_slashed further fun name inside => named name (same ▸ List.mem_append_left rest inside)
    have within : c ∈ (Job.nameStart folder ++ slashed front).toList := by
      rw [String.toList_append]
      exact List.mem_append_right _ (List.mem_of_getLast? last)
    have cut : slashed one.1 = slashed front ++ "/" ++ slashed rest := by
      rw [← same]
      exact String.intercalate_append_of_ne_nil further more
    have below := Exclusion.keeps_below (own_ne_empty plain root folder) hidden (slashed rest)
    have whole : Job.nameStart folder ++ slashed front ++ ("/" ++ slashed rest) = Job.nameStart folder ++ slashed one.1 := by
      rw [cut, String.append_assoc, String.append_assoc]
    rw [String.append_assoc, ← (memberName_append within other _).1, whole] at below
    rw [packs, below, Bool.and_false] at kept
    cases kept

theorem unfolds_listed (made : Made job build tree opened final tree' members) (plain : job.context.baseDir.Plain)
    (proper : tree.Proper) (directory : (job.begun opened).item? root.place = some .directory) :
    Unfolds (job.listed (job.begun opened) root) :=
  unfolds_chosen plain (made.proper_begun plain proper) directory ""

/-- The unpacked listing holds what stood in the context when the image's directory had been made. -/
theorem get?_listed (made : Made job build tree opened final tree' members) (plain : job.context.baseDir.Plain)
    (proper : tree.Proper) (directory : (job.begun opened).item? root.place = some .directory) {place : List String}
    (further : place ≠ []) :
    (job.Omits root place → (spread (job.listed (job.begun opened) root)).get? place = none) ∧
    (¬job.Omits root place → (spread (job.listed (job.begun opened) root)).get? place =
      (opened.item? (root.place ++ place)).map entryOf) := by
  have known := mem_listed made plain proper directory
  have ascending := (unfolds_listed made plain proper directory).ascending
  have told : ∀ entry, (spread (job.listed (job.begun opened) root)).get? place = some entry ↔
      ∃ item, (place, item) ∈ job.listed (job.begun opened) root ∧ entry = entryOf item :=
    fun _ => get?_spread ascending further
  constructor
  · intro out
    rw [Option.eq_none_iff_forall_ne_some]
    intro entry there
    obtain ⟨item, member, -⟩ := (told entry).1 there
    exact ((known _).1 member).2.2 out
  · intro kept
    have elsewhere : root.place ++ place ≠ job.archivePlace := fun archive => kept (.inr archive)
    have same := made.item?_elsewhere elsewhere
    refine Option.ext fun entry => ?_
    rw [told entry, Option.map_eq_some_iff, ← same]
    constructor
    · rintro ⟨item, member, rfl⟩
      exact ⟨item, ((known _).1 member).2.1, rfl⟩
    · rintro ⟨item, there, rfl⟩
      exact ⟨item, (known (place, item)).2 ⟨further, there, kept⟩, rfl⟩

theorem below_listed (tree : Node) (root : Path) : job.below tree root "" = (job.listed tree root).map (memberOf "") := by
  have top : Job.nameStart "" = "" := by decide
  unfold Job.below packed Job.listed
  rw [top]

/-! ### The Dockerfile -/

theorem name_resolve {text : String} (further : (Path.ofText text).parts ≠ []) (base : Path) :
    (base.resolve text).name = (Path.ofText text).name := by
  unfold Path.resolve
  dsimp only
  split
  · rfl
  · rename_i relative
    have parts : ((base.join (Path.ofText text)).absolute).parts = base.parts ++ (Path.ofText text).parts := by
      unfold Path.join Path.absolute
      rw [if_neg relative]
      split <;> rfl
    rw [Path.name, Path.name, parts, List.getLast?_append_of_ne_nil _ further]

theorem place_resolve {text : String} (nothing : (Path.ofText text).parts = []) (base : Path) :
    (base.resolve text).place = [] ∨ (base.resolve text).place = base.place := by
  unfold Path.resolve
  dsimp only
  split
  · left
    rw [Path.place, nothing]
    rfl
  · right
    rename_i relative
    have parts : ((base.join (Path.ofText text)).absolute).parts = base.parts := by
      unfold Path.join Path.absolute
      rw [if_neg relative, nothing, List.append_nil]
      split <;> rfl
    rw [Path.place, parts, Path.place]

theorem dockerfileName_eq {base dockerfile : Path} {content : Content} (mode : build.dockerfilePath base = .ok dockerfile)
    (directory : tree.item? (build.contextPath base).place = some .directory)
    (isFile : tree.item? dockerfile.place = some (.file content)) (elsewhere : dockerfile.place ≠ base.place) :
    build.dockerfileName? = some dockerfile.name := by
  obtain ⟨file, configured⟩ := dockerfile?_of_ok mode
  have named : build.dockerfileName? = some (Path.ofText file).name := by
    rw [Build.dockerfileName?, configured, Option.map_some]
  rw [named]
  unfold Build.dockerfilePath at mode
  unfold Build.contextPath at directory
  rw [configured] at mode directory
  by_cases nothing : (Path.ofText file).parts = []
  · -- a text without parts stands for the directory from which it is followed, or for the root
    exfalso
    cases configuredDir : build.contextDir? with
    | some dir =>
      rw [configuredDir] at mode directory
      obtain rfl := Except.ok.inj mode
      rcases place_resolve nothing (base.resolve dir) with root | same
      · rw [root, directory_top directory] at isFile
        cases isFile
      · rw [same, directory] at isFile
        cases isFile
    | none =>
      rw [configuredDir] at mode directory
      obtain rfl := Except.ok.inj mode
      rcases place_resolve nothing base with root | same
      · rw [root, directory_top directory] at isFile
        cases isFile
      · exact elsewhere same
  · obtain rfl := Except.ok.inj mode
    rw [name_resolve nothing]

end packed

/-! ### The unpacked context -/

section restored

variable {build : Build} {tree opened final tree' : Node} {members : List Member} {dockerfile : Path} {content : Content}

theorem unpack_listed (made : Made job build tree opened final tree' members) (plain : job.context.baseDir.Plain)
    (proper : tree.Proper) (mode : build.dockerfilePath job.context.baseDir = .ok dockerfile)
    (alone : members = job.files build (job.begun opened)) :
    unpack members = .ok (spread (job.listed (job.begun opened) (build.contextPath job.context.baseDir))) := by
  obtain ⟨file, configured⟩ := dockerfile?_of_ok mode
  have directory := made.directories plain proper _ (source?_of_dockerfile configured)
  have none : ∀ member ∈ ([] : List Member), member.2.isFile := by simp
  obtain ⟨all, before, same⟩ := unpack_listing (unfolds_listed made plain proper directory) none
  rw [List.append_nil] at same
  rw [alone, files_of_dockerfile configured, below_listed, same]
  rfl

theorem unpackFile_made (made : Made job build tree opened final tree' members) :
    unpackFile tree' job.path = unpack members := by
  unfold unpackFile
  rw [made.read]

end restored

/-! ### The image's own directory -/

def staleTree : Node :=
  .folder [("work", .folder [("Dockerfile", .file (.bytes "FROM scratch".toUTF8)),
    ("out", .folder [("app", .folder [("stale.txt", .file (.bytes "old".toUTF8))])])])]

theorem proper_staleTree : staleTree.Proper := by
  have isStale : IsName "stale.txt" := by constructor <;> decide
  have isApp : IsName "app" := by constructor <;> decide
  have isOut : IsName "out" := by constructor <;> decide
  have out := proper_single isOut (proper_single isApp (proper_single isStale (Node.proper_file (.bytes "old".toUTF8))))
  exact proper_single isName_work (Node.proper_cons.2 ⟨isName_dockerfileName, Node.proper_file _, out, by decide⟩)

def contextTree : Node := .folder [("work", .folder [("ctx", .folder [("a.txt", .file (.bytes "1".toUTF8))])])]

theorem proper_contextTree : contextTree.Proper := by
  have isText : IsName "a.txt" := by constructor <;> decide
  have isContext : IsName "ctx" := by constructor <;> decide
  exact proper_single isName_work (proper_single isContext (proper_single isText (Node.proper_file _)))

def ownArchive : Build := { Build.default with dockerfile := some "../out/app/docker-build.tar", contextDir := some "ctx" }

theorem own_archive_skipped :
    ∃ path tree' files, create "app" ownArchive workContext contextTree = (.ok path, tree') ∧
      ownArchive.dockerfileName? = some "docker-build.tar" ∧ unpackFile tree' path = .ok files ∧
      files.get? ["docker-build.tar"] = none := by
  have succeeds : (create "app" ownArchive workContext contextTree).1 =
      .ok (Path.ofText "/work/out/app/docker-build.tar") := by decide +kernel
  have made : create "app" ownArchive workContext contextTree =
      (.ok (Path.ofText "/work/out/app/docker-build.tar"), (create "app" ownArchive workContext contextTree).2) :=
    Prod.ext succeeds rfl
  obtain ⟨same, opened, final, members, done⟩ := create_ok made
  have root : (ownArchive.contextPath workContext.baseDir).place = ["work", "ctx"] := by decide +kernel
  have mode : ownArchive.dockerfilePath workContext.baseDir = .ok (Path.ofText "/work/ctx/../out/app/docker-build.tar") := by
    decide +kernel
  have own : (Path.ofText "/work/ctx/../out/app/docker-build.tar").place = (Job.mk "app" workContext).archivePlace := by
    decide +kernel
  obtain ⟨-, directories, -, _, -, alone, -⟩ := done.context plain_workContext proper_contextTree mode
  have directory := directories _ (source?_of_dockerfile rfl)
  have unpacked := unpack_listed done plain_workContext proper_contextTree mode (alone (.inr own))
  have isName : ownArchive.dockerfileName? = some "docker-build.tar" := by decide +kernel
  rw [← unpackFile_made done, ← same] at unpacked
  refine ⟨_, _, _, made, isName, unpacked, ?_⟩
  have further : ["docker-build.tar"] ≠ [] := by decide
  have listed := get?_listed done plain_workContext proper_contextTree directory further
  by_cases out : (Job.mk "app" workContext).Omits (ownArchive.contextPath workContext.baseDir) ["docker-build.tar"]
  · exact listed.1 out
  · rw [listed.2 out, root]
    have way : (Job.mk "app" workContext).directory.parts = ["work", "out", "app"] := by decide +kernel
    rcases (done.laid plain_workContext).same (["work", "ctx"] ++ ["docker-build.tar"]) with kept | ⟨-, -, front, early, onTheWay⟩
    · rw [kept]
      rfl
    · rw [way, ← List.mem_inits] at early
      exfalso
      revert front
      decide

end ImageBuild.Archive
