import ImageBuild.Proofs.Archive.Exclusion
import ImageBuild.Proofs.Archive.Location

/-!
# Repeated archives

The images of a run write below the output directory, which may itself be packed. As long as no image
packs anything out of the directories of the images, an archive is the same whenever it is made.
-/

namespace ImageBuild.Archive

open Config Files

abbrev Recipe := String × Build

def Recipe.job (recipe : Recipe) (context : Context) : Job := ⟨recipe.1, context⟩

section run

variable {context : Context} {recipes : List Recipe}

def Written (context : Context) (recipes : List Recipe) (place : List String) : Prop :=
  ∃ recipe ∈ recipes, (recipe.job context).place <+: place

def Crossed (context : Context) (recipes : List Recipe) (place : List String) : Prop :=
  ∃ recipe ∈ recipes, ∃ front, front <+: (recipe.job context).directory.parts ∧ place = Path.normalParts front

/-- An image packs nothing that the run writes: its packed directory holds no directory of an image but
its own, which must lie below it as their paths are written, and lies in none, and neither does its
Dockerfile. -/
structure Apart (context : Context) (recipes : List Recipe) (recipe : Recipe) : Prop where
  outside : ∀ source ∈ (recipe.job context).source? recipe.2, ¬Written context recipes source.1.place
  around : ∀ source ∈ (recipe.job context).source? recipe.2, ∀ other ∈ recipes,
    source.1.place <+: (other.job context).place → (other.job context).place = (recipe.job context).place ∧
      (recipe.job context).Inside source.1 ∧ source.2.toList.head? ≠ some '/'
  dockerfile : ∀ dockerfile, recipe.2.dockerfilePath context.baseDir = .ok dockerfile →
    ¬Written context recipes dockerfile.place

/-- Archives that are made one after the other, each with its recipe and its members. In between
anything may happen to what the run has written. -/
inductive Run (context : Context) (recipes : List Recipe) : Node → List (Recipe × List Member) → Node → Prop
  | done (tree : Node) : Run context recipes tree [] tree
  | packed {tree next last : Node} {recipe : Recipe} {path : Path} {members : List Member}
      {records : List (Recipe × List Member)} (listed : recipe ∈ recipes)
      (made : create recipe.1 recipe.2 context tree = (.ok path, next))
      (read : contentAt next path = .ok (.archive members)) (rest : Run context recipes next records last) :
      Run context recipes tree ((recipe, members) :: records) last
  | aside {tree next last : Node} {records : List (Recipe × List Member)} (proper : next.Proper)
      (same : ∀ place, ¬Written context recipes place → ¬Crossed context recipes place →
        next.item? place = tree.item? place) (rest : Run context recipes next records last) :
      Run context recipes tree records last

end run

/-! ### Where the run writes -/

theorem isSafe_of_safeName (image : String) : ∀ c ∈ (safeName image).toList, isSafe c = true := by
  intro c member
  unfold safeName at member
  split at member
  · have all : "image".toList.all isSafe = true := by decide
    exact List.all_eq_true.1 all c member
  · rw [String.toList_ofList] at member
    have replaced : c ∈ replaceUnsafe false image.toList := by
      unfold stripUnderscores at member
      have early := List.mem_reverse.1 ((List.dropWhile_suffix _).subset (List.mem_reverse.1 member))
      exact (List.dropWhile_suffix _).subset early
    rw [replaceUnsafe_eq] at replaced
    obtain ⟨d, -, rfl⟩ := List.mem_map.1 replaced
    unfold masked
    split
    · assumption
    · rfl

theorem parts_directory (outputDir : Path) (image : String) :
    ∃ last, last.length ≤ 1 ∧ (directory outputDir image).parts = outputDir.parts ++ last := by
  have free : '/' ∉ (safeName image).toList := by
    intro slash
    exact absurd (isSafe_of_safeName image '/' slash) (by decide)
  have relative : (Path.ofText (safeName image)).isAbsolute = false := by
    simp [Path.ofText, Path.isAbsolute, rootOf_of_notMem free]
  refine ⟨(Path.ofText (safeName image)).parts, ?_, ?_⟩
  · unfold Path.ofText
    rw [Text.splitAll_of_notMem free]
    exact (List.length_map _).trans_le (List.length_filter_le _ _)
  · rw [directory, Path.join, relative]
    rfl

section agreement

variable {context : Context} {recipes : List Recipe} {tree opened final tree' : Node} {members : List Member}

theorem prefix_short {front parts last : List String} (short : last.length ≤ 1) (early : front <+: parts ++ last) :
    front = parts ++ last ∨ front <+: parts := by
  match last, short with
  | [], _ =>
    rw [List.append_nil] at early
    exact .inr early
  | [part], _ => exact List.prefix_concat_iff.1 early

/-- All images cross the same places on the way to their own. -/
theorem crossed_cases (recipe : Recipe) {other : Recipe} {front : List String} (listed : other ∈ recipes)
    (early : front <+: (other.job context).directory.parts) :
    Written context recipes (Path.normalParts front) ∨ front <+: (recipe.job context).directory.parts := by
  obtain ⟨last, short, parts⟩ := parts_directory context.absoluteOutputDir other.1
  obtain ⟨last', -, parts'⟩ := parts_directory context.absoluteOutputDir recipe.1
  have own : (other.job context).directory.parts = context.absoluteOutputDir.parts ++ last := parts
  have own' : (recipe.job context).directory.parts = context.absoluteOutputDir.parts ++ last' := parts'
  rw [own] at early
  rcases prefix_short short early with whole | shared
  · left
    refine ⟨other, listed, ?_⟩
    rw [whole, ← own, Job.place, Path.place]
  · right
    rw [own']
    exact shared.trans (List.prefix_append _ _)

/-- Where the run does not write, a tree is as it was before, but for the way to the directories. -/
def Alike (context : Context) (recipes : List Recipe) (tree tree' : Node) : Prop :=
  ∀ place, ¬Written context recipes place → ¬Crossed context recipes place → tree'.item? place = tree.item? place

theorem alike_opened (plain : context.baseDir.Plain) {recipe : Recipe} (listed : recipe ∈ recipes)
    (made : Made (recipe.job context) recipe.2 tree opened final tree' members) : Alike context recipes tree opened := by
  intro place _ aside
  rcases (made.laid plain).same place with same | ⟨-, -, front, early, same⟩
  · exact same
  · exact absurd ⟨recipe, listed, front, early, same⟩ aside

theorem alike_packed (plain : context.baseDir.Plain) (proper : tree.Proper) {recipe : Recipe} (listed : recipe ∈ recipes)
    (made : Made (recipe.job context) recipe.2 tree opened final tree' members) : Alike context recipes tree tree' := by
  intro place elsewhere aside
  rw [made.outside plain proper fun below => elsewhere ⟨recipe, listed, below⟩]
  exact alike_opened plain listed made place elsewhere aside

/-- While their files are packed, images find the same wherever the run does not write. -/
theorem agree_begun (plain : context.baseDir.Plain) {recipe other : Recipe} (listed : recipe ∈ recipes)
    (listed' : other ∈ recipes) {first second opened' final' last' : Node} {members' : List Member}
    (made : Made (recipe.job context) recipe.2 first opened final tree' members)
    (made' : Made (other.job context) other.2 second opened' final' last' members')
    (alike : Alike context recipes first second) {place : List String} (elsewhere : ¬Written context recipes place) :
    ((recipe.job context).begun opened).item? place = ((other.job context).begun opened').item? place := by
  have apart : ∀ recipe ∈ recipes, ¬(recipe.job context).archivePlace <+: place := by
    intro recipe listed below
    exact elsewhere ⟨recipe, listed, (List.prefix_append _ _).trans below⟩
  rw [made.item?_begun (apart recipe listed), made'.item?_begun (apart other listed')]
  by_cases crossed : Crossed context recipes place
  · -- on the way to one directory is on the way to all, where both trees have directories by now
    obtain ⟨third, known, front, early, rfl⟩ := crossed
    have here := (crossed_cases recipe known early).resolve_left elsewhere
    have there := (crossed_cases other known early).resolve_left elsewhere
    rw [made.onTheWay here, made'.onTheWay there]
  · rw [alike_opened plain listed made place elsewhere crossed, alike_opened plain listed' made' place elsewhere crossed]
    exact (alike place elsewhere crossed).symm

variable {first second opened' final' last' : Node} {members' : List Member} {recipe : Recipe}

theorem not_written_of_kept (apart : Apart context recipes recipe) (plain : context.baseDir.Plain)
    {source : Path × String} (packed : source ∈ (recipe.job context).source? recipe.2) {place : List String}
    (further : place ≠ []) (names : ∀ name ∈ place, IsName name)
    (kept : ((recipe.job context).exclusion source.1 source.2).keeps
      (memberName (Job.nameStart source.2 ++ slashed place)) = true) :
    ¬Written context recipes (source.1.place ++ place) := by
  rintro ⟨other, known, covered⟩
  rcases List.prefix_or_prefix_of_prefix covered (List.prefix_append source.1.place place) with above | below
  · exact apart.outside source packed ⟨other, known, above⟩
  · obtain ⟨own, inside, relative⟩ := apart.around source packed other known below
    obtain ⟨lies, told, onwards, down⟩ := inside
    refine (keeps_iff plain relative further names).1 kept ⟨lies, told, onwards, ?_⟩
    rw [own, place_of_relativeTo told down] at covered
    exact (List.prefix_append_right_inj _).1 covered

theorem files_agree (apart : Apart context recipes recipe) (plain : context.baseDir.Plain) (listed : recipe ∈ recipes)
    (proper : first.Proper) (proper' : second.Proper)
    (made : Made (recipe.job context) recipe.2 first opened final tree' members)
    (made' : Made (recipe.job context) recipe.2 second opened' final' last' members')
    (alike : Alike context recipes first second) :
    (recipe.job context).files recipe.2 ((recipe.job context).begun opened) =
      (recipe.job context).files recipe.2 ((recipe.job context).begun opened') := by
  unfold Job.files
  cases packed : (recipe.job context).source? recipe.2 with
  | none => rw [Option.elim_none, Option.elim_none]
  | some source =>
    rw [Option.elim_some, Option.elim_some]
    have there := made.directories plain proper source packed
    have there' := made'.directories plain proper' source packed
    refine below_congr (made.proper_begun plain proper) (made'.proper_begun plain proper') there there' ?_
    intro place further names kept
    exact agree_begun plain listed listed made made' alike (not_written_of_kept apart plain packed further names kept)

theorem members_agree (apart : Apart context recipes recipe) (plain : context.baseDir.Plain) (listed : recipe ∈ recipes)
    (proper : first.Proper) (proper' : second.Proper)
    (made : Made (recipe.job context) recipe.2 first opened final tree' members)
    (made' : Made (recipe.job context) recipe.2 second opened' final' last' members')
    (alike : Alike context recipes first second) : members = members' := by
  have files := files_agree apart plain listed proper proper' made made' alike
  cases mode : recipe.2.dockerfilePath context.baseDir with
  | error error =>
    have none := dockerfile?_of_error mode
    rw [(made.assembly plain proper none).2.2.2, (made'.assembly plain proper' none).2.2.2, files]
  | ok dockerfile =>
    have elsewhere := apart.dockerfile dockerfile mode
    have other : dockerfile.place ≠ (recipe.job context).archivePlace := by
      intro same
      refine elsewhere ⟨recipe, listed, ?_⟩
      rw [same]
      exact List.prefix_append _ _
    obtain ⟨-, -, -, content, isFile, atTop, apart⟩ := made.context plain proper mode
    obtain ⟨-, -, -, content', isFile', atTop', apart'⟩ := made'.context plain proper' mode
    have same : content = content' := by
      rw [agree_begun plain listed listed made made' alike elsewhere, isFile'] at isFile
      exact (Item.file.inj (Option.some.inj isFile)).symm
    by_cases top : (recipe.job context).atTop recipe.2 dockerfile
    · rw [atTop (.inl top), atTop' (.inl top), files]
    · rw [apart top other, apart' top other, files, same]

end agreement

/-! ### The run -/

section run

variable {context : Context} {recipes : List Recipe} {tree last : Node} {records : List (Recipe × List Member)}

theorem Run.made (run : Run context recipes tree records last) (plain : context.baseDir.Plain) (proper : tree.Proper) :
    ∀ record ∈ records, record.1 ∈ recipes ∧ ∃ before opened final after, before.Proper ∧
      Alike context recipes tree before ∧ Made (record.1.job context) record.1.2 before opened final after record.2 := by
  -- by induction on the run: every step leaves a tree like the one before
  induction run with
  | done => simp
  | packed listed created read rest ih =>
    obtain ⟨same, opened, final, found, made⟩ := create_ok created
    rw [same, made.read] at read
    obtain rfl := Content.archive.inj (Except.ok.inj read)
    have after := alike_packed plain proper listed made
    intro record member
    rcases List.mem_cons.1 member with rfl | later
    · exact ⟨listed, _, opened, final, _, proper, fun _ _ _ => rfl, made⟩
    · obtain ⟨known, before, opened', final', after', there, alike, made'⟩ :=
        ih (made.proper_after plain proper) record later
      refine ⟨known, before, opened', final', after', there, ?_, made'⟩
      intro place elsewhere aside
      rw [alike place elsewhere aside, after place elsewhere aside]
  | aside proper' same rest ih =>
    intro record member
    obtain ⟨listed, before, opened, final, after, there, alike, made⟩ := ih proper' record member
    refine ⟨listed, before, opened, final, after, there, ?_, made⟩
    intro place elsewhere aside
    rw [alike place elsewhere aside, same place elsewhere aside]

/-- An archive of an image is the same whenever it is made, if the image packs nothing that the run
writes. -/
theorem archive_repeats (plain : context.baseDir.Plain) (proper : tree.Proper)
    (run : Run context recipes tree records last) {recipe : Recipe} (apart : Apart context recipes recipe)
    {members members' : List Member} (member : (recipe, members) ∈ records) (member' : (recipe, members') ∈ records) :
    members = members' := by
  obtain ⟨listed, before, opened, final, after, there, alike, made⟩ := run.made plain proper _ member
  obtain ⟨-, before', opened', final', after', there', alike', made'⟩ := run.made plain proper _ member'
  refine members_agree apart plain listed there there' made made' ?_
  intro place elsewhere aside
  rw [alike place elsewhere aside, alike' place elsewhere aside]

end run

/-! ### Images that pack the output directory -/

def workTree : Node := .folder [("work", .folder [("Dockerfile", .file (.bytes "FROM scratch".toUTF8))])]

def workContext : Context :=
  ⟨Path.ofText "/work", Path.ofText "out", .empty, .empty, .empty, none, none, none, .none⟩

def workRecipe (image : String) : Recipe := (image, { Build.default with dockerfile := some "Dockerfile" })

def afterwards (tree : Node) (image : String) : Node := (create image (workRecipe image).2 workContext tree).2

theorem isName_work : IsName "work" := by
  constructor <;> decide

theorem proper_single {name : String} (isName : IsName name) {node : Node} (proper : node.Proper) :
    (Node.folder [(name, node)]).Proper :=
  Node.proper_cons.2 ⟨isName, proper, Node.proper_nil, by simp⟩

theorem proper_workTree : workTree.Proper :=
  proper_single isName_work (proper_single isName_dockerfileName (Node.proper_file _))

theorem plain_workContext : workContext.baseDir.Plain := Path.plain_ofText "/work"

theorem run_cons {recipes : List Recipe} {tree last : Node} {image : String} {path : Path}
    {records : List (Recipe × List Member)} (listed : workRecipe image ∈ recipes)
    (succeeds : (create image (workRecipe image).2 workContext tree).1 = .ok path)
    (rest : Run workContext recipes (afterwards tree image) records last) :
    ∃ members, contentAt (afterwards tree image) path = .ok (.archive members) ∧
      Run workContext recipes tree ((workRecipe image, members) :: records) last := by
  have made : create image (workRecipe image).2 workContext tree = (.ok path, afterwards tree image) :=
    Prod.ext succeeds rfl
  obtain ⟨same, opened, final, members, done⟩ := create_ok made
  have read := done.read
  rw [← same] at read
  exact ⟨members, read, .packed listed made read rest⟩

theorem apart_own : Apart workContext [workRecipe "app"] (workRecipe "app") := by
  have outside : ∀ place, place = ["work"] ∨ place = ["work", "Dockerfile"] →
      ¬Written workContext [workRecipe "app"] place := by
    rintro place either ⟨_, ⟨⟩, covered⟩
    · rcases either with rfl | rfl
      · revert covered
        decide +kernel
      · revert covered
        decide +kernel
    · contradiction
  refine ⟨?_, ?_, ?_⟩
  · rintro _ ⟨⟩
    exact outside _ (.inl (by decide +kernel))
  · rintro _ ⟨⟩ _ ⟨⟩ _
    · exact ⟨rfl, ⟨⟨.none, ["out", "app"]⟩, by decide +kernel, by decide, by decide⟩, by decide⟩
    · contradiction
  · rintro _ ⟨⟩
    exact outside _ (.inr (by decide +kernel))

theorem archive_repeats_own :
    ∃ members members' last,
      Run workContext [workRecipe "app"] workTree [(workRecipe "app", members), (workRecipe "app", members')] last ∧
        members = members' := by
  have listed : workRecipe "app" ∈ [workRecipe "app"] := List.mem_singleton_self _
  have again : (create "app" (workRecipe "app").2 workContext (afterwards workTree "app")).1 =
      .ok (Path.ofText "/work/out/app/docker-build.tar") := by decide +kernel
  have once : (create "app" (workRecipe "app").2 workContext workTree).1 =
      .ok (Path.ofText "/work/out/app/docker-build.tar") := by decide +kernel
  obtain ⟨members', -, rest⟩ := run_cons listed again (.done _)
  obtain ⟨members, -, run⟩ := run_cons listed once rest
  refine ⟨members, members', _, run, ?_⟩
  exact archive_repeats plain_workContext proper_workTree run apart_own (by simp) (by simp)

def namesAt (tree : Node) (path : Path) : List String :=
  match contentAt tree path with
  | .ok (.archive members) => members.map Prod.fst
  | _ => []

theorem namesAt_eq {tree : Node} {path : Path} {members : List Member} (read : contentAt tree path = .ok (.archive members)) :
    namesAt tree path = members.map Prod.fst := by
  unfold namesAt
  rw [read]

/-- An image that packs the whole directory packs the archives of other images with it. -/
theorem packs_other_archives :
    safeName "a" ≠ safeName "b" ∧ ∃ members other members' last,
      Run workContext [workRecipe "a", workRecipe "b"] workTree
        [(workRecipe "a", members), (workRecipe "b", other), (workRecipe "a", members')] last ∧ members ≠ members' := by
  refine ⟨by decide +kernel, ?_⟩
  have first : (create "a" (workRecipe "a").2 workContext workTree).1 =
      .ok (Path.ofText "/work/out/a/docker-build.tar") := by decide +kernel
  have second : (create "b" (workRecipe "b").2 workContext (afterwards workTree "a")).1 =
      .ok (Path.ofText "/work/out/b/docker-build.tar") := by decide +kernel
  have third : (create "a" (workRecipe "a").2 workContext (afterwards (afterwards workTree "a") "b")).1 =
      .ok (Path.ofText "/work/out/a/docker-build.tar") := by decide +kernel
  have isFirst : workRecipe "a" ∈ [workRecipe "a", workRecipe "b"] := List.mem_cons_self
  have isSecond : workRecipe "b" ∈ [workRecipe "a", workRecipe "b"] := List.mem_cons_of_mem _ List.mem_cons_self
  obtain ⟨members', read', rest⟩ := run_cons isFirst third (.done _)
  obtain ⟨other, -, rest⟩ := run_cons isSecond second rest
  obtain ⟨members, read, run⟩ := run_cons isFirst first rest
  refine ⟨members, other, members', _, run, ?_⟩
  rintro rfl
  have names : namesAt (afterwards workTree "a") (Path.ofText "/work/out/a/docker-build.tar") = ["Dockerfile", "out"] := by
    decide +kernel
  have names' : namesAt (afterwards (afterwards (afterwards workTree "a") "b") "a")
      (Path.ofText "/work/out/a/docker-build.tar") = ["Dockerfile", "out", "out/b", "out/b/docker-build.tar"] := by
    decide +kernel
  rw [namesAt_eq read] at names
  rw [namesAt_eq read', names] at names'
  exact absurd names' (by decide)

end ImageBuild.Archive
