import ImageBuild.Proofs.Archive.Repeated
import ImageBuild.Proofs.Files.Beside

namespace ImageBuild.Archive

open Config Files Reference

/-! ### The name of the directory -/

/-- A name that can only be that of an entry. -/
structure Harmless (name : String) : Prop where
  nonempty : name ≠ ""
  plain : ∀ c ∈ name.toList, c.isAlphanum = true ∨ c ∈ ['_', '.', '-']
  begins : name.toList.head? ≠ some '_'
  ends : name.toList.getLast? ≠ some '_'
  notHere : name ≠ "."
  notAbove : name ≠ ".."

theorem getLast?_folded (name : String) : (folded name).getLast? ≠ some '_' := by
  intro last
  have nonempty : folded name ≠ [] := by
    rintro empty
    rw [empty] at last
    cases last
  rw [List.getLast?_eq_some_getLast nonempty, Option.some_inj] at last
  exact List.rdropWhile_last_not _ _ nonempty (beq_iff_eq.2 last)

theorem parse_alone {name : String} {given : Option String} {r : Reference} (parsed : parse name given = .ok r) :
    ∃ r', parse name = .ok r' := by
  cases given with
  | none => exact ⟨r, parsed⟩
  | some tag => exact ⟨_, (parse_beside_tag parsed).2.2⟩

theorem harmless_safeName {name : String} {r : Reference} (parsed : parse name = .ok r) : Harmless (safeName name) := by
  obtain ⟨⟨c, rest, begins, alnum⟩, named⟩ := folded_of_parse parsed
  have spelled : (safeName name).toList = c :: rest := by rw [named, String.toList_ofList, begins]
  have other {text : String} {d : Char} (starts : text.toList.head? = some d) (mark : ¬Words.Alnum d) :
      safeName name ≠ text := by
    rintro rfl
    rw [spelled] at starts
    exact ne_of_alnum alnum mark (Option.some.inj starts)
  constructor
  · intro empty
    rw [empty] at spelled
    cases spelled
  · intro c inside
    have safe := isSafe_of_safeName name c inside
    simpa [isSafe, or_assoc] using safe
  · rw [spelled]
    intro same
    exact ne_of_alnum alnum (by decide) (Option.some.inj same)
  · rw [named, String.toList_ofList]
    exact getLast?_folded name
  · exact other rfl (by decide)
  · exact other rfl (by decide)

/-! ### What a packing touches -/

section packing

variable {job : Job} {directory : List String} {α β : Type}

/-- Only entries of a directory may be other files once a step of a packing has been made. -/
abbrev Encloses (directory : List String) (step : Packing α) : Prop :=
  Moves (fun draft draft' : Draft => Beside directory draft.tree draft'.tree) step

theorem encloses_bind {step : Packing α} {next : α → Packing β} (first : Encloses directory step)
    (later : ∀ a, Encloses directory (next a)) : Encloses directory (step >>= next) :=
  moves_bind .trans first later

theorem encloses_pure (directory : List String) (a : α) : Encloses directory (pure a) := fun _ => .refl _ _

theorem encloses_throw (directory : List String) (error : Error) : Encloses directory (throw error : Packing α) :=
  fun _ => .refl _ _

theorem encloses_get (directory : List String) : Encloses directory (get : Packing Draft) := fun _ => .refl _ _

theorem encloses_append (directory : List String) (found : List Member) : Encloses directory (Packing.append found) :=
  fun _ => .refl _ _

theorem encloses_ofFiles (directory : List String) (image : String) (result : Except Files.Error α) :
    Encloses directory (Packing.ofFiles image result) := by
  cases result with
  | ok a => exact encloses_pure directory a
  | error error => exact encloses_throw directory _

theorem encloses_change {step : Change α} (image : String) (moves : Moves (Beside directory) step) :
    Encloses directory (Packing.change image step) := by
  intro draft
  have here := moves draft.tree
  unfold Packing.change
  rw [get_run]
  cases ended : step.run.run draft.tree with
  | mk result tree =>
    rw [ended] at here
    cases result with
    | ok a => exact here
    | error error => exact here

theorem encloses_require (directory : List String) (test : Except Files.Error Bool) (error : Error) :
    Encloses directory (job.require test error) := by
  unfold Job.require
  refine encloses_bind (encloses_ofFiles directory _ test) fun passed => ?_
  cases passed with
  | true => exact encloses_pure directory ()
  | false => exact encloses_throw directory error

theorem encloses_addTree (directory : List String) (root : Path) (folder : String) :
    Encloses directory (job.addTree root folder) := by
  unfold Job.addTree
  refine encloses_bind (encloses_get directory) fun draft => ?_
  refine encloses_bind (encloses_ofFiles directory _ _) fun place => ?_
  refine encloses_bind (encloses_ofFiles directory _ _) fun archive => ?_
  dsimp only
  split
  · exact encloses_append directory _
  · exact encloses_pure directory ()

theorem encloses_addFile (directory : List String) (path : Path) (name : String) :
    Encloses directory (job.addFile path name) := by
  unfold Job.addFile
  refine encloses_bind (encloses_get directory) fun draft => ?_
  refine encloses_bind (encloses_ofFiles directory _ _) fun place => ?_
  refine encloses_bind (encloses_ofFiles directory _ _) fun archive => ?_
  refine encloses_bind (encloses_ofFiles directory _ _) fun content => ?_
  split
  · exact encloses_pure directory ()
  · exact encloses_append directory _

theorem encloses_addContext (directory : List String) (build : Build) (dockerfile : Path) :
    Encloses directory (job.addContext build dockerfile) := by
  unfold Job.addContext
  refine encloses_bind (encloses_get directory) fun draft => ?_
  refine encloses_bind (encloses_require directory _ _) fun _ => ?_
  refine encloses_bind (encloses_get directory) fun draft => ?_
  refine encloses_bind (encloses_require directory _ _) fun _ => ?_
  refine encloses_bind (encloses_addTree directory _ _) fun _ => ?_
  split
  · exact encloses_pure directory ()
  · exact encloses_addFile directory _ _

theorem encloses_addSource (directory : List String) (build : Build) : Encloses directory (job.addSource build) := by
  unfold Job.addSource
  split
  · exact encloses_pure directory ()
  · split
    · exact encloses_pure directory ()
    · refine encloses_bind (encloses_get directory) fun draft => ?_
      exact encloses_bind (encloses_require directory _ _) fun _ => encloses_addTree directory _ _

/-- The generated Dockerfile and the archive are the only files that are written. -/
theorem encloses_addAll (job : Job) (build : Build) : Encloses job.place (job.addAll build) := by
  unfold Job.addAll
  split
  · exact encloses_addContext job.place build _
  · unfold Job.addAssembly
    refine encloses_bind (encloses_addSource job.place build) fun _ => ?_
    refine encloses_bind (encloses_change job.image ?_) fun _ => encloses_addFile job.place _ _
    exact moves_writeContent (by decide) _

theorem encloses_run (job : Job) (build : Build) : Encloses job.place (job.run build) := by
  have ensured : Encloses job.place (Packing.change job.image (ensureDirectory job.directory)) :=
    encloses_change job.image (moves_makeDirectories job.place job.directory _)
  have written (content : Content) : Encloses job.place (Packing.change job.image (writeContent job.path content)) :=
    encloses_change job.image (moves_writeContent (by decide) content)
  have added : Encloses job.place (ExceptT.lift (job.addAll build).run) := by
    intro draft
    have here := encloses_addAll job build draft
    rw [ExceptT.run_lift, StateT.run_map]
    exact here
  unfold Job.run Job.start
  refine encloses_bind (encloses_bind ensured fun _ => written _) fun _ => ?_
  refine encloses_bind added fun result => ?_
  refine encloses_bind ?_ fun _ => ?_
  · unfold Job.finish
    refine encloses_bind (encloses_get job.place) fun draft => ?_
    split
    · exact encloses_pure job.place ()
    · exact written _
  · split
    · exact encloses_pure job.place _
    · exact encloses_throw job.place _

end packing

/-! ### Where the archive lies -/

theorem usable_iff {path : Path} :
    usable path = .ok () ↔ Char.ofNat 0 ∉ path.text.toList ∧ path.text.utf8ByteSize ≤ maxPath := by
  unfold usable
  by_cases strange : Char.ofNat 0 ∈ path.text.toList
  · simp [strange]
  · by_cases long : maxPath < path.text.utf8ByteSize
    · simp [strange, long, Nat.not_le.2 long]
    · simp [strange, long, Nat.le_of_not_lt long]

theorem text_child (path : Path) (name : String) :
    path.text = "." ∨ ∃ rest, (path.child name).text = path.text ++ rest := by
  obtain ⟨root, parts⟩ := path
  have longer (parts : List String) (root : Path.Root) (further : parts ≠ []) :
      (Path.mk root parts).text = root.text ++ "/".intercalate parts := by
    obtain ⟨first, rest, rfl⟩ := List.exists_cons_of_ne_nil further
    cases root <;> rfl
  by_cases top : parts = []
  · subst top
    cases root with
    | none => exact .inl rfl
    | single => exact .inr ⟨name, by simp [Path.child, Path.text, Path.Root.text]⟩
    | double => exact .inr ⟨name, by simp [Path.child, Path.text, Path.Root.text]⟩
  · refine .inr ⟨"/" ++ name, ?_⟩
    rw [Path.child, longer _ _ (by simp), longer _ _ top,
      String.intercalate_append_of_ne_nil top (List.cons_ne_nil name []), String.intercalate_singleton]
    simp only [String.append_assoc]

theorem usable_of_child {path : Path} {name : String} (checked : usable (path.child name) = .ok ()) :
    usable path = .ok () := by
  rcases text_child path name with here | ⟨rest, longer⟩
  · rw [usable_iff, here]
    decide
  · rw [usable_iff, longer, String.toList_append, String.utf8ByteSize_append] at checked
    refine usable_iff.2 ⟨?_, ?_⟩
    · exact fun inside => checked.1 (List.mem_append_left _ inside)
    · exact le_trans (Nat.le_add_right _ _) checked.2

theorem follow_front {tree : Node} {done front rest place : List String}
    (found : follow tree done (front ++ rest) = .ok place) :
    follow tree done front = .ok (front.foldl Path.walked done) := by
  induction front generalizing done with
  | nil => rfl
  | cons part front ih =>
    obtain ⟨enters, later⟩ := follow_cons.1 found
    exact follow_cons.2 ⟨enters, ih later⟩

theorem find_of_child {tree : Node} {path : Path} {name : String} {place : List String}
    (found : find tree (path.child name) = .ok place) : find tree path = .ok path.place := by
  have reached : follow tree [] path.parts = .ok path.place := follow_front (follow_of_find found)
  obtain ⟨⟨⟩, checked, -⟩ := bind_eq_ok.1 found
  simp only [find, located, usable_of_child checked, reached, bind, Except.bind]

/-- The archive of an image lies in a directory of its own right below the output directory, and making it, whether
that succeeds or not, changes no file elsewhere. -/
theorem archive_enclosed {name : String} {given : Option String} {r : Reference} (parsed : parse name given = .ok r) :
    Harmless (safeName name) ∧ ∀ (build : Build) (context : Context) (tree : Node),
      let outputDir := context.absoluteOutputDir
      let made := create name build context tree
      (∀ path, made.1 = .ok path → path = (outputDir.child (safeName name)).child fileName ∧
        find made.2 outputDir = .ok outputDir.place ∧ ∃ members,
          made.2.item? (outputDir.place ++ [safeName name, fileName]) = some (.file (.archive members))) ∧
      ∀ place content, (∀ file, place ≠ outputDir.place ++ [safeName name, file]) →
        (made.2.item? place = some (.file content) ↔ tree.item? place = some (.file content)) := by
  obtain ⟨r', alone⟩ := parse_alone parsed
  have harmless := harmless_safeName alone
  refine ⟨harmless, ?_⟩
  intro build context tree outputDir made
  have child : (Job.mk name context).directory = outputDir.child (safeName name) := by
    rw [(folded_of_parse alone).2]
    exact directory_of_parse alone outputDir
  have place : (Job.mk name context).place = outputDir.place ++ [safeName name] := by
    rw [Job.place, child, Path.place_child harmless.notAbove]
  refine ⟨?_, ?_⟩
  · intro path succeeds
    obtain ⟨rfl, opened, final, members, done⟩ := create_ok (Prod.ext succeeds rfl : made = (.ok path, made.2))
    obtain ⟨_, here, -⟩ := bind_eq_ok.1 done.read
    obtain ⟨_, found, -⟩ := bind_eq_ok.1 here
    have file := contentAt_ok done.read
    rw [Job.path_place, Job.archivePlace, place, List.append_assoc] at file
    have own : find made.2 (outputDir.child (safeName name)) = .ok _ := child ▸ find_of_child found
    exact ⟨by rw [Job.path, child], find_of_child own, members, file⟩
  · intro spot content elsewhere
    refine encloses_run ⟨name, context⟩ build ⟨tree, []⟩ spot content fun file => ?_
    rw [place, List.append_assoc]
    exact elsewhere file

/-- A port, a user and a tag beyond ASCII. -/
theorem archive_enclosed_port :
    let name := "reg.io:5000/team/app:é1_"
    let made := create name (workRecipe name).2 workContext workTree
    (∃ r, parse name = .ok r) ∧ made.1 = .ok (Path.ofText "/work/out/reg.io_5000_team_app_1/docker-build.tar") ∧
      Harmless "reg.io_5000_team_app_1" ∧ find made.2 (Path.ofText "/work/out") = .ok ["work", "out"] ∧
      made.2.item? ["work", "Dockerfile"] = some (.file (.bytes "FROM scratch".toUTF8)) := by
  intro name made
  have parsed : parse name = .ok ⟨name, some "reg.io:5000", "team/app", some "é1_", none⟩ := by decide +kernel
  have succeeds : made.1 = .ok (Path.ofText "/work/out/reg.io_5000_team_app_1/docker-build.tar") := by decide +kernel
  have named : safeName name = "reg.io_5000_team_app_1" := by decide +kernel
  have lies : workContext.absoluteOutputDir = Path.ofText "/work/out" := by decide +kernel
  have there : (Path.ofText "/work/out").place = ["work", "out"] := by decide +kernel
  obtain ⟨harmless, created⟩ := archive_enclosed parsed
  obtain ⟨enclosed, untouched⟩ := created (workRecipe name).2 workContext workTree
  rw [named] at harmless
  rw [lies, there] at enclosed untouched
  refine ⟨⟨_, parsed⟩, succeeds, harmless, (enclosed _ succeeds).2.1, ?_⟩
  exact (untouched _ _ fun file same => by simp at same).2 rfl

end ImageBuild.Archive
