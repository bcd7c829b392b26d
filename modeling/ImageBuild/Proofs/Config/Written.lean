import ImageBuild.Config.Written
import ImageBuild.Proofs.Config.Accepted

namespace ImageBuild.Config

open Data Checked

variable {α : Type}

def Takes (read : Reader α) (value : Value) (a : α) : Prop := ∀ at_, read at_ value = valid a

/-! ### Fields -/

theorem get?_written (entries : List (String × Value)) (name : String) :
    Value.get? (entries.map fun (k, v) => (.text k, v)) name = entries.lookup name := by
  induction entries with
  | nil => rfl
  | cons entry rest ih =>
    obtain ⟨k, v⟩ := entry
    unfold Value.get? at *
    have sameKey : Value.sameKey (.text k) (.text name) = (k == name) := by simp only [Value.sameKey]
    rw [List.map_cons, List.find?_cons, List.lookup_cons]
    dsimp only
    rw [sameKey]
    by_cases same : k = name
    · simp [same]
    · rw [beq_false_of_ne same, beq_false_of_ne (Ne.symm same)]
      exact ih

theorem find?_written (entries : List (String × Value)) (names : List String) :
    find? (entries.map fun (k, v) => (.text k, v)) names =
      names.findSome? fun name => (entries.lookup name).map fun value => (name, value) := by
  induction names with
  | nil => rfl
  | cons name rest ih =>
    rw [find?, get?_written, List.findSome?_cons]
    cases entries.lookup name with
    | some value => rfl
    | none => exact ih

section

variable {read : Reader α} {name : String} {value : Value} {a : α} {entries : List (String × Value)}

theorem withDefault_written (names : List String) (takes : Takes read value a)
    (found : (names.findSome? fun name => (entries.lookup name).map fun value => (name, value)) = some (name, value))
    (default : α) (at_ : List Step) :
    withDefault read default at_ (entries.map fun (k, v) => (.text k, v)) names = valid a := by
  unfold withDefault
  rw [find?_written, found]
  exact takes _

theorem required_written (names : List String) (takes : Takes read value a)
    (found : (names.findSome? fun name => (entries.lookup name).map fun value => (name, value)) = some (name, value))
    (at_ : List Step) : required read at_ (entries.map fun (k, v) => (.text k, v)) names = valid a := by
  unfold required
  rw [find?_written, found]
  exact takes _

end

/-! ### Values of fields -/

theorem takes_text (s : String) : Takes text (.text s) s := fun _ => rfl

theorem takes_writtenText (s : Option String) : Takes (optional text) (writtenText s) s := by
  intro at_
  cases s <;> rfl

theorem takes_readPolicy (s : Option String) : Takes RunFile.readPolicy (writtenText s) s := by
  intro at_
  cases s <;> rfl

theorem takes_flag (b : Bool) : Takes flag (.bool b) b := fun _ => rfl

theorem takes_readCleanup (mode : Cleanup) : Takes Build.readCleanup (.text mode.word) mode := by
  intro at_
  change Build.readCleanup [] (.text mode.word) = valid mode
  cases mode <;> decide +kernel

theorem takes_optional {read : Reader α} {write : α → Value} {found : Option α}
    (takes : ∀ a ∈ found, Takes read (write a) a) (object : ∀ a ∈ found, write a ≠ .null) :
    Takes (optional read) ((found.map write).getD .null) found := by
  intro at_
  cases found with
  | none => rfl
  | some a =>
    rw [Option.map_some, Option.getD_some]
    unfold optional
    split
    · rename_i null
      exact absurd null (object a rfl)
    · rw [takes a rfl]
      rfl

theorem haveWritable_texts (entries : List (String × String)) :
    Value.haveWritable (entries.map fun (k, v) => (.text k, .text v)) = true := by
  induction entries with
  | nil => rfl
  | cons entry rest ih => simpa [Value.haveWritable, Value.isWritable] using ih

theorem settings_of_writable {entries : List (Value × Value)} (writable : Value.haveWritable entries = true) (at_ : List Step) :
    settings at_ (.map entries) =
      valid (Table.ofList (entries.map fun entry => (entry.1.display, settingText entry.2))) :=
  if_pos writable

theorem takes_settings (table : Table String) : Takes settings (writtenTable table) table := by
  intro at_
  have texts : writtenTable table = .map (table.entries.map fun (k, v) => (.text k, .text v)) := by
    simp [writtenTable, written, Function.comp_def]
  have same : (table.entries.map fun (k, v) => (Value.text k, Value.text v)).map
      (fun entry => (entry.1.display, settingText entry.2)) = table.entries := by
    simp [Function.comp_def, Value.display, settingText]
  rw [texts, settings_of_writable (haveWritable_texts _), same, Table.ofList_entries]

theorem takes_list {read : Reader α} {write : α → Value} {all : List α} (takes : ∀ a ∈ all, Takes read (write a) a) :
    Takes (list read) (.list (all.map write)) all := by
  intro at_
  suffices each : ∀ n, indexed read at_ n (all.map write) = all.map valid by
    change Checked.sequence (indexed read at_ 0 (all.map write)) = _
    rw [each, sequence_eq_valid]
  induction all with
  | nil => exact fun _ => rfl
  | cons a rest ih =>
    intro n
    rw [List.map_cons, indexed, takes a List.mem_cons_self,
      ih (fun b member => takes b (List.mem_cons_of_mem _ member)), List.map_cons]

theorem takes_table {read : Reader α} {write : α → Value} (takes : ∀ a, Takes read (write a) a) (all : Table α) :
    Takes (table read) (written (all.entries.map fun (k, a) => (k, write a))) all := by
  intro at_
  have each : (all.entries.map fun (k, a) => (Value.text k, write a)).map (entry read at_) = all.entries.map valid := by
    rw [List.map_map]
    refine List.map_congr_left fun pair _ => ?_
    rw [Function.comp_apply, entry, takes]
    rfl
  have objects : written (all.entries.map fun (k, a) => (k, write a)) =
      .map (all.entries.map fun (k, a) => (.text k, write a)) := by
    simp [written, Function.comp_def]
  rw [objects]
  change Table.ofList <$> Checked.sequence (List.map (entry read at_) _) = _
  rw [each, sequence_eq_valid.2 rfl]
  exact congrArg valid (Table.ofList_entries all)

/-! ### Records -/

theorem takes_credentials (credentials : Credentials) : Takes Credentials.read credentials.written credentials := by
  intro at_
  change Credentials.fields at_ _ = _
  unfold Credentials.fields
  rw [required_written ["username"] (takes_text credentials.username),
    required_written ["password"] (takes_text credentials.password),
    withDefault_written ["email"] (takes_writtenText credentials.email)]
  all_goals rfl

theorem takes_auth (auth : Auth) : Takes Auth.read auth.written auth := by
  have optional (found : Option Credentials) :
      Takes (optional Credentials.read) ((found.map Credentials.written).getD .null) found :=
    takes_optional (fun one _ => takes_credentials one) fun _ _ => nofun
  intro at_
  change Auth.fields at_ _ = _
  unfold Auth.fields
  rw [withDefault_written ["default"] (optional auth.fallback), withDefault_written ["push"] (optional auth.push),
    withDefault_written ["registries"] (takes_table takes_credentials auth.registries)]
  all_goals rfl

theorem takes_assembly (naming : Naming) (assembly : Assembly) :
    Takes Assembly.read (assembly.written naming) assembly := by
  intro at_
  change Assembly.fields at_ _ = _
  unfold Assembly.fields
  cases naming
  all_goals
    rw [withDefault_written ["name"] (takes_text assembly.name),
      withDefault_written ["sourceDir", "source_dir"] (takes_writtenText assembly.sourceDir),
      withDefault_written ["targetDir", "target_dir"] (takes_writtenText assembly.targetDir),
      withDefault_written ["descriptor"] (takes_writtenText assembly.descriptor)]
    all_goals rfl

theorem takes_build (naming : Naming) {build : Build} (agrees : build.conflict? = none) :
    Takes Build.read (build.written naming) build := by
  have assembly : Takes (optional Assembly.read) ((build.assembly.map (·.written naming)).getD .null) build.assembly :=
    takes_optional (fun one _ => takes_assembly naming one) fun _ _ => nofun
  intro at_
  change (Build.fields at_ _).require Build.conflict? = _
  rw [require_eq_valid]
  refine ⟨?_, agrees⟩
  unfold Build.fields
  cases naming
  all_goals
    rw [withDefault_written ["from", "from_image"] (takes_writtenText build.base),
      withDefault_written ["dockerFile", "dockerfile"] (takes_writtenText build.dockerfile),
      withDefault_written ["dockerArchive", "docker_archive"] (takes_writtenText build.archive),
      withDefault_written ["contextDir", "context_dir"] (takes_writtenText build.contextDir),
      withDefault_written ["assembly"] assembly, withDefault_written ["noCache", "nocache"] (takes_flag build.nocache),
      withDefault_written ["cleanup"] (takes_readCleanup build.cleanup),
      withDefault_written ["args"] (takes_settings build.args),
      withDefault_written ["buildOptions", "build_options"] (takes_settings build.options)]
    all_goals rfl

theorem takes_image (naming : Naming) {image : Image} (agrees : image.build.conflict? = none) :
    Takes Image.read (image.written naming) image := by
  intro at_
  change Image.fields at_ _ = _
  unfold Image.fields
  rw [required_written ["name"] (takes_text image.name), withDefault_written ["alias"] (takes_writtenText image.aliasName),
    withDefault_written ["build"] (takes_build naming agrees)]
  all_goals rfl

theorem takes_runFile (naming : Naming) {file : RunFile} (agree : ∀ image ∈ file.images, image.build.conflict? = none)
    (distinct : file.duplicates? = none) : Takes RunFile.read (file.written naming) file := by
  have images : Takes (list Image.read) (.list (file.images.map (·.written naming))) file.images :=
    takes_list fun image member => takes_image naming (agree image member)
  intro at_
  change (RunFile.fields at_ _).require RunFile.duplicates? = _
  rw [require_eq_valid]
  refine ⟨?_, distinct⟩
  unfold RunFile.fields
  cases naming
  all_goals
    rw [withDefault_written ["registry"] (takes_writtenText file.registry),
      withDefault_written ["pullRegistry", "pull_registry"] (takes_writtenText file.pullRegistry),
      withDefault_written ["autoPull", "auto_pull"] (takes_readPolicy file.autoPull),
      withDefault_written ["buildArgs", "build_args"] (takes_settings file.buildArgs),
      withDefault_written ["properties"] (takes_settings file.properties),
      withDefault_written ["outputDir", "output_dir"] (takes_text file.outputDir),
      withDefault_written ["auth"] (takes_auth file.auth), required_written ["images"] images]
    all_goals rfl

/-! ### Restoring -/

/-- Settings that were read from any value are read again from what is written for them. -/
theorem read_written :
    (∀ at_ value build, Build.read at_ value = valid build →
      ∀ place naming, Build.read place (build.written naming) = valid build) ∧
    (∀ at_ value image, Image.read at_ value = valid image →
      ∀ place naming, Image.read place (image.written naming) = valid image) ∧
    ∀ at_ value file, RunFile.read at_ value = valid file →
      ∀ place naming, RunFile.read place (file.written naming) = valid file := by
  refine ⟨?_, ?_, ?_⟩
  · intro at_ value build accepted place naming
    exact takes_build naming (conflict?_of_read accepted) place
  · intro at_ value image accepted place naming
    exact takes_image naming (conflict?_of_image accepted) place
  · intro at_ value file accepted place naming
    obtain ⟨agree, distinct⟩ := agree_of_read accepted
    exact takes_runFile naming agree distinct place

/-- A file with a truth value as its policy, a number and a null among the arguments, and a cleanup mode in capitals. -/
theorem read_written_mixed :
    let document := Value.map [(.text "autoPull", .bool true), (.text "build_args", .map [(.int 1, .bool false)]),
      (.text "images", .list [.map [(.text "name", .text "app"), (.text "build", .map [(.text "from_image", .text "alpine"),
        (.text "args", .map [(.text "level", .int 2), (.bool true, .null)]), (.text "cleanup", .text " NONE ")])]])]
    let build : Build := ⟨some "alpine", none, none, none, none, false, .keep, .ofList [("level", "2"), ("True", "")], .empty⟩
    let file : RunFile := ⟨none, none, some "on", .ofList [("1", "false")], .empty, "target/docker", .none, [⟨"app", none, build⟩]⟩
    RunFile.read [] document = valid file ∧ ∀ naming, RunFile.read [] (file.written naming) = valid file := by
  intro document build file
  have accepted : RunFile.read [] document = valid file := by decide +kernel
  exact ⟨accepted, read_written.2.2 [] document file accepted []⟩

end ImageBuild.Config
