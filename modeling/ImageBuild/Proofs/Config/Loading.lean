import ImageBuild.Config.Loaded
import ImageBuild.Proofs.Config.Accepted

/-!
# Loading run files

Loading a file ends with accepted settings, with a complaint about the configuration, or with a
problem that is none: the file cannot be read as text, or its document has something else where a table of
settings is written as text. The checks of the fields say which documents those are.
-/

namespace ImageBuild.Config

open Data Checked

variable {α : Type}

/-! ### Readers that never stop -/

def Reporting (read : Reader α) : Prop := ∀ at_ value, (read at_ value).stop? = none

theorem reporting_text : Reporting text := by
  intro at_ value
  unfold text
  split
  · rfl
  · split <;> rfl
  · rfl

theorem reporting_flag : Reporting flag := by
  intro at_ value
  unfold flag
  dsimp only
  repeat' split
  all_goals rfl

theorem stop?_withDefault (read : Reader α) (default : α) (at_ : List Step) (entries : List (Value × Value))
    (names : List String) :
    (withDefault read default at_ entries names).stop? =
      (find? entries names).bind fun (name, value) => (read (at_ ++ [.key name]) value).stop? := by
  unfold withDefault
  cases find? entries names <;> rfl

theorem stop?_required (read : Reader α) (at_ : List Step) (entries : List (Value × Value)) (names : List String) :
    (required read at_ entries names).stop? =
      (find? entries names).bind fun (name, value) => (read (at_ ++ [.key name]) value).stop? := by
  unfold required
  cases find? entries names <;> rfl

namespace Reporting

variable {read : Reader α} (reports : Reporting read)
include reports

theorem stop?_withDefault (default : α) (at_ : List Step) (entries : List (Value × Value)) (names : List String) :
    (withDefault read default at_ entries names).stop? = none := by
  rw [Config.stop?_withDefault]
  cases find? entries names with
  | none => rfl
  | some found => exact reports _ _

theorem stop?_required (at_ : List Step) (entries : List (Value × Value)) (names : List String) :
    (required read at_ entries names).stop? = none := by
  rw [Config.stop?_required]
  cases find? entries names with
  | none => rfl
  | some found => exact reports _ _

theorem optional : Reporting (optional read) := by
  intro at_ value
  unfold Config.optional
  split
  · rfl
  · rw [stop?_map, reports]

theorem table : Reporting (table read) := by
  intro at_ value
  unfold Config.table
  split
  · rw [stop?_map, stop?_sequence, List.findSome?_eq_none_iff]
    intro found member
    obtain ⟨pair, -, rfl⟩ := List.mem_map.1 member
    unfold entry
    rw [stop?_seq, stop?_map, reporting_text, reports]
    rfl
  · rfl

end Reporting

theorem reporting_record {model : String} {fields : List Step → List (Value × Value) → Checked α}
    (reports : ∀ at_ entries, (fields at_ entries).stop? = none) : Reporting (record model fields) := by
  intro at_ value
  unfold record
  split
  · exact reports _ _
  · rfl

theorem reporting_credentials : Reporting Credentials.read := by
  refine reporting_record fun at_ entries => ?_
  unfold Credentials.fields
  simp only [stop?_seq, stop?_map, reporting_text.stop?_required, reporting_text.optional.stop?_withDefault, Option.none_or]

theorem reporting_auth : Reporting Auth.read := by
  refine reporting_record fun at_ entries => ?_
  unfold Auth.fields
  simp only [stop?_seq, stop?_map, reporting_credentials.optional.stop?_withDefault,
    reporting_credentials.table.stop?_withDefault, Option.none_or]

theorem reporting_assembly : Reporting Assembly.read := by
  refine reporting_record fun at_ entries => ?_
  unfold Assembly.fields
  simp only [stop?_seq, stop?_map, reporting_text.stop?_withDefault, reporting_text.optional.stop?_withDefault,
    Option.none_or]

theorem reporting_readPolicy : Reporting RunFile.readPolicy := by
  intro at_ value
  unfold RunFile.readPolicy
  split
  · rfl
  · exact reporting_text.optional _ _

/-! ### Misshapen settings -/

/-- Settings are a table; a blank value counts as an empty one. -/
def IsTabular : Value → Prop
  | .map _ => True
  | value => value.isBlank = true

def Misshapen (entries : List (Value × Value)) (names : List String) : Prop :=
  ∃ name value, find? entries names = some (name, value) ∧ ¬IsTabular value

theorem stop?_settings (at_ : List Step) (value : Value) (stop : Stop) :
    (settings at_ value).stop? = some stop ↔ stop = .notATable ∧ ¬IsTabular value := by
  unfold settings
  split
  · rename_i entries
    have tabular : IsTabular (.map entries) := trivial
    split <;> simp [stop?, issue, tabular]
  · rename_i other
    have tabular : IsTabular value ↔ value.isBlank = true := by
      cases value with
      | map entries => exact absurd rfl (other entries)
      | _ => rfl
    rw [tabular]
    split
    · rename_i blank
      simp [stop?, blank]
    · rename_i blank
      simp [stop?, blank, eq_comm]

theorem stop?_settings_field (at_ : List Step) (entries : List (Value × Value)) (names : List String) (stop : Stop) :
    (withDefault settings .empty at_ entries names).stop? = some stop ↔ stop = .notATable ∧ Misshapen entries names := by
  rw [stop?_withDefault, Option.bind_eq_some_iff]
  constructor
  · rintro ⟨⟨name, value⟩, found, stops⟩
    obtain ⟨rfl, shape⟩ := (stop?_settings _ _ _).1 stops
    exact ⟨rfl, name, value, found, shape⟩
  · rintro ⟨rfl, name, value, found, shape⟩
    exact ⟨(name, value), found, (stop?_settings _ _ _).2 ⟨rfl, shape⟩⟩

theorem settings_field_or (at_ : List Step) (entries : List (Value × Value)) (names : List String) (rest : Option Stop) :
    (withDefault settings .empty at_ entries names).stop?.or rest = some .notATable ↔
      Misshapen entries names ∨ rest = some .notATable := by
  have stops := stop?_settings_field at_ entries names
  cases found : (withDefault settings .empty at_ entries names).stop? with
  | none =>
    have shaped : ¬Misshapen entries names := by simpa [found] using stops .notATable
    simp [shaped]
  | some stop =>
    obtain ⟨rfl, shape⟩ := (stops stop).1 found
    simp [shape]

def RefusesCleanup (entries : List (Value × Value)) : Prop :=
  ∃ name value reason, find? entries ["cleanup"] = some (name, value) ∧ value.isWritable = true ∧
    Cleanup.parse value = .error reason

theorem stop?_cleanup_field (at_ : List Step) (entries : List (Value × Value)) :
    (withDefault Build.readCleanup .attempt at_ entries ["cleanup"]).stop? = none ∧ ¬RefusesCleanup entries ∨
      (∃ reason, (withDefault Build.readCleanup .attempt at_ entries ["cleanup"]).stop? = some (.refused reason)) ∧
        RefusesCleanup entries := by
  rw [stop?_withDefault]
  cases found : find? entries ["cleanup"] with
  | none =>
    refine .inl ⟨rfl, ?_⟩
    rintro ⟨_, _, _, present, -⟩
    cases found.symm.trans present
  | some entry =>
    obtain ⟨name, value⟩ := entry
    rw [Option.bind_some]
    dsimp only
    unfold Build.readCleanup
    cases writable : value.isWritable with
    | false =>
      refine .inl ⟨rfl, ?_⟩
      rintro ⟨_, _, _, present, shown, -⟩
      cases found.symm.trans present
      cases writable.symm.trans shown
    | true =>
      cases parsed : Cleanup.parse value with
      | ok mode =>
        refine .inl ⟨rfl, ?_⟩
        rintro ⟨_, _, _, present, -, refused⟩
        cases found.symm.trans present
        cases parsed.symm.trans refused
      | error reason => exact .inr ⟨⟨reason, rfl⟩, name, value, reason, found, writable, parsed⟩

/-- A build has a misshapen table of settings, and its reader comes to it. -/
def Build.Derails (entries : List (Value × Value)) : Prop :=
  ¬RefusesCleanup entries ∧ (Misshapen entries ["args"] ∨ Misshapen entries ["buildOptions", "build_options"])

theorem stop?_build (at_ : List Step) (entries : List (Value × Value)) :
    (Build.fields at_ entries).stop? = some .notATable ↔ Build.Derails entries := by
  unfold Build.fields
  simp only [stop?_seq, stop?_map, reporting_text.optional.stop?_withDefault, reporting_assembly.optional.stop?_withDefault,
    reporting_flag.stop?_withDefault, Option.none_or, Option.or_assoc]
  unfold Build.Derails
  rcases stop?_cleanup_field at_ entries with ⟨goes, accepted⟩ | ⟨⟨reason, refused⟩, refuses⟩
  · rw [goes, Option.none_or, settings_field_or, stop?_settings_field]
    simp [accepted]
  · rw [refused]
    simp [refuses]

def Image.Derails (item : Value) : Prop :=
  ∃ entries name build, item = .map entries ∧ find? entries ["build"] = some (name, .map build) ∧ Build.Derails build

theorem stop?_image (at_ : List Step) (item : Value) :
    (Image.read at_ item).stop? = some .notATable ↔ Image.Derails item := by
  have build (at_ : List Step) (value : Value) : (Build.read at_ value).stop? = some .notATable ↔
      ∃ entries, value = .map entries ∧ Build.Derails entries := by
    unfold Build.read record
    split
    · rw [stop?_require_notATable, stop?_build]
      simp
    · rename_i other
      constructor
      · nofun
      · rintro ⟨entries, rfl, -⟩
        exact absurd rfl (other entries)
  unfold Image.read record
  split
  · rename_i entries
    unfold Image.fields
    simp only [stop?_seq, stop?_map, reporting_text.stop?_required, reporting_text.optional.stop?_withDefault, Option.none_or]
    rw [stop?_withDefault, Option.bind_eq_some_iff]
    constructor
    · rintro ⟨⟨name, value⟩, found, stops⟩
      obtain ⟨settings, rfl, derails⟩ := (build _ _).1 stops
      exact ⟨entries, name, settings, rfl, found, derails⟩
    · rintro ⟨_, name, settings, ⟨⟩, found, derails⟩
      exact ⟨(name, .map settings), found, (build _ _).2 ⟨settings, rfl, derails⟩⟩
  · rename_i other
    constructor
    · nofun
    · rintro ⟨entries, _, _, rfl, -⟩
      exact absurd rfl (other entries)

/-! ### Lists of images -/

def items? : Value → Option (List Value)
  | .list items | .set items => some items
  | .pair a b => some [a, b]
  | _ => none

/-- What is read of an item counts when nothing before it stops the reading. -/
theorem stop?_indexed (read : Reader α) (at_ : List Step) (k : Nat) (items : List Value) (stop : Stop) :
    (indexed read at_ k items).findSome? stop? = some stop ↔
      ∃ (n : Nat) (item : Value), items[n]? = some item ∧ (read (at_ ++ [.index (k + n : Nat)]) item).stop? = some stop ∧
        ∀ m < n, ∀ earlier, items[m]? = some earlier → (read (at_ ++ [.index (k + m : Nat)]) earlier).stop? = none := by
  induction items generalizing k with
  | nil => simp [indexed]
  | cons first rest ih =>
    rw [indexed, List.findSome?_cons]
    cases stops : (read (at_ ++ [.index k]) first).stop? with
    | some other =>
      constructor
      · rintro ⟨⟩
        exact ⟨0, first, rfl, stops, by simp⟩
      · rintro ⟨n, item, present, found, quiet⟩
        cases n with
        | zero =>
          cases present
          exact stops.symm.trans found
        | succ n => cases stops.symm.trans (quiet 0 (Nat.zero_lt_succ n) first rfl)
    | none =>
      rw [ih]
      constructor
      · rintro ⟨n, item, present, found, quiet⟩
        rw [Nat.add_right_comm, Nat.add_assoc] at found
        refine ⟨n + 1, item, present, found, fun m before earlier there => ?_⟩
        cases m with
        | zero =>
          cases there
          exact stops
        | succ m =>
          have here := quiet m (Nat.lt_of_succ_lt_succ before) earlier there
          rwa [Nat.add_right_comm, Nat.add_assoc] at here
      · rintro ⟨n, item, present, found, quiet⟩
        cases n with
        | zero =>
          cases present
          cases stops.symm.trans found
        | succ n =>
          refine ⟨n, item, present, ?_, fun m before earlier there => ?_⟩
          · rwa [Nat.add_right_comm, Nat.add_assoc]
          · rw [Nat.add_right_comm, Nat.add_assoc]
            exact quiet (m + 1) (Nat.succ_lt_succ before) earlier there

theorem stop?_list (read : Reader α) (at_ : List Step) (value : Value) (stop : Stop) :
    (list read at_ value).stop? = some stop ↔ ∃ items, items? value = some items ∧
      ∃ (n : Nat) (item : Value), items[n]? = some item ∧ (read (at_ ++ [.index n]) item).stop? = some stop ∧
        ∀ m < n, ∀ earlier, items[m]? = some earlier → (read (at_ ++ [.index (m : Nat)]) earlier).stop? = none := by
  have each (items : List Value) := stop?_indexed read at_ 0 items stop
  simp only [Nat.zero_add] at each
  cases value with
  | list items | set items => simp [list, items?, stop?_sequence, each]
  | pair a b =>
    unfold list
    rw [stop?_sequence, each]
    simp [items?]
  | _ => simp [list, items?, issue, stop?]

/-! ### Documents -/

/-- A table of settings in a document is misshapen, and its reader comes to it. -/
def Derails (entries : List (Value × Value)) : Prop :=
  Misshapen entries ["buildArgs", "build_args"] ∨ Misshapen entries ["properties"] ∨
    ∃ images items, find? entries ["images"] = some ("images", images) ∧ items? images = some items ∧
      ∃ (n : Nat) (item : Value), items[n]? = some item ∧ Image.Derails item ∧
        ∀ m < n, ∀ earlier, items[m]? = some earlier →
          (Image.read [.key "images", .index (m : Nat)] earlier).stop? = none

theorem stop?_runFile (entries : List (Value × Value)) :
    (RunFile.read [] (.map entries)).stop? = some .notATable ↔ Derails entries := by
  change ((RunFile.fields [] entries).require _).stop? = _ ↔ _
  rw [stop?_require_notATable]
  unfold RunFile.fields
  simp only [stop?_seq, stop?_map, reporting_text.optional.stop?_withDefault, reporting_readPolicy.stop?_withDefault,
    reporting_text.stop?_withDefault, reporting_auth.stop?_withDefault, Option.none_or, Option.or_assoc]
  rw [settings_field_or, settings_field_or, stop?_required, Option.bind_eq_some_iff]
  unfold Derails
  refine or_congr_right (or_congr_right ?_)
  constructor
  · rintro ⟨⟨name, images⟩, found, stops⟩
    obtain ⟨items, listed, n, item, present, derails, quiet⟩ := (stop?_list _ _ _ _).1 stops
    have named : name = "images" := by
      unfold find? at found
      split at found
      · exact (congrArg Prod.fst (Option.some.inj found)).symm
      · cases found
    subst named
    exact ⟨images, items, found, listed, n, item, present, (stop?_image _ _).1 derails, quiet⟩
  · rintro ⟨images, items, found, listed, n, item, present, derails, quiet⟩
    exact ⟨_, found, (stop?_list _ _ _ _).2 ⟨items, listed, n, item, present, (stop?_image _ _).2 derails, quiet⟩⟩

/-! ### Endings -/

inductive Complaint where
  | missing
  | parsing
  | validation
deriving DecidableEq

/-- The complaint that a problem is; the other problems are not about the configuration. -/
def Problem.complaint? : Problem → Option Complaint
  | missing _ => some .missing
  | document .malformed | notDictionary => some .parsing
  | invalid _ | stopped (.refused _) => some .validation
  | file _ | notUnicode _ | document _ | stopped .notATable => none

/-- The document escapes no half of a surrogate pair. -/
def Whole (content : Except Files.Error ByteArray) : Prop :=
  ∀ bytes, content = .ok bytes → document bytes ≠ .error (.document .half)

/-- What cannot be complained about. -/
inductive Unforeseen : Except Files.Error ByteArray → Prop where
  | unreadable {error : Files.Error} (present : ∀ place, error ≠ .system .notFound place) : Unforeseen (.error error)
  | notUnicode {bytes : ByteArray} {fault : Text.Utf8.Fault} (decoded : Text.Utf8.decode bytes = .error fault) :
    Unforeseen (.ok bytes)
  | document {bytes : ByteArray} {text : List Char} {fault : Yaml.Fault} (decoded : Text.Utf8.decode bytes = .ok text)
    (read : Yaml.read (Text.plainNewlines text) = .error fault) (formed : fault ≠ .malformed) (whole : fault ≠ .half) :
    Unforeseen (.ok bytes)
  | misshapen {bytes : ByteArray} {text : List Char} {entries : List (Value × Value)}
    (decoded : Text.Utf8.decode bytes = .ok text) (read : Yaml.read (Text.plainNewlines text) = .ok (.map entries))
    (derails : Derails entries) : Unforeseen (.ok bytes)

theorem unforeseen_error (error : Files.Error) :
    Unforeseen (.error error) ↔ ∀ place, error ≠ .system .notFound place :=
  ⟨fun | .unreadable present => present, .unreadable⟩

section

variable {bytes : ByteArray} {text : List Char} (decoded : Text.Utf8.decode bytes = .ok text)
include decoded

theorem unforeseen_fault {fault : Yaml.Fault} (read : Yaml.read (Text.plainNewlines text) = .error fault)
    (whole : fault ≠ .half) : Unforeseen (.ok bytes) ↔ fault ≠ .malformed := by
  constructor
  · intro unforeseen
    cases unforeseen with
    | notUnicode undecoded => cases decoded.symm.trans undecoded
    | document again found formed =>
      cases decoded.symm.trans again
      cases read.symm.trans found
      exact formed
    | misshapen again found =>
      cases decoded.symm.trans again
      cases read.symm.trans found
  · exact fun formed => .document decoded read formed whole

theorem unforeseen_value {value : Value} (read : Yaml.read (Text.plainNewlines text) = .ok value) :
    Unforeseen (.ok bytes) ↔ ∃ entries, value = .map entries ∧ Derails entries := by
  constructor
  · intro unforeseen
    cases unforeseen with
    | notUnicode undecoded => cases decoded.symm.trans undecoded
    | document again found =>
      cases decoded.symm.trans again
      cases read.symm.trans found
    | misshapen again found derails =>
      cases decoded.symm.trans again
      cases read.symm.trans found
      exact ⟨_, rfl, derails⟩
  · rintro ⟨entries, rfl, derails⟩
    exact .misshapen decoded read derails

end

/-- The settings are what a content's document says, and nothing in them excludes anything else. -/
structure Validated (content : Except Files.Error ByteArray) (file : RunFile) : Prop where
  read : ∃ bytes entries, content = .ok bytes ∧ document bytes = .ok (.map entries) ∧
    RunFile.read [] (.map entries) = .valid file
  distinct : (file.images.map Image.name).Nodup
  agree : ∀ image ∈ file.images, image.build.conflict? = none

/-- How a loading ends, and of what. -/
inductive Ends (path : Path) (content : Except Files.Error ByteArray) : Except Problem Loaded → Prop where
  | loaded {file : RunFile} (foreseen : ¬Unforeseen content) (validated : Validated content file) :
    Ends path content (.ok ⟨path, file⟩)
  | complaint {problem : Problem} (foreseen : ¬Unforeseen content) (told : problem.complaint?.isSome = true) :
    Ends path content (.error problem)
  | other {problem : Problem} (unforeseen : Unforeseen content) (untold : problem.complaint? = none) :
    Ends path content (.error problem)

theorem result_ofContent (path : Path) (content : Except Files.Error ByteArray) :
    (Loaded.ofContent path content).2 =
      (table? path content).bind fun value => (checked (RunFile.read [] value)).map fun file => ⟨path, file⟩ := by
  unfold Loaded.ofContent
  cases table? path content with
  | error => rfl
  | ok value =>
    dsimp only [Except.bind]
    cases checked (RunFile.read [] value) <;> rfl

theorem ends_problem (path : Path) {content : Except Files.Error ByteArray} {problem : Problem}
    (kind : Unforeseen content ↔ problem.complaint? = none) : Ends path content (.error problem) := by
  cases told : problem.complaint? with
  | none => exact .other (kind.2 told) told
  | some complaint =>
    have foreseen : ¬Unforeseen content := by simp [kind, told]
    exact .complaint foreseen (by simp [told])

theorem ends_document (path : Path) {bytes : ByteArray} {text : List Char} {entries : List (Value × Value)}
    (decoded : Text.Utf8.decode bytes = .ok text) (read : Yaml.read (Text.plainNewlines text) = .ok (.map entries)) :
    Ends path (.ok bytes) ((checked (RunFile.read [] (.map entries))).map fun file => ⟨path, file⟩) := by
  have unforeseen : Unforeseen (.ok bytes) ↔ (RunFile.read [] (.map entries)).stop? = some .notATable := by
    rw [unforeseen_value decoded read, stop?_runFile]
    simp
  cases found : RunFile.read [] (.map entries) with
  | valid file =>
    have said : document bytes = .ok (.map entries) := by simp [document, decoded, read]
    have foreseen : ¬Unforeseen (.ok bytes) := by simp [unforeseen, found, stop?]
    obtain ⟨agree, once⟩ := agree_of_read found
    exact .loaded foreseen ⟨⟨bytes, entries, rfl, said, found⟩, nodup_of_duplicates? once, agree⟩
  | invalid issues =>
    refine ends_problem path ?_
    simp [unforeseen, found, stop?, Problem.complaint?]
  | stopped stop =>
    refine ends_problem path ?_
    rw [unforeseen, found]
    cases stop <;> simp [stop?, Problem.complaint?]

section stopped

variable {path : Path} {content : Except Files.Error ByteArray} {bytes : ByteArray} {text : List Char}

theorem ends_stopped {problem : Problem} (stops : table? path content = .error problem)
    (kind : Unforeseen content ↔ problem.complaint? = none) : Ends path content (Loaded.ofContent path content).2 := by
  rw [result_ofContent, stops]
  exact ends_problem path kind

theorem ends_unread (error : Files.Error) : Ends path (.error error) (Loaded.ofContent path (.error error)).2 := by
  by_cases absent : ∃ place, error = .system .notFound place
  · obtain ⟨place, rfl⟩ := absent
    exact ends_stopped rfl (by simp [unforeseen_error, Problem.complaint?])
  · have present : ∀ place, error ≠ .system .notFound place := fun place same => absent ⟨place, same⟩
    have stops : table? path (.error error) = .error (.file error) := by
      unfold table?
      split
      · rename_i place same
        exact absurd (Except.error.inj same) (present place)
      · rename_i same
        rw [Except.error.inj same]
      · rename_i same
        cases same
    exact ends_stopped stops (iff_of_true (.unreadable present) rfl)

theorem ends_undecoded {fault : Text.Utf8.Fault} (decoded : Text.Utf8.decode bytes = .error fault) :
    Ends path (.ok bytes) (Loaded.ofContent path (.ok bytes)).2 := by
  have stops : table? path (.ok bytes) = .error (.notUnicode fault) := by simp [table?, document, decoded]
  exact ends_stopped stops (iff_of_true (.notUnicode decoded) rfl)

variable (decoded : Text.Utf8.decode bytes = .ok text)
include decoded

theorem ends_unparsed {fault : Yaml.Fault} (read : Yaml.read (Text.plainNewlines text) = .error fault)
    (whole : Whole (.ok bytes)) : Ends path (.ok bytes) (Loaded.ofContent path (.ok bytes)).2 := by
  have told : document bytes = .error (.document fault) := by simp [document, decoded, read]
  have stops : table? path (.ok bytes) = .error (.document fault) := by simp [table?, told]
  refine ends_stopped stops ?_
  rw [unforeseen_fault decoded read fun half => whole bytes rfl (half ▸ told)]
  cases fault <;> simp [Problem.complaint?]

theorem ends_value {value : Value} (read : Yaml.read (Text.plainNewlines text) = .ok value) :
    Ends path (.ok bytes) (Loaded.ofContent path (.ok bytes)).2 := by
  by_cases mapped : ∃ entries, value = .map entries
  · obtain ⟨entries, rfl⟩ := mapped
    have goes : table? path (.ok bytes) = .ok (.map entries) := by simp [table?, document, decoded, read]
    rw [result_ofContent, goes]
    exact ends_document path decoded read
  · have stops : table? path (.ok bytes) = .error .notDictionary := by
      cases value with
      | map entries => exact absurd ⟨entries, rfl⟩ mapped
      | _ => simp [table?, document, decoded, read]
    have foreseen : ¬Unforeseen (.ok bytes) := by
      rw [unforeseen_value decoded read]
      exact fun ⟨entries, same, _⟩ => mapped ⟨entries, same⟩
    exact ends_stopped stops (iff_of_false foreseen nofun)

end stopped

theorem ends_ofContent (path : Path) {content : Except Files.Error ByteArray} (whole : Whole content) :
    Ends path content (Loaded.ofContent path content).2 := by
  cases content with
  | error error => exact ends_unread error
  | ok bytes =>
    cases decoded : Text.Utf8.decode bytes with
    | error fault => exact ends_undecoded decoded
    | ok text =>
      cases read : Yaml.read (Text.plainNewlines text) with
      | error fault => exact ends_unparsed decoded read whole
      | ok value => exact ends_value decoded read

/-- What is loaded has escaped no half. -/
theorem Whole.of_loaded {path : Path} {content : Except Files.Error ByteArray} {loaded : Loaded}
    (accepted : (Loaded.ofContent path content).2 = .ok loaded) : Whole content := by
  rintro bytes rfl half
  have stops : table? path (.ok bytes) = .error (.document .half) := by simp [table?, half]
  rw [Loaded.ofContent, stops] at accepted
  cases accepted

end ImageBuild.Config
