import ImageBuild.Config.RunFile
import ImageBuild.Proofs.Config.Checked

namespace ImageBuild.Config

open Data

theorem exists_of_withDefault {α : Type} {read : Reader α} {default a : α} {at_ : List Step}
    {entries : List (Value × Value)} {names : List String} (valid : withDefault read default at_ entries names = .valid a) :
    a = default ∨ ∃ place value, read place value = .valid a := by
  unfold withDefault at valid
  split at valid
  · exact .inr ⟨_, _, valid⟩
  · exact .inl (Checked.valid.inj valid).symm

theorem exists_of_required {α : Type} {read : Reader α} {a : α} {at_ : List Step} {entries : List (Value × Value)}
    {names : List String} (valid : required read at_ entries names = .valid a) :
    ∃ place value, read place value = .valid a := by
  unfold required at valid
  split at valid
  · exact ⟨_, _, valid⟩
  · cases valid

theorem exists_of_indexed {α : Type} {read : Reader α} {at_ : List Step} {n : Nat} {items : List Value} {all : List α}
    (valid : indexed read at_ n items = all.map .valid) : ∀ a ∈ all, ∃ place value, read place value = .valid a := by
  induction items generalizing n all with
  | nil =>
    cases all with
    | nil => simp
    | cons => cases valid
  | cons item rest ih =>
    cases all with
    | nil => simp
    | cons first later =>
      obtain ⟨here, there⟩ := List.cons.inj valid
      intro a member
      rcases List.mem_cons.1 member with rfl | member
      · exact ⟨_, _, here⟩
      · exact ih there a member

theorem exists_of_list {α : Type} {read : Reader α} {at_ : List Step} {value : Value} {all : List α}
    (valid : list read at_ value = .valid all) : ∀ a ∈ all, ∃ place item, read place item = .valid a := by
  unfold list at valid
  split at valid
  · exact exists_of_indexed (Checked.sequence_eq_valid.1 valid)
  · exact exists_of_indexed (Checked.sequence_eq_valid.1 valid)
  · exact exists_of_indexed (Checked.sequence_eq_valid.1 valid)
  · cases valid

theorem nodup_of_repeated {seen names : List String} (once : RunFile.repeated seen names = []) :
    names.Nodup ∧ ∀ name ∈ names, name ∉ seen := by
  induction names generalizing seen with
  | nil => simp
  | cons name names ih =>
    unfold RunFile.repeated at once
    dsimp only at once
    split at once
    · cases once
    · rename_i fresh
      obtain ⟨distinct, apart⟩ := ih once
      rw [once] at fresh
      have unseen : name ∉ seen := by simpa using fresh
      refine ⟨List.nodup_cons.2 ⟨fun again => apart name again List.mem_cons_self, distinct⟩, ?_⟩
      intro other member
      rcases List.mem_cons.1 member with rfl | later
      · exact unseen
      · exact fun inside => apart other later (List.mem_cons_of_mem _ inside)

theorem nodup_of_duplicates? {file : RunFile} (once : file.duplicates? = none) : (file.images.map Image.name).Nodup := by
  unfold RunFile.duplicates? at once
  split at once
  · rename_i none
    exact (nodup_of_repeated none).1
  · cases once

theorem conflict?_of_read {at_ : List Step} {value : Value} {build : Build} (accepted : Build.read at_ value = .valid build) :
    build.conflict? = none := by
  unfold Build.read record at accepted
  split at accepted
  · exact (Checked.require_eq_valid.1 accepted).2
  · cases accepted

/-- The build of an accepted image is one that is accepted, or the default one. -/
theorem conflict?_of_image {at_ : List Step} {value : Value} {image : Image} (accepted : Image.read at_ value = .valid image) :
    image.build.conflict? = none := by
  unfold Image.read record at accepted
  split at accepted
  · unfold Image.fields at accepted
    simp only [Checked.seq_eq_valid, Checked.map_eq_valid] at accepted
    obtain ⟨_, build, ⟨_, alias_, ⟨name, -, rfl⟩, -, rfl⟩, found, rfl⟩ := accepted
    rcases exists_of_withDefault found with rfl | ⟨_, _, read⟩
    · rfl
    · exact conflict?_of_read read
  · cases accepted

theorem agree_of_read {at_ : List Step} {value : Value} {file : RunFile} (accepted : RunFile.read at_ value = .valid file) :
    (∀ image ∈ file.images, image.build.conflict? = none) ∧ file.duplicates? = none := by
  unfold RunFile.read record at accepted
  split at accepted
  · obtain ⟨fields, once⟩ := Checked.require_eq_valid.1 accepted
    refine ⟨?_, once⟩
    unfold RunFile.fields at fields
    rw [Checked.seq_eq_valid] at fields
    obtain ⟨make, images, others, found, rfl⟩ := fields
    simp only [Checked.seq_eq_valid, Checked.map_eq_valid] at others
    obtain ⟨_, auth, ⟨_, dir, ⟨_, properties, ⟨_, args, ⟨_, policy, ⟨_, pull, ⟨registry, -, rfl⟩, -, rfl⟩, -, rfl⟩, -, rfl⟩,
      -, rfl⟩, -, rfl⟩, -, rfl⟩ := others
    obtain ⟨_, _, read⟩ := exists_of_required found
    intro image member
    obtain ⟨_, _, accepted⟩ := exists_of_list read image member
    exact conflict?_of_image accepted
  · cases accepted

theorem nodup_of_read {at_ : List Step} {value : Value} {file : RunFile} (accepted : RunFile.read at_ value = .valid file) :
    (file.images.map Image.name).Nodup :=
  nodup_of_duplicates? (agree_of_read accepted).2

/-! ### Modes -/

inductive Mode where
  | archive
  | dockerfile
  | assembly
deriving DecidableEq

def Build.Applies (build : Build) : Mode → Prop
  | .archive => build.isArchiveMode = true
  | .dockerfile => build.isDockerfileMode = true
  | .assembly => build.isArchiveMode = false ∧ build.isDockerfileMode = false

section

variable {build : Build}

theorem beside_of_archive (agrees : build.conflict? = none) (ready : build.isArchiveMode = true) : build.beside = [] := by
  unfold Build.conflict? at agrees
  rw [ready] at agrees
  cases found : build.beside with
  | nil => rfl
  | cons name more => simp [found] at agrees

theorem excluded_by_archive (agrees : build.conflict? = none) (ready : build.isArchiveMode = true) :
    build.base? = none ∧ build.dockerfile? = none ∧ build.contextDir? = none ∧ build.assembly = none ∧
      build.args.isEmpty = true := by
  have nothing := beside_of_archive agrees ready
  simpa [Build.beside] using nothing

theorem excluded_by_dockerfile (agrees : build.conflict? = none) (configured : build.isDockerfileMode = true) :
    build.assembly = none := by
  unfold Build.conflict? at agrees
  rw [configured] at agrees
  split at agrees
  · cases agrees
  · simpa using agrees

theorem one_mode (agrees : build.conflict? = none) :
    ∃ mode, build.Applies mode ∧ ∀ other, build.Applies other → other = mode := by
  cases ready : build.isArchiveMode with
  | true =>
    have excluded : build.isDockerfileMode = false := by
      rw [Build.isDockerfileMode, (excluded_by_archive agrees ready).2.1, Option.isSome_none]
    refine ⟨.archive, ready, ?_⟩
    intro other applies
    cases other with
    | archive => rfl
    | dockerfile => cases excluded.symm.trans applies
    | assembly => cases ready.symm.trans applies.1
  | false =>
    cases configured : build.isDockerfileMode with
    | true =>
      refine ⟨.dockerfile, configured, ?_⟩
      intro other applies
      cases other with
      | archive => cases ready.symm.trans applies
      | dockerfile => rfl
      | assembly => cases configured.symm.trans applies.2
    | false =>
      refine ⟨.assembly, ⟨ready, configured⟩, ?_⟩
      intro other applies
      cases other with
      | archive => cases ready.symm.trans applies
      | dockerfile => cases configured.symm.trans applies
      | assembly => rfl

end

end ImageBuild.Config
