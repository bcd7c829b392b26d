import ImageBuild.Proofs.Config.Loading
import Mathlib.Data.List.Nodup

namespace ImageBuild.Config

def Image.GoesBy (image : Image) (name : String) : Prop := image.name = name ∨ image.aliasName = some name

section lookup

variable {file : RunFile} {image : Image} {path name : String}

theorem image_eq (file : RunFile) (path name : String) : file.image path name =
    ((file.images.find? fun image => image.name == name || image.aliasName == some name).elim
      (.error (.noImage name path)) .ok) := by
  unfold RunFile.image
  split <;> rename_i known <;> rw [known] <;> rfl

theorem image_eq_ok_iff : file.image path name = .ok image ↔
    ∃ before after, file.images = before ++ image :: after ∧ image.GoesBy name ∧ ∀ other ∈ before, ¬other.GoesBy name := by
  have found : file.image path name = .ok image ↔
      (file.images.find? fun image => image.name == name || image.aliasName == some name) = some image := by
    rw [image_eq]
    cases file.images.find? fun image => image.name == name || image.aliasName == some name <;> simp
  rw [found, List.find?_eq_some_iff_append]
  simp [Image.GoesBy, ← exists_and_left, and_left_comm]

theorem image_eq_error_iff :
    file.image path name = .error (.noImage name path) ↔ ∀ image ∈ file.images, ¬image.GoesBy name := by
  have found : file.image path name = .error (.noImage name path) ↔
      (file.images.find? fun image => image.name == name || image.aliasName == some name) = none := by
    rw [image_eq]
    cases file.images.find? fun image => image.name == name || image.aliasName == some name <;> simp
  rw [found, List.find?_eq_none]
  simp [Image.GoesBy]

/-- With different names only an alias can stand in the way of an image. -/
theorem own_name_iff (distinct : (file.images.map Image.name).Nodup) {before after : List Image}
    (split : file.images = before ++ image :: after) :
    file.image path image.name = .ok image ↔ ∀ other ∈ before, other.aliasName ≠ some image.name := by
  have others : ∀ other ∈ before, other.name ≠ image.name := by
    rw [split, List.map_append, List.map_cons] at distinct
    intro other member
    exact (List.nodup_append.1 distinct).2.2 _ (List.mem_map_of_mem member) _ List.mem_cons_self
  have once : image ∉ before ∧ image ∉ after := by
    have nodup : file.images.Nodup := distinct.of_map Image.name
    rw [split] at nodup
    exact not_or.1 fun again => (List.nodup_middle.1 nodup).notMem (List.mem_append.2 again)
  rw [image_eq_ok_iff]
  constructor
  · rintro ⟨before', after', split', -, first⟩ other member same
    obtain ⟨rfl, -, rfl⟩ := (List.append_cons_inj_of_notMem once.1 once.2).1 (split.symm.trans split')
    exact first other member (.inr same)
  · intro free
    exact ⟨before, after, split, .inl rfl, fun other member => not_or.2 ⟨others other member, free other member⟩⟩

end lookup

theorem distinct_of_read {tree : Files.Node} {path : Path} {loaded : Loaded} (accepted : Loaded.read tree path = .ok loaded) :
    loaded.path = path ∧ (loaded.file.images.map Image.name).Nodup := by
  unfold Loaded.read at accepted
  have ends := ends_ofContent path (Whole.of_loaded accepted)
  rw [accepted] at ends
  cases ends with
  | loaded _ validated => exact ⟨rfl, validated.distinct⟩

/-- In a run file that is accepted, an image is found under its own name unless that name is the alias of an
image before it. No image is found under a name that none goes by. -/
theorem own_name_found_iff {tree : Files.Node} {path : Path} {loaded : Loaded}
    (accepted : Loaded.read tree path = .ok loaded) :
    (∀ before image after, loaded.file.images = before ++ image :: after →
      (loaded.image image.name = .ok image ↔ ∀ other ∈ before, other.aliasName ≠ some image.name)) ∧
    ∀ name,
      (loaded.image name = .error (.noImage name path.text) ↔ ∀ image ∈ loaded.file.images, ¬image.GoesBy name) ∧
      ∀ image, loaded.image name = .ok image ↔ ∃ before after, loaded.file.images = before ++ image :: after ∧
        image.GoesBy name ∧ ∀ other ∈ before, ¬other.GoesBy name := by
  obtain ⟨rfl, distinct⟩ := distinct_of_read accepted
  exact ⟨fun before image after split => own_name_iff distinct split,
    fun name => ⟨image_eq_error_iff, fun image => image_eq_ok_iff⟩⟩

def pair (aliasName : String) : Loaded where
  path := .ofText "run.yml"
  file := ⟨none, none, none, .empty, .empty, RunFile.defaultOutputDir, .none,
    [⟨"a", some aliasName, .default⟩, ⟨"b", none, .default⟩]⟩

def treeOf (text : String) : Files.Node := .folder [("run.yml", .file (.bytes text.toUTF8))]

theorem own_name_found_iff_pair :
    Loaded.read (treeOf "images:\n- name: a\n  alias: c\n- name: b\n") (.ofText "run.yml") = .ok (pair "c") ∧
    (pair "c").image "b" = .ok ⟨"b", none, .default⟩ ∧ (pair "c").image "d" = .error (.noImage "d" "run.yml") := by
  have accepted : Loaded.read (treeOf "images:\n- name: a\n  alias: c\n- name: b\n") (.ofText "run.yml") = .ok (pair "c") := by
    decide +kernel
  obtain ⟨own, any⟩ := own_name_found_iff accepted
  refine ⟨accepted, (own [⟨"a", some "c", .default⟩] ⟨"b", none, .default⟩ [] rfl).2 ?_, (any "d").1.2 ?_⟩
  · simp
  · simp [pair, Image.GoesBy]

/-- An alias that is the name of a later image hides that image. -/
theorem alias_hides_image :
    Loaded.read (treeOf "images:\n- name: a\n  alias: b\n- name: b\n") (.ofText "run.yml") = .ok (pair "b") ∧
    ⟨"b", none, .default⟩ ∈ (pair "b").file.images ∧ (pair "b").image "b" = .ok ⟨"a", some "b", .default⟩ := by
  decide +kernel

end ImageBuild.Config
