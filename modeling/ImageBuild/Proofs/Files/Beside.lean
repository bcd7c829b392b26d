import ImageBuild.Proofs.Files.Change

namespace ImageBuild

/-! ### Steps that may fail -/

section steps

variable {σ ε α β : Type} {related : σ → σ → Prop}

def Moves (related : σ → σ → Prop) (step : ExceptT ε (StateM σ) α) : Prop := ∀ s, related s (step.run.run s).2

theorem moves_bind (trans : ∀ {s t u}, related s t → related t u → related s u) {step : ExceptT ε (StateM σ) α}
    {next : α → ExceptT ε (StateM σ) β} (first : Moves related step) (later : ∀ a, Moves related (next a)) :
    Moves related (step >>= next) := by
  intro s
  have here := first s
  rw [bind_run]
  cases ended : step.run.run s with
  | mk result t =>
    rw [ended] at here
    cases result with
    | ok a => exact trans here (later a t)
    | error error => exact here

end steps

namespace Files

variable {tree tree' : Node} {directory : List String}

/-- Only entries of a directory may be other files than before. -/
def Beside (directory : List String) (tree tree' : Node) : Prop :=
  ∀ place content, (∀ name, place ≠ directory ++ [name]) →
    (tree'.item? place = some (.file content) ↔ tree.item? place = some (.file content))

namespace Beside

theorem refl (directory : List String) (tree : Node) : Beside directory tree tree := fun _ _ _ => Iff.rfl

theorem trans {last : Node} (first : Beside directory tree tree') (second : Beside directory tree' last) :
    Beside directory tree last :=
  fun place content elsewhere => (second place content elsewhere).trans (first place content elsewhere)

end Beside

/-! ### Making directories -/

theorem moves_makeDirectory (directory : List String) (path : Path) : Moves (Beside directory) (makeDirectory path) := by
  intro tree
  rw [makeDirectory_run]
  split
  · exact .refl directory tree
  · exact .refl directory tree
  · rename_i place found
    obtain ⟨name, -, -, opening, rfl, vacant⟩ := slot_vacant found
    intro place content _
    by_cases here : place = path.parent.place ++ [name]
    · -- the new directory is no file, and there was none
      rw [here, Node.item?_put_self opening.directory, vacant]
      exact iff_of_false (by simp [Node.empty, Node.item]) (by simp)
    · rw [Node.item?_put_other opening.directory (by simp [vacant]) (fun _ => Node.item?_empty_below) here]

theorem moves_attempt {α : Type} {change : Change α} (moves : Moves (Beside directory) change) :
    Moves (Beside directory) (attempt change) := by
  intro tree
  have here := moves tree
  unfold attempt
  rw [ExceptT.run_lift, StateT.run_map]
  exact here

theorem moves_settle (directory : List String) (path : Path) (error : Error) :
    Moves (Beside directory) (settle path error) := by
  intro tree
  unfold settle
  split
  · exact .refl directory tree
  · rw [get_run]
    split <;> exact .refl directory tree

theorem moves_makeDirectories (directory : List String) (path : Path) (above : Nat) :
    Moves (Beside directory) (makeDirectories path above) := by
  induction above generalizing path with
  | zero =>
    unfold makeDirectories
    refine moves_bind .trans (moves_attempt (moves_makeDirectory directory path)) fun result => ?_
    split
    · exact .refl directory
    · exact .refl directory
    · exact moves_settle directory path _
  | succ above ih =>
    unfold makeDirectories
    refine moves_bind .trans (moves_attempt (moves_makeDirectory directory path)) fun result => ?_
    split
    · exact .refl directory
    · refine moves_bind .trans (ih path.parent) fun _ => ?_
      refine moves_bind .trans (moves_attempt (moves_makeDirectory directory path)) fun again => ?_
      split
      · exact .refl directory
      · exact moves_settle directory path _
    · exact moves_settle directory path _

/-! ### Writing -/

theorem moves_writeContent {path : Path} {name : String} (down : name ≠ "..") (content : Content) :
    Moves (Beside path.place) (writeContent (path.child name) content) := by
  intro tree
  unfold writeContent
  rw [get_run]
  split
  · exact .refl _ tree
  · exact .refl _ tree
  · rename_i place what file found
    obtain ⟨opening, rfl, rfl⟩ := slot_child down found
    have vacant : tree.item? (path.place ++ [name]) ≠ some .directory := by
      intro directory
      obtain ⟨entries, folder⟩ := Node.item?_directory.1 directory
      exact file entries folder
    intro place other elsewhere
    show (tree.put (path.place ++ [name]) (.file content)).item? place = _ ↔ _
    rw [Node.item?_put_other opening.directory vacant (fun _ => Node.item?_file_below content) (elsewhere name)]

end Files

end ImageBuild
