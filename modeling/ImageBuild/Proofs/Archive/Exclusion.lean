import ImageBuild.Proofs.Archive.Making

/-!
# What is left out of an archive

Names are compared, but what they leave out can be told by places: the directory of the image, where
that lies below the packed directory as the paths are written.
-/

namespace ImageBuild.Archive

open Config Files

variable {job : Job}

/-- The image's directory lies below the packed one as their paths are written. -/
def Job.Inside (job : Job) (root : Path) : Prop :=
  ∃ relative, job.directory.relativeTo? root = some relative ∧ relative.parts ≠ [] ∧ ".." ∉ relative.parts

theorem place_of_relativeTo {root relative : Path} (told : job.directory.relativeTo? root = some relative)
    (down : ".." ∉ relative.parts) : job.place = root.place ++ relative.parts := by
  rw [Job.place, Path.place, Path.place, (Path.parts_of_relativeTo told).2.1, Path.normalParts_down down]

theorem Job.Inside.place {root : Path} (inside : job.Inside root) :
    ∃ below, below ≠ [] ∧ job.place = root.place ++ below := by
  obtain ⟨relative, told, further, down⟩ := inside
  exact ⟨relative.parts, further, place_of_relativeTo told down⟩

theorem inside_name {place : List String} (names : ∀ name ∈ place, IsName name) (exclusion : Exclusion)
    (relative : exclusion.folder.toList.head? ≠ some '/') :
    exclusion.inside (memberName (Job.nameStart exclusion.folder ++ slashed place)) = (slashed place).toList := by
  unfold Exclusion.inside Job.nameStart
  by_cases top : exclusion.folder.isEmpty
  · rw [if_pos top, if_pos top, String.empty_append, memberName_eq (head_slashed names)]
  · have nonempty : exclusion.folder.toList ≠ [] := by simpa using top
    rw [if_neg top, if_neg top]
    have whole : memberName (exclusion.folder ++ "/" ++ slashed place) = exclusion.folder ++ "/" ++ slashed place := by
      refine memberName_eq ?_
      rw [String.append_assoc, String.toList_append, List.head?_append_of_ne_nil _ nonempty]
      exact relative
    rw [whole, String.toList_append, List.drop_left' (by simp [String.length_toList])]

theorem text_relative {path : Path} (noRoot : path.root = .none) :
    path.text = slashed (if path.parts = [] then ["."] else path.parts) := by
  obtain ⟨root, parts⟩ := path
  subst noRoot
  cases parts with
  | nil => rfl
  | cons part rest => simp [Path.text, Path.Root.text, slashed]

/-- Kept is what does not lie below the image's directory. -/
theorem keeps_iff (plain : job.context.baseDir.Plain) {root : Path} {folder : String}
    (relative : folder.toList.head? ≠ some '/') {place : List String} (further : place ≠ [])
    (names : ∀ name ∈ place, IsName name) :
    (job.exclusion root folder).keeps (memberName (Job.nameStart folder ++ slashed place)) = true ↔
      ¬∃ below, job.directory.relativeTo? root = some below ∧ below.parts ≠ [] ∧ below.parts <+: place := by
  have free : ∀ name ∈ place, '/' ∉ name.toList := fun name member => (names name member).noSlash
  -- texts are compared; they tell the places since no name holds a slash
  have spelled := inside_name names (job.exclusion root folder) (by simpa using relative)
  rw [Job.exclusion_folder] at spelled
  have covers : ∀ below, job.directory.relativeTo? root = some below →
      (((slashed place).toList = below.text.toList ∨ below.text.toList ++ ['/'] <+: (slashed place).toList) ↔
        below.parts ≠ [] ∧ below.parts <+: place) := by
    intro below lies
    obtain ⟨-, parts, noRoot⟩ := Path.parts_of_relativeTo lies
    rw [text_relative noRoot]
    by_cases here : below.parts = []
    · rw [if_pos here, ← prefix_iff_slashed (List.cons_ne_nil _ _) further (by decide) free]
      constructor
      · rintro ⟨rest, rfl⟩
        exact absurd rfl (names "." (by simp)).notHere
      · rintro ⟨nonempty, -⟩
        exact absurd here nonempty
    · rw [if_neg here, ← prefix_iff_slashed here further ?_ free]
      · exact ⟨fun covered => ⟨here, covered⟩, fun covered => covered.2⟩
      · intro part member
        have inside : part ∈ job.directory.parts := by
          rw [parts]
          exact List.mem_append_right _ member
        exact (Job.plain_directory plain part inside).noSlash
  rw [← Bool.not_eq_false, Exclusion.keeps_eq_false, not_iff_not, Job.exclusion_own, spelled]
  constructor
  · rintro ⟨own, known, covered⟩
    obtain ⟨below, lies, same⟩ := Option.map_eq_some_iff.1 known
    rw [← same] at covered
    exact ⟨below, lies, (covers below lies).1 covered⟩
  · rintro ⟨below, lies, covered⟩
    exact ⟨below.text, by rw [lies, Option.map_some], (covers below lies).2 covered⟩

/-! ### The packed files -/

theorem mem_underAll_at {tree : Node} (proper : tree.Proper) {place : List String}
    (directory : tree.item? place = some .directory) (found : List String × Item) :
    found ∈ Node.underAll ((tree.get? place).elim [] Node.entries) ↔
      found.1 ≠ [] ∧ tree.item? (place ++ found.1) = some found.2 := by
  obtain ⟨entries, there⟩ := Node.item?_directory.1 directory
  have listed := Node.mem_underAll entries (proper.child there) found
  rw [Node.item?_append, there]
  exact listed

theorem ascending_underAll_at {tree : Node} (proper : tree.Proper) (place : List String) :
    (Node.underAll ((tree.get? place).elim [] Node.entries)).Pairwise fun a b => a.1 < b.1 := by
  cases there : tree.get? place with
  | none => exact List.Pairwise.nil
  | some node =>
    cases node with
    | file content => exact List.Pairwise.nil
    | folder entries => exact Node.ascending_underAll entries (proper.child there)

theorem names_of_item {tree : Node} (proper : tree.Proper) {place below : List String} {item : Item}
    (found : tree.item? (place ++ below) = some item) : ∀ name ∈ below, IsName name := by
  intro name member
  have there : (tree.get? (place ++ below)).isSome := by
    rw [← item?_isSome, found]
    rfl
  exact Node.isName_of_get? proper there name (List.mem_append_right _ member)

theorem eq_of_ascending {first second : List (List String × Item)} (ascending : first.Pairwise fun a b => a.1 < b.1)
    (ascending' : second.Pairwise fun a b => a.1 < b.1) (same : ∀ found, found ∈ first ↔ found ∈ second) : first = second := by
  have distinct : ∀ l : List (List String × Item), l.Pairwise (fun a b => a.1 < b.1) → l.Nodup := by
    intro l sorted
    refine sorted.imp ?_
    rintro a _ less rfl
    exact lt_irrefl _ less
  have permuted := (List.perm_ext_iff_of_nodup (distinct first ascending) (distinct second ascending')).2 same
  refine permuted.eq_of_pairwise ?_ ascending ascending'
  intro a b _ _ less more
  exact absurd less (lt_asymm more)

/-- What is packed of a directory depends on the places that are kept and on nothing else. -/
theorem below_congr {tree tree' : Node} (proper : tree.Proper) (proper' : tree'.Proper) {root : Path} {folder : String}
    (directory : tree.item? root.place = some .directory) (directory' : tree'.item? root.place = some .directory)
    (same : ∀ place, place ≠ [] → (∀ name ∈ place, IsName name) →
      (job.exclusion root folder).keeps (memberName (Job.nameStart folder ++ slashed place)) = true →
      tree.item? (root.place ++ place) = tree'.item? (root.place ++ place)) :
    job.below tree root folder = job.below tree' root folder := by
  unfold Job.below packed
  congr 1
  refine eq_of_ascending ((ascending_underAll_at proper root.place).filter _)
    ((ascending_underAll_at proper' root.place).filter _) ?_
  intro found
  rw [List.mem_filter, List.mem_filter, mem_underAll_at proper directory, mem_underAll_at proper' directory',
    and_congr_left_iff]
  intro packs
  have kept := (Bool.and_eq_true_iff.1 packs).2
  rw [and_congr_right_iff]
  intro further
  constructor
  · intro there
    rw [← same found.1 further (names_of_item proper there) kept]
    exact there
  · intro there
    rw [same found.1 further (names_of_item proper' there) kept]
    exact there

end ImageBuild.Archive
