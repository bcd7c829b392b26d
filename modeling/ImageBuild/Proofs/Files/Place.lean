import ImageBuild.Proofs.Files.Node
import ImageBuild.Proofs.Text.Language

namespace ImageBuild

namespace Path

/-- What stands between the slashes of a path that has been read. -/
structure IsPart (part : String) : Prop where
  nonempty : part ≠ ""
  notHere : part ≠ "."
  noSlash : '/' ∉ part.toList

def Plain (path : Path) : Prop := ∀ part ∈ path.parts, IsPart part

def place (path : Path) : List String := normalParts path.parts

/-! ### Plain paths -/

theorem plain_ofText (text : String) : (ofText text).Plain := by
  intro part member
  obtain ⟨piece, kept, rfl⟩ := List.mem_map.1 member
  obtain ⟨between, whole⟩ := List.mem_filter.1 kept
  simp only [Path.isPart, Bool.and_eq_true, bne_iff_ne] at whole
  have free : '/' ∉ piece := Text.notMem_of_splitAll between
  refine ⟨?_, ?_, by simpa using free⟩
  · intro same
    have nothing : piece = [] := by simpa using congrArg String.toList same
    simp [nothing] at whole
  · intro same
    exact whole.2 (by simpa using congrArg String.toList same)

theorem Plain.join {base path : Path} (plain : base.Plain) (plain' : path.Plain) : (base.join path).Plain := by
  unfold Path.join
  split
  · exact plain'
  · intro part member
    rcases List.mem_append.1 member with early | late
    · exact plain part early
    · exact plain' part late

theorem Plain.absolute {path : Path} (plain : path.Plain) : path.absolute.Plain := by
  unfold Path.absolute
  split
  · exact plain
  · exact plain

theorem Plain.resolve {base : Path} (plain : base.Plain) (text : String) : (base.resolve text).Plain := by
  unfold Path.resolve
  dsimp only
  split
  · exact plain_ofText text
  · exact (plain.join (plain_ofText text)).absolute

theorem Plain.parent {path : Path} (plain : path.Plain) : path.parent.Plain := by
  intro part member
  exact plain part (List.mem_of_mem_dropLast member)

/-! ### Places -/

def walked (done : List String) (part : String) : List String :=
  if part = ".." then done.dropLast else done ++ [part]

theorem normalParts_eq (parts : List String) : normalParts parts = parts.foldl walked [] := rfl

theorem normalParts_append (parts rest : List String) :
    normalParts (parts ++ rest) = rest.foldl walked (normalParts parts) := by
  simp only [normalParts_eq, List.foldl_append]

theorem foldl_walked {rest : List String} (down : ".." ∉ rest) (done : List String) :
    rest.foldl walked done = done ++ rest := by
  induction rest generalizing done with
  | nil => simp
  | cons part rest ih =>
    obtain ⟨other, later⟩ := List.ne_and_not_mem_of_not_mem_cons down
    rw [List.foldl_cons, walked, if_neg (Ne.symm other), ih later, List.append_assoc]
    rfl

theorem normalParts_down {rest : List String} (down : ".." ∉ rest) (parts : List String) :
    normalParts (parts ++ rest) = normalParts parts ++ rest := by
  rw [normalParts_append, foldl_walked down]

theorem place_child {name : String} (down : name ≠ "..") (path : Path) :
    (path.child name).place = path.place ++ [name] :=
  normalParts_down (by simpa using Ne.symm down) path.parts

theorem parts_of_relativeTo {path base relative : Path} (below : path.relativeTo? base = some relative) :
    path.root = base.root ∧ path.parts = base.parts ++ relative.parts ∧ relative.root = .none := by
  unfold relativeTo? at below
  split at below
  · rename_i sameRoot
    obtain ⟨rest, found, rfl⟩ := Option.map_eq_some_iff.1 below
    exact ⟨sameRoot, (List.isPrefixOf?_eq_some_iff_append_eq.1 found).symm, rfl⟩
  · cases below

end Path

namespace Files

open ImageBuild.Path

variable {tree tree' : Node}

theorem item?_isSome {place : List String} : (tree.item? place).isSome = (tree.get? place).isSome := by
  simp [Node.item?]

theorem get?_dropLast {place : List String} (found : (tree.get? place).isSome) :
    (tree.get? place.dropLast).isSome := by
  rcases List.eq_nil_or_concat place with rfl | ⟨front, last, rfl⟩
  · exact found
  · rw [List.concat_eq_append] at found ⊢
    rw [List.dropLast_concat]
    rw [Node.get?_append] at found
    obtain ⟨node, below⟩ := Option.isSome_iff_exists.1 found
    obtain ⟨here, above, -⟩ := Option.bind_eq_some_iff.1 below
    simp [above]

theorem get?_concat {above : List String} {entries : List (String × Node)} (folder : tree.get? above = some (.folder entries))
    (name : String) : tree.get? (above ++ [name]) = entries.lookup name := by
  rw [Node.get?_append, folder]
  simp [Node.get?_cons, Node.entries]

structure Enters (tree : Node) (done : List String) (part : String) : Prop where
  directory : tree.item? done = some .directory
  below : part ≠ ".." → part.utf8ByteSize ≤ maxName ∧ (tree.get? (done ++ [part])).isSome

theorem follow_cons {done rest place : List String} {part : String} :
    follow tree done (part :: rest) = .ok place ↔
      Enters tree done part ∧ follow tree (walked done part) rest = .ok place := by
  have missing : (∀ entries, tree.get? done ≠ some (.folder entries)) → ¬Enters tree done part := by
    intro noFolder enters
    obtain ⟨entries, folder⟩ := Node.item?_directory.1 enters.directory
    exact noFolder entries folder
  cases here : tree.get? done with
  | none => simp [follow, here, missing (by simp [here])]
  | some node =>
    cases node with
    | file content => simp [follow, here, missing (by simp [here])]
    | folder entries =>
      have directory := Node.item?_directory.2 ⟨entries, here⟩
      by_cases up : part = ".."
      · have enters : Enters tree done part := ⟨directory, fun down => absurd up down⟩
        simp [follow, here, walked, up, up ▸ enters]
      · have known : Enters tree done part ↔ part.utf8ByteSize ≤ maxName ∧ (entries.lookup part).isSome := by
          rw [← get?_concat here]
          exact ⟨fun enters => enters.below up, fun below => ⟨directory, fun _ => below⟩⟩
        rw [known]
        by_cases long : maxName < part.utf8ByteSize
        · simp [follow, here, up, long, Nat.not_le.2 long]
        · by_cases inside : (entries.lookup part).isSome
          · simp [follow, here, walked, up, long, inside, Nat.le_of_not_lt long]
          · simp [follow, here, up, long, inside]

theorem Enters.isSome {done : List String} {part : String} (enters : Enters tree done part) :
    (tree.get? (walked done part)).isSome := by
  obtain ⟨entries, folder⟩ := Node.item?_directory.1 enters.directory
  unfold walked
  split
  · exact get?_dropLast (by simp [folder])
  · rename_i down
    exact (enters.below down).2

theorem follow_ok {done parts place : List String} (there : (tree.get? done).isSome)
    (found : follow tree done parts = .ok place) :
    place = parts.foldl walked done ∧ (tree.get? place).isSome := by
  induction parts generalizing done with
  | nil =>
    unfold follow at found
    cases found
    exact ⟨rfl, there⟩
  | cons part rest ih =>
    obtain ⟨enters, later⟩ := follow_cons.1 found
    exact ih enters.isSome later

/-- On the way to a place everything before the last part is a directory. -/
theorem follow_above {done front rest place : List String} (further : rest ≠ [])
    (found : follow tree done (front ++ rest) = .ok place) :
    tree.item? (front.foldl walked done) = some .directory := by
  induction front generalizing done with
  | nil =>
    obtain ⟨part, rest, rfl⟩ := List.exists_cons_of_ne_nil further
    exact (follow_cons.1 found).1.directory
  | cons part front ih => exact ih (follow_cons.1 found).2

theorem follow_append {done front rest above place : List String} (found : follow tree done front = .ok above)
    (onwards : follow tree above rest = .ok place) : follow tree done (front ++ rest) = .ok place := by
  induction front generalizing done with
  | nil =>
    unfold follow at found
    cases found
    exact onwards
  | cons part front ih =>
    obtain ⟨enters, later⟩ := follow_cons.1 found
    exact follow_cons.2 ⟨enters, ih later⟩

theorem follow_up {done front place : List String} (found : follow tree done (front ++ [".."]) = .ok place) :
    tree.item? place = some .directory := by
  -- by induction on what is before: only the directory in which .. is followed matters
  induction front generalizing done with
  | nil =>
    obtain ⟨enters, ends⟩ := follow_cons.1 found
    unfold follow at ends
    obtain rfl := Except.ok.inj ends
    unfold walked
    rw [if_pos rfl]
    have directory := enters.directory
    rcases List.eq_nil_or_concat done with rfl | ⟨above, last, rfl⟩
    · exact directory
    · rw [List.concat_eq_append] at directory ⊢
      rw [List.dropLast_concat]
      exact Node.directory_above (List.cons_ne_nil last []) directory
  | cons part front ih => exact ih (follow_cons.1 found).2

/-- Whatever stood somewhere still does, and directories are the same. -/
def Kept (tree tree' : Node) : Prop :=
  ∀ place item, tree.item? place = some item → ∃ item', tree'.item? place = some item' ∧ (item = .directory → item' = .directory)

theorem Kept.directory (kept : Kept tree tree') {place : List String} (directory : tree.item? place = some .directory) :
    tree'.item? place = some .directory := by
  obtain ⟨item, here, same⟩ := kept place _ directory
  rw [here, same rfl]

theorem Kept.isSome (kept : Kept tree tree') {place : List String} (there : (tree.get? place).isSome) :
    (tree'.get? place).isSome := by
  rw [← item?_isSome] at there ⊢
  obtain ⟨item, found⟩ := Option.isSome_iff_exists.1 there
  obtain ⟨item', found', -⟩ := kept place item found
  simp [found']

theorem follow_kept (kept : Kept tree tree') {done parts place : List String} (found : follow tree done parts = .ok place) :
    follow tree' done parts = .ok place := by
  induction parts generalizing done with
  | nil => simpa [follow] using found
  | cons part rest ih =>
    obtain ⟨enters, later⟩ := follow_cons.1 found
    refine follow_cons.2 ⟨⟨kept.directory enters.directory, ?_⟩, ih later⟩
    intro down
    exact (enters.below down).imp_right kept.isSome

/-! ### Reading -/

theorem bind_eq_ok {ε α β : Type} {x : Except ε α} {f : α → Except ε β} {b : β} :
    x >>= f = .ok b ↔ ∃ a, x = .ok a ∧ f a = .ok b := by
  cases x with
  | error error => simp [bind, Except.bind]
  | ok a => simp [bind, Except.bind]

theorem located_ok {α : Type} {path : Path} {result : Except Problem α} {a : α} (found : located path result = .ok a) :
    result = .ok a := by
  cases result with
  | ok b =>
    cases found
    rfl
  | error problem => cases found

theorem follow_of_find {path : Path} {place : List String} (found : find tree path = .ok place) :
    follow tree [] path.parts = .ok place := by
  obtain ⟨_, -, found⟩ := bind_eq_ok.1 found
  exact located_ok found

theorem find_ok {path : Path} {place : List String} (found : find tree path = .ok place) :
    place = path.place ∧ (tree.get? place).isSome :=
  follow_ok (by simp) (follow_of_find found)

theorem node_ok {path : Path} {found : Node} (read : node tree path = .ok found) :
    follow tree [] path.parts = .ok path.place ∧ tree.get? path.place = some found := by
  obtain ⟨place, here, read⟩ := bind_eq_ok.1 read
  have follows := follow_of_find here
  obtain ⟨rfl, there⟩ := find_ok here
  obtain ⟨known, same⟩ := Option.isSome_iff_exists.1 there
  rw [same] at read
  cases read
  exact ⟨follows, same⟩

theorem contentAt_ok {path : Path} {content : Content} (read : contentAt tree path = .ok content) :
    tree.item? path.place = some (.file content) := by
  obtain ⟨found, here, read⟩ := bind_eq_ok.1 read
  cases found with
  | folder entries => cases read
  | file other =>
    cases read
    exact Node.item?_file.2 (node_ok here).2

/-- Only a path with the null character is no path of a file. -/
theorem contentAt_eq_nullCharacter (tree : Node) {path : Path} :
    contentAt tree path = .error .nullCharacter ↔ Char.ofNat 0 ∈ path.text.toList := by
  by_cases strange : Char.ofNat 0 ∈ path.text.toList
  · simp [contentAt, node, find, usable, strange, bind, Except.bind]
  · refine iff_of_false ?_ strange
    unfold contentAt node find usable
    rw [if_neg (by simpa using strange)]
    by_cases long : maxPath < path.text.utf8ByteSize
    · rw [if_pos long]
      simp [bind, Except.bind]
    · rw [if_neg long]
      cases followed : follow tree [] path.parts with
      | error problem => simp [located, bind, Except.bind]
      | ok place =>
        rcases there : tree.get? place with _ | content | entries <;> simp [located, there, bind, Except.bind]

theorem read_eq_nullCharacter (tree : Node) {path : Path} :
    read tree path = .error .nullCharacter ↔ Char.ofNat 0 ∈ path.text.toList := by
  rw [← contentAt_eq_nullCharacter tree, read]
  cases contentAt tree path <;> simp [Functor.map, Except.map]

/-- A file that stays where it is can still be read when no directory on the way to it goes. -/
theorem contentAt_kept (kept : Kept tree tree') {path : Path} {content : Content} (read : contentAt tree path = .ok content)
    (same : tree'.item? path.place = some (.file content)) : contentAt tree' path = .ok content := by
  obtain ⟨_, here, -⟩ := bind_eq_ok.1 read
  obtain ⟨_, found, -⟩ := bind_eq_ok.1 here
  obtain ⟨⟨⟩, usable, -⟩ := bind_eq_ok.1 found
  have follows := follow_kept kept (node_ok here).1
  have there := Node.item?_file.1 same
  simp only [contentAt, node, find, located, usable, follows, there, bind, Except.bind]

theorem holds_ok {test : Node → Bool} {path : Path} (passed : holds test tree path = .ok true) :
    ∃ found, node tree path = .ok found ∧ test found = true := by
  unfold holds at passed
  split at passed
  · rename_i found here
    exact ⟨found, here, Except.ok.inj passed⟩
  · cases passed
  · cases passed

theorem isDirectory_ok {path : Path} (passed : isDirectory tree path = .ok true) :
    tree.item? path.place = some .directory := by
  obtain ⟨found, here, folder⟩ := holds_ok passed
  cases found with
  | file content => cases folder
  | folder entries => exact Node.item?_directory.2 ⟨entries, (node_ok here).2⟩

theorem isFile_ok {path : Path} (passed : isFile tree path = .ok true) :
    follow tree [] path.parts = .ok path.place ∧ ∃ content, tree.item? path.place = some (.file content) := by
  obtain ⟨found, here, file⟩ := holds_ok passed
  obtain ⟨follows, known⟩ := node_ok here
  cases found with
  | file content => exact ⟨follows, content, Node.item?_file.2 known⟩
  | folder entries => cases file

theorem isFile_child {path : Path} (passed : isFile tree path = .ok true) (top : tree.item? [] = some .directory) :
    ∃ name, path = path.parent.child name ∧ name ≠ ".." := by
  obtain ⟨follows, content, file⟩ := isFile_ok passed
  cases last : path.parts.getLast? with
  | none =>
    rw [List.getLast?_eq_none_iff] at last
    have here : path.place = [] := by
      rw [Path.place, last]
      rfl
    rw [here, top] at file
    cases file
  | some name =>
    obtain ⟨front, parts⟩ := List.getLast?_eq_some_iff.1 last
    refine ⟨name, ?_, ?_⟩
    · cases path
      simp_all [Path.child, Path.parent]
    · rintro rfl
      rw [parts] at follows
      have directory := follow_up follows
      rw [file] at directory
      cases directory

theorem isFile_named {path : Path} (proper : tree.Proper) (passed : isFile tree path = .ok true)
    (top : tree.item? [] = some .directory) : IsName path.name ∧ path.place = path.parent.place ++ [path.name] := by
  obtain ⟨name, child, down⟩ := isFile_child passed top
  obtain ⟨-, content, file⟩ := isFile_ok passed
  have named : path.name = name := by
    rw [child]
    simp [Path.name, Path.child]
  have placed : path.place = path.parent.place ++ [name] := by
    have whole := place_child down path.parent
    rwa [← child] at whole
  have there : (tree.get? path.place).isSome := by
    rw [← item?_isSome, file]
    rfl
  rw [placed] at there
  rw [named]
  exact ⟨Node.isName_of_get? proper there name (by simp), placed⟩

theorem directory_top {place : List String} (directory : tree.item? place = some .directory) :
    tree.item? [] = some .directory := by
  by_cases here : place = []
  · rwa [here] at directory
  · exact Node.directory_above here directory

end Files

end ImageBuild
