import ImageBuild.Proofs.Files.Place

namespace ImageBuild

/-! ### Steps that can fail -/

section steps

variable {σ ε α β : Type} {s t : σ} {a : α} {b : β}

def Gives (step : ExceptT ε (StateM σ) α) (s : σ) (a : α) (t : σ) : Prop := step.run.run s = (.ok a, t)

theorem bind_run (step : ExceptT ε (StateM σ) α) (next : α → ExceptT ε (StateM σ) β) (s : σ) :
    (step >>= next).run.run s =
      match step.run.run s with
      | (.ok a, u) => (next a).run.run u
      | (.error error, u) => (.error error, u) := by
  simp only [ExceptT.run_bind, StateT.run_bind]
  cases ended : step.run.run s with
  | mk result u => cases result <;> rfl

theorem bind_gives {step : ExceptT ε (StateM σ) α} {next : α → ExceptT ε (StateM σ) β} :
    Gives (step >>= next) s b t ↔ ∃ a u, Gives step s a u ∧ Gives (next a) u b t := by
  unfold Gives
  rw [bind_run]
  cases ended : step.run.run s with
  | mk result u =>
    cases result with
    | ok a =>
      constructor
      · intro rest
        exact ⟨a, u, rfl, rest⟩
      · rintro ⟨a', u', same, rest⟩
        cases same
        exact rest
    | error error =>
      constructor
      · intro same
        cases same
      · rintro ⟨a, u', same, -⟩
        cases same

theorem run_of_gives {step : ExceptT ε (StateM σ) α} (gives : Gives step s a t) (next : α → ExceptT ε (StateM σ) β) :
    (step >>= next).run.run s = (next a).run.run t := by
  rw [bind_run, gives]

theorem pure_gives {a' : α} : Gives (pure a : ExceptT ε (StateM σ) α) s a' t ↔ a = a' ∧ s = t := by
  constructor
  · intro gives
    cases gives
    exact ⟨rfl, rfl⟩
  · rintro ⟨rfl, rfl⟩
    rfl

theorem throw_gives {error : ε} : ¬Gives (throw error : ExceptT ε (StateM σ) α) s a t := by
  intro gives
  cases gives

theorem get_gives {u : σ} : Gives (get : ExceptT ε (StateM σ) σ) s u t ↔ s = u ∧ s = t := by
  constructor
  · intro gives
    cases gives
    exact ⟨rfl, rfl⟩
  · rintro ⟨rfl, rfl⟩
    rfl

theorem get_run (next : σ → ExceptT ε (StateM σ) β) (s : σ) : (get >>= next).run.run s = (next s).run.run s := rfl

theorem modify_gives {change : σ → σ} {u : PUnit} :
    Gives (modify change : ExceptT ε (StateM σ) PUnit) s u t ↔ change s = t := by
  constructor
  · intro gives
    cases gives
    rfl
  · rintro rfl
    rfl

theorem lift_gives {step : StateM σ α} : Gives (ExceptT.lift step : ExceptT ε (StateM σ) α) s a t ↔ step.run s = (a, t) := by
  constructor
  · intro gives
    cases gives
    rfl
  · intro ended
    unfold Gives
    rw [ExceptT.run_lift, StateT.run_map, ended]
    rfl

end steps

namespace Files

open ImageBuild.Path

variable {tree tree' : Node}

namespace Node

/-! ### One entry more -/

theorem lookup_cons (name other : String) (node : Node) (rest : List (String × Node)) :
    ((name, node) :: rest).lookup other = if other = name then some node else rest.lookup other := by
  by_cases same : other = name
  · simp [same]
  · have apart : (other == name) = false := by simpa using same
    simp [List.lookup_cons, same, apart]

theorem lookup_insertEntry (entries : List (String × Node)) (name other : String) (node : Node) :
    (insertEntry entries name node).lookup other = if other = name then some node else entries.lookup other := by
  induction entries with
  | nil => exact lookup_cons name other node []
  | cons entry rest ih =>
    obtain ⟨first, child⟩ := entry
    unfold insertEntry
    split
    · rw [lookup_cons]
    · split
      · rename_i found
        subst found
        rw [lookup_cons, lookup_cons]
        split <;> rfl
      · rename_i different
        rw [lookup_cons, lookup_cons, ih]
        by_cases same : other = first
        · subst same
          simp [Ne.symm different]
        · simp [same]

theorem mem_insertEntry {entries : List (String × Node)} {name : String} {node : Node} {entry : String × Node}
    (member : entry ∈ insertEntry entries name node) : entry = (name, node) ∨ entry ∈ entries := by
  induction entries with
  | nil => exact .inl (List.mem_singleton.1 member)
  | cons first rest ih =>
    unfold insertEntry at member
    split at member
    · exact List.mem_cons.1 member
    · split at member
      · exact (List.mem_cons.1 member).imp_right (List.mem_cons_of_mem _)
      · rcases List.mem_cons.1 member with rfl | later
        · exact .inr List.mem_cons_self
        · exact (ih later).imp_right (List.mem_cons_of_mem _)

theorem ascending_insertEntry {entries : List (String × Node)} (ascending : entries.Pairwise fun a b => a.1 < b.1)
    (name : String) (node : Node) : (insertEntry entries name node).Pairwise fun a b => a.1 < b.1 := by
  induction entries with
  | nil => exact List.pairwise_singleton _ _
  | cons first rest ih =>
    obtain ⟨less, later⟩ := List.pairwise_cons.1 ascending
    unfold insertEntry
    split
    · rename_i before
      refine List.pairwise_cons.2 ⟨?_, ascending⟩
      intro entry member
      rcases List.mem_cons.1 member with rfl | behind
      · exact before
      · exact before.trans (less entry behind)
    · rename_i notBefore
      split
      · rename_i same
        refine List.pairwise_cons.2 ⟨?_, later⟩
        intro entry member
        rw [same]
        exact less entry member
      · rename_i different
        refine List.pairwise_cons.2 ⟨?_, ih later⟩
        intro entry member
        rcases mem_insertEntry member with rfl | behind
        · exact lt_of_le_of_ne (not_lt.1 notBefore) (Ne.symm different)
        · exact less entry behind

theorem isListing_insertEntry {entries : List (String × Node)} (listing : IsListing entries) {name : String}
    (isName : IsName name) (node : Node) : IsListing (insertEntry entries name node) := by
  refine ⟨ascending_insertEntry listing.ascending name node, ?_⟩
  intro entry member
  rcases mem_insertEntry member with rfl | old
  · exact isName
  · exact listing.names entry old

/-! ### A new node -/

theorem put_folder {above : List String} (directory : tree.item? above = some .directory) (name : String) (node : Node) :
    ∃ entries, tree = folder entries ∧ ∀ first rest, above = first :: rest →
      ∃ child, entries.lookup first = some child ∧ child.item? rest = some .directory ∧
        tree.put (above ++ [name]) node = folder (insertEntry entries first (child.put (rest ++ [name]) node)) := by
  have top : tree.item? [] = some .directory := by
    cases above with
    | nil => exact directory
    | cons first rest =>
      rw [← List.nil_append (first :: rest)] at directory
      exact directory_above (List.cons_ne_nil first rest) directory
  obtain ⟨entries, same⟩ := item?_directory.1 top
  rw [get?_nil, Option.some_inj] at same
  subst same
  refine ⟨entries, rfl, ?_⟩
  rintro first rest rfl
  rw [item?, get?_cons, Option.map_bind, Option.bind_eq_some_iff] at directory
  obtain ⟨child, here, below⟩ := directory
  refine ⟨child, here, below, ?_⟩
  rw [List.cons_append, put]
  simp only [Node.entries] at here ⊢
  rw [here]
  rfl

theorem item?_insertEntry (entries : List (String × Node)) (name : String) (node : Node) (other : String) (rest : List String) :
    (folder (insertEntry entries name node)).item? (other :: rest) =
      if other = name then node.item? rest else (folder entries).item? (other :: rest) := by
  rw [item?, get?_cons, Node.entries, lookup_insertEntry]
  split
  · rfl
  · rw [item?, get?_cons, Node.entries]

theorem item?_put {above : List String} (directory : tree.item? above = some .directory) (name : String) (node : Node)
    (place : List String) : (tree.put (above ++ [name]) node).item? place =
      if above ++ [name] <+: place then node.item? (place.drop (above.length + 1)) else tree.item? place := by
  -- by induction on the way down: a change below one entry leaves the others
  induction above generalizing tree place with
  | nil =>
    obtain ⟨entries, rfl, -⟩ := put_folder directory name node
    cases place with
    | nil => rfl
    | cons other rest =>
      rw [List.nil_append, put, put, Node.entries, item?_insertEntry]
      by_cases same : other = name
      · simp [same]
      · simp [same, Ne.symm same]
  | cons first above ih =>
    obtain ⟨entries, rfl, onwards⟩ := put_folder directory name node
    obtain ⟨child, here, below, same⟩ := onwards first above rfl
    rw [same]
    cases place with
    | nil => rfl
    | cons other rest =>
      rw [item?_insertEntry, ih below]
      by_cases known : other = first
      · subst known
        have inside : (folder entries).item? (other :: rest) = child.item? rest := by
          simp [item?, get?_cons, Node.entries, here]
        simp [inside]
      · simp [known, Ne.symm known]

theorem item?_put_self {above : List String} (directory : tree.item? above = some .directory) (name : String) (node : Node) :
    (tree.put (above ++ [name]) node).item? (above ++ [name]) = some node.item := by
  rw [item?_put directory, if_pos List.prefix_rfl, List.drop_eq_nil_of_le (by simp)]
  rfl

/-- Where there is no directory, a new node that has nothing below it changes no other place. -/
theorem item?_put_other {above : List String} {name : String} (directory : tree.item? above = some .directory)
    (vacant : tree.item? (above ++ [name]) ≠ some .directory) {node : Node}
    (bare : ∀ rest, rest ≠ [] → node.item? rest = none) {place : List String} (other : place ≠ above ++ [name]) :
    (tree.put (above ++ [name]) node).item? place = tree.item? place := by
  rw [item?_put directory]
  by_cases below : above ++ [name] <+: place
  · obtain ⟨rest, rfl⟩ := below
    have further : rest ≠ [] := by
      rintro rfl
      exact other (List.append_nil _)
    rw [if_pos (List.prefix_append _ _), List.drop_left' (by simp), bare rest further, item?_below vacant further]
  · rw [if_neg below]

theorem Proper.put {above : List String} (proper : tree.Proper) (directory : tree.item? above = some .directory)
    {name : String} (isName : IsName name) {node : Node} (properNode : node.Proper) :
    (tree.put (above ++ [name]) node).Proper := by
  induction above generalizing tree with
  | nil =>
    obtain ⟨entries, rfl, -⟩ := put_folder directory name node
    obtain ⟨listing, children⟩ := proper_folder.1 proper
    rw [List.nil_append, Node.put, Node.put, Node.entries]
    refine proper_folder.2 ⟨isListing_insertEntry listing isName node, ?_⟩
    intro other child found
    rw [lookup_insertEntry] at found
    split at found
    · cases found
      exact properNode
    · exact children other child found
  | cons first above ih =>
    obtain ⟨entries, rfl, onwards⟩ := put_folder directory name node
    obtain ⟨child, here, below, same⟩ := onwards first above rfl
    obtain ⟨listing, children⟩ := proper_folder.1 proper
    rw [same]
    have isFirst := listing.names _ (Data.mem_of_lookup here)
    refine proper_folder.2 ⟨isListing_insertEntry listing isFirst _, ?_⟩
    intro other old found
    rw [lookup_insertEntry] at found
    split at found
    · cases found
      exact ih (children first child here) below
    · exact children other old found

theorem item?_empty_below {rest : List String} (further : rest ≠ []) : empty.item? rest = none := by
  obtain ⟨first, rest, rfl⟩ := List.exists_cons_of_ne_nil further
  rfl

theorem proper_empty : empty.Proper :=
  proper_folder.2 ⟨⟨List.Pairwise.nil, by simp⟩, by simp⟩

end Node

theorem kept_put {above : List String} {name : String} (directory : tree.item? above = some .directory)
    (vacant : tree.item? (above ++ [name]) ≠ some .directory) (node : Node) : Kept tree (tree.put (above ++ [name]) node) := by
  intro place item found
  rw [Node.item?_put directory]
  by_cases below : above ++ [name] <+: place
  · obtain ⟨rest, rfl⟩ := below
    have here : rest = [] := by
      by_contra further
      exact vacant (Node.directory_above further found)
    subst here
    rw [List.append_nil] at found
    refine ⟨node.item, ?_, ?_⟩
    · simp [Node.item?]
    · rintro rfl
      exact absurd found vacant
  · exact ⟨item, by rw [if_neg below]; exact found, id⟩

/-! ### Where a new entry goes -/

/-- A directory can get an entry of that name. -/
structure Opening (tree : Node) (path : Path) (name : String) : Prop where
  usable : usable (path.child name) = .ok ()
  follows : follow tree [] path.parts = .ok path.place
  directory : tree.item? path.place = some .directory
  short : name.utf8ByteSize ≤ maxName

/-- Where a path leads by its last part: to what is there already, or to an entry of that name. -/
theorem slot_ok {path : Path} {place : List String} {what : Option Node} (found : slot tree path = .ok (place, what)) :
    usable path = .ok () ∧ what = tree.get? place ∧
      ((what.isSome ∧ ∀ name, path.parts.getLast? = some name → name = "..") ∨
        ∃ above name, path.parts.getLast? = some name ∧ name ≠ ".." ∧ place = above ++ [name] ∧
          follow tree [] path.parts.dropLast = .ok above ∧ tree.item? above = some .directory ∧
          name.utf8ByteSize ≤ maxName) := by
  unfold slot at found
  obtain ⟨⟨⟩, checked, found⟩ := bind_eq_ok.1 found
  refine ⟨checked, ?_⟩
  split at found
  · rename_i last
    cases found
    exact ⟨(Node.get?_nil tree).symm, .inl ⟨rfl, by simp [last]⟩⟩
  · rename_i last
    obtain ⟨there, followed, found⟩ := bind_eq_ok.1 found
    cases found
    exact ⟨rfl, .inl ⟨(follow_ok (by simp) (located_ok followed)).2, by simp [last]⟩⟩
  · rename_i name down last
    obtain ⟨above, followed, found⟩ := bind_eq_ok.1 found
    split at found
    · rename_i entries folder
      split at found
      · cases found
      · rename_i short
        cases found
        exact ⟨(get?_concat folder name).symm, .inr ⟨above, name, last, down, rfl, located_ok followed,
          Node.item?_directory.2 ⟨entries, folder⟩, Nat.le_of_not_lt short⟩⟩
    · cases found

theorem slot_child {path : Path} {name : String} (down : name ≠ "..") {place : List String} {what : Option Node}
    (found : slot tree (path.child name) = .ok (place, what)) :
    Opening tree path name ∧ place = path.place ++ [name] ∧ what = tree.get? place := by
  have ends : (path.child name).parts.getLast? = some name := by simp [Path.child]
  have front : (path.child name).parts.dropLast = path.parts := by simp [Path.child]
  obtain ⟨usable, there, ⟨-, back⟩ | ⟨above, last, named, -, placed, follows, directory, short⟩⟩ := slot_ok found
  · exact absurd (back name ends) down
  · obtain rfl := Option.some.inj (ends.symm.trans named)
    rw [front] at follows
    obtain ⟨rfl, -⟩ := follow_ok (by simp) follows
    exact ⟨⟨usable, follows, directory, short⟩, placed, there⟩

theorem slot_vacant {path : Path} {place : List String} (found : slot tree path = .ok (place, none)) :
    ∃ name, path = path.parent.child name ∧ name ≠ ".." ∧ Opening tree path.parent name ∧
      place = path.parent.place ++ [name] ∧ tree.item? place = none := by
  obtain ⟨-, -, ⟨there, -⟩ | ⟨above, name, last, down, -⟩⟩ := slot_ok found
  · cases there
  · have same : path = path.parent.child name := by
      obtain ⟨front, parts⟩ := List.getLast?_eq_some_iff.1 last
      cases path
      simp_all [Path.child, Path.parent]
    rw [same] at found
    obtain ⟨opening, placed, missing⟩ := slot_child down found
    refine ⟨name, same, down, opening, placed, ?_⟩
    rw [Node.item?, ← missing]
    rfl

theorem Opening.isName {path : Path} {name : String} (opening : Opening tree path name) (part : IsPart name)
    (down : name ≠ "..") : IsName name :=
  ⟨part.nonempty, part.notHere, down, part.noSlash, opening.short⟩

/-! ### Writing -/

theorem writeContent_gives {path : Path} {name : String} (down : name ≠ "..") {content : Content}
    (written : Gives (writeContent (path.child name) content) tree () tree') :
    Opening tree path name ∧ tree.item? (path.place ++ [name]) ≠ some .directory ∧
      tree.put (path.place ++ [name]) (.file content) = tree' := by
  unfold writeContent at written
  obtain ⟨_, _, same, written⟩ := bind_gives.1 written
  obtain ⟨rfl, rfl⟩ := get_gives.1 same
  split at written
  · exact absurd written throw_gives
  · exact absurd written throw_gives
  · rename_i place what file found
    obtain ⟨opening, rfl, rfl⟩ := slot_child down found
    refine ⟨opening, ?_, modify_gives.1 written⟩
    intro directory
    obtain ⟨entries, folder⟩ := Node.item?_directory.1 directory
    exact file entries folder

theorem contentAt_written {path : Path} {name : String} (down : name ≠ "..") (opening : Opening tree path name)
    (file : tree.item? (path.place ++ [name]) ≠ some .directory) (content : Content) :
    contentAt (tree.put (path.place ++ [name]) (.file content)) (path.child name) = .ok content := by
  have kept := kept_put opening.directory file (.file content)
  have here := Node.item?_file.1 (Node.item?_put_self opening.directory name (.file content))
  have onwards : follow (tree.put (path.place ++ [name]) (.file content)) path.place [name] = .ok (path.place ++ [name]) := by
    refine follow_cons.2 ⟨⟨kept.directory opening.directory, ?_⟩, ?_⟩
    · exact fun _ => ⟨opening.short, by simp [here]⟩
    · simp [walked, down, follow]
  have follows := follow_append (follow_kept kept opening.follows) onwards
  have parts : (path.child name).parts = path.parts ++ [name] := rfl
  rw [← parts] at follows
  simp only [contentAt, node, find, located, opening.usable, follows, here, bind, Except.bind]

/-! ### Making directories -/

/-- Nothing but directories on the way has been made. -/
structure Laid (path : Path) (tree tree' : Node) : Prop where
  proper : tree.Proper → tree'.Proper
  same : ∀ place, tree'.item? place = tree.item? place ∨ tree.item? place = none ∧
    tree'.item? place = some .directory ∧ ∃ front, front <+: path.parts ∧ place = normalParts front

namespace Laid

variable {path : Path}

theorem refl (path : Path) (tree : Node) : Laid path tree tree := ⟨id, fun _ => .inl rfl⟩

theorem of_parent (laid : Laid path.parent tree tree') : Laid path tree tree' := by
  refine ⟨laid.proper, ?_⟩
  intro place
  refine (laid.same place).imp_right ?_
  rintro ⟨missing, made, front, early, same⟩
  exact ⟨missing, made, front, early.trans (List.dropLast_prefix path.parts), same⟩

theorem trans {last : Node} (first : Laid path tree tree') (second : Laid path tree' last) : Laid path tree last := by
  refine ⟨fun proper => second.proper (first.proper proper), ?_⟩
  intro place
  rcases second.same place with same | ⟨missing, made, onTheWay⟩
  · rw [same]
    exact first.same place
  · rcases first.same place with same | ⟨-, there, -⟩
    · exact .inr ⟨same ▸ missing, made, onTheWay⟩
    · rw [there] at missing
      cases missing

theorem stays (laid : Laid path tree tree') {place : List String} {item : Item} (found : tree.item? place = some item) :
    tree'.item? place = some item := by
  rcases laid.same place with same | ⟨missing, -⟩
  · exact same.trans found
  · rw [missing] at found
    cases found

end Laid

theorem makeDirectory_run (path : Path) (tree : Node) :
    (makeDirectory path).run.run tree =
      match slot tree path with
      | .error error => (.error error, tree)
      | .ok (_, some _) => (.error (.system .alreadyExists path.text), tree)
      | .ok (place, none) => (.ok (), tree.put place .empty) := by
  unfold makeDirectory
  rw [get_run]
  cases slot tree path with
  | error error => rfl
  | ok found =>
    obtain ⟨place, what⟩ := found
    cases what with
    | none => rfl
    | some node => rfl

theorem laid_makeDirectory {path : Path} (plain : path.Plain) {result : Except Error Unit}
    (made : (makeDirectory path).run.run tree = (result, tree')) : Laid path tree tree' := by
  rw [makeDirectory_run] at made
  split at made
  · cases made
    exact .refl path tree
  · cases made
    exact .refl path tree
  · rename_i place found
    cases made
    obtain ⟨name, same, down, opening, rfl, vacant⟩ := slot_vacant found
    have part : IsPart name := plain name (by rw [same]; simp [Path.child])
    have isName := opening.isName part down
    refine ⟨fun proper => proper.put opening.directory isName Node.proper_empty, ?_⟩
    intro place
    by_cases here : place = path.parent.place ++ [name]
    · have whole := place_child down path.parent
      rw [← same] at whole
      rw [here, Node.item?_put_self opening.directory]
      exact .inr ⟨vacant, rfl, path.parts, List.prefix_rfl, whole.symm⟩
    · left
      -- the directory that is made is empty, so nothing has come below it
      exact Node.item?_put_other opening.directory (by simp [vacant]) (fun _ => Node.item?_empty_below) here

theorem settle_gives {path : Path} {error : Error} (settled : Gives (settle path error) tree () tree') : tree' = tree := by
  unfold settle at settled
  split at settled
  · exact absurd settled throw_gives
  · obtain ⟨_, _, same, settled⟩ := bind_gives.1 settled
    obtain ⟨rfl, rfl⟩ := get_gives.1 same
    split at settled
    · exact (pure_gives.1 settled).2.symm
    · exact absurd settled throw_gives
    · exact absurd settled throw_gives

theorem laid_makeDirectories {path : Path} (plain : path.Plain) {above : Nat}
    (made : Gives (makeDirectories path above) tree () tree') : Laid path tree tree' := by
  -- by induction on how many parents may be made; an attempt that fails leaves the tree as it was
  induction above generalizing path tree tree' with
  | zero =>
    unfold makeDirectories at made
    obtain ⟨result, next, tried, made⟩ := bind_gives.1 made
    have first := laid_makeDirectory plain (lift_gives.1 tried)
    split at made
    · rw [← (pure_gives.1 made).2]
      exact first
    · exact absurd made throw_gives
    · rw [settle_gives made]
      exact first
  | succ above ih =>
    unfold makeDirectories at made
    obtain ⟨result, next, tried, made⟩ := bind_gives.1 made
    have first := laid_makeDirectory plain (lift_gives.1 tried)
    split at made
    · rw [← (pure_gives.1 made).2]
      exact first
    · obtain ⟨_, between, parents, made⟩ := bind_gives.1 made
      obtain ⟨again, last, tried, made⟩ := bind_gives.1 made
      have second := (ih plain.parent parents).of_parent
      have third := laid_makeDirectory plain (lift_gives.1 tried)
      have all := (first.trans second).trans third
      split at made
      · rw [← (pure_gives.1 made).2]
        exact all
      · rw [settle_gives made]
        exact all
    · rw [settle_gives made]
      exact first

theorem laid_ensureDirectory {path : Path} (plain : path.Plain) (made : Gives (ensureDirectory path) tree () tree') :
    Laid path tree tree' :=
  laid_makeDirectories plain made

end Files

end ImageBuild
