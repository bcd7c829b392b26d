namespace ImageBuild.Text

def splitFirst (sep : Char) : List Char → Option (List Char × List Char)
  | [] => none
  | c :: r =>
    if c = sep then some ([], r)
    else (splitFirst sep r).map fun (before, after) => (c :: before, after)

def splitLast (sep : Char) : List Char → Option (List Char × List Char)
  | [] => none
  | c :: r =>
    match splitLast sep r with
    | some (before, after) => some (c :: before, after)
    | none => if c = sep then some ([], r) else none

def splitAll (sep : Char) : List Char → List (List Char)
  | [] => [[]]
  | c :: r =>
    if c = sep then [] :: splitAll sep r
    else match splitAll sep r with
      | [] => [[c]]
      | piece :: rest => (c :: piece) :: rest

def joinWith (sep : List Char) : List (List Char) → List Char
  | [] => []
  | [piece] => piece
  | piece :: rest => piece ++ sep ++ joinWith sep rest

theorem splitFirst_eq_some {sep : Char} {s before after : List Char}
    (h : splitFirst sep s = some (before, after)) : s = before ++ sep :: after ∧ sep ∉ before := by
  induction s generalizing before with
  | nil => simp [splitFirst] at h
  | cons c r ih =>
    unfold splitFirst at h
    split at h
    · simp_all
    · rename_i different
      obtain ⟨⟨b, a⟩, found, same⟩ := Option.map_eq_some_iff.1 h
      obtain ⟨rfl, rfl⟩ := Prod.mk.inj same
      obtain ⟨rfl, absent⟩ := ih found
      simp [absent, Ne.symm different]

theorem splitLast_eq_some {sep : Char} {s before after : List Char}
    (h : splitLast sep s = some (before, after)) : s = before ++ sep :: after := by
  induction s generalizing before with
  | nil => simp [splitLast] at h
  | cons c r ih =>
    unfold splitLast at h
    split at h
    · rename_i b a found
      obtain ⟨rfl, rfl⟩ := Prod.mk.inj (Option.some.inj h)
      simp [ih found]
    · split at h <;> simp_all

theorem splitFirst_eq_none {sep : Char} {s : List Char} : splitFirst sep s = none ↔ sep ∉ s := by
  induction s with
  | nil => simp [splitFirst]
  | cons c r ih =>
    unfold splitFirst
    split
    · rename_i same
      simp [same]
    · rename_i different
      simp [ih, Ne.symm different]

theorem splitLast_eq_none {sep : Char} {s : List Char} (absent : sep ∉ s) : splitLast sep s = none := by
  induction s with
  | nil => rfl
  | cons c r ih =>
    obtain ⟨different, later⟩ := List.ne_and_not_mem_of_not_mem_cons absent
    rw [splitLast, ih later, if_neg (Ne.symm different)]

theorem splitLast_append {sep : Char} {after : List Char} (absent : sep ∉ after) (before : List Char) :
    splitLast sep (before ++ sep :: after) = some (before, after) := by
  induction before with
  | nil => rw [List.nil_append, splitLast, splitLast_eq_none absent, if_pos rfl]
  | cons c before ih => rw [List.cons_append, splitLast, ih]

theorem splitFirst_append {sep : Char} {before : List Char} (absent : sep ∉ before) (after : List Char) :
    splitFirst sep (before ++ sep :: after) = some (before, after) := by
  induction before with
  | nil => rw [List.nil_append, splitFirst, if_pos rfl]
  | cons c before ih =>
    obtain ⟨different, later⟩ := List.ne_and_not_mem_of_not_mem_cons absent
    rw [List.cons_append, splitFirst, if_neg (Ne.symm different), ih later]
    rfl

theorem splitAll_of_notMem {sep : Char} {s : List Char} (absent : sep ∉ s) : splitAll sep s = [s] := by
  induction s with
  | nil => rfl
  | cons c r ih =>
    obtain ⟨different, later⟩ := List.ne_and_not_mem_of_not_mem_cons absent
    rw [splitAll, if_neg (Ne.symm different), ih later]

theorem splitAll_append {sep : Char} {before : List Char} (absent : sep ∉ before) (after : List Char) :
    splitAll sep (before ++ sep :: after) = before :: splitAll sep after := by
  induction before with
  | nil => rw [List.nil_append, splitAll, if_pos rfl]
  | cons c before ih =>
    obtain ⟨different, later⟩ := List.ne_and_not_mem_of_not_mem_cons absent
    rw [List.cons_append, splitAll, if_neg (Ne.symm different), ih later]

theorem splitAll_ne_nil (sep : Char) (s : List Char) : splitAll sep s ≠ [] := by
  cases s with
  | nil => simp [splitAll]
  | cons c r =>
    unfold splitAll
    split
    · simp
    · split <;> simp

theorem notMem_of_splitAll {sep : Char} {s piece : List Char} (between : piece ∈ splitAll sep s) : sep ∉ piece := by
  induction s generalizing piece with
  | nil =>
    rw [splitAll, List.mem_singleton] at between
    simp [between]
  | cons c r ih =>
    unfold splitAll at between
    split at between
    · rcases List.mem_cons.1 between with rfl | later
      · simp
      · exact ih later
    · rename_i different
      cases pieces : splitAll sep r with
      | nil => exact absurd pieces (splitAll_ne_nil sep r)
      | cons first rest =>
        rw [pieces] at between
        rw [pieces] at ih
        rcases List.mem_cons.1 between with rfl | later
        · exact List.not_mem_cons_of_ne_of_not_mem (Ne.symm different) (ih List.mem_cons_self)
        · exact ih (List.mem_cons_of_mem _ later)

theorem splitAll_between (sep : Char) (before after : List Char) :
    splitAll sep (before ++ sep :: after) = splitAll sep before ++ splitAll sep after := by
  induction before with
  | nil => exact splitAll_append List.not_mem_nil after
  | cons c before ih =>
    by_cases same : c = sep
    · rw [List.cons_append, splitAll, if_pos same, ih, splitAll, if_pos same, List.cons_append]
    · rw [List.cons_append, splitAll, if_neg same, ih, splitAll, if_neg same]
      cases pieces : splitAll sep before with
      | nil => exact absurd pieces (splitAll_ne_nil sep before)
      | cons piece rest => rfl

theorem splitAll_joinWith {sep : Char} {pieces : List (List Char)} (nonempty : pieces ≠ [])
    (apart : ∀ piece ∈ pieces, sep ∉ piece) : splitAll sep (joinWith [sep] pieces) = pieces := by
  match pieces with
  | [] => exact absurd rfl nonempty
  | [piece] => exact splitAll_of_notMem (apart piece List.mem_cons_self)
  | piece :: next :: rest =>
    obtain ⟨here, later⟩ := List.forall_mem_cons.1 apart
    rw [joinWith, List.append_assoc, List.singleton_append, splitAll_append here,
      splitAll_joinWith (List.cons_ne_nil next rest) later]
    exact List.cons_ne_nil next rest

theorem joinWith_splitAll (sep : Char) (s : List Char) : joinWith [sep] (splitAll sep s) = s := by
  induction s with
  | nil => rfl
  | cons c r ih =>
    unfold splitAll
    split
    · rename_i same
      subst same
      cases pieces : splitAll c r with
      | nil => rw [pieces] at ih; subst ih; simp [splitAll, joinWith] at pieces
      | cons piece rest => rw [pieces] at ih; simp [joinWith, ih]
    · cases pieces : splitAll sep r with
      | nil => rw [pieces] at ih; simpa [joinWith] using ih
      | cons piece rest =>
        rw [pieces] at ih
        cases rest with
        | nil => simpa [joinWith] using ih
        | cons next rest => simpa [joinWith] using ih

end ImageBuild.Text
