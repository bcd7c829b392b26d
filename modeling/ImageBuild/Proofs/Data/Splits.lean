namespace ImageBuild

variable {α ε : Type}

theorem split_append {first second front rest : List ε} {one : ε}
    (split : first ++ second = front ++ one :: rest) :
    (∃ tail, first = front ++ one :: tail ∧ rest = tail ++ second) ∨
    ∃ head, front = first ++ head ∧ second = head ++ one :: rest := by
  rcases List.append_eq_append_iff.1 split with ⟨head, begun, later⟩ | ⟨more, begun, later⟩
  · exact .inr ⟨head, begun, later⟩
  · cases more with
    | nil => exact .inr ⟨[], by simpa using begun.symm, later.symm⟩
    | cons next tail =>
      obtain ⟨rfl, rfl⟩ := List.cons.inj later
      exact .inl ⟨tail, begun, rfl⟩

theorem exists_split_concat (holds : List ε → ε → Prop) {all : List ε} {last : ε} :
    (∃ before one after, all ++ [last] = before ++ one :: after ∧ holds before one) ↔
      (∃ before one after, all = before ++ one :: after ∧ holds before one) ∨ holds all last := by
  constructor
  · rintro ⟨before, one, after, split, found⟩
    rcases split_append split with ⟨tail, inside, -⟩ | ⟨head, rfl, single⟩
    · exact .inl ⟨before, one, tail, inside, found⟩
    · obtain ⟨rfl, same⟩ : head = [] ∧ [last] = one :: after := by
        cases head with
        | nil => exact ⟨rfl, single⟩
        | cons next head => simp at single
      obtain ⟨rfl, -⟩ := List.cons.inj same
      exact .inr (by simpa using found)
  · rintro (⟨before, one, after, rfl, found⟩ | found)
    · exact ⟨before, one, after ++ [last], by simp, found⟩
    · exact ⟨all, last, [], rfl, found⟩

/-- An element of a joined list lies in one of its parts. -/
theorem split_flatMap {part : α → List ε} {all : List α} {front rest : List ε} {one : ε}
    (split : all.flatMap part = front ++ one :: rest) :
    ∃ before own after head tail, all = before ++ own :: after ∧ part own = head ++ one :: tail ∧
      front = before.flatMap part ++ head ∧ rest = tail ++ after.flatMap part := by
  induction all generalizing front with
  | nil => simp at split
  | cons own all ih =>
    rw [List.flatMap_cons] at split
    rcases split_append split with ⟨tail, inside, rfl⟩ | ⟨head, rfl, later⟩
    · exact ⟨[], own, all, front, tail, rfl, inside, rfl, rfl⟩
    · obtain ⟨before, other, after, front, tail, rfl, inside, rfl, rfl⟩ := ih later
      exact ⟨own :: before, other, after, front, tail, rfl, inside, by simp, rfl⟩

end ImageBuild
