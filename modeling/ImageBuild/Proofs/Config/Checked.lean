import ImageBuild.Config.Checked

namespace ImageBuild.Config.Checked

variable {α β : Type}

theorem seq_eq_valid {f : Checked (α → β)} {a : Checked α} {b : β} :
    f <*> a = valid b ↔ ∃ g x, f = valid g ∧ a = valid x ∧ g x = b := by
  constructor
  · intro h
    change apply f a = valid b at h
    cases f with
    | valid g =>
      cases a with
      | valid x => exact ⟨g, x, rfl, rfl, valid.inj h⟩
      | invalid | stopped => cases h
    | invalid => cases a <;> cases h
    | stopped => cases h
  · rintro ⟨g, x, rfl, rfl, rfl⟩
    rfl

theorem map_eq_seq (f : α → β) (a : Checked α) : f <$> a = valid f <*> a := rfl

theorem map_eq_valid {f : α → β} {a : Checked α} {b : β} : f <$> a = valid b ↔ ∃ x, a = valid x ∧ f x = b := by
  rw [map_eq_seq, seq_eq_valid]
  constructor
  · rintro ⟨g, x, same, rfl, rfl⟩
    obtain rfl := valid.inj same
    exact ⟨x, rfl, rfl⟩
  · rintro ⟨x, rfl, rfl⟩
    exact ⟨f, x, rfl, rfl, rfl⟩

theorem require_eq_valid {check : α → Option Refusal} {read : Checked α} {a : α} :
    read.require check = valid a ↔ read = valid a ∧ check a = none := by
  cases read with
  | valid found =>
    unfold require
    dsimp only
    cases refused : check found with
    | none =>
      constructor
      · rintro ⟨⟩
        exact ⟨rfl, refused⟩
      · exact fun h => h.1
    | some reason =>
      constructor
      · nofun
      · rintro ⟨⟨⟩, accepted⟩
        cases refused.symm.trans accepted
  | invalid | stopped => simp [require]

theorem sequence_eq_valid {all : List (Checked α)} {found : List α} :
    sequence all = valid found ↔ all = found.map valid := by
  induction all generalizing found with
  | nil =>
    cases found with
    | nil => simp [sequence]
    | cons => simp [sequence]
  | cons first rest ih =>
    unfold sequence
    simp only [seq_eq_valid, map_eq_valid, ih]
    constructor
    · rintro ⟨_, later, ⟨one, rfl, rfl⟩, rfl, rfl⟩
      rfl
    · intro h
      cases found with
      | nil => cases h
      | cons one later =>
        obtain ⟨rfl, rfl⟩ := List.cons.inj h
        exact ⟨_, later, ⟨one, rfl, rfl⟩, rfl, rfl⟩

def stop? : Checked α → Option Stop
  | stopped stop => some stop
  | valid _ | invalid _ => none

theorem stop?_seq (f : Checked (α → β)) (a : Checked α) : (f <*> a).stop? = f.stop?.or a.stop? := by
  change (apply f a).stop? = _
  cases f <;> cases a <;> rfl

theorem stop?_map (f : α → β) (a : Checked α) : (f <$> a).stop? = a.stop? := by
  rw [map_eq_seq, stop?_seq]
  rfl

theorem stop?_sequence (all : List (Checked α)) : (sequence all).stop? = all.findSome? stop? := by
  induction all with
  | nil => rfl
  | cons first rest ih =>
    unfold sequence
    rw [stop?_seq, stop?_map, ih, List.findSome?_cons]
    cases first.stop? <;> rfl

theorem stop?_require_notATable (check : α → Option Refusal) (read : Checked α) :
    (read.require check).stop? = some .notATable ↔ read.stop? = some .notATable := by
  cases read with
  | valid found =>
    unfold require
    dsimp only
    split <;> simp [stop?]
  | invalid | stopped => rfl

end ImageBuild.Config.Checked
