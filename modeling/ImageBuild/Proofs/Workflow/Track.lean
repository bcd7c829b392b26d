import ImageBuild.Proofs.Workflow.Course

namespace ImageBuild.Workflow

open Program Cache Config Data

/-- Events tell the growth of the cache; without a readable cache there are no pulls. -/
structure Tracked (before after : Store) (es : List Happening) (names : List String) : Prop where
  tells : Tells es names
  grows : Grows names before after
  barred : ∀ excess, held (before.get? cacheKey) = .error excess → pulls none es = []

theorem Tracked.nil (store : Store) : Tracked store store [] [] :=
  ⟨tells_beside (by simp), Grows.refl store, fun _ _ => rfl⟩

theorem Tracked.append {before middle after : Store} {es rest : List Happening} {names later : List String}
    (first : Tracked before middle es names) (second : Tracked middle after rest later) :
    Tracked before after (es ++ rest) (names ++ later) := by
  refine ⟨first.tells.append second.tells, first.grows.trans second.grows, fun excess unknown => ?_⟩
  have still : held (middle.get? cacheKey) = .error excess := by
    rw [first.grows.cache, unknown]
    rfl
  rw [pulls_append, first.barred excess unknown, second.tells.alone, second.barred excess still]
  rfl

def Tracks {α : Type} (p : Build α) : Prop :=
  ∀ ⦃i j : Inside⦄ ⦃es : List Happening⦄ ⦃r : Except Fault α⦄, i.clock.Measures → Behaves p i es r j →
    ∃ names, Tracked i.ledger.store j.ledger.store es names

theorem tracked_of_course {α : Type} {grounds : Grounds} {may : Check → Prop} {before after : Store}
    {es : List Happening} {r : Except Fault α} {names : List String}
    (course : Course grounds may (held (before.get? cacheKey)) es r names)
    (grown : Grows names before after) : Tracked before after es names := by
  refine ⟨tells_course course, grown, fun excess unknown => ?_⟩
  rw [unknown] at course
  cases course with
  | quiet calls => exact pulls_of_beside (fun e member => isBeside_of_isQuiet (calls e member)) none
  | @checked check front middle back q _ _ subject early checked late failed =>
    have asleep : middle = [] := by
      cases checked with
      | refused | unreadable => rfl
      | unanswered known | skipped known | pulled known => cases known
    subst asleep
    rw [List.append_nil]
    have calls := List.forall_mem_append.2 ⟨early, late⟩
    exact pulls_of_beside (fun e member => isBeside_of_isQuiet (calls e member)) none

/-! ### Programs one after the other -/

section composition

variable {α β : Type}

theorem tracks_of_courses {grounds : Grounds} {may : Check → Prop} {handle : Handler} {p : Build α}
    (courses : Courses grounds may handle p) : Tracks (p.interpret handle) := by
  intro i j es r measures h
  obtain ⟨names, course, grown⟩ := courses measures h
  exact ⟨names, tracked_of_course course grown⟩

theorem tracks_quiet {p : Build α} (quiet : Quiet p) : Tracks p := by
  intro i j es r _ h
  obtain ⟨calls, kept⟩ := behaves_confined quiet h
  have beside : ∀ e ∈ es, e.call.isBeside = true := fun e member => isBeside_of_isQuiet (calls e member)
  exact ⟨[], tells_quiet calls, kept ▸ Grows.refl _, fun _ _ => pulls_of_beside beside none⟩

theorem tracks_bind {p : Build α} {f : α → Build β} (first : Tracks p) (rest : ∀ value, Tracks (f value)) :
    Tracks (p >>= f) := by
  intro i j es r measures h
  rcases behaves_bind h with ⟨fault, head, rfl⟩ | ⟨value, k, front, back, head, tail, rfl⟩
  · exact first measures head
  · obtain ⟨names, early⟩ := first measures head
    obtain ⟨later, late⟩ := rest value (behaves_measures measures head) tail
    exact ⟨names ++ later, early.append late⟩

theorem tracks_outcome {p : Build α} (tracks : Tracks p) : Tracks p.outcome := by
  intro i j es r measures h
  obtain ⟨q, rfl, whole⟩ := behaves_outcome h
  exact tracks measures whole

end composition

/-! ### Several images -/

theorem tracks_buildOne (image : Image) (context : Context) (nocache : Option String) :
    Tracks (buildOne image context nocache) := by
  rw [← interpret_attempt (buildOne image context nocache)]
  exact tracks_of_courses (courses_buildOne attends_attempt image context nocache)

theorem tracks_buildEach (context : Context) (nocache : Option String) (images : List Image) :
    Tracks (buildEach context nocache images) := by
  induction images with
  | nil => exact tracks_quiet (confined_pure _)
  | cons image images ih =>
    exact tracks_bind (tracks_outcome (tracks_buildOne image context nocache)) fun _ =>
      tracks_bind ih fun _ => tracks_quiet (confined_pure _)

theorem quiet_gather (ids : Table (Option String))
    (results : List (Image × Except Fault (Option String))) : Quiet (gather ids results) := by
  induction results generalizing ids with
  | nil => exact confined_pure _
  | cons result results ih =>
    obtain ⟨image, id | fault⟩ := result
    · exact confined_bind (confined_note _) fun _ => ih ids
    · exact ih _

theorem tracks_buildAll (images : List Image) (context : Context) (nocache : Option String)
    (workers : Option Int) : Tracks (buildAll images context nocache workers) := by
  unfold buildAll
  split
  · exact tracks_quiet (confined_pure _)
  · refine tracks_bind (tracks_quiet (confined_note _)) fun _ => ?_
    split
    · exact tracks_quiet trivial
    · refine tracks_bind (tracks_buildEach context nocache images) fun results => ?_
      refine tracks_bind (tracks_quiet (quiet_gather .empty results)) fun ids => ?_
      split
      · exact tracks_quiet trivial
      · exact tracks_quiet (confined_pure _)

end ImageBuild.Workflow
