import ImageBuild.Proofs.Workflow.Pulls

/-!
# Courses with one check

A build checks at most one image: quiet stages, the check, and quiet stages again. A failed check
ends the build. Programs put together of such parts are treated the same way, one lemma for each
way of putting them together.
-/

namespace ImageBuild.Workflow

open Program Cache Config

/-- Quiet events, or a check with quiet events around it. -/
inductive Course {α : Type} (grounds : Grounds) (may : Check → Prop) (cached : Except Json.Excess PullCache) :
    List Happening → Except Fault α → List String → Prop where
  | quiet {es : List Happening} {r : Except Fault α} (quiet : ∀ e ∈ es, e.call.isQuiet = true) :
      Course grounds may cached es r []
  | checked {check : Check} {front es back : List Happening} {q : Except Fault Unit} {r : Except Fault α}
      {names : List String} (subject : may check) (before : ∀ e ∈ front, e.call.isQuiet = true)
      (checked : Checked grounds check cached es q names) (after : ∀ e ∈ back, e.call.isQuiet = true)
      (failed : ∀ fault, q = .error fault → r = .error fault) :
      Course grounds may cached (front ++ es ++ back) r names

def Courses {α : Type} (grounds : Grounds) (may : Check → Prop) (handle : Handler) (p : Build α) : Prop :=
  ∀ ⦃i j : Inside⦄ ⦃es : List Happening⦄ ⦃r : Except Fault α⦄, i.clock.Measures →
    Behaves (p.interpret handle) i es r j →
      ∃ names, Course grounds may (held (i.ledger.store.get? cacheKey)) es r names ∧
        Grows names i.ledger.store j.ledger.store

section composition

variable {α β : Type} {grounds : Grounds} {may : Check → Prop} {handle : Handler}

theorem courses_quiet (attends : Attends grounds handle) {p : Build α} (quiet : Quiet p) :
    Courses grounds may handle p := by
  intro i j es r _ h
  obtain ⟨calls, kept⟩ := behaves_quiet attends quiet h
  exact ⟨[], .quiet calls, kept ▸ Grows.refl _⟩

theorem courses_check (attends : Attends grounds handle) {check : Check} (subject : may check) :
    Courses grounds may handle check.program := by
  intro i j es r measures h
  obtain ⟨names, checked, grown⟩ := behaves_check attends measures h
  have course : Course grounds may (held (i.ledger.store.get? cacheKey)) ([] ++ es ++ []) r names :=
    .checked subject (by simp) checked (by simp) fun _ failed => failed
  rw [List.nil_append, List.append_nil] at course
  exact ⟨names, course, grown⟩

theorem courses_quiet_bind (attends : Attends grounds handle) {p : Build α} {f : α → Build β}
    (quiet : Quiet p) (courses : ∀ value, Courses grounds may handle (f value)) :
    Courses grounds may handle (p >>= f) := by
  intro i j es r measures h
  rw [interpret_bind] at h
  rcases behaves_bind h with ⟨fault, head, rfl⟩ | ⟨value, k, first, rest, head, tail, rfl⟩
  · obtain ⟨calls, kept⟩ := behaves_quiet attends quiet head
    exact ⟨[], .quiet calls, kept ▸ Grows.refl _⟩
  · obtain ⟨calls, kept⟩ := behaves_quiet attends quiet head
    obtain ⟨names, course, grown⟩ := courses value (behaves_measures measures head) tail
    rw [kept] at course grown
    refine ⟨names, ?_, grown⟩
    cases course with
    | quiet later => exact .quiet (List.forall_mem_append.2 ⟨calls, later⟩)
    | checked subject before checked after failed =>
      rw [← List.append_assoc, ← List.append_assoc]
      exact .checked subject (List.forall_mem_append.2 ⟨calls, before⟩) checked after failed

theorem courses_bind_quiet (attends : Attends grounds handle) {p : Build α} {f : α → Build β}
    (courses : Courses grounds may handle p) (quiet : ∀ value, Quiet (f value)) :
    Courses grounds may handle (p >>= f) := by
  intro i j es r measures h
  rw [interpret_bind] at h
  rcases behaves_bind h with ⟨fault, head, rfl⟩ | ⟨value, k, first, rest, head, tail, rfl⟩
  · obtain ⟨names, course, grown⟩ := courses measures head
    refine ⟨names, ?_, grown⟩
    cases course with
    | quiet calls => exact .quiet calls
    | checked subject before checked after failed =>
      refine .checked subject before checked after fun other ended => ?_
      rw [Except.error.inj (failed other ended)]
  · obtain ⟨names, course, grown⟩ := courses measures head
    obtain ⟨calls, kept⟩ := behaves_quiet attends (quiet value) tail
    refine ⟨names, ?_, kept ▸ grown⟩
    cases course with
    | quiet early => exact .quiet (List.forall_mem_append.2 ⟨early, calls⟩)
    | checked subject before checked after failed =>
      rw [List.append_assoc]
      refine .checked subject before checked (List.forall_mem_append.2 ⟨after, calls⟩) fun other ended => ?_
      cases failed other ended

end composition

/-! ### The parts of a build -/

/-- The checks that a build makes: of a base image, which may be pulled without condition. -/
def ofBase (context : Context) (check : Check) : Prop :=
  check.registry = none ∧ check.alwaysAllowed = true ∧ check.context = context

section builds

variable {grounds : Grounds} {handle : Handler}

theorem courses_autoPullBase (attends : Attends grounds handle) (image : Image) (context : Context) :
    Courses grounds (ofBase context) handle (autoPullBase image context) := by
  rw [autoPullBase_eq]
  refine courses_quiet_bind attends (quiet_resolveBase image.build context) fun base => ?_
  unfold checkBase
  split
  · exact courses_quiet attends (confined_note _)
  · rename_i base
    split
    · exact courses_quiet attends (confined_note _)
    · have subject : ofBase context ⟨base, none, true, context⟩ := ⟨rfl, rfl, rfl⟩
      exact courses_check attends subject

theorem courses_buildOne (attends : Attends grounds handle) (image : Image) (context : Context)
    (nocache : Option String) : Courses grounds (ofBase context) handle (buildOne image context nocache) := by
  rw [buildOne_eq]
  refine courses_quiet_bind attends (confined_ofExcept _ _) fun _ => ?_
  refine courses_quiet_bind attends (confined_note _) fun _ => ?_
  refine courses_bind_quiet attends ?_ fun _ => quiet_afterPull image context nocache
  unfold prepare
  split
  · exact courses_quiet attends (confined_pure _)
  · exact courses_autoPullBase attends image context

end builds

/-! ### What a course tells -/

section readings

variable {α : Type} {grounds : Grounds} {may : Check → Prop} {cached : Except Json.Excess PullCache}
variable {es : List Happening} {names : List String}

theorem tells_course {r : Except Fault α} (course : Course grounds may cached es r names) : Tells es names := by
  cases course with
  | quiet calls => exact tells_quiet calls
  | checked subject before checked after failed =>
    have whole := ((tells_quiet before).append (tells_checked checked)).append (tells_quiet after)
    rwa [List.nil_append, List.append_nil] at whole

def Call.isPull : Call → Bool
  | pull .. => true
  | _ => false

theorem isPull_of_isQuiet {call : Call} (quiet : call.isQuiet = true) : call.isPull = false := by
  cases call <;> first | rfl | cases quiet

theorem isPull_of_isLookup {call : Call} (lookup : call.isLookup = true) : call.isPull = false := by
  cases call <;> first | rfl | cases lookup

theorem isQuestion_of_isLookup {call : Call} (lookup : call.isLookup = true) : call.isQuestion = false := by
  cases call <;> first | rfl | cases lookup

structure Pulling (check : Check) (cache : PullCache) (name : Reference) (es part : List Happening)
    (q : Except Fault Unit) (names : List String) : Prop where
  parsed : Reference.parse check.image = .ok name
  pulled : Pulled check name part q names
  inside : part ⊆ es
  pulls : ∀ e ∈ es, e.call.isPull = true → e ∈ part
  questions : ∀ e ∈ es, e.call.isQuestion = true → e.call = check.question cache
  asked : ∃ answer, ⟨check.question cache, answer⟩ ∈ es

theorem question_of_pulled {check : Check} {name : Reference} {r : Except Fault Unit}
    (pulled : Pulled check name es r names) : ∀ e ∈ es, e.call.isQuestion = false := by
  cases pulled <;> simp [Check.login, Check.pull, Call.isQuestion]

theorem pulling_of_checked {check : Check} {q : Except Fault Unit}
    (checked : Checked grounds check cached es q names) :
    (∀ e ∈ es, e.call.isPull = false) ∧ names = [] ∨
    ∃ cache name part, cached = .ok cache ∧
      grounds check.context.autoPull check.image check.alwaysAllowed cache ∧
      Pulling check cache name es part q names := by
  cases checked with
  | refused | unreadable => exact .inl ⟨by simp, rfl⟩
  | unanswered known lookups | skipped known lookups =>
    refine .inl ⟨List.forall_mem_cons.2 ⟨rfl, fun e member => ?_⟩, rfl⟩
    exact isPull_of_isLookup (lookups e member)
  | @pulled cache name answer asides part _ _ known lookups parsed grounded rest =>
    refine .inr ⟨cache, name, part, known, grounded, parsed, rest, ?_, ?_, ?_, answer, ?_⟩
    · intro e member
      exact List.mem_cons_of_mem _ (List.mem_append_right _ member)
    · intro e member pull
      rcases List.mem_cons.1 member with rfl | later
      · cases pull
      · rcases List.mem_append.1 later with aside | inside
        · rw [isPull_of_isLookup (lookups e aside)] at pull
          cases pull
        · exact inside
    · intro e member question
      rcases List.mem_cons.1 member with rfl | later
      · rfl
      · rcases List.mem_append.1 later with aside | inside
        · rw [isQuestion_of_isLookup (lookups e aside)] at question
          cases question
        · rw [question_of_pulled rest e inside] at question
          cases question
    · exact List.mem_cons_self

/-- Either a course pulls nothing, or it has a part in which the image of its check is pulled. -/
theorem pulling_of_course {r : Except Fault α} (course : Course grounds may cached es r names) :
    (∀ e ∈ es, e.call.isPull = false) ∧ names = [] ∨
    ∃ check cache name part q, may check ∧ cached = .ok cache ∧
      grounds check.context.autoPull check.image check.alwaysAllowed cache ∧
      Pulling check cache name es part q names ∧ ∀ fault, q = .error fault → r = .error fault := by
  cases course with
  | quiet calls => exact .inl ⟨fun e member => isPull_of_isQuiet (calls e member), rfl⟩
  | @checked check front middle back q _ _ subject before checked after failed =>
    have place {e : Happening} (member : e ∈ front ++ middle ++ back) :
        e.call.isQuiet = true ∨ e ∈ middle := by
      rcases List.mem_append.1 member with first | last
      · rcases List.mem_append.1 first with early | inside
        · exact .inl (before e early)
        · exact .inr inside
      · exact .inl (after e last)
    rcases pulling_of_checked checked with ⟨none, rfl⟩ | ⟨cache, name, part, known, grounded, pulling⟩
    · refine .inl ⟨fun e member => ?_, rfl⟩
      rcases place member with quiet | inside
      · exact isPull_of_isQuiet quiet
      · exact none e inside
    · have within : middle ⊆ front ++ middle ++ back := fun e member =>
        List.mem_append_left _ (List.mem_append_right _ member)
      obtain ⟨answer, asked⟩ := pulling.asked
      refine .inr ⟨check, cache, name, part, q, subject, known, grounded, ?_, failed⟩
      refine ⟨pulling.parsed, pulling.pulled, fun e member => within (pulling.inside member), ?_, ?_,
        answer, within asked⟩
      · intro e member pull
        rcases place member with quiet | inside
        · rw [isPull_of_isQuiet quiet] at pull
          cases pull
        · exact pulling.pulls e inside pull
      · intro e member question
        rcases place member with quiet | inside
        · rw [isQuestion_of_isQuiet quiet] at question
          cases question
        · exact pulling.questions e inside question

theorem countP_pull_of_course {r : Except Fault α} (course : Course grounds may cached es r names) :
    es.countP (fun e => e.call.isPull) ≤ 1 := by
  have none_of {es : List Happening} (none : ∀ e ∈ es, e.call.isPull = false) :
      es.countP (fun e => e.call.isPull) = 0 :=
    List.countP_eq_zero.2 fun e member => by rw [none e member]; simp
  cases course with
  | quiet calls =>
    rw [none_of fun e member => isPull_of_isQuiet (calls e member)]
    omega
  | @checked check front middle back q _ _ subject before checked after failed =>
    rw [List.countP_append, List.countP_append, none_of fun e member => isPull_of_isQuiet (before e member),
      none_of fun e member => isPull_of_isQuiet (after e member)]
    cases checked with
    | refused | unreadable => simp
    | unanswered known lookups | skipped known lookups =>
      rw [List.countP_cons, none_of fun e member => isPull_of_isLookup (lookups e member)]
      exact Nat.le_succ_of_le (Nat.le_refl 0)
    | pulled known lookups parsed grounded rest =>
      rw [List.countP_cons, List.countP_append, none_of fun e member => isPull_of_isLookup (lookups e member)]
      cases rest <;> simp [Check.question, Check.login, Check.pull, Call.isPull]

end readings

end ImageBuild.Workflow
