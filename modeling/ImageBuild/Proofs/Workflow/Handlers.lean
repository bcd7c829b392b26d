import ImageBuild.Proofs.Cache.Held
import ImageBuild.Proofs.Clock
import ImageBuild.Proofs.Workflow.Stages
import ImageBuild.Workflow.Script

/-!
# Handlers

A handler that attends to a build makes each call that the build makes, tells the build how it
ended, and leaves the store alone. Only for the question whether to pull may it look up images and
decide by itself.
-/

namespace ImageBuild.Workflow

open Program Cache

abbrev Handler := (call : Call) → Build (Except Fault call.Answer)

abbrev Happening := Event surroundings

def Call.isQuestion : Call → Bool
  | requiresPull .. => true
  | _ => false

def Call.isLookup : Call → Bool
  | hasImage _ => true
  | _ => false

theorem isQuestion_of_isQuiet {call : Call} (quiet : call.isQuiet = true) : call.isQuestion = false := by
  cases call <;> first | rfl | cases quiet

/-- When an image may be pulled: what holds of a policy, an image, a flag and the cache. -/
abbrev Grounds := Option String → String → Bool → PullCache → Prop

structure Attends (grounds : Grounds) (handle : Handler) : Prop where
  makes : ∀ {call : Call} {i j : Inside} {es : List Happening} {r : Except Fault (Except Fault call.Answer)},
    Behaves (handle call) i es r j →
      ∃ answer told asides, es = ⟨call, answer⟩ :: asides ∧ r = .ok told ∧
        j.ledger.store = i.ledger.store ∧ (∀ e ∈ asides, e.call.isLookup = true) ∧
        (call.isQuestion = false → asides = [] ∧ told = answer)
  decides : ∀ {policy : Option String} {image : String} {allowed : Bool} {cached : PullCache}
    {i j : Inside} {es : List Happening},
    Behaves (handle (.requiresPull policy image allowed cached)) i es (.ok (.ok true)) j →
      grounds policy image allowed cached

section behaviours

variable {α : Type} {grounds : Grounds} {handle : Handler} {i j : Inside} {es : List Happening}

/-- A call is made and answered by the handler, and the program goes on with what it is told. -/
theorem behaves_handled {call : Call} {next : Except Fault call.Answer → Build α} {r : Except Fault α}
    (attends : Attends grounds handle) (h : Behaves (handle call >>= next) i es r j) :
    ∃ answer asides told k rest, es = ⟨call, answer⟩ :: (asides ++ rest) ∧
      (∀ e ∈ asides, e.call.isLookup = true) ∧ k.ledger.store = i.ledger.store ∧
      k.clock.readings ⊆ i.clock.readings ∧ (∃ front, Behaves (handle call) i front (.ok told) k) ∧
      (call.isQuestion = false → asides = [] ∧ told = answer) ∧ Behaves (next told) k rest r j := by
  rcases behaves_bind h with ⟨fault, head, _⟩ | ⟨told, k, first, rest, head, tail, rfl⟩
  · obtain ⟨_, _, _, _, impossible, _⟩ := attends.makes head
    cases impossible
  · obtain ⟨answer, told', asides, rfl, ended, kept, lookups, plain⟩ := attends.makes head
    obtain rfl := Except.ok.inj ended
    exact ⟨answer, asides, told, k, rest, rfl, lookups, kept, behaves_readings head, ⟨_, head⟩, plain, tail⟩

theorem behaves_ask_bind {call : Call} {f : call.Answer → Build α} {r : Except Fault α}
    (attends : Attends grounds handle) (h : Behaves ((ask call >>= f).interpret handle) i es r j) :
    ∃ answer asides told k rest, es = ⟨call, answer⟩ :: (asides ++ rest) ∧
      (∀ e ∈ asides, e.call.isLookup = true) ∧ k.ledger.store = i.ledger.store ∧
      k.clock.readings ⊆ i.clock.readings ∧ (∃ front, Behaves (handle call) i front (.ok told) k) ∧
      (call.isQuestion = false → asides = [] ∧ told = answer) ∧
      ((∃ fault, told = .error fault ∧ rest = [] ∧ r = .error fault ∧ j = k) ∨
        ∃ value, told = .ok value ∧ Behaves ((f value).interpret handle) k rest r j) := by
  obtain ⟨answer, asides, told, k, rest, made, lookups, kept, readings, handled, plain, tail⟩ :=
    behaves_handled attends h
  refine ⟨answer, asides, told, k, rest, made, lookups, kept, readings, handled, plain, ?_⟩
  cases told with
  | ok value => exact .inr ⟨value, rfl, tail⟩
  | error fault =>
    obtain ⟨rfl, rfl, rfl⟩ := behaves_failed tail
    exact .inl ⟨fault, rfl, rfl, rfl, rfl⟩

theorem behaves_plain_bind {call : Call} {f : call.Answer → Build α} {r : Except Fault α}
    (attends : Attends grounds handle) (plain : call.isQuestion = false)
    (h : Behaves ((ask call >>= f).interpret handle) i es r j) :
    (∃ fault, es = [⟨call, .error fault⟩] ∧ r = .error fault ∧ j.ledger.store = i.ledger.store) ∨
    ∃ value k rest, es = ⟨call, .ok value⟩ :: rest ∧ k.ledger.store = i.ledger.store ∧
      k.clock.readings ⊆ i.clock.readings ∧ Behaves ((f value).interpret handle) k rest r j := by
  obtain ⟨answer, asides, told, k, rest, rfl, -, kept, readings, -, alone, ended⟩ :=
    behaves_ask_bind attends h
  obtain ⟨rfl, rfl⟩ := alone plain
  rcases ended with ⟨fault, rfl, rfl, rfl, rfl⟩ | ⟨value, rfl, tail⟩
  · exact .inl ⟨fault, rfl, rfl, kept⟩
  · exact .inr ⟨value, k, rest, rfl, kept, readings, tail⟩

theorem behaves_question_bind {policy : Option String} {image : String} {allowed : Bool}
    {cached : PullCache} {f : Bool → Build α} {r : Except Fault α} (attends : Attends grounds handle)
    (h : Behaves (((ask (.requiresPull policy image allowed cached) : Build Bool) >>= f).interpret handle)
      i es r j) :
    ∃ answer asides k rest, es = ⟨.requiresPull policy image allowed cached, answer⟩ :: (asides ++ rest) ∧
      (∀ e ∈ asides, e.call.isLookup = true) ∧ k.ledger.store = i.ledger.store ∧
      k.clock.readings ⊆ i.clock.readings ∧
      ((∃ fault, rest = [] ∧ r = .error fault ∧ j = k) ∨
        ∃ wanted, (wanted = true → grounds policy image allowed cached) ∧
          Behaves ((f wanted).interpret handle) k rest r j) := by
  obtain ⟨answer, asides, told, k, rest, made, lookups, kept, readings, ⟨front, handled⟩, -, ended⟩ :=
    behaves_ask_bind attends h
  refine ⟨answer, asides, k, rest, made, lookups, kept, readings, ?_⟩
  rcases ended with ⟨fault, -, rfl, rfl, rfl⟩ | ⟨wanted, rfl, tail⟩
  · exact .inl ⟨fault, rfl, rfl, rfl⟩
  · refine .inr ⟨wanted, ?_, tail⟩
    rintro rfl
    exact attends.decides handled

theorem behaves_elapsed_bind {earlier : Clock} {start : Float} {f : String → Build α}
    {r : Except Fault α} (measures : earlier.Measures) (read : start ∈ earlier.readings)
    (later : i.clock.readings ⊆ earlier.readings)
    (h : Behaves ((elapsed start >>= f).interpret handle) i es r j) :
    ∃ text k, k.ledger.store = i.ledger.store ∧ Behaves ((f text).interpret handle) k es r j := by
  obtain ⟨text, told⟩ := measures.text read (later (Clock.millis_mem_readings i.clock))
  rcases behaves_ofExcept_bind (behaves_now_bind h) with ⟨error, unknown, _⟩ | ⟨found, _, tail⟩
  · rw [told] at unknown
    cases unknown
  · exact ⟨found, ⟨i.ledger, i.clock.millis.2⟩, rfl, tail⟩

theorem behaves_quiet {p : Build α} {r : Except Fault α} (attends : Attends grounds handle)
    (quiet : Quiet p) (h : Behaves (p.interpret handle) i es r j) :
    (∀ e ∈ es, e.call.isQuiet = true) ∧ j.ledger.store = i.ledger.store := by
  induction p generalizing i es with
  | done | failed =>
    cases h
    exact ⟨by simp, rfl⟩
  | perform call next ih =>
    obtain ⟨answer, asides, told, k, rest, rfl, -, kept, -, -, plain, tail⟩ := behaves_handled attends h
    have silent : call.isQuestion = false := isQuestion_of_isQuiet quiet.1
    obtain ⟨rfl, -⟩ := plain silent
    obtain ⟨calls, later⟩ := ih told (quiet.2 told) tail
    exact ⟨List.forall_mem_cons.2 ⟨quiet.1, calls⟩, later.trans kept⟩
  | ledger change next ih =>
    cases h with
    | ledger rest =>
      obtain ⟨calls, kept⟩ := ih _ (quiet.2 _) rest
      exact ⟨calls, kept.trans (quiet.1 _)⟩
  | time next ih =>
    cases h with
    | time rest =>
      obtain ⟨calls, kept⟩ := ih _ (quiet _) rest
      exact ⟨calls, kept⟩

theorem behaves_handled_outcome {p : Build α} {r : Except Fault (Except Fault α)}
    (attends : Attends grounds handle) (h : Behaves (p.outcome.interpret handle) i es r j) :
    ∃ q, r = .ok q ∧ Behaves (p.interpret handle) i es q j := by
  induction p generalizing i es with
  | done | failed =>
    cases h
    exact ⟨_, rfl, by constructor⟩
  | perform call next ih =>
    rcases behaves_bind h with ⟨fault, head, _⟩ | ⟨told, k, first, rest, head, tail, rfl⟩
    · obtain ⟨_, _, _, _, impossible, _⟩ := attends.makes head
      cases impossible
    · obtain ⟨q, same, later⟩ := ih told tail
      exact ⟨q, same, behaves_then head later⟩
  | ledger change next ih =>
    cases h with
    | ledger rest =>
      obtain ⟨q, same, later⟩ := ih _ rest
      exact ⟨q, same, .ledger later⟩
  | time next ih =>
    cases h with
    | time rest =>
      obtain ⟨q, same, later⟩ := ih _ rest
      exact ⟨q, same, .time later⟩

end behaviours

/-! ### Two handlers -/

theorem attends_attempt : Attends (fun _ _ _ _ => True) (Program.attempt (I := surroundings)) where
  makes h := by
    obtain ⟨answer, rfl, rfl, rfl⟩ := behaves_attempt h
    exact ⟨answer, answer, [], rfl, rfl, rfl, by simp, fun _ => ⟨rfl, rfl⟩⟩
  decides _ := trivial

/-- The policy can be read and does not say to skip the image. -/
def MayPull : Grounds := fun policy image allowed cached =>
  ∃ mode, Pull.Policy.parse policy = .ok mode ∧ mode.verdict allowed (cached.contains image) ≠ .skip

theorem confined_decide {I : Interface} {may : I.Call → Prop} {hasImage : String → Program I Bool}
    (looks : ∀ name, (hasImage name).Confined may) (policy : Option String) (image : String) (allowed : Bool)
    (cached : PullCache) : (Pull.decide hasImage policy image allowed cached).Confined may := by
  unfold Pull.decide
  refine confined_bind (confined_ofExcept _ _) fun mode => ?_
  split
  · exact confined_pure _
  · refine confined_bind ?_ fun _ => confined_pure _
    exact confined_ite (fun _ => confined_note _) fun _ => confined_pure _
  · exact confined_bind (looks image) fun _ => confined_pure _

theorem confined_requiresPull (policy : Option String) (image : String) (allowed : Bool)
    (cached : PullCache) :
    (Pull.requiresPull policy image allowed cached).Confined fun call : Call => call.isLookup = true := by
  refine confined_decide ?_ policy image allowed cached
  intro name
  refine ⟨rfl, fun answer => ?_⟩
  cases answer <;> trivial

theorem mayPull_of_behaves {policy : Option String} {image : String} {allowed : Bool}
    {cached : PullCache} {i j : Inside} {es : List Happening}
    (h : Behaves (Pull.requiresPull policy image allowed cached) i es (.ok true) j) :
    MayPull policy image allowed cached := by
  unfold Pull.requiresPull Pull.decide at h
  rcases behaves_bind h with ⟨fault, _, impossible⟩ | ⟨mode, k, first, rest, head, tail, -⟩
  · cases impossible
  · obtain ⟨-, read, -⟩ := behaves_ofExcept head
    refine ⟨mode, mapError_eq_ok.1 read.symm, ?_⟩
    intro skipped
    rw [skipped] at tail
    rcases behaves_bind tail with ⟨fault, _, impossible⟩ | ⟨_, _, _, _, _, last, -⟩
    · cases impossible
    · obtain ⟨-, impossible, -⟩ := behaves_pure last
      cases impossible

theorem behaves_question {policy : Option String} {image : String} {allowed : Bool}
    {cached : PullCache} {i j : Inside} {es : List Happening} {r : Except Fault (Except Fault Bool)}
    (h : Behaves (Script.handle true (.requiresPull policy image allowed cached)) i es r j) :
    ∃ answer told asides, es = ⟨.requiresPull policy image allowed cached, answer⟩ :: asides ∧
      r = .ok told ∧ j.ledger.store = i.ledger.store ∧ (∀ e ∈ asides, e.call.isLookup = true) ∧
      (told = .ok true → MayPull policy image allowed cached) := by
  obtain ⟨answer, rest, rfl, tail⟩ := behaves_attempt_bind h
  cases answer with
  | ok _ =>
    obtain ⟨told, rfl, decided⟩ := behaves_outcome tail
    obtain ⟨lookups, kept⟩ := behaves_confined (confined_requiresPull policy image allowed cached) decided
    refine ⟨_, told, rest, rfl, rfl, kept, lookups, ?_⟩
    rintro rfl
    exact mayPull_of_behaves decided
  | error fault =>
    obtain ⟨rfl, rfl, rfl⟩ := behaves_pure tail
    exact ⟨_, .error fault, [], rfl, rfl, rfl, by simp, by simp⟩

theorem behaves_login {image : Reference} {registry : Option String} {isPush : Bool}
    {auth : Config.Auth} {present : Bool} {i j : Inside} {es : List Happening}
    {r : Except Fault (Except Fault (Option Login))}
    (h : Behaves (Script.handle present (.resolveLogin image registry isPush auth)) i es r j) :
    ∃ answer, es = [⟨.resolveLogin image registry isPush auth, answer⟩] ∧ r = .ok answer ∧
      j.ledger.store = i.ledger.store := by
  obtain ⟨answer, rest, rfl, tail⟩ := behaves_attempt_bind h
  cases answer with
  | ok login =>
    cases tail with
    | ledger noted =>
      obtain ⟨rfl, rfl, rfl⟩ := behaves_pure noted
      exact ⟨_, rfl, rfl, rfl⟩
  | error fault =>
    obtain ⟨rfl, rfl, rfl⟩ := behaves_pure tail
    exact ⟨_, rfl, rfl, rfl⟩

theorem attends_script : Attends MayPull (Script.handle true) where
  makes {call} := by
    intro i j es r h
    cases call with
    | requiresPull policy image allowed cached =>
      obtain ⟨answer, told, asides, made, ended, kept, lookups, -⟩ := behaves_question h
      exact ⟨answer, told, asides, made, ended, kept, lookups, by simp [Call.isQuestion]⟩
    | resolveLogin image registry isPush auth =>
      obtain ⟨answer, made, ended, kept⟩ := behaves_login h
      exact ⟨answer, answer, [], made, ended, kept, by simp, fun _ => ⟨rfl, rfl⟩⟩
    | _ => exact attends_attempt.makes h
  decides h := by
    obtain ⟨_, told, _, _, ended, _, _, mayPull⟩ := behaves_question h
    exact mayPull (Except.ok.inj ended).symm

end ImageBuild.Workflow
