import ImageBuild.Proofs.Session.Play

namespace ImageBuild.Workflow

open Program Cache
open Text (Points)

def Task.decided (task : Task) : Build Unit := task.program.interpret (Script.handle true)

/-- A play checks an image: as its task, or because it asks about it. -/
def Played.Checks (played : Played Task) (policy : Option String) (image : String) (alwaysAllowed : Bool) :
    Prop :=
  (∃ registry context, context.autoPull = policy ∧
    played.task = .check ⟨image, registry, alwaysAllowed, context⟩) ∨
  ∃ cached answer, ⟨.requiresPull policy image alwaysAllowed cached, answer⟩ ∈ played.events

/-- A play calls for a pull, whatever comes of it. -/
def Played.Pulls (played : Played Task) : Prop :=
  ∃ reference login registry answer, ⟨.pull reference login registry, answer⟩ ∈ played.events

def Played.HasPulled (played : Played Task) : Prop :=
  ∃ reference login registry, ⟨.pull reference login registry, .ok ()⟩ ∈ played.events

def isDonePull : Happening → Bool
  | ⟨.pull .., answer⟩ => answer.isOk
  | _ => false

theorem hasPulled_iff (played : Played Task) :
    played.HasPulled ↔ ∃ e ∈ played.events, isDonePull e = true := by
  refine ⟨fun ⟨_, _, _, member⟩ => ⟨_, member, rfl⟩, fun ⟨e, member, succeeds⟩ => ?_⟩
  obtain ⟨call, answer⟩ := e
  cases call with
  | pull reference login registry =>
    cases answer with
    | ok value => exact ⟨reference, login, registry, member⟩
    | error fault => cases succeeds
  | _ => cases succeeds

instance decidableHasPulled (played : Played Task) : Decidable played.HasPulled :=
  decidable_of_iff _ (hasPulled_iff played).symm

theorem verdict_of_cached {mode : Pull.Policy} {allowed : Bool} (pulls : mode.verdict allowed true ≠ .skip) :
    mode = .always ∧ allowed = true := by
  cases mode <;> cases allowed <;> first | exact ⟨rfl, rfl⟩ | exact absurd rfl pulls

theorem checks_eq {played : Played Task} {check : Check} {cache : PullCache} {policy : Option String}
    {image : String} {allowed : Bool} (subject : played.task.mayCheck check)
    (questions : ∀ e ∈ played.events, e.call.isQuestion = true → e.call = check.question cache)
    (checks : played.Checks policy image allowed) :
    policy = check.context.autoPull ∧ image = check.image ∧ allowed = check.alwaysAllowed := by
  rcases checks with ⟨registry, context, rfl, same⟩ | ⟨cached, answer, member⟩
  · rw [same] at subject
    obtain rfl : check = ⟨image, registry, allowed, context⟩ := subject
    exact ⟨rfl, rfl, rfl⟩
  · have asked := questions _ member rfl
    simp only [Check.question, Call.requiresPull.injEq] at asked
    exact ⟨asked.1, asked.2.1, asked.2.2.1⟩

theorem tracks_decided (task : Task) : Tracks task.decided :=
  tracks_of_courses (courses_task attends_script task)

theorem mem_pulledImages {played : Played Task} {policy : Option String} {image : String} {allowed : Bool}
    {k l : Inside} (measures : k.clock.Measures)
    (behaves : Behaves played.task.decided k played.events played.outcome l)
    (checks : played.Checks policy image allowed) (pulled : played.HasPulled) :
    image ∈ pulledImages played.events := by
  obtain ⟨names, course, -⟩ := courses_task attends_script played.task measures behaves
  obtain ⟨reference, login, registry, member⟩ := pulled
  rcases pulling_of_course course with ⟨none, -⟩ | ⟨check, cache, name, part, q, subject, -, -, pulling, -⟩
  · cases none _ member
  · obtain ⟨-, rfl, -⟩ := checks_eq subject pulling.questions checks
    obtain ⟨rfl, -, -⟩ := recorded_of_pull pulling.pulled (pulling.pulls _ member rfl)
    rw [(tells_course course).images]
    exact List.mem_singleton_self _

theorem no_second_pull {W : Type} (answers : Answers surroundings W) (tasks : List Task)
    (s : State surroundings W) (measures : s.clock.Measures) {before after : List (Played Task)}
    {played : Played Task} (plays : play answers Task.decided tasks s = before ++ played :: after) :
    played.events.countP (fun e => e.call.isPull) ≤ 1 ∧
    (played.Pulls → ∃ policy image allowed, played.Checks policy image allowed) ∧
    ∀ policy image allowed, played.Checks policy image allowed →
      (Pull.Policy.parse policy = .ok .off → ¬ played.Pulls) ∧
      ((∃ start, PullCache.parse (s.ledger.store.get? cacheKey) = .ok start ∧ (image : Points) ∈ start.names) ∨
          (∃ earlier ∈ before, earlier.HasPulled ∧ ∃ policy allowed, earlier.Checks policy image allowed) →
        ¬ (Pull.Policy.parse policy = .ok .always ∧ allowed = true) → ¬ played.Pulls) := by
  obtain ⟨j, session⟩ := play_session answers Task.decided tasks s
  rw [plays] at session
  obtain ⟨k, l, earlier, behaves, -⟩ := session_split session
  have running := session_measures earlier measures
  obtain ⟨names, course, -⟩ := courses_task attends_script played.task running behaves
  have tracked := session_tracked tracks_decided measures earlier
  refine ⟨countP_pull_of_course course, ?_⟩
  rcases pulling_of_course course with
    ⟨none, -⟩ | ⟨check, cache, name, part, q, subject, known, ⟨mode, parsed, wanted⟩, pulling, -⟩
  · have idle : ¬ played.Pulls := by
      rintro ⟨reference, login, registry, answer, member⟩
      cases none _ member
    exact ⟨fun pulls => absurd pulls idle, fun _ _ _ _ => ⟨fun _ => idle, fun _ _ => idle⟩⟩
  obtain ⟨answer, asked⟩ := pulling.asked
  refine ⟨fun _ => ⟨_, _, _, .inr ⟨cache, answer, asked⟩⟩, fun policy image allowed checks => ?_⟩
  obtain ⟨rfl, rfl, rfl⟩ := checks_eq subject pulling.questions checks
  refine ⟨fun off => ?_, fun gone conditional => ?_⟩
  · obtain rfl : mode = .off := Except.ok.inj (parsed.symm.trans off)
    exact absurd rfl wanted
  · -- the cache that was asked holds the images of the first text and what has been pulled since
    obtain ⟨start, began, members⟩ := tracked.grows.mem known
    have present : (check.image : Points) ∈ cache.names := by
      rw [members]
      rcases gone with ⟨first, read, inside⟩ | ⟨one, member, pulled, policy, allowed, checked⟩
      · obtain rfl := Except.ok.inj (began.symm.trans (held_of_parse read))
        exact .inr inside
      · obtain ⟨m, n, measured, behaved⟩ := session_member earlier measures member
        have recorded := mem_pulledImages measured behaved checked pulled
        exact .inl (List.mem_map_of_mem (List.mem_flatMap.2 ⟨one, member, recorded⟩))
    have cached : cache.contains check.image = true := List.contains_iff_mem.2 present
    rw [cached] at wanted
    obtain ⟨rfl, allowed⟩ := verdict_of_cached wanted
    exact absurd ⟨parsed, allowed⟩ conditional

theorem no_second_pull_alpine :
    ∃ first second,
      play Script.answers Task.decided [.check alpine, .check alpine] (.start plainScript .empty (.ofList [])) =
        [first, second] ∧ first.HasPulled ∧ ¬ second.Pulls := by
  refine ⟨_, _, rfl, by decide +kernel, ?_⟩
  have once := no_second_pull Script.answers [.check alpine, .check alpine]
    (.start plainScript .empty (.ofList [])) measures_stopped (show _ = [_] ++ _ :: [] from rfl)
  have checks {p : Played Task} (task : p.task = .check alpine) : p.Checks none "alpine" false :=
    .inl ⟨none, bareContext, rfl, task⟩
  refine (once.2.2 none "alpine" false (checks rfl)).2 (.inr ⟨_, List.mem_singleton_self _, ?_, ?_⟩) ?_
  · decide +kernel
  · exact ⟨none, false, checks rfl⟩
  · decide

end ImageBuild.Workflow
