import ImageBuild.Proofs.Session.Play

namespace ImageBuild.Workflow

open Program Cache
open Text (Points)

theorem courses_plain (task : Task) {i j : Inside} {es : List Happening} {r : Except Fault Unit}
    (measures : i.clock.Measures) (h : Behaves task.program i es r j) :
    ∃ names, Course (fun _ _ _ _ => True) task.mayCheck (held (i.ledger.store.get? cacheKey)) es r names ∧
      Grows names i.ledger.store j.ledger.store := by
  rw [← interpret_attempt task.program] at h
  exact courses_task attends_attempt task measures h

/-- A pull from a server that the name does not show is followed by the tag, within the same course. -/
theorem alias_of_course {α : Type} {grounds : Grounds} {may : Check → Prop}
    {cached : Except Json.Excess PullCache} {es : List Happening} {r : Except Fault α} {names : List String}
    {image reference server : String} {name : Reference} {login : Option Login}
    (course : Course grounds may cached es r names) (recorded : image ∈ names)
    (parsed : Reference.parse image = .ok name) (short : name.hasRegistry = false)
    (pulled : ⟨.pull reference login (some server), .ok ()⟩ ∈ es) :
    ∃ answer, ⟨.tag (server ++ "/" ++ name.withLatest) image false, answer⟩ ∈ es ∧
      (answer = .ok () ∨ ∃ fault, answer = .error fault ∧ r = .error fault) := by
  rcases pulling_of_course course with ⟨none, -⟩ | ⟨check, cache, found, part, q, -, -, -, pulling, failed⟩
  · cases none _ pulled
  obtain ⟨rfl, -, distant⟩ := recorded_of_pull pulling.pulled (pulling.pulls _ pulled rfl)
  obtain rfl := List.mem_singleton.1 recorded
  obtain rfl := Except.ok.inj (parsed.symm.trans pulling.parsed)
  obtain ⟨answer, tagged, ended⟩ := tag_of_pulled pulling.pulled rfl distant.symm short
  refine ⟨answer, pulling.inside tagged, ?_⟩
  cases answer with
  | ok => exact .inl rfl
  | error fault => exact .inr ⟨fault, rfl, failed fault ended⟩

/-- From an empty cache on, whatever is cached under a name without a server was pulled in the
session; and where it was pulled from a server, it was tagged, or the task that pulled it ended
with the failure of the tag. -/
theorem alias_of_cached {W : Type} (answers : Answers surroundings W) (tasks : List Task)
    (s : State surroundings W) (measures : s.clock.Measures)
    (empty : held (s.ledger.store.get? cacheKey) = .ok .empty) {before after : List (Played Task)}
    {played : Played Task} (plays : play answers Task.program tasks s = before ++ played :: after)
    {image : String} {name : Reference} (parsed : Reference.parse image = .ok name)
    (short : name.hasRegistry = false) (cached : ∃ log cache,
      (load.run.run ⟨played.store, log⟩).1 = .ok cache ∧ (image : Points) ∈ cache.names) :
    (∃ one ∈ before ++ [played], image ∈ pulledImages one.events) ∧
    ∀ one ∈ before ++ [played], image ∈ pulledImages one.events →
      ∀ reference login server, ⟨.pull reference login (some server), .ok ()⟩ ∈ one.events →
        ∃ answer, ⟨.tag (server ++ "/" ++ name.withLatest) image false, answer⟩ ∈ one.events ∧
          (answer = .ok () ∨ ∃ fault, answer = .error fault ∧ one.outcome = .error fault) := by
  have tracks (task : Task) : Tracks task.program := by
    have interpreted := tracks_of_courses (courses_task attends_attempt task)
    rwa [interpret_attempt] at interpreted
  have tracked := play_tracked tracks measures plays
  obtain ⟨l, session, -⟩ := session_upto plays
  refine ⟨?_, fun one member recorded reference login server pulled => ?_⟩
  · obtain ⟨log, cache, loaded, inside⟩ := cached
    obtain ⟨told, -⟩ := run_load cacheKey ⟨played.store, log⟩
    rw [loaded, tracked.grows.cache, empty] at told
    obtain rfl := Except.ok.inj told
    rcases (PullCache.mem_foldl_add _ _ _).1 inside with pulled | early
    · obtain ⟨recorded, member, same⟩ := List.mem_map.1 pulled
      rw [Points.ofString_inj] at same
      rw [same] at member
      exact List.mem_flatMap.1 member
    · cases early
  · obtain ⟨k, m, running, behaves⟩ := session_member session measures member
    obtain ⟨names, course, -⟩ := courses_plain one.task running behaves
    rw [(tells_course course).images] at recorded
    exact alias_of_course course recorded parsed short pulled

def distantAlpine : Check := { alpine with registry := some "reg.io" }

theorem alias_of_cached_alpine :
    ∃ played, play Script.answers Task.program [.check distantAlpine]
        (.start plainScript .empty (.ofList [])) = [played] ∧
      ∃ one ∈ [played], "alpine" ∈ pulledImages one.events := by
  obtain ⟨name, parsed, short⟩ : ∃ name, Reference.parse "alpine" = .ok name ∧ name.hasRegistry = false :=
    ⟨⟨"alpine", none, "alpine", none, none⟩, by decide +kernel, rfl⟩
  refine ⟨_, rfl, ?_⟩
  have whole := alias_of_cached Script.answers [.check distantAlpine]
    (.start plainScript .empty (.ofList [])) measures_stopped rfl (show _ = [] ++ _ :: [] from rfl)
    parsed short ⟨[], ⟨["alpine"], by decide⟩, by decide +kernel, List.mem_singleton_self _⟩
  exact whole.1

def untagged : Script :=
  { plainScript with failing := .ofList [("tag", ⟨.daemon ⟨"tag refused", none⟩, some 1⟩)] }

def isDoneTag : Happening → Bool
  | ⟨.tag .., answer⟩ => answer.isOk
  | _ => false

/-- The cache keeps an image whose tag has failed, and the next check of it is content with that. -/
theorem cached_without_alias :
    ∃ first second, play Script.answers Task.program [.check distantAlpine, .check distantAlpine]
        (.start untagged .empty (.ofList [])) = [first, second] ∧
      pulledImages first.events = ["alpine"] ∧ first.outcome = .error (.daemon ⟨"tag refused", none⟩) ∧
      pulls none second.events = [] ∧ second.outcome = .ok () ∧
      (load.run.run ⟨second.store, []⟩).1 = .ok ⟨["alpine"], by decide⟩ ∧
      ∀ e ∈ first.events ++ second.events, isDoneTag e = false := by
  refine ⟨_, _, rfl, ?_⟩
  decide +kernel

end ImageBuild.Workflow
