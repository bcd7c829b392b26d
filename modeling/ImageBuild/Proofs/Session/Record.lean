import ImageBuild.Proofs.Session.Play

namespace ImageBuild.Workflow

open Program Cache Config
open Text (Points)

/-- A request: one task, or several images by one worker. -/
inductive Request where
  | one (task : Task)
  | all (images : List Image) (context : Context) (nocache : Option String)

def Request.program : Request → Build Unit
  | one task => task.program
  | all images context nocache => buildAll images context nocache (some 1) >>= fun _ => pure ()

theorem tracks_request (request : Request) : Tracks request.program := by
  cases request with
  | one task =>
    have tracks := tracks_of_courses (courses_task attends_attempt task)
    rwa [interpret_attempt] at tracks
  | all images context nocache =>
    exact tracks_bind (tracks_buildAll images context nocache (some 1)) fun _ => tracks_quiet (confined_pure _)

/-- After every request the cache holds the images of its first text and those pulled since. A text
that breaks a limit of the reader is reported by every loading, and then nothing is pulled. -/
theorem cache_holds_pulled {W : Type} (answers : Answers surroundings W) (requests : List Request)
    (s : State surroundings W) (measures : s.clock.Measures) {before after : List (Played Request)}
    {played : Played Request} (plays : play answers Request.program requests s = before ++ played :: after) :
    (∀ key ≠ cacheKey, played.store.get? key = s.ledger.store.get? key) ∧
    (∀ made ∈ pulls none played.events, made.Genuine) ∧
    (∀ start, held (s.ledger.store.get? cacheKey) = .ok start →
      ∀ log, ∃ cache, (load.run.run ⟨played.store, log⟩).1 = .ok cache ∧
        ∀ name, name ∈ cache.names ↔
          name ∈ start.names ∨
            ∃ one ∈ before ++ [played], ∃ image ∈ pulledImages one.events, (image : Points) = name) ∧
    (∀ excess, held (s.ledger.store.get? cacheKey) = .error excess →
      pulls none played.events = [] ∧
      ∀ log, (load.run.run ⟨played.store, log⟩).1 = .error (.excess excess)) := by
  have tracked := play_tracked tracks_request measures plays
  have told (log : List Log.Record) := (run_load cacheKey ⟨played.store, log⟩).1
  obtain ⟨j, session⟩ := play_session answers Request.program requests s
  rw [plays] at session
  obtain ⟨k, l, earlier, behaves, -⟩ := session_split session
  have first := session_tracked tracks_request measures earlier
  obtain ⟨names, own⟩ := tracks_request played.task (session_measures earlier measures) behaves
  refine ⟨tracked.grows.others, own.tells.genuine, fun start began log => ?_, fun excess began => ⟨?_, fun log => ?_⟩⟩
  · have loaded := told log
    rw [tracked.grows.cache, began] at loaded
    refine ⟨_, loaded, fun name => ?_⟩
    rw [PullCache.mem_foldl_add, or_comm, List.mem_map]
    refine or_congr_right ⟨?_, ?_⟩
    · rintro ⟨image, recorded, same⟩
      obtain ⟨one, member, pulled⟩ := List.mem_flatMap.1 recorded
      exact ⟨one, member, image, pulled, same⟩
    · rintro ⟨one, member, image, pulled, same⟩
      exact ⟨image, List.mem_flatMap.2 ⟨one, member, pulled⟩, same⟩
  · have still : held (k.ledger.store.get? cacheKey) = .error excess := by
      rw [first.grows.cache]
      change (held (s.ledger.store.get? cacheKey)).map _ = _
      rw [began]
      rfl
    exact own.barred excess still
  · rw [told log, tracked.grows.cache, began]
    rfl

theorem cache_holds_pulled_alpine :
    ∃ played, play Script.answers Request.program [.one (.check alpine)]
        (.start plainScript .empty (.ofList [])) = [played] ∧
      ∃ cache, (load.run.run ⟨played.store, []⟩).1 = .ok cache ∧ ("alpine" : Points) ∈ cache.names := by
  refine ⟨_, rfl, ?_⟩
  have whole := cache_holds_pulled Script.answers [.one (.check alpine)]
    (.start plainScript .empty (.ofList [])) measures_stopped (show _ = [] ++ _ :: [] from rfl)
  obtain ⟨cache, loaded, members⟩ := whole.2.2.1 .empty rfl []
  refine ⟨cache, loaded, (members "alpine").2 (.inr ⟨_, List.mem_singleton_self _, "alpine", ?_, rfl⟩)⟩
  decide +kernel

/-! ### Texts that break a limit -/

theorem unclosed_stays {digits : Nat} (many : Json.maxDigits < digits) {W : Type}
    (answers : Answers surroundings W) (world : W) (request : Request) {played : Played Request}
    (plays : play answers Request.program [request]
      (.start world (.ofList [(cacheKey, unclosed digits)]) (.ofList [])) = [] ++ played :: [])
    (log : List Log.Record) :
    (load.run.run ⟨played.store, log⟩).1 = .error (.excess (.digits digits)) := by
  have tracked := play_tracked tracks_request measures_stopped plays
  have began : held ((Data.Table.ofList [(cacheKey, unclosed digits)]).get? cacheKey) = .error (.digits digits) :=
    held_unclosed many
  rw [(run_load cacheKey _).1, tracked.grows.cache]
  change ((held ((Data.Table.ofList [(cacheKey, unclosed digits)]).get? cacheKey)).map _).mapError _ = _
  rw [began]
  rfl

/-- A malformed text does not always count as an empty cache: with more digits than are read, loading
it fails, before the request as after it. -/
theorem malformed_not_empty :
    ∃ played, play Script.answers Request.program [.one (.check alpine)]
        (.start plainScript (.ofList [(cacheKey, unclosed 4301)]) (.ofList [])) = [played] ∧
      ∀ log, (load.run.run ⟨played.store, log⟩).1 = .error (.excess (.digits 4301)) :=
  ⟨_, play_single .., unclosed_stays (by decide) Script.answers plainScript (.one (.check alpine)) (play_single ..)⟩

end ImageBuild.Workflow
