import ImageBuild.Proofs.Cache.Held

namespace ImageBuild.Cache

open Text (Points)

/-- Records an image unless it is there, and loads what is there then. -/
def ensure (image key : String) : Step PullCache := do
  let present ← contains image key
  if present then load key
  else
    add image key
    load key

inductive Use where
  | load
  | contains (image : String)
  | add (image : String)
  | ensure (image : String)
  /-- Goes on with another service over the same store. -/
  | reopen
deriving DecidableEq

inductive Reply where
  | cache (cache : PullCache)
  | found (present : Bool)
  | done
deriving DecidableEq

namespace Use

def step (key : String) : Use → Step Reply
  | load => Reply.cache <$> Cache.load key
  | contains image => Reply.found <$> Cache.contains image key
  | add image => (fun _ => Reply.done) <$> Cache.add image key
  | ensure image => Reply.cache <$> Cache.ensure image key
  -- A service keeps nothing of its own beside the store and the key.
  | reopen => pure .done

def image? : Use → Option String
  | add image | ensure image => some image
  | load | contains _ | reopen => none

def isAdd : Use → Bool
  | add _ => true
  | _ => false

def reply (cache : PullCache) : Use → Reply
  | load | ensure _ => .cache cache
  | contains image => .found (cache.contains image)
  | add _ | reopen => .done

def grown (cache : PullCache) (use : Use) : PullCache := use.image?.elim cache fun image => cache.add image

def writes (cache : PullCache) : Use → Bool
  | add _ => true
  | ensure image => !cache.contains image
  | load | contains _ | reopen => false

end Use

theorem PullCache.add_of_contains {cache : PullCache} {image : Points} (present : cache.contains image = true) :
    cache.add image = cache := by
  have member : image ∈ cache.names := List.contains_iff_mem.1 present
  apply PullCache.ext
  intro name
  rw [PullCache.mem_add]
  exact ⟨fun either => either.elim (fun same => same ▸ member) id, .inr⟩

/-! ### One use -/

section steps

variable {key : String} {ledger : Ledger} {cache : PullCache}

theorem load_of_held (known : held (ledger.store.get? key) = .ok cache) :
    ∃ after, (load key).run.run ledger = (.ok cache, after) ∧ after.store = opened key ledger.store := by
  obtain ⟨told, kept⟩ := run_load key ledger
  rw [known] at told
  exact ⟨_, Prod.ext told rfl, kept⟩

theorem contains_of_held (known : held (ledger.store.get? key) = .ok cache) (image : String) :
    ∃ after, (contains image key).run.run ledger = (.ok (cache.contains image), after) ∧
      after.store = opened key ledger.store := by
  obtain ⟨after, loaded, kept⟩ := load_of_held known
  refine ⟨after, ?_, kept⟩
  unfold contains
  rw [run_bind, loaded]
  rfl

theorem add_of_held (known : held (ledger.store.get? key) = .ok cache) (image : String) :
    ∃ after, (add image key).run.run ledger = (.ok (), after) ∧
      after.store = (opened key ledger.store).put key (cache.add image).serialize := by
  obtain ⟨told, kept⟩ := run_add image key ledger
  rw [known] at told kept
  exact ⟨_, Prod.ext told rfl, kept⟩

theorem run_map {α β : Type} (f : α → β) (step : Step α) (ledger : Ledger) :
    (f <$> step).run.run ledger = ((step.run.run ledger).1.map f, (step.run.run ledger).2) := by
  have bound : f <$> step = step >>= fun value => pure (f value) := (bind_pure_comp f step).symm
  rw [bound, run_bind]
  rcases step.run.run ledger with ⟨_ | _, _⟩ <;> rfl

/-- The store after uses that leave this cache behind, and whether one of them has written it back. -/
structure Shows (key : String) (cache : PullCache) (written : Bool) (before after : Store) : Prop where
  held : held (after.get? key) = .ok cache
  others : ∀ other ≠ key, after.get? other = before.get? other
  text : written = true → after.get? key = some cache.serialize
  kept : written = false → ∀ text, before.get? key = some text → after.get? key = some text

theorem shows_refl {store : Store} (known : held (store.get? key) = .ok cache) :
    Shows key cache false store store :=
  ⟨known, fun _ _ => rfl, nofun, fun _ _ same => same⟩

theorem shows_opened {store : Store} (known : held (store.get? key) = .ok cache) :
    Shows key cache false store (opened key store) := by
  refine ⟨?_, fun other different => opened_other different store, nofun, ?_⟩
  · rw [held_opened]
    exact known
  · intro _ text same
    unfold opened
    rw [same]
    exact same

theorem shows_put (store : Store) (cache : PullCache) :
    Shows key cache true store ((opened key store).put key cache.serialize) := by
  have same : ((opened key store).put key cache.serialize).get? key = some cache.serialize := by
    rw [Data.Table.get?_put, if_pos rfl]
  refine ⟨?_, ?_, fun _ => same, nofun⟩
  · rw [same]
    exact held_serialize cache
  · intro other different
    rw [Data.Table.get?_put, if_neg different]
    exact opened_other different store

theorem Shows.trans {later : PullCache} {written rewritten : Bool} {before middle after : Store}
    (first : Shows key cache written before middle)
    (rest : Shows key later rewritten middle after) (steady : rewritten = false → later = cache) :
    Shows key later (written || rewritten) before after := by
  refine ⟨rest.held, fun other different => ?_, ?_, ?_⟩
  · exact (rest.others other different).trans (first.others other different)
  · intro either
    cases rewritten with
    | true => exact rest.text rfl
    | false =>
      have early : written = true := by simpa using either
      have unchanged : later = cache := steady rfl
      subst unchanged
      exact rest.kept rfl _ (first.text early)
  · intro neither text same
    have quiet : written = false ∧ rewritten = false := by simpa using neither
    exact rest.kept quiet.2 text (first.kept quiet.1 text same)

theorem grown_of_not_writes {use : Use} (idle : use.writes cache = false) : use.grown cache = cache := by
  cases use with
  | add image => cases idle
  | ensure image => exact PullCache.add_of_contains (by simpa [Use.writes] using idle)
  | load | contains | reopen => rfl

theorem ensure_of_held (known : held (ledger.store.get? key) = .ok cache) (image : String) :
    ∃ after, (ensure image key).run.run ledger = (.ok (cache.add image), after) ∧
      Shows key (cache.add image) (!cache.contains image) ledger.store after.store := by
  obtain ⟨middle, asked, kept⟩ := contains_of_held known image
  have still := shows_opened known
  rw [← kept] at still
  unfold ensure
  rw [run_bind, asked]
  cases present : cache.contains image with
  | true =>
    obtain ⟨after, loaded, kept'⟩ := load_of_held still.held
    have reread := shows_opened still.held
    rw [← kept'] at reread
    rw [PullCache.add_of_contains present]
    exact ⟨after, loaded, still.trans reread fun _ => rfl⟩
  | false =>
    obtain ⟨next, added, written⟩ := add_of_held still.held image
    have wrote : Shows key (cache.add image) true middle.store next.store := written ▸ shows_put _ _
    obtain ⟨after, loaded, kept'⟩ := load_of_held wrote.held
    have reread := shows_opened wrote.held
    rw [← kept'] at reread
    refine ⟨after, ?_, (still.trans wrote nofun).trans reread fun _ => rfl⟩
    change (add image key >>= fun _ => load key).run.run middle = _
    rw [run_bind, added]
    exact loaded

/-- A use of a readable cache succeeds and answers from the cache that it leaves behind. -/
theorem use_of_held (known : held (ledger.store.get? key) = .ok cache) (use : Use) :
    ∃ after, (use.step key).run.run ledger = (.ok (use.reply (use.grown cache)), after) ∧
      Shows key (use.grown cache) (use.writes cache) ledger.store after.store := by
  have opens := shows_opened known
  cases use with
  | load =>
    obtain ⟨after, loaded, kept⟩ := load_of_held known
    refine ⟨after, ?_, kept ▸ opens⟩
    rw [Use.step, run_map, loaded]
    rfl
  | contains image =>
    obtain ⟨after, asked, kept⟩ := contains_of_held known image
    refine ⟨after, ?_, kept ▸ opens⟩
    rw [Use.step, run_map, asked]
    rfl
  | add image =>
    obtain ⟨after, added, written⟩ := add_of_held known image
    refine ⟨after, ?_, written ▸ shows_put _ _⟩
    rw [Use.step, run_map, added]
    rfl
  | ensure image =>
    obtain ⟨after, ensured, shows⟩ := ensure_of_held known image
    refine ⟨after, ?_, shows⟩
    rw [Use.step, run_map, ensured]
    rfl
  | reopen => exact ⟨ledger, rfl, shows_refl known⟩

/-! ### Texts that break a limit -/

theorem opened_of_excess {store : Store} {excess : Json.Excess}
    (unknown : held (store.get? key) = .error excess) : opened key store = store := by
  unfold opened
  cases text : store.get? key with
  | some => rfl
  | none =>
    rw [text] at unknown
    cases unknown

theorem load_of_excess {excess : Json.Excess} (unknown : held (ledger.store.get? key) = .error excess) :
    ∃ after, (load key).run.run ledger = (.error (.excess excess), after) ∧ after.store = ledger.store := by
  obtain ⟨told, kept⟩ := run_load key ledger
  rw [unknown] at told
  rw [opened_of_excess unknown] at kept
  exact ⟨_, Prod.ext told rfl, kept⟩

/-- Every use but another opening reports the excess, and writes nothing. -/
theorem use_of_excess {excess : Json.Excess} (unknown : held (ledger.store.get? key) = .error excess)
    (use : Use) :
    ∃ after, (use.step key).run.run ledger =
        (if use = .reopen then .ok .done else .error (.excess excess), after) ∧
      after.store = ledger.store := by
  obtain ⟨after, failed, kept⟩ := load_of_excess unknown
  have asked (image : String) : (contains image key).run.run ledger = (.error (.excess excess), after) := by
    unfold contains
    rw [run_bind, failed]
  cases use with
  | load => exact ⟨after, by rw [Use.step, run_map, failed]; rfl, kept⟩
  | contains image => exact ⟨after, by rw [Use.step, run_map, asked]; rfl, kept⟩
  | add image =>
    have added : (add image key).run.run ledger = (.error (.excess excess), after) := by
      unfold add
      rw [run_bind, failed]
    exact ⟨after, by rw [Use.step, run_map, added]; rfl, kept⟩
  | ensure image =>
    have ensured : (ensure image key).run.run ledger = (.error (.excess excess), after) := by
      unfold ensure
      rw [run_bind, asked]
    exact ⟨after, by rw [Use.step, run_map, ensured]; rfl, kept⟩
  | reopen => exact ⟨ledger, rfl, rfl⟩

end steps

/-! ### Uses one after the other -/

structure Used where
  use : Use
  outcome : Except Unreadable Reply
  store : Store

/-- Each use to its end, also when the one before has failed. -/
def useAll (key : String) : List Use → Ledger → List Used
  | [], _ => []
  | use :: rest, ledger =>
    let (outcome, after) := (use.step key).run.run ledger
    ⟨use, outcome, after.store⟩ :: useAll key rest after

theorem useAll_single (key : String) (use : Use) (ledger : Ledger) :
    useAll key [use] ledger =
      [⟨use, ((use.step key).run.run ledger).1, ((use.step key).run.run ledger).2.store⟩] := rfl

def grownBy (cache : PullCache) (uses : List Use) : PullCache := uses.foldl Use.grown cache

def writtenBy (cache : PullCache) : List Use → Bool
  | [] => false
  | use :: rest => use.writes cache || writtenBy (use.grown cache) rest

theorem grownBy_of_not_writtenBy {cache : PullCache} {uses : List Use} (idle : writtenBy cache uses = false) :
    grownBy cache uses = cache := by
  induction uses generalizing cache with
  | nil => rfl
  | cons use uses ih =>
    simp only [writtenBy, Bool.or_eq_false_iff] at idle
    have same := grown_of_not_writes idle.1
    have later := ih idle.2
    rw [same] at later
    rw [grownBy, List.foldl_cons, same]
    exact later

theorem writtenBy_of_isAdd {cache : PullCache} {uses : List Use} {use : Use} (member : use ∈ uses)
    (records : use.isAdd = true) : writtenBy cache uses = true := by
  induction uses generalizing cache with
  | nil => cases member
  | cons first uses ih =>
    simp only [writtenBy, Bool.or_eq_true]
    rcases List.mem_cons.1 member with rfl | later
    · left
      cases use with
      | add => rfl
      | _ => cases records
    · exact .inr (ih later)

theorem mem_grownBy {cache : PullCache} {uses : List Use} {name : Points} :
    name ∈ (grownBy cache uses).names ↔
      name ∈ cache.names ∨ ∃ use ∈ uses, ∃ image, use.image? = some image ∧ (image : Points) = name := by
  induction uses generalizing cache with
  | nil => simp [grownBy]
  | cons use uses ih =>
    have one : name ∈ (use.grown cache).names ↔
        name ∈ cache.names ∨ ∃ image, use.image? = some image ∧ (image : Points) = name := by
      unfold Use.grown
      cases use.image? with
      | none => simp
      | some image => simp [eq_comm, or_comm]
    have all := @ih (use.grown cache)
    rw [one] at all
    simpa [grownBy, or_assoc] using all

section runs

variable {key : String} {uses : List Use} {ledger : Ledger} {before after : List Used} {used : Used}

theorem used_of_held {cache : PullCache} (known : held (ledger.store.get? key) = .ok cache)
    (run : useAll key uses ledger = before ++ used :: after) :
    let done := (before ++ [used]).map Used.use
    used.outcome = .ok (used.use.reply (grownBy cache done)) ∧
      Shows key (grownBy cache done) (writtenBy cache done) ledger.store used.store := by
  induction before generalizing uses ledger cache with
  | nil =>
    cases uses with
    | nil => cases run
    | cons use uses =>
      obtain ⟨next, ran, shows⟩ := use_of_held known use
      simp only [useAll, ran, List.nil_append, List.cons.injEq] at run
      obtain ⟨rfl, -⟩ := run
      simpa [grownBy, writtenBy] using shows
  | cons first before ih =>
    cases uses with
    | nil => cases run
    | cons use uses =>
      obtain ⟨next, ran, shows⟩ := use_of_held known use
      simp only [useAll, ran, List.cons_append, List.cons.injEq] at run
      obtain ⟨rfl, rest⟩ := run
      obtain ⟨ended, later⟩ := ih shows.held rest
      exact ⟨ended, shows.trans later grownBy_of_not_writtenBy⟩

theorem used_of_excess {excess : Json.Excess} (unknown : held (ledger.store.get? key) = .error excess)
    (run : useAll key uses ledger = before ++ used :: after) :
    used.outcome = (if used.use = .reopen then .ok .done else .error (.excess excess)) ∧
      used.store = ledger.store := by
  induction before generalizing uses ledger with
  | nil =>
    cases uses with
    | nil => cases run
    | cons use uses =>
      obtain ⟨next, ran, kept⟩ := use_of_excess unknown use
      simp only [useAll, ran, List.nil_append, List.cons.injEq] at run
      obtain ⟨rfl, -⟩ := run
      exact ⟨rfl, kept⟩
  | cons first before ih =>
    cases uses with
    | nil => cases run
    | cons use uses =>
      obtain ⟨next, ran, kept⟩ := use_of_excess unknown use
      simp only [useAll, ran, List.cons_append, List.cons.injEq] at run
      obtain ⟨rfl, rest⟩ := run
      have still : held (next.store.get? key) = .error excess := by rw [kept, unknown]
      obtain ⟨ended, same⟩ := ih still rest
      exact ⟨ended, same.trans kept⟩

end runs

/-- Over any text that breaks no limit of the reader, every use succeeds: the cache has the images
that the text says and those recorded since, and from the first recording on the text is that of
the cache. A text that breaks a limit is reported by every use, and nothing is written. -/
theorem cache_survives (key : String) (uses : List Use) (ledger : Ledger) {before after : List Used}
    {used : Used} (run : useAll key uses ledger = before ++ used :: after) :
    (∀ other ≠ key, used.store.get? other = ledger.store.get? other) ∧
    (∀ start, held (ledger.store.get? key) = .ok start → ∃ cache,
      (∀ name, name ∈ cache.names ↔
        name ∈ start.names ∨
          ∃ one ∈ before ++ [used], ∃ image, one.use.image? = some image ∧ (image : Points) = name) ∧
      used.outcome = .ok (used.use.reply cache) ∧
      held (used.store.get? key) = .ok cache ∧
      ((∃ one ∈ before ++ [used], one.use.isAdd = true) ∨ cache ≠ start →
        used.store.get? key = some cache.serialize ∧ PullCache.parse (used.store.get? key) = .ok cache)) ∧
    ∀ excess, held (ledger.store.get? key) = .error excess →
      used.store = ledger.store ∧ (used.use = .reopen ∨ used.outcome = .error (.excess excess)) := by
  refine ⟨fun other different => ?_, fun start known => ?_, fun excess unknown => ?_⟩
  · cases readable : held (ledger.store.get? key) with
    | ok start => exact (used_of_held readable run).2.others other different
    | error excess => rw [(used_of_excess readable run).2]
  · obtain ⟨ended, shows⟩ := used_of_held known run
    refine ⟨_, fun name => ?_, ended, shows.held, fun recorded => ?_⟩
    · rw [mem_grownBy]
      refine or_congr_right ⟨?_, ?_⟩
      · rintro ⟨use, member, same⟩
        obtain ⟨one, inside, rfl⟩ := List.mem_map.1 member
        exact ⟨one, inside, same⟩
      · rintro ⟨one, inside, same⟩
        exact ⟨one.use, List.mem_map_of_mem inside, same⟩
    · have written : writtenBy start ((before ++ [used]).map Used.use) = true := by
        rcases recorded with ⟨one, member, records⟩ | grown
        · exact writtenBy_of_isAdd (List.mem_map_of_mem member) records
        · cases written : writtenBy start ((before ++ [used]).map Used.use) with
          | true => rfl
          | false => exact absurd (grownBy_of_not_writtenBy written) grown
      have text := shows.text written
      exact ⟨text, by rw [text]; exact PullCache.parse_serialize _⟩
  · obtain ⟨ended, kept⟩ := used_of_excess unknown run
    refine ⟨kept, ?_⟩
    by_cases reopened : used.use = .reopen
    · exact .inl reopened
    · rw [if_neg reopened] at ended
      exact .inr ended

theorem cache_survives_alpine :
    ∃ first last, useAll cacheKey [.load, .add "alpine"] ⟨.ofList [(cacheKey, "\x7b")], []⟩ = [first] ++ last :: [] ∧
      last.outcome = .ok .done ∧ last.store.get? cacheKey = some "\x7b\"images\": [\"alpine\"]\x7d" := by
  obtain ⟨first, last, run, loads, adds⟩ : ∃ first last,
      useAll cacheKey [.load, .add "alpine"] ⟨.ofList [(cacheKey, "\x7b")], []⟩ = [first] ++ last :: [] ∧
        first.use = .load ∧ last.use = .add "alpine" := ⟨_, _, rfl, rfl, rfl⟩
  refine ⟨first, last, run, ?_⟩
  have whole := cache_survives cacheKey [.load, .add "alpine"] ⟨.ofList [(cacheKey, "\x7b")], []⟩ run
  obtain ⟨cache, members, ended, -, text⟩ := whole.2.1 .empty (by rfl)
  obtain rfl : cache = ⟨["alpine"], by simp⟩ := by
    apply PullCache.ext
    intro name
    rw [members]
    simp [loads, adds, PullCache.empty, Use.image?, eq_comm]
  rw [adds] at ended
  have written := text (.inl ⟨last, by simp, by rw [adds]; rfl⟩)
  exact ⟨ended, written.1⟩

theorem used_unclosed {digits : Nat} (many : Json.maxDigits < digits) :
    ∃ used, useAll cacheKey [.load] ⟨.ofList [(cacheKey, unclosed digits)], []⟩ = [] ++ used :: [] ∧
      used.outcome = .error (.excess (.digits digits)) := by
  have unknown : held ((Data.Table.ofList [(cacheKey, unclosed digits)]).get? cacheKey) =
      .error (.digits digits) := held_unclosed many
  obtain ⟨after, failed, -⟩ := @use_of_excess cacheKey ⟨.ofList [(cacheKey, unclosed digits)], []⟩ _ unknown .load
  rw [if_neg nofun] at failed
  refine ⟨_, useAll_single .., ?_⟩
  dsimp only
  rw [failed]

/-- Not every text that is no JSON counts as an empty cache: behind an open bracket there may be more
digits than are read. -/
theorem excess_not_recovered :
    ∃ used, useAll cacheKey [.load] ⟨.ofList [(cacheKey, unclosed 4301)], []⟩ = [] ++ used :: [] ∧
      used.outcome = .error (.excess (.digits 4301)) :=
  used_unclosed (by decide)

end ImageBuild.Cache
