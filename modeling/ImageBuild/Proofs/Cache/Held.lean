import ImageBuild.Cache.Service
import ImageBuild.Proofs.Cache.RoundTrip

namespace ImageBuild.Cache

open Text (Points)

/-- The cache that a text counts as; a corrupted text counts as an empty one. -/
def held (text : Option String) : Except Json.Excess PullCache :=
  match PullCache.parse text with
  | .ok cache => .ok cache
  | .error (.corrupted _) => .ok .empty
  | .error (.excess excess) => .error excess

def opened (key : String) (store : Store) : Store :=
  match store.get? key with
  | none => store.put key PullCache.empty.serialize
  | some _ => store

theorem held_of_parse {text : Option String} {cache : PullCache} (read : PullCache.parse text = .ok cache) :
    held text = .ok cache := by
  rw [held, read]

theorem held_serialize (cache : PullCache) : held (some cache.serialize) = .ok cache :=
  held_of_parse cache.parse_serialize

theorem held_opened (key : String) (store : Store) :
    held ((opened key store).get? key) = held (store.get? key) := by
  unfold opened
  cases absent : store.get? key with
  | none => rw [Data.Table.get?_put, if_pos rfl, held_serialize]; rfl
  | some text => rw [absent]

theorem opened_other {key other : String} (different : other ≠ key) (store : Store) :
    (opened key store).get? other = store.get? other := by
  unfold opened
  split
  · rw [Data.Table.get?_put, if_neg different]
  · rfl

/-! ### Texts that break a limit -/

def unclosed (digits : Nat) : String := String.ofList ('[' :: List.replicate digits '1')

theorem readNumber_digits {digits : Nat} (many : Json.maxDigits < digits) (start : List Char) :
    Json.readNumber start false (List.replicate digits '1') = .error (.excess (.digits digits)) := by
  obtain ⟨fewer, rfl⟩ : ∃ fewer, digits = fewer + 1 := ⟨digits - 1, by omega⟩
  have isOne : Char.isDigit '1' = true := rfl
  rw [List.replicate_succ]
  simp [Json.readNumber, isOne, Json.readFraction?, Json.readExponent?, many]

/-- The reader stops at the digits, before it can find the bracket open. -/
theorem read_unclosed {digits : Nat} (many : Json.maxDigits < digits) :
    Json.read (unclosed digits) = .error (.excess (.digits digits)) := by
  obtain ⟨fewer, rfl⟩ : ∃ fewer, digits = fewer + 1 := ⟨digits - 1, by omega⟩
  have item : Json.readValue 985 ('1' :: List.replicate fewer '1') = .error (.excess (.digits (fewer + 1))) :=
    readNumber_digits many ('1' :: List.replicate fewer '1')
  have items (steps : Nat) : Json.readItems (Json.readValue 985) (steps + 1) ('1' :: List.replicate fewer '1') =
      .error (.excess (.digits (fewer + 1))) := by
    rw [Json.readItems, item]
  have deep : Json.readValue Json.maxDepth (Json.skipSpace ('[' :: '1' :: List.replicate fewer '1')) =
      .error (.excess (.digits (fewer + 1))) := by
    have bracket := @readWith_items (Json.readValue 985) '1' (List.replicate fewer '1') rfl (by decide)
    rw [items] at bracket
    exact bracket
  unfold unclosed
  simp only [Json.read, String.toList_ofList, List.replicate_succ, deep]
  rfl

theorem held_unclosed {digits : Nat} (many : Json.maxDigits < digits) :
    held (some (unclosed digits)) = .error (.digits digits) := by
  have present : unclosed digits ≠ "" := by
    intro empty
    have opened := congrArg String.toList empty
    rw [unclosed, String.toList_ofList] at opened
    cases opened
  have parsed : PullCache.parse (some (unclosed digits)) = .error (.excess (.digits digits)) := by
    unfold PullCache.parse
    split
    · contradiction
    · rename_i same
      exact absurd (Option.some.inj same) present
    · rename_i same
      obtain rfl := Option.some.inj same
      rw [read_unclosed many]
  rw [held, parsed]

/-! ### Steps -/

theorem mapError_eq_ok {ε δ α : Type} {f : ε → δ} {x : Except ε α} {value : α} :
    x.mapError f = .ok value ↔ x = .ok value := by
  cases x with
  | ok found => exact ⟨fun same => congrArg _ (Except.ok.inj same), fun same => congrArg _ (Except.ok.inj same)⟩
  | error => exact ⟨nofun, nofun⟩

theorem mapError_eq_error {ε δ α : Type} {f : ε → δ} {x : Except ε α} {error : δ} :
    x.mapError f = .error error ↔ ∃ cause, x = .error cause ∧ f cause = error := by
  constructor
  · intro failed
    cases x with
    | ok => cases failed
    | error cause => exact ⟨cause, rfl, Except.error.inj failed⟩
  · rintro ⟨cause, rfl, rfl⟩
    rfl

theorem run_bind {α β : Type} (step : Step α) (next : α → Step β) (ledger : Ledger) :
    (step >>= next).run.run ledger =
      match step.run.run ledger with
      | (.ok value, after) => (next value).run.run after
      | (.error reason, after) => (.error reason, after) := by
  change ExceptT.bindCont next (step ledger).1 (step ledger).2 = _
  change _ = match step ledger with
    | (.ok value, after) => next value after
    | (.error reason, after) => (.error reason, after)
  rcases step ledger with ⟨_ | _, _⟩ <;> rfl

theorem run_recover (text : Option String) (ledger : Ledger) :
    ((recover text).run.run ledger).1 = (held text).mapError .excess ∧
      ((recover text).run.run ledger).2.store = ledger.store := by
  unfold recover held
  rcases PullCache.parse text with (_ | _) | _ <;> exact ⟨rfl, rfl⟩

/-- Loading tells what the store holds, and makes sure that there is an entry. -/
theorem run_load (key : String) (ledger : Ledger) :
    ((load key).run.run ledger).1 = (held (ledger.store.get? key)).mapError .excess ∧
      ((load key).run.run ledger).2.store = opened key ledger.store := by
  obtain ⟨told, kept⟩ := run_recover (ledger.store.get? key) ledger
  have begun : (get : Step Ledger).run.run ledger = (.ok ledger, ledger) := rfl
  unfold load
  rw [run_bind, begun]
  simp only [run_bind]
  cases text : ledger.store.get? key with
  | none =>
    have recovered : (recover none).run.run ledger = (.ok .empty, ledger) := rfl
    rw [recovered, opened, text]
    exact ⟨rfl, rfl⟩
  | some shown =>
    rw [text] at told kept
    rw [opened, text]
    rcases ended : (recover (some shown)).run.run ledger with ⟨_ | cache, after⟩
    · rw [ended] at told kept
      exact ⟨told, kept⟩
    · rw [ended] at told kept
      exact ⟨told, kept⟩

/-- Recording adds to what the store holds; where that cannot be told, nothing is written. -/
theorem run_add (image key : String) (ledger : Ledger) :
    ((add image key).run.run ledger).1 =
        ((held (ledger.store.get? key)).mapError .excess).map (fun _ => ()) ∧
      ((add image key).run.run ledger).2.store =
        match held (ledger.store.get? key) with
        | .ok cache => (opened key ledger.store).put key (cache.add image).serialize
        | .error _ => opened key ledger.store := by
  obtain ⟨told, kept⟩ := run_load key ledger
  unfold add
  rw [run_bind]
  rcases ended : (load key).run.run ledger with ⟨reason | cache, after⟩
  · rw [ended] at told kept
    obtain ⟨excess, known, rfl⟩ := mapError_eq_error.1 told.symm
    rw [known]
    exact ⟨rfl, kept⟩
  · rw [ended] at told kept
    rw [mapError_eq_ok.1 told.symm]
    exact ⟨rfl, congrArg (fun store => Data.Table.put store key _) kept⟩

/-! ### Growth -/

/-- The cache has these names more, and every other entry is as it was. -/
structure Grows (names : List String) (before after : Store) : Prop where
  cache : held (after.get? cacheKey) = (held (before.get? cacheKey)).map ((names.map Points.ofString).foldl PullCache.add)
  others : ∀ key ≠ cacheKey, after.get? key = before.get? key

theorem Grows.refl (store : Store) : Grows [] store store := by
  refine ⟨?_, fun _ _ => rfl⟩
  cases held (store.get? cacheKey) <;> rfl

theorem Grows.trans {names later : List String} {before middle after : Store}
    (first : Grows names before middle) (rest : Grows later middle after) :
    Grows (names ++ later) before after := by
  refine ⟨?_, fun key different => (rest.others key different).trans (first.others key different)⟩
  rw [rest.cache, first.cache]
  cases held (before.get? cacheKey) with
  | ok cache => simp [Except.map]
  | error excess => rfl

theorem Grows.mem {names : List String} {before after : Store} {cache : PullCache}
    (grows : Grows names before after) (known : held (after.get? cacheKey) = .ok cache) :
    ∃ start, held (before.get? cacheKey) = .ok start ∧
      ∀ name, name ∈ cache.names ↔ name ∈ names.map Points.ofString ∨ name ∈ start.names := by
  have grown := grows.cache
  rw [known] at grown
  cases began : held (before.get? cacheKey) with
  | error excess =>
    rw [began] at grown
    cases grown
  | ok start =>
    rw [began] at grown
    obtain rfl := Except.ok.inj grown
    exact ⟨start, rfl, fun name => PullCache.mem_foldl_add _ start name⟩

theorem grows_load (ledger : Ledger) : Grows [] ledger.store ((load).run.run ledger).2.store := by
  rw [(run_load cacheKey ledger).2]
  refine ⟨?_, fun key different => opened_other different _⟩
  rw [held_opened]
  cases held (ledger.store.get? cacheKey) <;> rfl

theorem grows_add {image : String} {cache : PullCache} {ledger : Ledger}
    (known : held (ledger.store.get? cacheKey) = .ok cache) :
    ((add image).run.run ledger).1 = .ok () ∧
      Grows [image] ledger.store ((add image).run.run ledger).2.store := by
  obtain ⟨ended, stored⟩ := run_add image cacheKey ledger
  rw [known] at ended stored
  refine ⟨ended, ?_, fun key different => ?_⟩
  · rw [stored, Data.Table.get?_put, if_pos rfl, held_serialize, known]
    rfl
  · rw [stored, Data.Table.get?_put, if_neg different, opened_other different]

theorem text_add {image : String} {cache : PullCache} {ledger : Ledger}
    (known : held (ledger.store.get? cacheKey) = .ok cache) :
    ((add image).run.run ledger).2.store.get? cacheKey = some (cache.add image).serialize := by
  obtain ⟨-, stored⟩ := run_add image cacheKey ledger
  rw [known] at stored
  rw [stored, Data.Table.get?_put, if_pos rfl]

end ImageBuild.Cache
