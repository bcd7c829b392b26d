import ImageBuild.Proofs.Clock
import ImageBuild.Proofs.Machine.Fetch

namespace ImageBuild.Machine

open Program Workflow
open Cache (PullCache held cacheKey grows_load run_load mapError_eq_ok)

def Call.isTransfer : Call → Bool
  | client (.pull _) | client (.tag ..) => true
  | _ => false

def transfers (es : List Seen) : List Seen := es.filter fun e => e.call.isTransfer

theorem transfers_append (es later : List Seen) : transfers (es ++ later) = transfers es ++ transfers later :=
  List.filter_append _ _

theorem transfers_fetched {server : Option String} {credentials : Option Config.Credentials} {name : String}
    {es : List Seen} {ended : Except Fault Unit} (fetched : Fetched server credentials name es ended) :
    transfers es = [] ∧ ended ≠ .ok () ∨
      ∃ answer, transfers es = [download name answer] ∧ (ended = .ok () ↔ answer = .ok ()) := by
  cases fetched with
  | @anonymous answer unknown => exact .inr ⟨answer, rfl, mapError_eq_ok⟩
  | refused known => exact .inl ⟨rfl, nofun⟩
  | @signedIn _ answer known => exact .inr ⟨answer, rfl, mapError_eq_ok⟩

section naming

variable {query : Query} {check : Check} {name : Reference} {i j : Inside} {es : List Seen} {r : Except Fault Unit}
  {reference : String} {answer : Except Daemon.ClientError Unit}

/-- What a fetch moves and names, where time can be told and the cache can be read. -/
theorem transfers_pullImage {cached : PullCache} (measures : i.clock.Measures)
    (known : held (i.ledger.store.get? cacheKey) = .ok cached) (parsed : Reference.parse check.image = .ok name)
    (h : Behaves (onMachineAsking query (pullImage check.image name check.registry check.context)) i es r j)
    (member : download reference answer ∈ transfers es) :
    reference = name.pulledFrom (check.server? name) ∧
    ∃ tags, transfers es = download reference answer :: tags ∧
      (answer = .ok () ∧ Unshown check name → ∃ tagged, tags = [aliasing reference check.image tagged]) ∧
      (¬(answer = .ok () ∧ Unshown check name) → tags = []) := by
  obtain ⟨first, ended, fetched, ⟨fault, rfl, rfl, rfl⟩ | ⟨start, k, rest, rfl, rfl, began, later, kept, after⟩⟩ :=
    behaves_pulling parsed h
  · rcases transfers_fetched fetched with ⟨none, -⟩ | ⟨told, only, ends⟩
    · rw [none] at member
      cases member
    · rw [only] at member ⊢
      cases List.mem_singleton.1 member
      exact ⟨rfl, [], rfl, fun both => (nomatch ends.2 both.1), fun _ => rfl⟩
  · rcases transfers_fetched fetched with ⟨-, failed⟩ | ⟨told, only, ends⟩
    · exact absurd rfl failed
    obtain rfl := ends.1 rfl
    rw [transfers_append, only] at member ⊢
    rcases behaves_afterFetch parsed after with ⟨unshown, tagged, rfl, -⟩ | ⟨rfl, disturbed⟩
    · rcases List.mem_cons.1 member with same | other
      · cases same
        exact ⟨rfl, _, rfl, fun _ => ⟨tagged, rfl⟩, fun apart => absurd ⟨rfl, unshown⟩ apart⟩
      · cases List.mem_singleton.1 other
    · cases List.mem_singleton.1 member
      refine ⟨rfl, [], rfl, fun both => ?_, fun _ => rfl⟩
      rcases disturbed both.2 with untold | unread
      · obtain ⟨time, told⟩ := measures.text began (later k.clock.millis_mem_readings)
        exact absurd told (untold time)
      · exact absurd (kept ▸ known) (unread cached)

/-- Calls of a kind that the query does not make belong to the fetch, which finds the cache as the check has read it. -/
theorem behaves_asking {kind : Call → Bool}
    (quiet : ∀ policy image allowed cached, (query policy image allowed cached).Confined fun call => kind call = false)
    (parsed : Reference.parse check.image = .ok name) (h : Behaves (onMachineAsking query check.program) i es r j)
    {e : Seen} (member : e ∈ es) (told : kind e.call = true) :
    ∃ cached k front rest, es = front ++ rest ∧ (∀ e ∈ front, kind e.call = false) ∧
      held (k.ledger.store.get? cacheKey) = .ok cached ∧ (i.clock.Measures → k.clock.Measures) ∧
      Behaves (onMachineAsking query (pullImage check.image name check.registry check.context)) k rest r j := by
  unfold onMachineAsking Check.program checkImage at h
  rcases behaves_ofExcept_bind h with ⟨error, rejected, -⟩ | ⟨found, parsed', first⟩
  · rw [parsed] at rejected
    cases rejected
  obtain rfl := Except.ok.inj (parsed.symm.trans parsed')
  rcases behaves_ofStep_bind first with ⟨reason, -, rfl, -⟩ | ⟨cached, k, loaded, after, clock, second⟩
  · cases member
  have known : held (k.ledger.store.get? cacheKey) = .ok cached := by
    have read := (run_load cacheKey i.ledger).1
    rw [loaded] at read
    rw [after, (grows_load i.ledger).cache, mapError_eq_ok.1 read.symm]
    rfl
  have nowhere {part : List Seen} {ended : Except Fault Bool} {l : Inside}
      (asked : Behaves (query check.context.autoPull check.image check.alwaysAllowed cached) k part ended l) : e ∉ part := by
    intro inside
    cases told.symm.trans ((behaves_confined (quiet _ _ _ _) asked).1 e inside)
  rcases behaves_answered second with ⟨fault, asked, -⟩ | ⟨wanted, l, front, rest, asked, third, rfl⟩
  · exact absurd member (nowhere asked)
  cases wanted with
  | false =>
    obtain ⟨rfl, -⟩ := behaves_note third
    rw [List.append_nil] at member
    exact absurd member (nowhere asked)
  | true =>
    obtain ⟨asking, kept⟩ := behaves_confined (quiet _ _ _ _) asked
    refine ⟨cached, l, front, rest, rfl, asking, kept ▸ known, ?_, third⟩
    intro measures
    exact behaves_measures (clock ▸ measures : k.clock.Measures) asked

/-- A check pulls under one name, the parts of its image behind the first registry that is given; the name
of the image is then given to what was pulled under it, once, if the image does not show the registry. -/
theorem pulled_as_named
    (quiet : ∀ policy image allowed cached,
      (query policy image allowed cached).Confined fun call : Call => call.isTransfer = false)
    (measures : i.clock.Measures) (parsed : Reference.parse check.image = .ok name)
    (h : Behaves (onMachineAsking query check.program) i es r j) (member : download reference answer ∈ es) :
    reference = (check.server? name).elim "" (· ++ "/") ++ name.repository ++
      name.pullTag.elim "" (":" ++ ·) ++ name.digest.elim "" ("@" ++ ·) ∧
    ∃ tags, transfers es = download reference answer :: tags ∧
      (answer = .ok () ∧ Unshown check name → ∃ tagged, tags = [aliasing reference check.image tagged]) ∧
      (¬(answer = .ok () ∧ Unshown check name) → tags = []) := by
  rw [← Reference.pulledFrom_eq]
  obtain ⟨cached, k, front, rest, rfl, asking, known, ticks, fetch⟩ := behaves_asking quiet parsed h member rfl
  have nothing : transfers front = [] := List.filter_eq_nil_iff.2 fun e inside => by
    rw [asking e inside]
    exact Bool.false_ne_true
  have moved : download reference answer ∈ transfers (front ++ rest) := List.mem_filter.2 ⟨member, rfl⟩
  rw [transfers_append, nothing, List.nil_append] at moved ⊢
  exact transfers_pullImage (ticks measures) known parsed fetch moved

end naming

theorem pulled_as_named_guarded :
    ∃ tagged, transfers ((onMachine guarded.program).events World.answers offering) =
      [download "reg.io/alpine:latest" (.ok ()), aliasing "reg.io/alpine:latest" "alpine" tagged] := by
  have parsed : Reference.parse guarded.image = .ok ⟨"alpine", none, "alpine", none, none⟩ := by decide +kernel
  have quiet (policy : Option String) (image : String) (allowed : Bool) (cached : PullCache) :
      (Pull.decide hasImage policy image allowed cached).Confined fun call : Call => call.isTransfer = false := by
    refine confined_decide (fun name => ?_) policy image allowed cached
    exact confined_lookup rfl
  have third : ((onMachine guarded.program).events World.answers offering)[2]? =
      some (download "reg.io/alpine:latest" (.ok ())) := rfl
  have pulled := List.mem_of_getElem? third
  have shown := run_behaves World.answers (onMachine guarded.program) offering
  rw [← onMachineAsking_daemon] at shown pulled ⊢
  obtain ⟨-, tags, told, aliased, -⟩ := pulled_as_named quiet measures_stopped parsed shown pulled
  obtain ⟨tagged, rfl⟩ := aliased ⟨rfl, rfl, rfl⟩
  exact ⟨tagged, told⟩

end ImageBuild.Machine
