import ImageBuild.Proofs.Reference.Qualified
import ImageBuild.Proofs.Workflow.Handlers

namespace ImageBuild.Workflow

open Program Cache

structure Check where
  image : String
  registry : Option String
  alwaysAllowed : Bool
  context : Context

namespace Check

def program (check : Check) : Build Unit :=
  checkImage check.image check.registry check.alwaysAllowed check.context

/-- Where the image is pulled from: the first server that is given and has a name. -/
def server? (check : Check) (name : Reference) : Option String :=
  ([name.registry, check.registry, check.context.pullRegistry, check.context.registry].filterMap id).find? (· ≠ "")

theorem findRegistry_candidates (check : Check) (name : Reference) : Reference.findRegistry
      [name.registry, check.registry, check.context.pullRegistry, check.context.registry] = check.server? name :=
  Reference.findRegistry_eq _

theorem server_ne (check : Check) (name : Reference) : check.server? name ≠ some "" :=
  fun empty => by simpa using List.find?_some empty

def question (check : Check) (cached : PullCache) : Call :=
  .requiresPull check.context.autoPull check.image check.alwaysAllowed cached

def login (check : Check) (name : Reference) : Call :=
  .resolveLogin name (check.server? name) false check.context.auth

def pull (check : Check) (name : Reference) (login : Option Login) : Call :=
  .pull name.withLatest login (check.server? name)

end Check

/-- What follows a pull: it is reported and recorded, and the image gets the name that was asked for. -/
def afterFetch (check : Check) (name : Reference) (start : Float) : Build Unit :=
  elapsed start >>= fun time =>
    Program.info .puller s!"[AutoPull] Pulled {name.fullName (check.server? name)} in {time}" >>= fun _ =>
      Program.ofStep (Cache.add check.image) >>= fun _ =>
        if (check.server? name).isSome ∧ !name.hasRegistry then
          Program.ofExcept .reference (Reference.parse name.withLatest) >>= fun qualified =>
            ask (.tag (qualified.fullName (check.server? name)) check.image false) >>= fun _ =>
              Program.debug .puller
                s!"[AutoPull] Tagged '{qualified.fullName (check.server? name)}' as '{check.image}'"
        else pure ()

theorem pullImage_eq (check : Check) (name : Reference) :
    pullImage check.image name check.registry check.context =
      Program.now >>= fun start => ask (check.login name) >>= fun login =>
        ask (check.pull name login) >>= fun _ => afterFetch check name start := by
  unfold pullImage
  rw [check.findRegistry_candidates]
  rfl

/-- What the pull of an image does: its events, its end, and the images that it records. -/
inductive Pulled (check : Check) (name : Reference) : List Happening → Except Fault Unit → List String → Prop where
  | loginFailed {fault : Fault} :
      Pulled check name [⟨check.login name, .error fault⟩] (.error fault) []
  | pullFailed {login : Option Login} {fault : Fault} :
      Pulled check name [⟨check.login name, .ok login⟩, ⟨check.pull name login, .error fault⟩] (.error fault) []
  | plain {login : Option Login} (needless : check.server? name = none ∨ name.hasRegistry = true) :
      Pulled check name [⟨check.login name, .ok login⟩, ⟨check.pull name login, .ok ()⟩] (.ok ()) [check.image]
  | tagged {login : Option Login} {server : String} {answer : Except Fault Unit}
      (distant : check.server? name = some server) (short : name.hasRegistry = false) :
      Pulled check name
        [⟨check.login name, .ok login⟩, ⟨check.pull name login, .ok ()⟩,
          ⟨.tag (server ++ "/" ++ name.withLatest) check.image false, answer⟩]
        answer [check.image]

theorem recorded_of_pull {check : Check} {name : Reference} {es : List Happening} {r : Except Fault Unit}
    {names : List String} {reference : String} {login : Option Login} {registry : Option String}
    (pulled : Pulled check name es r names) (member : ⟨.pull reference login registry, .ok ()⟩ ∈ es) :
    names = [check.image] ∧ reference = name.withLatest ∧ registry = check.server? name := by
  cases pulled with
  | loginFailed => cases List.mem_singleton.1 member
  | pullFailed =>
    rcases List.mem_cons.1 member with same | later
    · cases same
    · cases List.mem_singleton.1 later
  | plain =>
    rcases List.mem_cons.1 member with same | later
    · cases same
    · cases List.mem_singleton.1 later
      exact ⟨rfl, rfl, rfl⟩
  | tagged =>
    rcases List.mem_cons.1 member with same | later
    · cases same
    · rcases List.mem_cons.1 later with same | last
      · cases same
        exact ⟨rfl, rfl, rfl⟩
      · cases List.mem_singleton.1 last

/-- A recorded image from a server that its name does not show is tagged, and the check ends as the tag does. -/
theorem tag_of_pulled {check : Check} {name : Reference} {es : List Happening} {r : Except Fault Unit}
    {names : List String} {server : String} (pulled : Pulled check name es r names)
    (recorded : names = [check.image]) (distant : check.server? name = some server)
    (short : name.hasRegistry = false) :
    ∃ answer, ⟨.tag (server ++ "/" ++ name.withLatest) check.image false, answer⟩ ∈ es ∧ r = answer := by
  cases pulled with
  | loginFailed | pullFailed => cases recorded
  | plain needless =>
    rcases needless with near | long
    · rw [near] at distant
      cases distant
    · rw [short] at long
      cases long
  | tagged from_ _ =>
    obtain rfl := Option.some.inj (from_.symm.trans distant)
    exact ⟨r, by simp, rfl⟩

/-- What a check does when the store holds `cached`. -/
inductive Checked (grounds : Grounds) (check : Check) (cached : Except Json.Excess PullCache) :
    List Happening → Except Fault Unit → List String → Prop where
  | refused {error : Reference.Error} (rejected : Reference.parse check.image = .error error) :
      Checked grounds check cached [] (.error (.reference error)) []
  | unreadable {excess : Json.Excess} (unknown : cached = .error excess) :
      Checked grounds check cached [] (.error (.cache (.excess excess))) []
  | unanswered {cache : PullCache} {answer : Except Fault Bool} {asides : List Happening} {fault : Fault}
      (known : cached = .ok cache) (lookups : ∀ e ∈ asides, e.call.isLookup = true) :
      Checked grounds check cached (⟨check.question cache, answer⟩ :: asides) (.error fault) []
  | skipped {cache : PullCache} {answer : Except Fault Bool} {asides : List Happening}
      (known : cached = .ok cache) (lookups : ∀ e ∈ asides, e.call.isLookup = true) :
      Checked grounds check cached (⟨check.question cache, answer⟩ :: asides) (.ok ()) []
  | pulled {cache : PullCache} {name : Reference} {answer : Except Fault Bool}
      {asides es : List Happening} {r : Except Fault Unit} {names : List String}
      (known : cached = .ok cache) (lookups : ∀ e ∈ asides, e.call.isLookup = true)
      (parsed : Reference.parse check.image = .ok name)
      (grounded : grounds check.context.autoPull check.image check.alwaysAllowed cache)
      (rest : Pulled check name es r names) :
      Checked grounds check cached (⟨check.question cache, answer⟩ :: (asides ++ es)) r names

section behaviours

variable {grounds : Grounds} {handle : Handler} {i j : Inside} {es : List Happening}

theorem behaves_pullImage {check : Check} {name : Reference} {cache : PullCache}
    {r : Except Fault Unit} (attends : Attends grounds handle) (measures : i.clock.Measures)
    (parsed : Reference.parse check.image = .ok name)
    (known : held (i.ledger.store.get? cacheKey) = .ok cache)
    (h : Behaves ((pullImage check.image name check.registry check.context).interpret handle) i es r j) :
    ∃ names, Pulled check name es r names ∧ Grows names i.ledger.store j.ledger.store ∧
      (names ≠ [] → j.ledger.store.get? cacheKey = some (cache.add check.image).serialize) := by
  rw [pullImage_eq] at h
  have first := behaves_now_bind h
  -- the login and the pull leave the store alone, however they end
  rcases behaves_plain_bind attends rfl first with
    ⟨fault, rfl, rfl, kept⟩ | ⟨login, k, es, rfl, kept, earlier, second⟩
  · exact ⟨[], .loginFailed, kept ▸ Grows.refl _, fun recorded => absurd rfl recorded⟩
  rcases behaves_plain_bind attends rfl second with
    ⟨fault, rfl, rfl, kept'⟩ | ⟨⟨⟩, l, es, rfl, kept', earlier', third⟩
  · exact ⟨[], .pullFailed, (kept'.trans kept) ▸ Grows.refl _, fun recorded => absurd rfl recorded⟩
  have readings : l.clock.readings ⊆ i.clock.readings :=
    List.Subset.trans (List.Subset.trans earlier' earlier) (Clock.readings_millis_subset _)
  obtain ⟨time, m, kept₃, fourth⟩ :=
    behaves_elapsed_bind measures (Clock.millis_mem_readings _) readings third
  obtain ⟨n, kept₄, -, fifth⟩ := behaves_note_bind fourth
  have kept₅ : n.ledger.store = i.ledger.store :=
    kept₄.trans (kept₃.trans (kept'.trans kept))
  rw [← kept₅] at known
  obtain ⟨recorded, grown⟩ := @grows_add check.image _ _ known
  have written := @text_add check.image _ _ known
  rcases behaves_ofStep_bind fifth with ⟨reason, failed, _⟩ | ⟨⟨⟩, o, _, after, -, sixth⟩
  · rw [recorded] at failed
    cases failed
  rw [← after, kept₅] at grown
  rw [← after] at written
  -- the image is recorded by now, whatever becomes of its name
  split at sixth
  · rename_i condition
    obtain ⟨server, distant⟩ := Option.isSome_iff_exists.1 condition.1
    have short : name.hasRegistry = false := by simpa using condition.2
    have again := Reference.parse_withLatest parsed
    have source := Reference.fullName_behind again short fun empty => check.server_ne name (empty ▸ distant)
    rcases behaves_ofExcept_bind sixth with ⟨error, rejected, _⟩ | ⟨found, parsed', seventh⟩
    · rw [again] at rejected
      cases rejected
    obtain rfl := Except.ok.inj (again.symm.trans parsed')
    rw [distant, source] at seventh
    rcases behaves_plain_bind attends rfl seventh with
      ⟨fault, rfl, rfl, kept₆⟩ | ⟨⟨⟩, q, es, rfl, kept₆, -, last⟩
    · exact ⟨[check.image], .tagged distant short, kept₆ ▸ grown, fun _ => kept₆ ▸ written⟩
    · obtain ⟨rfl, rfl, kept₇, -⟩ := behaves_note last
      have kept := kept₇.trans kept₆
      exact ⟨[check.image], .tagged distant short, kept ▸ grown, fun _ => kept ▸ written⟩
  · rename_i condition
    obtain ⟨rfl, rfl, rfl⟩ := behaves_pure sixth
    refine ⟨[check.image], .plain ?_, grown, fun _ => written⟩
    rcases distant : check.server? name with _ | server
    · exact .inl rfl
    · rcases short : name.hasRegistry with _ | _
      · exact absurd ⟨Option.isSome_iff_exists.2 ⟨server, distant⟩, by rw [short]; rfl⟩ condition
      · exact .inr rfl

theorem behaves_check {check : Check} {r : Except Fault Unit} (attends : Attends grounds handle)
    (measures : i.clock.Measures) (h : Behaves (check.program.interpret handle) i es r j) :
    ∃ names, Checked grounds check (held (i.ledger.store.get? cacheKey)) es r names ∧
      Grows names i.ledger.store j.ledger.store := by
  unfold Check.program checkImage at h
  rcases behaves_ofExcept_bind h with ⟨error, rejected, rfl, rfl, rfl⟩ | ⟨name, parsed, first⟩
  · exact ⟨[], .refused rejected, Grows.refl _⟩
  obtain ⟨told, -⟩ := run_load cacheKey i.ledger
  have opened := grows_load i.ledger
  rcases behaves_ofStep_bind first with ⟨reason, failed, rfl, rfl, after⟩ | ⟨cache, k, loaded, after, clock, second⟩
  · rw [failed] at told
    rw [← after] at opened
    obtain ⟨excess, unknown, rfl⟩ := mapError_eq_error.1 told.symm
    exact ⟨[], .unreadable unknown, opened⟩
  rw [loaded] at told
  rw [← after] at opened
  have known := mapError_eq_ok.1 told.symm
  obtain ⟨answer, asides, l, rest, rfl, lookups, kept, readings, stopped | ⟨wanted, mayPull, third⟩⟩ :=
    behaves_question_bind attends second
  · obtain ⟨fault, rfl, rfl, rfl⟩ := stopped
    rw [List.append_nil]
    exact ⟨[], .unanswered known lookups, kept ▸ opened⟩
  cases wanted with
  | false =>
    obtain ⟨rfl, rfl, kept', -⟩ := behaves_note third
    rw [List.append_nil]
    exact ⟨[], .skipped known lookups, (kept'.trans kept) ▸ opened⟩
  | true =>
    rw [← kept] at opened
    have measures' : l.clock.Measures := measures.mono (clock ▸ readings)
    have known' : held (l.ledger.store.get? cacheKey) = .ok cache := by
      rw [opened.cache, known]
      rfl
    obtain ⟨names, pulled, grown, -⟩ := behaves_pullImage attends measures' parsed known' third
    exact ⟨names, .pulled known lookups parsed (mayPull rfl) pulled, opened.trans grown⟩

end behaviours

end ImageBuild.Workflow
