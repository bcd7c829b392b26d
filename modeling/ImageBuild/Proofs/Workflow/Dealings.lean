import ImageBuild.Proofs.Workflow.Pulls
import ImageBuild.Proofs.Workflow.Settle

namespace ImageBuild.Workflow

open Program Cache Config

def Call.isDealing : Call → Bool
  | pull .. | tag .. => true
  | _ => false

def dealt (es : List Happening) : List Call := (es.map Event.call).filter Call.isDealing

theorem dealt_append (first rest : List Happening) : dealt (first ++ rest) = dealt first ++ dealt rest := by
  simp [dealt]

theorem dealt_none {es : List Happening} (idle : ∀ e ∈ es, e.call.isDealing = false) : dealt es = [] := by
  simpa [dealt] using idle

theorem isDealing_of_isQuiet {call : Call} (quiet : call.isQuiet = true) : call.isDealing = false := by
  cases call <;> first | rfl | cases quiet

theorem isDealing_of_isLookup {call : Call} (lookup : call.isLookup = true) : call.isDealing = false := by
  cases call <;> first | rfl | cases lookup

namespace Setting

def Gives (setting : Setting) : Happening → Prop
  | ⟨.requiresPull .., answer⟩ => answer.isOk = true
  | ⟨.hasImage name, answer⟩ => answer = .ok (setting.present name)
  | ⟨.extract path, answer⟩ => answer = setting.base path
  | ⟨.resolveLogin image registry isPush auth, answer⟩ => answer = .ok (setting.login image registry isPush auth)
  | ⟨.pull .., answer⟩ | ⟨.tag .., answer⟩ => answer = .ok ()
  | _ => True

theorem gives_events {α W : Type} {setting : Setting} {answers : Answers surroundings W}
    (steady : ∀ call world, setting.Gives ⟨call, (answers call world).1⟩) (p : Build α)
    (s : State surroundings W) : ∀ e ∈ p.events answers s, setting.Gives e := by
  induction p generalizing s with
  | done | failed => simp [events]
  | perform call next ih =>
    exact List.forall_mem_cons.2 ⟨steady call s.world,
      ih _ { s with world := (answers call s.world).2, trace := s.trace ++ [call] }⟩
  | ledger change next ih => exact ih _ { s with ledger := change s.ledger }
  | time next ih => exact ih _ { s with clock := s.clock.millis.2 }

end Setting

section behaviours

variable {setting : Setting} {i j : Inside} {es : List Happening}

theorem dealt_pulled {check : Check} {name : Reference} {r : Except Fault Unit} {names : List String}
    (pulled : Pulled check name es r names) (steady : ∀ e ∈ es, setting.Gives e) :
    dealt es = dealings setting check name ∧ names = [check.image] := by
  cases pulled with
  | loginFailed => cases steady _ (List.mem_cons_self ..)
  | pullFailed => cases steady _ (List.mem_cons_of_mem _ (List.mem_cons_self ..))
  | @plain login needless =>
    obtain rfl := Except.ok.inj (steady _ (List.mem_cons_self ..))
    refine ⟨?_, rfl⟩
    unfold dealings
    rcases needless with near | long
    · rw [near]
      simp [dealt, Check.login, Check.pull, Call.isDealing, near]
    · rw [long]
      simp [dealt, Check.login, Check.pull, Call.isDealing]
  | @tagged login server answer distant short =>
    obtain rfl := Except.ok.inj (steady _ (List.mem_cons_self ..))
    refine ⟨?_, rfl⟩
    unfold dealings
    rw [distant, short]
    simp [dealt, Check.login, Check.pull, Call.isDealing, distant]

def decided (setting : Setting) (policy : Option String) (image : String) (cached : PullCache) :
    Except Fault Bool :=
  ((Pull.Policy.parse policy).mapError Fault.refused).map fun mode =>
    wants mode (setting.present image) (cached.contains image)

theorem behaves_requiresPull {policy : Option String} {image : String} {cached : PullCache}
    {r : Except Fault Bool} (steady : ∀ e ∈ es, setting.Gives e)
    (h : Behaves (Pull.requiresPull policy image true cached) i es r j) :
    r = decided setting policy image cached := by
  unfold Pull.requiresPull Pull.decide at h
  unfold decided
  rcases behaves_bind h with ⟨fault, head, rfl⟩ | ⟨mode, k, first, rest, head, tail, rfl⟩
  · obtain ⟨-, refused, -⟩ := behaves_ofExcept head
    rw [← refused]
    rfl
  · obtain ⟨rfl, found, rfl⟩ := behaves_ofExcept head
    rw [← found]
    change r = .ok (wants mode _ _)
    unfold wants
    cases verdict : mode.verdict true (cached.contains image) with
    | pull =>
      rw [verdict] at tail
      exact (behaves_pure tail).2.1
    | skip =>
      rw [verdict] at tail
      unfold Pull.noteSkip at tail
      dsimp only at tail
      by_cases unconditional : mode = .once ∧ true = true
      · rw [if_pos unconditional] at tail
        cases tail with
        | ledger noted => exact (behaves_pure noted).2.1
      · rw [if_neg unconditional] at tail
        exact (behaves_pure tail).2.1
    | pullIfAbsent =>
      rw [verdict] at tail
      cases tail with
      | perform looked =>
        obtain rfl := steady _ (List.mem_cons_self ..)
        exact (behaves_pure looked).2.1

theorem behaves_decision_bind {α : Type} {policy : Option String} {image : String} {cached : PullCache}
    {f : Bool → Build α} {r : Except Fault α} (steady : ∀ e ∈ es, setting.Gives e)
    (h : Behaves (((ask (.requiresPull policy image true cached) : Build Bool) >>= f).interpret
      (Script.handle true)) i es r j) :
    ∃ k front rest, es = front ++ rest ∧ dealt front = [] ∧ k.ledger.store = i.ledger.store ∧
      k.clock.readings ⊆ i.clock.readings ∧
      ((∃ fault, decided setting policy image cached = .error fault ∧ rest = [] ∧ r = .error fault ∧ j = k) ∨
        ∃ wanted, decided setting policy image cached = .ok wanted ∧
          Behaves ((f wanted).interpret (Script.handle true)) k rest r j) := by
  change Behaves (Script.handle true (.requiresPull policy image true cached) >>= fun answer => _) i es r j at h
  rcases behaves_bind h with ⟨fault, head, rfl⟩ | ⟨told, k, front, rest, head, tail, rfl⟩
  · obtain ⟨_, _, _, _, impossible, _⟩ := behaves_question head
    cases impossible
  · obtain ⟨answer, told', asides, same, ended, kept, lookups, -⟩ := behaves_question head
    obtain rfl := Except.ok.inj ended
    obtain ⟨steadyFront, steadyRest⟩ := List.forall_mem_append.1 steady
    refine ⟨k, front, rest, rfl, ?_, kept, behaves_readings head, ?_⟩
    · rw [same]
      exact dealt_none (List.forall_mem_cons.2 ⟨rfl, fun e member => isDealing_of_isLookup (lookups e member)⟩)
    · have known : told = decided setting policy image cached := by
        obtain ⟨answer, later, rfl, deciding⟩ := behaves_attempt_bind head
        cases answer with
        | error fault => cases steadyFront _ (List.mem_cons_self ..)
        | ok _ =>
          obtain ⟨q, same, deciding⟩ := behaves_outcome deciding
          obtain rfl := Except.ok.inj same
          exact behaves_requiresPull (fun e member => steadyFront e (List.mem_cons_of_mem _ member)) deciding
      rw [← known]
      cases told with
      | error fault =>
        obtain ⟨rfl, rfl, rfl⟩ := behaves_failed tail
        exact .inl ⟨fault, rfl, rfl, rfl, rfl⟩
      | ok wanted => exact .inr ⟨wanted, rfl, tail⟩

theorem decided_eq_ok {policy : Option String} {image : String} {cached : PullCache} {wanted : Bool}
    (decision : decided setting policy image cached = .ok wanted) :
    ∃ mode, Pull.Policy.parse policy = .ok mode ∧
      wanted = wants mode (setting.present image) (cached.contains image) := by
  unfold decided at decision
  cases read : Pull.Policy.parse policy with
  | error reason =>
    rw [read] at decision
    cases decision
  | ok mode =>
    rw [read] at decision
    exact ⟨mode, rfl, (Except.ok.inj decision).symm⟩

def Refused (context : Context) (base : String) : Prop :=
  (∃ error, Reference.parse base = .error error) ∨ ∃ reason, Pull.Policy.parse context.autoPull = .error reason

/-- A check makes the calls of settling its image, and leaves the text of it. -/
theorem dealt_check {base : String} {context : Context} {r : Except Fault Unit}
    (measures : i.clock.Measures) (steady : ∀ e ∈ es, setting.Gives e)
    (h : Behaves ((checkImage base none true context).interpret (Script.handle true)) i es r j) :
    (dealt es, j.ledger.store.get? cacheKey) = settle setting context base (i.ledger.store.get? cacheKey) ∧
      (Refused context base → ∃ fault, r = .error fault) := by
  unfold checkImage at h
  rcases behaves_ofExcept_bind h with ⟨error, rejected, rfl, rfl, rfl⟩ | ⟨name, parsed, first⟩
  · exact ⟨(settle_refused setting context rejected _).symm, fun _ => ⟨_, rfl⟩⟩
  obtain ⟨told, stored⟩ := run_load cacheKey i.ledger
  have text := get?_opened cacheKey i.ledger.store
  rw [← stored] at text
  rcases behaves_ofStep_bind first with ⟨reason, failed, rfl, rfl, after⟩ | ⟨cache, k, loaded, after, clock, second⟩
  · rw [failed] at told
    obtain ⟨excess, unknown, rfl⟩ := mapError_eq_error.1 told.symm
    have idle : ∀ cache mode, ¬(held (i.ledger.store.get? cacheKey) = .ok cache ∧
        Pull.Policy.parse context.autoPull = .ok mode) := by
      intro cache mode both
      rw [unknown] at both
      cases both.1
    rw [settle_idle setting context parsed idle, after, text]
    exact ⟨rfl, fun _ => ⟨_, rfl⟩⟩
  rw [loaded] at told
  have known := mapError_eq_ok.1 told.symm
  rw [← after] at text
  -- the decision moves nothing, so the calls that count are those behind it
  obtain ⟨l, front, rest, rfl, idle, kept, readings, stopped | ⟨wanted, decision, third⟩⟩ :=
    behaves_decision_bind steady second
  · obtain ⟨fault, refusal, rfl, rfl, rfl⟩ := stopped
    have unread : ∀ cache mode, ¬(held (i.ledger.store.get? cacheKey) = .ok cache ∧
        Pull.Policy.parse context.autoPull = .ok mode) := by
      intro other mode both
      rw [decided, both.2] at refusal
      cases refusal
    rw [settle_idle setting context parsed unread, List.append_nil, idle, kept, text]
    exact ⟨rfl, fun _ => ⟨_, rfl⟩⟩
  obtain ⟨mode, read, rfl⟩ := decided_eq_ok decision
  rw [settle_ok setting context parsed known read, dealt_append, idle, List.nil_append]
  refine ⟨?_, ?_⟩
  · cases pulls : wants mode (setting.present base) (cache.contains base) with
    | false =>
      rw [pulls] at third
      obtain ⟨rfl, -, kept', -⟩ := behaves_note third
      rw [kept', kept, text]
      rfl
    | true =>
      rw [pulls] at third
      have measures' : l.clock.Measures := measures.mono (clock ▸ readings)
      have known' : held (l.ledger.store.get? cacheKey) = .ok cache := by
        rw [kept, text, held_entered, known]
      let check := ofBaseImage base context
      have pulling : Behaves ((pullImage check.image name check.registry check.context).interpret
          (Script.handle true)) l rest r j := third
      obtain ⟨names, pulled, -, written⟩ := behaves_pullImage attends_script measures' parsed known' pulling
      obtain ⟨calls, recorded⟩ := dealt_pulled pulled (List.forall_mem_append.1 steady).2
      rw [calls, written (by rw [recorded]; exact List.cons_ne_nil _ _)]
      rfl
  · rintro (⟨error, rejected⟩ | ⟨reason, unread⟩)
    · rw [parsed] at rejected
      cases rejected
    · rw [read] at unread
      cases unread

/-! ### Builds -/

def Setting.baseOf (setting : Setting) (build : Config.Build) (context : Context) :
    Except Fault (Option String) :=
  if build.isArchiveMode then .ok none
  else if build.isDockerfileMode then
    match build.dockerfilePath context.baseDir with
    | .error reason => .error (.refused reason)
    | .ok path =>
      match setting.base path with
      | .ok image => .ok (some image)
      | .error (.baseImage _) | .error (.system _) => .ok none
      | .error fault => .error fault
  else .ok (configuredBase build)

/-- The base image that a build has to settle. -/
def demand (setting : Setting) (context : Context) (image : Image) : Option String :=
  match Reference.parse image.name, setting.baseOf image.build context with
  | .ok _, .ok base => base.filter (· ≠ scratch)
  | _, _ => none

/-- An image that cannot be built: its name, its base image or the policy is rejected. -/
inductive Rejected (setting : Setting) (context : Context) (image : Image) : Prop where
  | name {error : Reference.Error} (rejected : Reference.parse image.name = .error error)
  | base {base : String} (demanded : demand setting context image = some base) (refused : Refused context base)

theorem behaves_resolveBase {build : Config.Build} {context : Context} {r : Except Fault (Option String)}
    (steady : ∀ e ∈ es, setting.Gives e)
    (h : Behaves ((resolveBase build context).interpret (Script.handle true)) i es r j) :
    r = setting.baseOf build context := by
  unfold resolveBase at h
  unfold Setting.baseOf
  by_cases ready : build.isArchiveMode = true
  · rw [if_pos ready] at h ⊢
    exact (behaves_pure h).2.1
  · rw [if_neg ready] at h ⊢
    by_cases written : build.isDockerfileMode = true
    · rw [if_pos written] at h ⊢
      unfold baseOfDockerfile at h
      rcases behaves_ofExcept_bind h with ⟨reason, refused, rfl, rfl, rfl⟩ | ⟨path, found, reading⟩
      · rw [refused]
      · rw [found]
        obtain ⟨answer, rest, rfl, tail⟩ := behaves_attempt_bind reading
        obtain rfl := steady _ (List.mem_cons_self ..)
        dsimp only
        cases known : setting.base path with
        | ok image =>
          rw [known] at tail
          exact (behaves_pure tail).2.1
        | error fault =>
          rw [known] at tail
          cases fault with
          | baseImage | system =>
            cases tail with
            | ledger noted => exact (behaves_pure noted).2.1
          | _ => exact (behaves_failed tail).2.1
    · rw [if_neg written] at h ⊢
      exact (behaves_pure h).2.1

theorem dealt_quiet {α : Type} {p : Build α} {r : Except Fault α} (quiet : Quiet p)
    (h : Behaves (p.interpret (Script.handle true)) i es r j) :
    dealt es = [] ∧ j.ledger.store = i.ledger.store := by
  obtain ⟨calls, kept⟩ := behaves_quiet attends_script quiet h
  exact ⟨dealt_none fun e member => isDealing_of_isQuiet (calls e member), kept⟩

theorem dealt_checkBase {image : Image} {context : Context} {base : Option String} {r : Except Fault Unit}
    (measures : i.clock.Measures) (steady : ∀ e ∈ es, setting.Gives e)
    (h : Behaves ((checkBase image context base).interpret (Script.handle true)) i es r j) :
    (dealt es, j.ledger.store.get? cacheKey) =
        settleIf setting context (base.filter (· ≠ scratch)) (i.ledger.store.get? cacheKey) ∧
      ∀ name, base.filter (· ≠ scratch) = some name → Refused context name → ∃ fault, r = .error fault := by
  cases base with
  | none =>
    obtain ⟨rfl, -, kept, -⟩ := behaves_note h
    rw [kept]
    exact ⟨rfl, nofun⟩
  | some base =>
    unfold checkBase at h
    dsimp only at h
    by_cases same : base = scratch
    · rw [if_pos same] at h
      obtain ⟨rfl, -, kept, -⟩ := behaves_note h
      have none : (some base).filter (· ≠ scratch) = none := by simp [Option.filter, same]
      rw [kept, none]
      exact ⟨rfl, nofun⟩
    · rw [if_neg same] at h
      obtain ⟨settled, fails⟩ := dealt_check measures steady h
      simp only [Option.filter_some, same, ne_eq, not_false_eq_true, decide_true, if_true]
      refine ⟨settled, fun name named refused => fails ?_⟩
      rwa [Option.some.inj named]

theorem demand_of_parse {image : Image} {context : Context} {name : Reference}
    (parsed : Reference.parse image.name = .ok name) {base : Except Fault (Option String)}
    (found : base = setting.baseOf image.build context) :
    demand setting context image = (base.toOption.bind fun known => known.filter (· ≠ scratch)) := by
  unfold demand
  rw [parsed, ← found]
  cases base <;> rfl

theorem dealt_prepare {image : Image} {context : Context} {r : Except Fault Unit}
    (measures : i.clock.Measures) (steady : ∀ e ∈ es, setting.Gives e) {name : Reference}
    (parsed : Reference.parse image.name = .ok name)
    (h : Behaves ((prepare image context).interpret (Script.handle true)) i es r j) :
    (dealt es, j.ledger.store.get? cacheKey) =
        settleIf setting context (demand setting context image) (i.ledger.store.get? cacheKey) ∧
      (Rejected setting context image → ∃ fault, r = .error fault) := by
  have unnamed {error : Reference.Error} : Reference.parse image.name ≠ .error error := by
    rw [parsed]
    nofun
  unfold prepare at h
  by_cases ready : image.build.isArchiveMode = true
  · rw [if_pos ready] at h
    obtain ⟨rfl, -, rfl⟩ := behaves_pure h
    have found : .ok none = setting.baseOf image.build context := by
      unfold Setting.baseOf
      rw [if_pos ready]
    have idle := demand_of_parse parsed found
    rw [idle]
    refine ⟨rfl, ?_⟩
    rintro (⟨rejected⟩ | ⟨demanded, -⟩)
    · exact absurd rejected unnamed
    · rw [idle] at demanded
      cases demanded
  · rw [if_neg ready, autoPullBase_eq, interpret_bind] at h
    rcases behaves_bind h with ⟨fault, head, rfl⟩ | ⟨base, k, front, rest, head, tail, rfl⟩
    · have found := behaves_resolveBase steady head
      obtain ⟨idle, kept⟩ := dealt_quiet (quiet_resolveBase image.build context) head
      rw [demand_of_parse parsed found, idle, kept]
      exact ⟨rfl, fun _ => ⟨fault, rfl⟩⟩
    · obtain ⟨steadyFront, steadyRest⟩ := List.forall_mem_append.1 steady
      have found := demand_of_parse parsed (behaves_resolveBase steadyFront head)
      obtain ⟨idle, kept⟩ := dealt_quiet (quiet_resolveBase image.build context) head
      obtain ⟨settled, fails⟩ := dealt_checkBase (behaves_measures measures head) steadyRest tail
      rw [found, dealt_append, idle, List.nil_append, ← kept]
      refine ⟨settled, ?_⟩
      rintro (⟨rejected⟩ | ⟨demanded, refused⟩)
      · exact absurd rejected unnamed
      · rw [found] at demanded
        exact fails _ demanded refused

theorem dealt_buildOne {image : Image} {context : Context} {nocache : Option String}
    {r : Except Fault (Option String)} (measures : i.clock.Measures) (steady : ∀ e ∈ es, setting.Gives e)
    (h : Behaves ((buildOne image context nocache).interpret (Script.handle true)) i es r j) :
    (dealt es, j.ledger.store.get? cacheKey) =
        settleIf setting context (demand setting context image) (i.ledger.store.get? cacheKey) ∧
      (Rejected setting context image → ∃ fault, r = .error fault) := by
  rw [buildOne_eq] at h
  rcases behaves_ofExcept_bind h with ⟨error, rejected, rfl, rfl, rfl⟩ | ⟨name, parsed, starting⟩
  · have idle : demand setting context image = none := by
      unfold demand
      rw [rejected]
    rw [idle]
    exact ⟨rfl, fun _ => ⟨_, rfl⟩⟩
  obtain ⟨k, kept, clock, preparing⟩ := behaves_note_bind starting
  rw [interpret_bind] at preparing
  rw [← kept]
  have measures' : k.clock.Measures := clock ▸ measures
  rcases behaves_bind preparing with ⟨fault, head, rfl⟩ | ⟨value, l, front, rest, head, tail, rfl⟩
  · exact ⟨(dealt_prepare measures' steady parsed head).1, fun _ => ⟨fault, rfl⟩⟩
  · obtain ⟨steadyFront, -⟩ := List.forall_mem_append.1 steady
    obtain ⟨settled, fails⟩ := dealt_prepare measures' steadyFront parsed head
    obtain ⟨idle, kept'⟩ := dealt_quiet (quiet_afterPull image context nocache) tail
    rw [dealt_append, idle, List.append_nil, kept']
    refine ⟨settled, fun rejected => ?_⟩
    obtain ⟨fault, impossible⟩ := fails rejected
    cases impossible

end behaviours

end ImageBuild.Workflow
