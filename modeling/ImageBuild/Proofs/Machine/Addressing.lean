import ImageBuild.Proofs.Machine.Naming

/-!
# Registries that are asked, and the names given to what they hold

What a check asks of registries goes to the server that it chose. The name that it pulls shows that server
where the server is a registry by its looks, and the name that it gives away is the one that was checked.
-/

namespace ImageBuild.Machine

open Program Workflow
open Cache (PullCache)
open Reference (HostLike patterns)

def Call.isOutward : Call → Bool
  | client (.login ..) | client (.pull _) | client (.tag ..) => true
  | _ => false

/-- What a check shows of its dealings: a login at its server, a pull from there, and the name of the checked
image for what was pulled, where the image does not show the server. A refusal of that name ends the check. -/
inductive Exchanged (check : Check) (name : Reference) (r : Except Fault Unit) : Seen → Prop where
  | signedIn {own : Config.Credentials} {answer : Except Daemon.ClientError Unit} :
      Exchanged check name r (signIn (check.server? name) own answer)
  | pulled {answer : Except Daemon.ClientError Unit} :
      Exchanged check name r (download (name.pulledFrom (check.server? name)) answer)
  | named {answer : Except Daemon.ClientError Unit} (unshown : Unshown check name)
      (fails : ∀ error, answer = .error error →
        r = .error (refusal (.tag (name.pulledFrom (check.server? name)) check.image) error)) :
      Exchanged check name r (aliasing (name.pulledFrom (check.server? name)) check.image answer)

section checks

variable {query : Query} {check : Check} {name : Reference} {i j : Inside} {es : List Seen} {r : Except Fault Unit} {e : Seen}

theorem exchanged_of_fetched {first : List Seen} {ended : Except Fault Unit}
    (fetched : Fetched (check.server? name) (meantFor check.context.auth (check.server? name))
      (name.pulledFrom (check.server? name)) first ended) (member : e ∈ first) : Exchanged check name r e := by
  cases fetched with
  | anonymous =>
    rw [List.mem_singleton.1 member]
    exact .pulled
  | refused =>
    rw [List.mem_singleton.1 member]
    exact .signedIn
  | signedIn =>
    rcases List.mem_cons.1 member with rfl | later
    · exact .signedIn
    · rw [List.mem_singleton.1 later]
      exact .pulled

theorem exchanged_of_fetch (parsed : Reference.parse check.image = .ok name)
    (h : Behaves (onMachineAsking query (pullImage check.image name check.registry check.context)) i es r j)
    (member : e ∈ es) : Exchanged check name r e := by
  obtain ⟨first, ended, fetched, ⟨fault, -, rfl, -⟩ | ⟨start, k, rest, -, rfl, -, -, -, after⟩⟩ :=
    behaves_pulling parsed h
  · exact exchanged_of_fetched fetched member
  · rcases List.mem_append.1 member with early | late
    · exact exchanged_of_fetched fetched early
    · rcases behaves_afterFetch parsed after with ⟨unshown, answer, rfl, fails⟩ | ⟨rfl, -⟩
      · rw [List.mem_singleton.1 late]
        exact .named unshown fails
      · cases late

/-- A daemon names images only by references without a digest. -/
def Taggable (target : String) : Prop := ∃ q, Reference.parse target = .ok q ∧ q.digest = none

theorem taggable_iff {image : String} (parsed : Reference.parse image = .ok name) : Taggable image ↔ name.digest = none := by
  constructor
  · rintro ⟨q, again, bare⟩
    obtain rfl := Except.ok.inj (again.symm.trans parsed)
    exact bare
  · intro bare
    exact ⟨name, parsed, bare⟩

variable (quiet : ∀ policy image allowed cached,
  (query policy image allowed cached).Confined fun call : Call => call.isOutward = false)

include quiet

/-- Every dealing of a check with the outside is part of its fetch. -/
theorem exchanged_of_check (parsed : Reference.parse check.image = .ok name)
    (h : Behaves (onMachineAsking query check.program) i es r j) (member : e ∈ es)
    (outward : e.call.isOutward = true) : Exchanged check name r e := by
  obtain ⟨_, _, front, rest, rfl, asking, -, -, fetch⟩ := behaves_asking quiet parsed h member outward
  have aside : e ∉ front := fun inside => nomatch outward.symm.trans (asking e inside)
  exact exchanged_of_fetch parsed fetch ((List.mem_append.1 member).resolve_left aside)

/-! ### The server that is named -/

/-- A check turns to the server that it chose, for its login and, by the name that it pulls and tags, for its image:
that name has the server for its registry and the repository of the image exactly if the image shows the server
itself or the server is a registry that looks like a host. -/
theorem names_chosen_server (parsed : Reference.parse check.image = .ok name) (h : Behaves (onMachineAsking query check.program) i es r j)
    {server : String} (chosen : check.server? name = some server) (member : e ∈ es) :
    (∀ asked user password, e.call = .client (.login asked user password) → asked = some server) ∧
    ∀ reference, (e.call = .client (.pull reference) ∨ ∃ target, e.call = .client (.tag reference target)) →
      ((∃ q, Reference.parse reference = .ok q ∧ q.registry = some server ∧ q.repository = name.repository) ↔
        (name.registry = none → HostLike server.toList ∧ server.toList ∈ patterns.registry)) := by
  have named : (∃ q, Reference.parse (name.pulledFrom (some server)) = .ok q ∧ q.registry = some server ∧
        q.repository = name.repository) ↔
      (name.registry = none → HostLike server.toList ∧ server.toList ∈ patterns.registry) := by
    rw [Reference.parse_pulledFrom_iff parsed]
    refine ⟨fun both _ => both, fun bare => ?_⟩
    cases own : name.registry with
    | none => exact bare own
    | some registry =>
      obtain ⟨-, -, placed, admitted⟩ := Reference.parse_eq_ok_iff.1 parsed
      obtain rfl : registry = server := by
        have proper := Reference.filled_eq_self (Reference.registry_ne admitted)
        rw [← check.findRegistry_candidates, Reference.findRegistry, List.findSome?, proper, own] at chosen
        exact Option.some.inj chosen
      rw [own] at placed
      exact ⟨placed, admitted.registry registry own⟩
  refine ⟨?_, ?_⟩
  · intro asked user password login
    cases exchanged_of_check quiet parsed h member (by rw [login]; rfl) with
    | signedIn =>
      cases login
      exact chosen
    | pulled | named => cases login
  · rintro reference (pull | ⟨target, tag⟩)
    · cases exchanged_of_check quiet parsed h member (by rw [pull]; rfl) with
      | pulled =>
        cases pull
        rw [chosen]
        exact named
      | signedIn | named => cases pull
    · cases exchanged_of_check quiet parsed h member (by rw [tag]; rfl) with
      | named =>
        cases tag
        rw [chosen]
        exact named
      | signedIn | pulled => cases tag

/-! ### The name that is given -/

/-- What a check names after its pull gets the image of the check for its name; a refusal ends the check. -/
theorem target_of_alias (parsed : Reference.parse check.image = .ok name) (h : Behaves (onMachineAsking query check.program) i es r j)
    {source target : String} {answer : Except Daemon.ClientError Unit} (member : aliasing source target answer ∈ es) :
    target = check.image ∧ Unshown check name ∧
      ∀ error, answer = .error error → r = .error (refusal (.tag source target) error) := by
  have exchanged := exchanged_of_check quiet parsed h member rfl
  generalize same : aliasing source target answer = e at exchanged
  cases exchanged with
  | signedIn | pulled => cases same
  | named unshown fails =>
    cases same
    exact ⟨rfl, unshown, fails⟩

theorem alias_of_download (measures : i.clock.Measures) (parsed : Reference.parse check.image = .ok name)
    (h : Behaves (onMachineAsking query check.program) i es r j) {reference : String}
    (pulled : download reference (.ok ()) ∈ es) (unshown : Unshown check name) :
    ∃ answer, aliasing reference check.image answer ∈ es := by
  obtain ⟨cached, k, front, rest, rfl, asking, known, ticks, fetch⟩ := behaves_asking quiet parsed h pulled rfl
  have aside : download reference (.ok ()) ∉ front := fun inside => nomatch asking _ inside
  have inside := (List.mem_append.1 pulled).resolve_left aside
  have moved : download reference (.ok ()) ∈ transfers rest := List.mem_filter.2 ⟨inside, rfl⟩
  obtain ⟨-, tags, told, aliased, -⟩ := transfers_pullImage (ticks measures) known parsed fetch moved
  obtain ⟨tagged, rfl⟩ := aliased ⟨rfl, unshown⟩
  have member : aliasing reference check.image tagged ∈ transfers rest := by
    rw [told]
    simp
  exact ⟨tagged, List.mem_append_right front (List.mem_filter.1 member).1⟩

/-- The name that a check gives away is that of its image, which is a reference, and a refusal of the name ends the
check. It can be given where the image has no digest, and none is given where the image shows the server; but after
its pull an image that does not show the server is named in any case, and with a digest that name cannot be given. -/
theorem given_name_taggable (measures : i.clock.Measures) (parsed : Reference.parse check.image = .ok name)
    (h : Behaves (onMachineAsking query check.program) i es r j) :
    (∀ source target answer, aliasing source target answer ∈ es →
      Reference.parse target = .ok name ∧
        ∀ error, answer = .error error → r = .error (refusal (.tag source target) error)) ∧
    (name.digest = none ∨ ¬Unshown check name →
      ∀ source target answer, aliasing source target answer ∈ es → Taggable target) ∧
    ∀ reference, download reference (.ok ()) ∈ es → Unshown check name →
      (∃ answer, aliasing reference check.image answer ∈ es) ∧ (Taggable check.image ↔ name.digest = none) := by
  refine ⟨?_, ?_, ?_⟩
  · intro source target answer member
    obtain ⟨rfl, -, fails⟩ := target_of_alias quiet parsed h member
    exact ⟨parsed, fails⟩
  · intro either source target answer member
    obtain ⟨rfl, unshown, -⟩ := target_of_alias quiet parsed h member
    exact (taggable_iff parsed).2 (either.resolve_right (not_not_intro unshown))
  · intro reference pulled unshown
    exact ⟨alias_of_download quiet measures parsed h pulled unshown, taggable_iff parsed⟩

end checks

/-! ### Checks that turn outward -/

theorem quiet_hasImage (policy : Option String) (image : String) (allowed : Bool) (cached : PullCache) :
    (Pull.decide hasImage policy image allowed cached).Confined fun call : Call => call.isOutward = false := by
  refine confined_decide (fun name => ?_) policy image allowed cached
  exact confined_lookup rfl

def offeringAs (names : List String) : State interface World :=
  .start ⟨{ remote := .ofList (names.map (·, "1f2e")), present := .empty }, .empty⟩ .empty (.ofList [])

def dealings (check : Check) (names : List String) : List Seen :=
  (onMachine check.program).events World.answers (offeringAs names)

theorem behaves_dealings (check : Check) (names : List String) :
    Behaves (onMachineAsking (Pull.decide hasImage) check.program) (offeringAs names).inside (dealings check names)
      ((onMachine check.program).run World.answers (offeringAs names)).1
      ((onMachine check.program).run World.answers (offeringAs names)).2.inside := by
  rw [onMachineAsking_daemon]
  exact run_behaves World.answers _ _

theorem names_chosen_server_guarded :
    ∃ q, Reference.parse "reg.io/alpine:latest" = .ok q ∧ q.registry = some "reg.io" ∧ q.repository = "alpine" := by
  have parsed : Reference.parse guarded.image = .ok ⟨"alpine", none, "alpine", none, none⟩ := by decide
  have third : (dealings guarded ["reg.io/alpine:latest"])[2]? = some (download "reg.io/alpine:latest" (.ok ())) := rfl
  have host : "reg.io".toList ∈ patterns.registry :=
    (Reference.uptoLineFeed_iff Reference.Words.isRegistry_iff).1 (by decide)
  obtain ⟨-, named⟩ := names_chosen_server quiet_hasImage parsed (behaves_dealings guarded _) rfl (List.mem_of_getElem? third)
  exact (named _ (.inl rfl)).2 fun _ => ⟨.inl (by decide), host⟩

def barelyHosted : Check := { guarded with registry := some "mirror" }

/-- With credentials for one server, the image is pulled from another: the name that is pulled has no registry. -/
theorem bare_host_not_named :
    barelyHosted.server? ⟨"alpine", none, "alpine", none, none⟩ = some "mirror" ∧
    (dealings barelyHosted ["mirror/alpine:latest"]).take 3 =
      [⟨.client (.inspect "alpine"), .error (Images.noSuchImage "alpine")⟩,
        signIn (some "mirror") ⟨"anyone", "a", none⟩ (.ok ()), download "mirror/alpine:latest" (.ok ())] ∧
    Reference.parse "mirror/alpine:latest" = .ok ⟨"mirror/alpine:latest", none, "mirror/alpine", some "latest", none⟩ :=
  ⟨rfl, rfl, by decide⟩

theorem given_name_taggable_guarded :
    (∃ answer, aliasing "reg.io/alpine:latest" "alpine" answer ∈ dealings guarded ["reg.io/alpine:latest"]) ∧
      Taggable "alpine" := by
  have parsed : Reference.parse guarded.image = .ok ⟨"alpine", none, "alpine", none, none⟩ := by decide
  have third : (dealings guarded ["reg.io/alpine:latest"])[2]? = some (download "reg.io/alpine:latest" (.ok ())) := rfl
  obtain ⟨-, -, named⟩ := given_name_taggable quiet_hasImage measures_stopped parsed (behaves_dealings guarded _)
  obtain ⟨tagged, taggable⟩ := named _ (List.mem_of_getElem? third) ⟨rfl, rfl⟩
  exact ⟨tagged, taggable.2 rfl⟩

def pinned : Check := { guarded with image := "alpine@sha256:0123456789abcdef0123456789abcdef" }

/-- An image with a digest is pulled and then asked to be tagged as itself. -/
theorem pinned_not_taggable :
    (∃ answer, aliasing "reg.io/alpine@sha256:0123456789abcdef0123456789abcdef" pinned.image answer ∈
      dealings pinned ["reg.io/alpine@sha256:0123456789abcdef0123456789abcdef"]) ∧ ¬Taggable pinned.image := by
  have parsed : Reference.parse pinned.image =
      .ok ⟨pinned.image, none, "alpine", none, some "sha256:0123456789abcdef0123456789abcdef"⟩ := by decide
  have third : (dealings pinned ["reg.io/alpine@sha256:0123456789abcdef0123456789abcdef"])[2]? =
      some (download "reg.io/alpine@sha256:0123456789abcdef0123456789abcdef" (.ok ())) := rfl
  have pulled := List.mem_of_getElem? third
  refine ⟨alias_of_download quiet_hasImage measures_stopped parsed (behaves_dealings pinned _) pulled ⟨rfl, rfl⟩, ?_⟩
  rw [taggable_iff parsed]
  exact Option.some_ne_none _

end ImageBuild.Machine
