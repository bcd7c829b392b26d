import ImageBuild.Proofs.Reference.Spelling

namespace ImageBuild.Reference

open Text

/-! ### Registries -/

theorem filled_eq_self {part : Option String} (nonempty : part ≠ some "") : filled part = part := by
  unfold filled
  split
  · contradiction
  · rfl

theorem findRegistry_eq (candidates : List (Option String)) :
    findRegistry candidates = (candidates.filterMap id).find? (· ≠ "") := by
  induction candidates with
  | nil => rfl
  | cons candidate rest ih =>
    rw [findRegistry, List.findSome?_cons, ← findRegistry, ih]
    cases candidate with
    | none => rfl
    | some registry =>
      by_cases empty : registry = ""
      · subst empty
        rfl
      · rw [filled_eq_self (by simpa using empty)]
        simp [empty]

theorem findRegistry_ne {candidates : List (Option String)} {registry : String}
    (found : findRegistry candidates = some registry) : registry ≠ "" := by
  obtain ⟨candidate, -, present⟩ := List.exists_of_findSome?_eq_some found
  rintro rfl
  unfold filled at present
  split at present <;> simp_all

theorem findRegistry_again (own : Option String) (rest : List (Option String)) :
    findRegistry [own, findRegistry (own :: rest)] = findRegistry (own :: rest) := by
  have proper : findRegistry (own :: rest) ≠ some "" := fun empty => findRegistry_ne empty rfl
  rcases chosen : filled own with _ | registry
  · rw [findRegistry, List.findSome?, chosen]
    show findRegistry [findRegistry (own :: rest)] = _
    rw [findRegistry, List.findSome?, filled_eq_self proper]
    cases findRegistry (own :: rest) <;> rfl
  · simp only [findRegistry, List.findSome?, chosen]

/-! ### Names of parts that match their patterns -/

theorem toList_nameWithoutTag (r : Reference) (registry : Option String) :
    (r.nameWithoutTag registry).toList =
      hosted (findRegistry [r.registry, registry]) ++ r.repository.toList := by
  unfold nameWithoutTag
  split
  · rename_i server found
    rw [found, hosted]
    simp
  · rename_i absent
    rw [absent, hosted, List.nil_append]

section admitted

variable {r : Reference} (admitted : patterns.Admits r.registry r.repository r.tag r.digest)

include admitted

theorem registry_ne : r.registry ≠ some "" := fun empty =>
  nil_notMem_ended Words.isRegistry_iff (by decide) (admitted.registry "" empty)

theorem tag_ne : r.tag ≠ some "" := fun empty =>
  nil_notMem_ended Words.isTag_iff (by decide) (admitted.tag "" empty)

theorem digest_ne : r.digest ≠ some "" := fun empty =>
  nil_notMem_ended Words.isDigest_iff (by decide) (admitted.digest "" empty)

/-- The full name shows all parts, behind the registry of the reference or else the given one. -/
theorem toList_fullName (registry : Option String) :
    (r.fullName registry).toList =
      spelling (findRegistry [r.registry, registry]) r.repository r.tag r.digest := by
  unfold fullName
  rw [filled_eq_self (tag_ne admitted), filled_eq_self (digest_ne admitted)]
  simp only [String.toList_append, toList_nameWithoutTag, spelling]
  cases r.tag <;> cases r.digest <;> simp [marked]

theorem findRegistry_own : findRegistry [r.registry, none] = r.registry := by
  rw [findRegistry, List.findSome?, filled_eq_self (registry_ne admitted)]
  cases r.registry <;> rfl

end admitted

theorem fullName_of_parse {raw : String} {r : Reference} (parsed : parse raw = .ok r) : r.fullName = raw := by
  obtain ⟨rfl, spelled, -, admitted⟩ := parse_eq_ok_iff.1 parsed
  apply String.toList_inj.1
  rw [toList_fullName admitted, findRegistry_own admitted, spelled]

theorem fullName_behind {raw registry : String} {r : Reference} (parsed : parse raw = .ok r)
    (unqualified : r.hasRegistry = false) (nonempty : registry ≠ "") :
    r.fullName (some registry) = registry ++ "/" ++ raw := by
  obtain ⟨rfl, spelled, -, admitted⟩ := parse_eq_ok_iff.1 parsed
  have absent : r.registry = none := by
    rw [hasRegistry, filled_eq_self (registry_ne admitted)] at unqualified
    exact Option.not_isSome_iff_eq_none.1 (by rw [unqualified]; simp)
  have present : filled (some registry) = some registry := filled_eq_self (by simpa using nonempty)
  have candidate : findRegistry [r.registry, some registry] = some registry := by
    rw [absent, findRegistry, List.findSome?, List.findSome?, present]
    rfl
  apply String.toList_inj.1
  rw [toList_fullName admitted, candidate]
  simp [spelled, absent, spelling, hosted]

/-! ### The tag `latest` -/

/-- The tag that is pulled: without tag and digest, `latest`. -/
def pullTag (r : Reference) : Option String :=
  match r.tag, r.digest with
  | none, none => some "latest"
  | tag, _ => tag

theorem admits_pullTag {r : Reference} (admitted : patterns.Admits r.registry r.repository r.tag r.digest) :
    patterns.Admits r.registry r.repository r.pullTag r.digest := by
  refine ⟨admitted.registry, admitted.repository, ?_, admitted.digest⟩
  unfold pullTag
  split
  · rintro text ⟨⟩
    exact (uptoLineFeed_iff Words.isTag_iff).1 (by decide)
  · exact admitted.tag

theorem toList_withLatest {raw : String} {r : Reference} (parsed : parse raw = .ok r) :
    r.withLatest.toList = spelling r.registry r.repository r.pullTag r.digest := by
  obtain ⟨rfl, spelled, -, admitted⟩ := parse_eq_ok_iff.1 parsed
  have latest : ":latest".toList = ':' :: "latest".toList := by decide
  unfold withLatest pullTag
  cases untagged : r.tag with
  | some tag => rw [spelled, untagged]
  | none =>
    cases undigested : r.digest with
    | some digest => rw [spelled, untagged, undigested]
    | none =>
      dsimp only
      rw [String.toList_append, toList_nameWithoutTag, findRegistry_own admitted, latest]
      simp only [spelling, marked, List.append_nil]

/-- What is pulled is a reference, with the parts of the name that it was made from. -/
theorem parse_withLatest {raw : String} {r : Reference} (parsed : parse raw = .ok r) :
    parse r.withLatest = .ok { r with raw := r.withLatest, tag := r.pullTag } := by
  obtain ⟨-, -, placed, admitted⟩ := parse_eq_ok_iff.1 parsed
  exact parse_eq_ok_iff.2 ⟨rfl, toList_withLatest parsed, placed, admits_pullTag admitted⟩

/-- The name that is pulled from a server: behind the server, with the tag that is pulled. -/
def pulledFrom (r : Reference) (server : Option String) : String :=
  String.ofList (spelling server r.repository r.pullTag r.digest)

theorem pulledFrom_eq (r : Reference) (server : Option String) :
    r.pulledFrom server = server.elim "" (· ++ "/") ++ r.repository ++ r.pullTag.elim "" (":" ++ ·) ++
      r.digest.elim "" ("@" ++ ·) := by
  have behind (mark : Char) (part : Option String) :
      (part.elim "" (String.singleton mark ++ ·)).toList = marked mark part := by
    cases part <;> simp [marked]
  have before : (server.elim "" (· ++ "/")).toList = hosted server := by
    cases server <;> simp [hosted]
  apply String.toList_inj.1
  rw [pulledFrom, String.toList_ofList, spelling]
  simp only [String.toList_append, before, ← behind]
  rfl

/-- Behind a text, the name that is pulled has it for its registry exactly if the text is a registry that looks
like a host; for any other text it is no reference, or a reference elsewhere. -/
theorem parse_pulledFrom_iff {raw : String} {r : Reference} (parsed : parse raw = .ok r) (server : String) :
    (∃ q, parse (r.pulledFrom (some server)) = .ok q ∧ q.registry = some server ∧ q.repository = r.repository) ↔
      HostLike server.toList ∧ server.toList ∈ patterns.registry := by
  obtain ⟨-, -, -, admitted⟩ := parse_eq_ok_iff.1 parsed
  constructor
  · rintro ⟨q, again, qualified, -⟩
    obtain ⟨-, -, placed, words⟩ := parse_eq_ok_iff.1 again
    rw [qualified] at placed
    exact ⟨placed, words.registry server qualified⟩
  · rintro ⟨host, word⟩
    have placed : Placed (some server) r.repository := host
    obtain ⟨-, repository, tag, digest⟩ := admits_pullTag admitted
    have words : patterns.Admits (some server) r.repository r.pullTag r.digest := by
      refine ⟨?_, repository, tag, digest⟩
      rintro _ ⟨⟩
      exact word
    exact ⟨_, parse_spelling placed words, rfl, rfl⟩

theorem fullName_pulled {raw : String} {r : Reference} (parsed : parse raw = .ok r) {server : Option String}
    (chosen : findRegistry [r.registry, server] = server) :
    ({ r with raw := r.withLatest, tag := r.pullTag } : Reference).fullName server = r.pulledFrom server := by
  obtain ⟨-, -, -, admitted⟩ := parse_eq_ok_iff.1 parsed
  apply String.toList_inj.1
  rw [toList_fullName (admits_pullTag admitted), pulledFrom, String.toList_ofList]
  simp only [chosen]

/-! ### A given tag -/

theorem parse_beside_tag {raw given : String} {r : Reference} (parsed : parse raw (some given) = .ok r) :
    r.raw = raw ∧ r.tag = some given ∧ parse raw = .ok { r with tag := none } := by
  obtain ⟨placed, admitted⟩ := parse_placed parsed
  obtain ⟨-, rfl, -⟩ := parse_eq_ok.1 parsed
  obtain ⟨s, digest, digested⟩ : ∃ s digest, cutDigest raw.toList = (s, digest) := ⟨_, _, rfl⟩
  obtain ⟨registry, repository, cut⟩ : ∃ registry repository, cutRegistry s = (registry, repository) := ⟨_, _, rfl⟩
  have parts := @split_of_cuts raw (some given) _ _ _ _ _ _ digested rfl cut
  have spelled : raw.toList = spelling registry (String.ofList repository) none digest := by
    rw [spelling, String.toList_ofList, ← (cutRegistry_parts cut).1, marked, List.append_nil]
    exact cutDigest_parts digested
  rw [parts] at placed admitted ⊢
  refine ⟨rfl, rfl, parse_eq_ok_iff.2 ⟨rfl, spelled, placed, ?_⟩⟩
  exact ⟨admitted.registry, admitted.repository, by simp, admitted.digest⟩

/-- The text that is pulled is a reference to the same registry, repository and digest. It has the tag that is
pulled if the reference was read without a given tag; a given tag is not in it. -/
theorem latest_keeps_parts {raw : String} {given : Option String} {r : Reference} (parsed : parse raw given = .ok r) :
    ∃ tag, parse r.withLatest = .ok ⟨r.withLatest, r.registry, r.repository, tag, r.digest⟩ ∧
      (tag = r.pullTag ↔ given = none) ∧ ∀ text ∈ given, r.tag = some text ∧ tag = none ∧ r.withLatest = raw := by
  cases given with
  | none => exact ⟨r.pullTag, parse_withLatest parsed, by simp, nofun⟩
  | some text =>
    obtain ⟨same, tagged, beside⟩ := parse_beside_tag parsed
    have unchanged : r.withLatest = raw := by rw [withLatest, tagged, same]
    have pulled : r.pullTag = some text := by rw [pullTag, tagged]
    refine ⟨none, ?_, by simp [pulled], ?_⟩
    · rw [unchanged, beside, same]
    · rintro _ ⟨⟩
      exact ⟨tagged, rfl, unchanged⟩

/-- The colon of a port is told from that of the tag. -/
theorem latest_keeps_parts_port :
    ∃ tag, parse "localhost:5000/app:latest" =
      .ok ⟨"localhost:5000/app:latest", some "localhost:5000", "app", tag, none⟩ ∧ tag = some "latest" := by
  have parsed : parse "localhost:5000/app" = .ok ⟨"localhost:5000/app", some "localhost:5000", "app", none, none⟩ := by
    decide
  obtain ⟨tag, again, kept, -⟩ := latest_keeps_parts parsed
  exact ⟨tag, again, kept.2 rfl⟩

/-- A given tag is not pulled. -/
theorem given_tag_dropped :
    ∃ r, parse "alpine" (some "3") = .ok r ∧ r.tag = some "3" ∧
      parse r.withLatest = .ok ⟨"alpine", none, "alpine", none, none⟩ :=
  ⟨⟨"alpine", none, "alpine", some "3", none⟩, by decide, rfl, by decide⟩

end ImageBuild.Reference
