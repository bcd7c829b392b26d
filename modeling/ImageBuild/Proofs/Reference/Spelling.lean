import ImageBuild.Proofs.Reference.Words
import ImageBuild.Reference.Basic

/-!
# Spelled references

The splitting of a text into parts undoes the spelling of the parts, as long as they are words of
their patterns and stand where the splitting looks for them. `parse_eq_ok_iff` says which texts
are read, and as what.
-/

namespace ImageBuild.Reference

open Text

/-! ### The text of parts -/

def marked (mark : Char) : Option String → List Char
  | none => []
  | some part => mark :: part.toList

def hosted : Option String → List Char
  | none => []
  | some registry => registry.toList ++ ['/']

/-- `[registry/]repository[:tag][@digest]`. -/
def spelling (registry : Option String) (repository : String) (tag digest : Option String) : List Char :=
  hosted registry ++ repository.toList ++ marked ':' tag ++ marked '@' digest

/-- What looks like a host: a point or a colon in it, or the local host. -/
def HostLike (s : List Char) : Prop := '.' ∈ s ∨ ':' ∈ s ∨ s = "localhost".toList

theorem looksLikeHost_iff {s : List Char} : looksLikeHost s = true ↔ HostLike s := by
  simp only [looksLikeHost, HostLike, Bool.or_eq_true, List.contains_iff_mem, beq_iff_eq, or_assoc]

/-- A registry looks like a host. Without one, the repository is a single component, or its first
component has no point in it and is not the local host. -/
def Placed : Option String → String → Prop
  | some registry, _ => HostLike registry.toList
  | none, repository => ∀ first rest, repository.toList = first ++ '/' :: rest → '/' ∉ first →
      '.' ∉ first ∧ first ≠ "localhost".toList

/-! ### What the parts are matched against -/

structure Grammar where
  registry : Language Char
  repository : Language Char
  tag : Language Char
  digest : Language Char

structure Grammar.Admits (grammar : Grammar) (registry : Option String) (repository : String)
    (tag digest : Option String) : Prop where
  registry : ∀ text ∈ registry, text.toList ∈ grammar.registry
  repository : repository.toList ∈ grammar.repository
  tag : ∀ text ∈ tag, text.toList ∈ grammar.tag
  digest : ∀ text ∈ digest, text.toList ∈ grammar.digest

/-- The text of a reference shows its parts, and each is a word of the grammar where the splitting
of a text looks for it. -/
structure Grammar.Spells (grammar : Grammar) (r : Reference) : Prop where
  text : r.raw.toList = spelling r.registry r.repository r.tag r.digest
  placed : Placed r.registry r.repository
  words : grammar.Admits r.registry r.repository r.tag r.digest

def ended (l : Language Char) : Language Char := l * (1 + {['\n']})

/-- The patterns of the four parts: tags may hold word characters of any script, and every part
may end in a line feed. -/
def patterns : Grammar where
  registry := ended Words.registry
  repository := ended Words.repository
  tag := ended (Words.tag (isWordChar · = true))
  digest := ended Words.digest

theorem ended_of_mem {l : Language Char} {s : List Char} (member : s ∈ l) : s ∈ ended l :=
  ⟨s, member, [], .inl rfl, List.append_nil s⟩

theorem uptoLineFeed_iff {accepts : List Char → Bool} {l : Language Char}
    (recognised : ∀ {s}, accepts s = true ↔ s ∈ l) {s : List Char} :
    uptoLineFeed accepts s = true ↔ s ∈ ended l := by
  simp only [uptoLineFeed, Bool.or_eq_true, Bool.and_eq_true, beq_iff_eq, recognised]
  constructor
  · rintro (whole | ⟨last, front⟩)
    · exact ended_of_mem whole
    · obtain ⟨before, rfl⟩ := List.getLast?_eq_some_iff.1 last
      rw [List.dropLast_concat] at front
      exact ⟨before, front, ['\n'], .inr rfl, rfl⟩
  · rintro ⟨front, member, _, rfl | rfl, rfl⟩
    · left
      show front ++ [] ∈ l
      rwa [List.append_nil]
    · right
      show (front ++ ['\n']).getLast? = some '\n' ∧ (front ++ ['\n']).dropLast ∈ l
      rw [List.getLast?_concat, List.dropLast_concat]
      exact ⟨rfl, member⟩

theorem nil_notMem_ended {accepts : List Char → Bool} {l : Language Char}
    (recognised : ∀ {s}, accepts s = true ↔ s ∈ l) (rejects : uptoLineFeed accepts [] = false) : [] ∉ ended l := by
  intro member
  rw [(uptoLineFeed_iff recognised).2 member] at rejects
  cases rejects

theorem within_ended {p : Char → Prop} {l : Language Char} (within : Within p l) :
    Within (fun c => p c ∨ c = '\n') (ended l) := by
  refine within_mul (within.mono fun _ => .inl) (within_add ?_ ?_)
  · exact within_singleton (by simp)
  · exact within_singleton (by simp)

theorem optional_eq_nil_iff {accepts : List Char → Bool} {problem : String → Problem} {part : Option String} :
    optional accepts problem part = [] ↔ ∀ text ∈ part, uptoLineFeed accepts text.toList = true := by
  cases part <;> simp [optional]

theorem problems_eq_nil_iff {r : Reference} :
    r.problems = [] ↔ patterns.Admits r.registry r.repository r.tag r.digest := by
  simp only [problems, List.append_eq_nil_iff, optional_eq_nil_iff, uptoLineFeed_iff Words.isRepository_iff,
    uptoLineFeed_iff Words.isRegistry_iff, uptoLineFeed_iff Words.isTag_iff, uptoLineFeed_iff Words.isDigest_iff]
  constructor
  · rintro ⟨⟨⟨repository, registry⟩, tag⟩, digest⟩
    exact ⟨registry, repository r.repository rfl, tag, digest⟩
  · rintro ⟨registry, repository, tag, digest⟩
    refine ⟨⟨⟨?_, registry⟩, tag⟩, digest⟩
    rintro text ⟨⟩
    exact repository

/-! ### Cutting a text into its parts -/

def cutDigest (s : List Char) : List Char × Option String :=
  match splitFirst '@' s with
  | some (before, after) => (before, some (String.ofList after))
  | none => (s, none)

def cutTag (s : List Char) : List Char × Option String :=
  match splitLast ':' s with
  | some (before, after) =>
    if after.contains '/' then (s, none) else (before, some (String.ofList after))
  | none => (s, none)

def cutRegistry (s : List Char) : Option String × List Char :=
  match splitFirst '/' s with
  | some (first, rest) => if looksLikeHost first then (some (String.ofList first), rest) else (none, s)
  | none => (none, s)

def takeTag (given : Option String) (s : List Char) : List Char × Option String :=
  match given with
  | some tag => (s, some tag)
  | none => cutTag s

theorem split_of_cuts {raw : String} {given : Option String} {s t repository : List Char}
    {registry tag digest : Option String} (digested : cutDigest raw.toList = (s, digest))
    (tagged : takeTag given s = (t, tag)) (placed : cutRegistry t = (registry, repository)) :
    split raw given = ⟨raw, registry, String.ofList repository, tag, digest⟩ := by
  unfold cutDigest at digested
  unfold takeTag cutTag at tagged
  unfold cutRegistry at placed
  unfold split
  grind

theorem cutDigest_parts {s before : List Char} {digest : Option String}
    (cut : cutDigest s = (before, digest)) : s = before ++ marked '@' digest := by
  unfold cutDigest at cut
  split at cut
  · rename_i found
    cases cut
    rw [marked, String.toList_ofList]
    exact (splitFirst_eq_some found).1
  · cases cut
    exact (List.append_nil _).symm

theorem cutTag_parts {s before : List Char} {tag : Option String} (cut : cutTag s = (before, tag)) :
    s = before ++ marked ':' tag := by
  unfold cutTag at cut
  split at cut
  · rename_i found
    split at cut
    · cases cut
      exact (List.append_nil _).symm
    · cases cut
      rw [marked, String.toList_ofList]
      exact splitLast_eq_some found
  · cases cut
    exact (List.append_nil _).symm

theorem cutRegistry_parts {s repository : List Char} {registry : Option String}
    (cut : cutRegistry s = (registry, repository)) :
    s = hosted registry ++ repository ∧ Placed registry (String.ofList repository) := by
  unfold cutRegistry at cut
  split at cut
  · rename_i first rest found
    obtain ⟨shape, free⟩ := splitFirst_eq_some found
    split at cut
    · rename_i host
      cases cut
      refine ⟨?_, ?_⟩
      · rw [hosted, String.toList_ofList, List.append_assoc]
        exact shape
      · show HostLike (String.ofList first).toList
        rw [String.toList_ofList]
        exact looksLikeHost_iff.1 host
    · rename_i foreign
      cases cut
      refine ⟨rfl, ?_⟩
      intro other later same absent
      rw [String.toList_ofList] at same
      have again := splitFirst_append absent later
      rw [← same, found] at again
      obtain ⟨rfl, -⟩ := Prod.mk.inj (Option.some.inj again)
      have host : ¬HostLike first := fun host => foreign (looksLikeHost_iff.2 host)
      exact ⟨fun point => host (.inl point), fun localhost => host (.inr (.inr localhost))⟩
  · rename_i found
    cases cut
    refine ⟨rfl, ?_⟩
    intro other later same
    rw [String.toList_ofList] at same
    have absent := splitFirst_eq_none.1 found
    rw [same] at absent
    simp at absent

/-! ### Cutting a spelled text -/

section spelled

variable {registry tag digest : Option String} {repository text : String}

theorem cutDigest_marked {s : List Char} (free : '@' ∉ s) (digest : Option String) :
    cutDigest (s ++ marked '@' digest) = (s, digest) := by
  cases digest with
  | none =>
    rw [marked, List.append_nil, cutDigest, splitFirst_eq_none.2 free]
  | some text =>
    rw [marked, cutDigest, splitFirst_append free]
    simp

theorem registry_free (admitted : patterns.Admits (some text) repository tag digest) :
    '/' ∉ text.toList ∧ '@' ∉ text.toList := by
  have member := admitted.registry text rfl
  have within := within_ended Words.within_registry
  exact ⟨within.notMem (by decide) member, within.notMem (by decide) member⟩

theorem repository_free (admitted : patterns.Admits registry repository tag digest) :
    ':' ∉ repository.toList ∧ '@' ∉ repository.toList := by
  have within := within_ended Words.within_repository
  exact ⟨within.notMem (by decide) admitted.repository, within.notMem (by decide) admitted.repository⟩

theorem tag_free (admitted : patterns.Admits registry repository (some text) digest) {c : Char}
    (mark : c ∈ ['/', ':', '@']) : c ∉ text.toList := by
  have ascii : c.toNat < 128 := by
    simp only [List.mem_cons, List.not_mem_nil, or_false] at mark
    rcases mark with rfl | rfl | rfl <;> decide
  refine (within_ended (Words.within_tag _)).notMem ?_ (admitted.tag text rfl)
  rw [Words.isWordChar_ascii ascii]
  simp only [List.mem_cons, List.not_mem_nil, or_false] at mark
  rcases mark with rfl | rfl | rfl <;> decide

theorem marked_free {c mark : Char} {part : Option String} (other : c ≠ mark)
    (free : ∀ text ∈ part, c ∉ text.toList) : c ∉ marked mark part := by
  cases part with
  | none => simp [marked]
  | some text => exact List.not_mem_cons_of_ne_of_not_mem other (free text rfl)

theorem hosted_free {c : Char} (other : c ≠ '/') (free : ∀ text ∈ registry, c ∉ text.toList) :
    c ∉ hosted registry := by
  cases registry with
  | none => simp [hosted]
  | some text =>
    simp only [hosted, List.mem_append, List.mem_singleton, not_or]
    exact ⟨free text rfl, other⟩

theorem front_free (admitted : patterns.Admits registry repository tag digest) :
    '@' ∉ hosted registry ++ repository.toList ++ marked ':' tag := by
  have before : '@' ∉ hosted registry := by
    refine hosted_free (by decide) ?_
    rintro text rfl
    exact (registry_free admitted).2
  have behind : '@' ∉ marked ':' tag := by
    refine marked_free (by decide) ?_
    rintro text rfl
    exact tag_free admitted (by decide)
  simp only [List.mem_append, not_or]
  exact ⟨⟨before, (repository_free admitted).2⟩, behind⟩

theorem mem_after {c d : Char} {s t u v : List Char} (same : s ++ c :: t = u ++ d :: v) (different : c ≠ d)
    (absent : d ∉ t) : c ∈ v := by
  rcases List.append_eq_append_iff.1 same with ⟨x, -, shape⟩ | ⟨x, -, shape⟩
  · cases x with
    | nil => exact absurd (List.cons.inj shape).1 different
    | cons e x =>
      rw [(List.cons.inj shape).2] at absent
      simp at absent
  · cases x with
    | nil => exact absurd (List.cons.inj shape).1.symm different
    | cons e x =>
      rw [(List.cons.inj shape).2]
      simp

/-- A tag is found behind its colon. Without one, a colon can only be that of a port. -/
theorem cutTag_marked (admitted : patterns.Admits registry repository tag digest) :
    cutTag (hosted registry ++ repository.toList ++ marked ':' tag) = (hosted registry ++ repository.toList, tag) := by
  cases tag with
  | some text =>
    have bare : text.toList.contains '/' = false := by
      simpa using tag_free admitted (by decide : '/' ∈ ['/', ':', '@'])
    rw [marked, cutTag, splitLast_append (tag_free admitted (by decide))]
    simp only [bare, Bool.false_eq_true, if_false, String.ofList_toList]
  | none =>
    have free := (repository_free admitted).1
    rw [marked, List.append_nil, cutTag]
    split
    · rename_i before after found
      have shape := splitLast_eq_some found
      have stroke : '/' ∈ after := by
        cases registry with
        | none =>
          have inside : ':' ∈ repository.toList := by
            rw [show repository.toList = before ++ ':' :: after from shape]
            simp
          contradiction
        | some text =>
          rw [hosted, List.append_assoc, List.singleton_append] at shape
          exact mem_after shape (by decide) free
      rw [if_pos (by simpa using stroke)]
    · rfl

theorem cutRegistry_hosted (admitted : patterns.Admits registry repository tag digest)
    (placed : Placed registry repository) :
    cutRegistry (hosted registry ++ repository.toList) = (registry, repository.toList) := by
  cases registry with
  | some text =>
    have host : looksLikeHost text.toList = true := looksLikeHost_iff.2 placed
    rw [hosted, List.append_assoc, List.singleton_append, cutRegistry, splitFirst_append (registry_free admitted).1]
    simp only [host, if_true, String.ofList_toList]
  | none =>
    rw [hosted, List.nil_append, cutRegistry]
    split
    · rename_i first rest found
      obtain ⟨shape, absent⟩ := splitFirst_eq_some found
      obtain ⟨point, localhost⟩ := placed first rest shape absent
      have foreign : ¬looksLikeHost first = true := by
        rw [looksLikeHost_iff]
        rintro (dotted | colon | same)
        · exact point dotted
        · refine (repository_free admitted).1 ?_
          rw [shape]
          exact List.mem_append_left _ colon
        · exact localhost same
      rw [if_neg foreign]
    · rfl

/-! ### Reading a text -/

theorem repository_nonempty (admitted : patterns.Admits registry repository tag digest) : repository ≠ "" := by
  rintro rfl
  exact nil_notMem_ended Words.isRepository_iff (by decide) admitted.repository

theorem parse_eq_ok {raw : String} {given : Option String} {r : Reference} :
    parse raw given = .ok r ↔ raw ≠ "" ∧ split raw given = r ∧ r.problems = [] := by
  unfold parse
  split
  · rename_i empty
    exact iff_of_false (by simp) (by simp [empty])
  · rename_i nonempty
    dsimp only
    split
    · rename_i right
      constructor
      · intro same
        obtain rfl := Except.ok.inj same
        exact ⟨nonempty, rfl, right⟩
      · rintro ⟨-, rfl, -⟩
        rfl
    · rename_i wrong
      refine iff_of_false (by simp) ?_
      rintro ⟨-, rfl, right⟩
      exact wrong right

theorem parse_placed {raw : String} {given : Option String} {r : Reference} (parsed : parse raw given = .ok r) :
    Placed r.registry r.repository ∧ patterns.Admits r.registry r.repository r.tag r.digest := by
  obtain ⟨-, rfl, right⟩ := parse_eq_ok.1 parsed
  refine ⟨?_, problems_eq_nil_iff.1 right⟩
  have cuts := @split_of_cuts raw given _ _ _ _ _ _ rfl rfl rfl
  rw [cuts]
  exact (cutRegistry_parts rfl).2

theorem parse_spelling (placed : Placed registry repository)
    (admitted : patterns.Admits registry repository tag digest) :
    parse (String.ofList (spelling registry repository tag digest)) =
      .ok ⟨String.ofList (spelling registry repository tag digest), registry, repository, tag, digest⟩ := by
  have digested : cutDigest (String.ofList (spelling registry repository tag digest)).toList =
      (hosted registry ++ repository.toList ++ marked ':' tag, digest) := by
    rw [String.toList_ofList, spelling]
    exact cutDigest_marked (front_free admitted) digest
  have tagged : takeTag none (hosted registry ++ repository.toList ++ marked ':' tag) =
      (hosted registry ++ repository.toList, tag) := cutTag_marked admitted
  have cuts := split_of_cuts digested tagged (cutRegistry_hosted admitted placed)
  rw [String.ofList_toList] at cuts
  have nonempty : String.ofList (spelling registry repository tag digest) ≠ "" := by
    intro empty
    have nothing : spelling registry repository tag digest = [] := by simpa using empty
    simp only [spelling, List.append_eq_nil_iff] at nothing
    exact repository_nonempty admitted (String.toList_inj.1 nothing.1.1.2)
  exact parse_eq_ok.2 ⟨nonempty, cuts, problems_eq_nil_iff.2 admitted⟩

/-- A text is read without a given tag exactly when it spells parts that are words of their
patterns, and the parts are the ones that are read. -/
theorem parse_eq_ok_iff {raw : String} {r : Reference} :
    parse raw = .ok r ↔ r.raw = raw ∧ patterns.Spells r := by
  constructor
  · intro parsed
    obtain ⟨placed, admitted⟩ := parse_placed parsed
    obtain ⟨-, rfl, -⟩ := parse_eq_ok.1 parsed
    refine ⟨rfl, ?_, placed, admitted⟩
    show raw.toList = _
    obtain ⟨s, digest, digested⟩ : ∃ s digest, cutDigest raw.toList = (s, digest) := ⟨_, _, rfl⟩
    obtain ⟨t, tag, tagged⟩ : ∃ t tag, takeTag none s = (t, tag) := ⟨_, _, rfl⟩
    obtain ⟨registry, repository, cut⟩ : ∃ registry repository, cutRegistry t = (registry, repository) :=
      ⟨_, _, rfl⟩
    rw [split_of_cuts digested tagged cut, spelling, String.toList_ofList, ← (cutRegistry_parts cut).1,
      ← cutTag_parts tagged]
    exact cutDigest_parts digested
  · rintro ⟨rfl, spelled, placed, admitted⟩
    have read := parse_spelling placed admitted
    rw [← spelled, String.ofList_toList] at read
    exact read

end spelled

end ImageBuild.Reference
