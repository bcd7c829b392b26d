import ImageBuild.Proofs.Reference.Qualified
import ImageBuild.Text.Blank

namespace ImageBuild.Reference

open Text Words

/-! ### Reading and printing -/

theorem parse_fullName {raw : String} {given : Option String} {r : Reference} (parsed : parse raw given = .ok r) :
    parse r.fullName = .ok { r with raw := r.fullName } := by
  obtain ⟨placed, admitted⟩ := parse_placed parsed
  have printed : r.fullName.toList = spelling r.registry r.repository r.tag r.digest := by
    rw [toList_fullName admitted, findRegistry_own admitted]
  exact parse_eq_ok_iff.2 ⟨rfl, printed, placed, admitted⟩

/-- What was read without a given tag prints as its text; whatever was read, its full name reads as
the same parts; and parts that are words of their patterns are read from their text. -/
theorem reading_inverts_printing :
    (∀ raw r, parse raw = .ok r → r.fullName = raw) ∧
    (∀ raw given r, parse raw given = .ok r → parse r.fullName = .ok { r with raw := r.fullName }) ∧
    (∀ registry repository tag digest, Placed registry repository →
      patterns.Admits registry repository tag digest →
      parse (String.ofList (spelling registry repository tag digest)) =
        .ok ⟨String.ofList (spelling registry repository tag digest), registry, repository, tag, digest⟩) := by
  refine ⟨?_, ?_, ?_⟩
  · intro raw r parsed
    exact fullName_of_parse parsed
  · intro raw given r parsed
    exact parse_fullName parsed
  · intro registry repository tag digest placed admitted
    exact parse_spelling placed admitted

def ported : Reference := ⟨"localhost:5000/team/app:1.2", some "localhost:5000", "team/app", some "1.2", none⟩

theorem parse_ported : parse "localhost:5000/team/app:1.2" = .ok ported := by decide +kernel

theorem reading_inverts_printing_port :
    ported.fullName = "localhost:5000/team/app:1.2" ∧
    parse ported.fullName = .ok { ported with raw := ported.fullName } ∧
    parse (String.ofList (spelling (some "localhost:5000") "team/app" (some "1.2") none)) =
      .ok ⟨String.ofList (spelling (some "localhost:5000") "team/app" (some "1.2") none), some "localhost:5000",
        "team/app", some "1.2", none⟩ := by
  obtain ⟨printed, reread, spelled⟩ := reading_inverts_printing
  obtain ⟨placed, admitted⟩ := parse_placed parse_ported
  exact ⟨printed _ _ parse_ported, reread _ _ _ parse_ported, spelled _ _ _ _ placed admitted⟩

/-! ### The grammar -/

def grammar : Grammar where
  registry := Words.registry
  repository := Words.repository
  tag := Words.tag fun c => Alnum c ∨ c = '_'
  digest := Words.digest

def Plain (c : Char) : Prop := c ≠ '\n' ∧ c.toNat < 128

instance (c : Char) : Decidable (Plain c) := inferInstanceAs (Decidable (_ ∧ _))

section parts

variable {p : Char → Prop} {registry tag digest : Option String} {repository : String}

theorem spelling_within {g : Grammar} (admitted : g.Admits registry repository tag digest)
    (registries : Within p g.registry) (repositories : Within p g.repository) (tags : Within p g.tag)
    (digests : Within p g.digest) (stroke : p '/') (colon : p ':') (at_ : p '@') :
    ∀ c ∈ spelling registry repository tag digest, p c := by
  have front : ∀ c ∈ hosted registry, p c := by
    intro c inside
    cases registry with
    | none => cases inside
    | some text =>
      rcases List.mem_append.1 inside with named | last
      · exact registries _ (admitted.registry text rfl) c named
      · rw [List.mem_singleton.1 last]
        exact stroke
  have behind {mark : Char} {part : Option String} (holds : p mark)
      (within : ∀ text ∈ part, ∀ c ∈ text.toList, p c) : ∀ c ∈ marked mark part, p c := by
    cases part with
    | none => exact List.forall_mem_nil _
    | some text => exact List.forall_mem_cons.2 ⟨holds, within text rfl⟩
  have middle : ∀ c ∈ marked ':' tag, p c :=
    behind colon fun text same => tags _ (admitted.tag text same)
  have back : ∀ c ∈ marked '@' digest, p c :=
    behind at_ fun text same => digests _ (admitted.digest text same)
  simp only [spelling, List.forall_mem_append]
  exact ⟨⟨⟨front, repositories _ admitted.repository⟩, middle⟩, back⟩

theorem parts_of_spelling (all : ∀ c ∈ spelling registry repository tag digest, p c) :
    (∀ text ∈ registry, ∀ c ∈ text.toList, p c) ∧ (∀ c ∈ repository.toList, p c) ∧
      (∀ text ∈ tag, ∀ c ∈ text.toList, p c) ∧ ∀ text ∈ digest, ∀ c ∈ text.toList, p c := by
  simp only [spelling, List.forall_mem_append] at all
  obtain ⟨⟨⟨front, repositories⟩, tags⟩, digests⟩ := all
  refine ⟨?_, repositories, ?_, ?_⟩
  · rintro text rfl c inside
    exact front c (List.mem_append_left _ inside)
  · rintro text rfl c inside
    exact tags c (List.mem_cons_of_mem _ inside)
  · rintro text rfl c inside
    exact digests c (List.mem_cons_of_mem _ inside)

end parts

theorem plain_of_alnum {c : Char} (alnum : Alnum c) : Plain c := by
  have bound {low high : Char} (feed : '\n' < low) (small : high.toNat < 128) (inside : low ≤ c ∧ c ≤ high) :
      Plain c := by
    obtain ⟨above, below⟩ := inside
    refine ⟨?_, Nat.lt_of_le_of_lt below small⟩
    rintro rfl
    exact Char.not_lt.2 above feed
  rcases alnum with (lower | upper) | digit
  · exact bound (by decide) (by decide) lower
  · exact bound (by decide) (by decide) upper
  · exact bound (by decide) (by decide) digit

theorem plain_of_either {c : Char} {marks : List Char} (plain : marks.all (Plain ·) = true)
    (inside : Alnum c ∨ c ∈ marks) : Plain c := by
  rcases inside with alnum | mark
  · exact plain_of_alnum alnum
  · exact of_decide_eq_true (List.all_eq_true.1 plain c mark)

theorem plain_of_grammar {r : Reference} (spelled : grammar.Spells r) : ∀ c ∈ r.raw.toList, Plain c := by
  rw [spelled.text]
  refine spelling_within spelled.words ?_ ?_ ?_ ?_ (by decide) (by decide) (by decide)
  · exact within_registry.mono fun c => plain_of_either (by decide)
  · exact within_repository.mono fun c inside => plain_of_either (by decide) (inside.imp_left alnum_of_lower)
  · refine (within_tag _).mono fun c inside => ?_
    have either : Alnum c ∨ c ∈ ['_', '.', '-'] := by simpa [or_assoc] using inside
    exact plain_of_either (by decide) either
  · exact within_digest.mono fun c => plain_of_either (by decide)

/-! ### Where the patterns and the grammar agree -/

theorem mem_of_ended {l : Language Char} {s : List Char} (member : s ∈ ended l) (free : '\n' ∉ s) : s ∈ l := by
  obtain ⟨front, isWord, _, rfl | rfl, rfl⟩ := member
  · show front ++ [] ∈ l
    rwa [List.append_nil]
  · exact absurd (List.mem_append_right front (List.mem_singleton_self '\n')) free

theorem tag_congr {p q : Char → Prop} {s : List Char} (same : ∀ c ∈ s, p c ↔ q c) :
    s ∈ Words.tag p ↔ s ∈ Words.tag q := by
  have all : (∀ c ∈ s, p c ∨ c = '.' ∨ c = '-') ↔ ∀ c ∈ s, q c ∨ c = '.' ∨ c = '-' :=
    forall₂_congr fun c inside => or_congr_left (same c inside)
  show (_ ∧ _ ∧ _ ∧ _) ↔ (_ ∧ _ ∧ _ ∧ _)
  rw [all]

theorem tag_plain {s : List Char} (plain : ∀ c ∈ s, Plain c) :
    s ∈ grammar.tag ↔ s ∈ Words.tag (isWordChar · = true) :=
  tag_congr fun c inside => (isWordChar_ascii (plain c inside).2).symm

-- Only for tags are the patterns wider than the grammar by more than a line feed.
theorem spells_patterns {r : Reference} (spelled : grammar.Spells r) : patterns.Spells r := by
  have plain := plain_of_grammar spelled
  rw [spelled.text] at plain
  obtain ⟨-, -, tags, -⟩ := parts_of_spelling plain
  obtain ⟨registry, repository, tag, digest⟩ := spelled.words
  refine ⟨spelled.text, spelled.placed, ⟨?_, ended_of_mem repository, ?_, ?_⟩⟩
  · intro text same
    exact ended_of_mem (registry text same)
  · intro text same
    exact ended_of_mem ((tag_plain (tags text same)).1 (tag text same))
  · intro text same
    exact ended_of_mem (digest text same)

theorem spells_grammar {r : Reference} (spelled : patterns.Spells r) (plain : ∀ c ∈ r.raw.toList, Plain c) :
    grammar.Spells r := by
  rw [spelled.text] at plain
  obtain ⟨registries, repositories, tags, digests⟩ := parts_of_spelling plain
  obtain ⟨registry, repository, tag, digest⟩ := spelled.words
  have free {s : List Char} (plain : ∀ c ∈ s, Plain c) : '\n' ∉ s := fun inside => (plain _ inside).1 rfl
  refine ⟨spelled.text, spelled.placed, ⟨?_, mem_of_ended repository (free repositories), ?_, ?_⟩⟩
  · intro text same
    exact mem_of_ended (registry text same) (free (registries text same))
  · intro text same
    exact (tag_plain (tags text same)).2 (mem_of_ended (tag text same) (free (tags text same)))
  · intro text same
    exact mem_of_ended (digest text same) (free (digests text same))

/-! ### Blanks -/

theorem word_not_blank {c : Char} (word : isWordChar c = true) : isBlank c = false := by
  have apart : ∀ word ∈ wordRanges, ∀ blank ∈ blankRanges, word.2 < blank.1 ∨ blank.2 < word.1 := by
    decide +kernel
  obtain ⟨range, isRange, inside⟩ := List.any_eq_true.1 word
  refine List.any_eq_false.2 ?_
  intro blank isBlankRange
  have between := apart range isRange blank isBlankRange
  simp only [Bool.and_eq_true, decide_eq_true_eq] at inside ⊢
  omega

theorem signs_of_patterns {r : Reference} (spelled : patterns.Spells r) :
    ∀ c ∈ r.raw.toList, isWordChar c = true ∨ c ∈ ['-', '_', '+', '.', ':', '/', '@', '\n'] := by
  have signs {l : Language Char} {marks : List Char} (within : Within (fun c => Alnum c ∨ c ∈ marks) l)
      (known : marks ⊆ ['-', '_', '+', '.', ':', '/', '@', '\n']) :
      Within (fun c => isWordChar c = true ∨ c ∈ ['-', '_', '+', '.', ':', '/', '@', '\n']) (ended l) := by
    refine (within_ended within).mono ?_
    rintro c ((alnum | mark) | rfl)
    · exact .inl ((isWordChar_ascii (plain_of_alnum alnum).2).2 (.inl alnum))
    · exact .inr (known mark)
    · exact .inr (by decide)
  rw [spelled.text]
  refine spelling_within spelled.words ?_ ?_ ?_ ?_ (.inr (by decide)) (.inr (by decide)) (.inr (by decide))
  · exact signs within_registry (by decide)
  · exact signs (within_repository.mono fun c inside => inside.imp_left alnum_of_lower) (by decide)
  · refine (within_ended (within_tag _)).mono ?_
    rintro c ((word | rfl | rfl) | rfl)
    · exact .inl word
    all_goals exact .inr (by decide)
  · exact signs within_digest (by decide)

/-- What is read holds no blanks but line feeds. -/
theorem blank_of_patterns {r : Reference} (spelled : patterns.Spells r) :
    ∀ c ∈ r.raw.toList, isBlank c = true → c = '\n' := by
  intro c member blank
  rcases signs_of_patterns spelled c member with word | mark
  · cases (word_not_blank word).symm.trans blank
  · have visible : ['-', '_', '+', '.', ':', '/', '@', '\n'].all (fun c => !isBlank c || c == '\n') = true := by decide
    simpa [blank] using List.all_eq_true.1 visible c mark

/-- A text in plain ASCII is read as a reference exactly where the grammar spells it. Whatever else
is read ends parts in line feeds or has a tag in another script, and holds no other blank. -/
theorem read_iff_spelled (raw : String) (r : Reference) :
    (parse raw = .ok r ∧ (∀ c ∈ raw.toList, Plain c) ↔ r.raw = raw ∧ grammar.Spells r) ∧
    (parse raw = .ok r ↔ r.raw = raw ∧ patterns.Spells r) ∧
    (parse raw = .ok r → ∀ c ∈ raw.toList, isBlank c = true → c = '\n') := by
  refine ⟨?_, parse_eq_ok_iff, ?_⟩
  · constructor
    · rintro ⟨parsed, plain⟩
      obtain ⟨rfl, spelled⟩ := parse_eq_ok_iff.1 parsed
      exact ⟨rfl, spells_grammar spelled plain⟩
    · rintro ⟨rfl, spelled⟩
      exact ⟨parse_eq_ok_iff.2 ⟨rfl, spells_patterns spelled⟩, plain_of_grammar spelled⟩
  · intro parsed
    obtain ⟨rfl, spelled⟩ := parse_eq_ok_iff.1 parsed
    exact blank_of_patterns spelled

/-- A line feed behind the repository and a tag in another script are read, though the grammar
spells neither text. -/
theorem read_beyond_grammar :
    (∃ r, parse "alpine\n" = .ok r) ∧ (∃ r, parse "alpine:é" = .ok r) ∧
    ∀ r, grammar.Spells r → r.raw ≠ "alpine\n" ∧ r.raw ≠ "alpine:é" := by
  refine ⟨⟨⟨"alpine\n", none, "alpine\n", none, none⟩, by decide⟩,
    ⟨⟨"alpine:é", none, "alpine", some "é", none⟩, by decide⟩, ?_⟩
  intro r spelled
  have plain := plain_of_grammar spelled
  refine ⟨?_, ?_⟩
  · intro same
    rw [same] at plain
    exact (plain '\n' (by decide)).1 rfl
  · intro same
    rw [same] at plain
    exact absurd (plain 'é' (by decide)).2 (by decide)

end ImageBuild.Reference
