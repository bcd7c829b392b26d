import ImageBuild.Archive.Layout
import ImageBuild.Context
import ImageBuild.Proofs.Config.Accepted
import ImageBuild.Proofs.Reference.Reading
import Mathlib.Data.List.Destutter
import Mathlib.Data.List.DropRight

namespace ImageBuild.Archive

open Config Data Reference Text

/-- Of a run of unusual characters only the first one is kept. -/
def Parted (a b : Char) : Prop := isSafe a = true ∨ isSafe b = true

instance : DecidableRel Parted := fun a b => inferInstanceAs (Decidable (isSafe a = true ∨ isSafe b = true))

def masked (c : Char) : Char := if isSafe c then c else '_'

def folded (name : String) : List Char :=
  ((name.toList.destutter Parted).map masked).rdropWhile (· == '_')

/-! ### Folding -/

theorem replaceUnsafe_safe {c : Char} (safe : isSafe c = true) (replaced : Bool) (s : List Char) :
    replaceUnsafe replaced (c :: s) = c :: replaceUnsafe false s := by
  simp [replaceUnsafe, safe]

theorem map_destutter' (s : List Char) (c : Char) :
    (s.destutter' Parted c).map masked = masked c :: replaceUnsafe (!isSafe c) s := by
  induction s generalizing c with
  | nil => simp [replaceUnsafe]
  | cons d s ih =>
    by_cases parted : Parted c d
    · rw [List.destutter'_cons_pos s parted, List.map_cons, ih d]
      congr 1
      by_cases safe : isSafe d = true
      · simp [replaceUnsafe, safe, masked]
      · have before : isSafe c = true := parted.resolve_right safe
        simp [replaceUnsafe, safe, before, masked]
    · rw [List.destutter'_cons_neg s parted, ih c]
      simp only [Parted, not_or] at parted
      simp [replaceUnsafe, parted.1, parted.2]

theorem replaceUnsafe_eq (s : List Char) : replaceUnsafe false s = (s.destutter Parted).map masked := by
  cases s with
  | nil => rfl
  | cons c s =>
    show _ = (s.destutter' Parted c).map masked
    rw [map_destutter']
    by_cases safe : isSafe c = true
    · simp [replaceUnsafe, safe, masked]
    · simp [replaceUnsafe, safe, masked]

theorem stripUnderscores_cons {c : Char} (other : c ≠ '_') (s : List Char) :
    stripUnderscores (c :: s) = (c :: s).rdropWhile (· == '_') := by
  simp [stripUnderscores, List.rdropWhile, other]

/-! ### The names of accepted images -/

theorem head_of_joined {p : Char → Prop} {piece joint : Language Char}
    (pieces : ∀ w ∈ piece, ∃ c rest, w = c :: rest ∧ p c) {s : List Char} (member : s ∈ joined piece joint) :
    ∃ c rest, s = c :: rest ∧ p c := by
  obtain ⟨first, isPiece, more, -, rfl⟩ := member
  obtain ⟨c, rest, rfl, holds⟩ := pieces first isPiece
  exact ⟨c, rest ++ more, rfl, holds⟩

theorem head_of_ended {p : Char → Prop} {l : Language Char} (words : ∀ w ∈ l, ∃ c rest, w = c :: rest ∧ p c)
    {s : List Char} (member : s ∈ ended l) : ∃ c rest, s = c :: rest ∧ p c := by
  obtain ⟨first, isWord, more, -, rfl⟩ := member
  obtain ⟨c, rest, rfl, holds⟩ := words first isWord
  exact ⟨c, rest ++ more, rfl, holds⟩

theorem head_of_registry {s : List Char} (member : s ∈ Words.registry) :
    ∃ c rest, s = c :: rest ∧ Words.Alnum c := by
  obtain ⟨host, isHost, port, -, rfl⟩ := member
  have begins : ∀ w ∈ Words.domainComponent, ∃ c rest, w = c :: rest ∧ Words.Alnum c := by
    rintro w (⟨c, rfl, alnum⟩ | ⟨_, ⟨_, ⟨c, rfl, alnum⟩, inner, -, rfl⟩, last, -, rfl⟩)
    · exact ⟨c, [], rfl, alnum⟩
    · exact ⟨c, inner ++ last, rfl, alnum⟩
  obtain ⟨c, rest, rfl, alnum⟩ := head_of_joined begins isHost
  exact ⟨c, rest ++ port, rfl, alnum⟩

theorem head_of_repository {s : List Char} (member : s ∈ Words.repository) :
    ∃ c rest, s = c :: rest ∧ Words.Alnum c := by
  have runs : ∀ w ∈ atLeast 1 Words.LowerAlnum, ∃ c rest, w = c :: rest ∧ Words.Alnum c := by
    rintro w ⟨nonempty, lower⟩
    obtain ⟨c, rest, rfl⟩ := List.exists_cons_of_length_pos nonempty
    exact ⟨c, rest, rfl, Words.alnum_of_lower (lower c List.mem_cons_self)⟩
  exact head_of_joined (fun _ => head_of_joined runs) member

/-- A name that is read as a reference begins with a letter or a digit. -/
theorem head_of_parse {name : String} {r : Reference} (parsed : parse name = .ok r) :
    ∃ c rest, name.toList = c :: rest ∧ Words.Alnum c := by
  obtain ⟨rfl, spelled⟩ := parse_eq_ok_iff.1 parsed
  rw [spelled.text, spelling]
  cases registered : r.registry with
  | none =>
    obtain ⟨c, rest, same, alnum⟩ := head_of_ended (fun _ => head_of_repository) spelled.words.repository
    exact ⟨c, _, by rw [hosted, List.nil_append, same, List.cons_append, List.cons_append], alnum⟩
  | some registry =>
    have member := spelled.words.registry registry registered
    obtain ⟨c, rest, same, alnum⟩ := head_of_ended (fun _ => head_of_registry) member
    exact ⟨c, _, by rw [hosted, same, List.cons_append, List.cons_append, List.cons_append, List.cons_append], alnum⟩

theorem isSafe_of_alnum {c : Char} (alnum : Words.Alnum c) : isSafe c = true := by
  simp [isSafe, Words.isAlphanum_iff.2 alnum]

theorem ne_of_alnum {c d : Char} (alnum : Words.Alnum c) (other : ¬Words.Alnum d) : c ≠ d := by
  rintro rfl
  exact other alnum

theorem rdropWhile_cons {p : Char → Bool} {c : Char} (kept : p c = false) (s : List Char) :
    (c :: s).rdropWhile p = c :: s.rdropWhile p := by
  simp only [List.rdropWhile, List.reverse_cons, List.dropWhile_append]
  split
  · rename_i empty
    rw [List.isEmpty_iff] at empty
    simp [empty, kept]
  · simp

theorem folded_of_parse {name : String} {r : Reference} (parsed : parse name = .ok r) :
    (∃ c rest, folded name = c :: rest ∧ Words.Alnum c) ∧ safeName name = String.ofList (folded name) := by
  obtain ⟨c, rest, same, alnum⟩ := head_of_parse parsed
  have safe := isSafe_of_alnum alnum
  have other : c ≠ '_' := ne_of_alnum alnum (by decide)
  have replaced : replaceUnsafe false name.toList = c :: replaceUnsafe false rest := by
    rw [same, replaceUnsafe_safe safe]
  have begins : folded name = c :: (replaceUnsafe false rest).rdropWhile (· == '_') := by
    rw [folded, ← replaceUnsafe_eq, replaced, rdropWhile_cons (by simpa using other)]
  have stripped : stripUnderscores (replaceUnsafe false name.toList) = folded name := by
    rw [replaced, stripUnderscores_cons other, rdropWhile_cons (by simpa using other), begins]
  refine ⟨⟨c, _, begins, alnum⟩, ?_⟩
  rw [safeName, stripped, begins]

theorem isSafe_of_folded {name : String} {c : Char} (inside : c ∈ folded name) : isSafe c = true := by
  have early : c ∈ (name.toList.destutter Parted).map masked := (List.rdropWhile_prefix _ _).subset inside
  obtain ⟨d, -, rfl⟩ := List.mem_map.1 early
  unfold masked
  split
  · assumption
  · rfl

theorem rootOf_of_notMem {s : List Char} (noSlash : '/' ∉ s) : Path.rootOf s = .none := by
  cases s with
  | nil => rfl
  | cons c s =>
    have other : c ≠ '/' := fun same => noSlash (same ▸ List.mem_cons_self)
    unfold Path.rootOf
    split <;> simp_all

theorem ofText_single {s : List Char} (nonempty : s ≠ []) (noSlash : '/' ∉ s) (notHere : s ≠ ['.']) :
    Path.ofText (String.ofList s) = ⟨.none, [String.ofList s]⟩ := by
  have whole : Path.isPart s = true := by
    simp [Path.isPart, nonempty, notHere]
  simp [Path.ofText, rootOf_of_notMem noSlash, splitAll_of_notMem noSlash, whole]

theorem directory_of_parse {name : String} {r : Reference} (parsed : parse name = .ok r) (outputDir : Path) :
    directory outputDir name = outputDir.child (String.ofList (folded name)) := by
  obtain ⟨⟨c, rest, begins, alnum⟩, named⟩ := folded_of_parse parsed
  have noSlash : '/' ∉ folded name := by
    intro inside
    exact absurd (isSafe_of_folded inside) (by decide)
  have notHere : folded name ≠ ['.'] := by
    rw [begins]
    intro same
    have point := (List.cons.inj same).1
    rw [point] at alnum
    exact absurd alnum (by decide)
  have nonempty : folded name ≠ [] := by
    rw [begins]
    exact List.cons_ne_nil c rest
  rw [directory, named, ofText_single nonempty noSlash notHere]
  rfl

theorem location_eq_iff {first second : String} {r s : Reference} (left : parse first = .ok r)
    (right : parse second = .ok s) (outputDir : Path) :
    location outputDir first = location outputDir second ↔ folded first = folded second := by
  rw [location, location, directory_of_parse left, directory_of_parse right]
  constructor
  · intro same
    simpa [Path.child, String.ofList_inj] using same
  · intro same
    rw [same]

def Tidy (name : String) : Prop :=
  (∀ c ∈ name.toList, isSafe c = true) ∧ name.toList.getLast? ≠ some '_'

theorem folded_of_tidy {name : String} (tidy : Tidy name) : folded name = name.toList := by
  obtain ⟨safe, last⟩ := tidy
  have chain : name.toList.IsChain Parted := by
    refine List.Pairwise.isChain (List.pairwise_of_forall_mem_list ?_)
    intro c inside d _
    exact .inl (safe c inside)
  have unchanged : name.toList.map masked = name.toList := by
    have same : ∀ c ∈ name.toList, masked c = c := by
      intro c inside
      simp [masked, safe c inside]
    rw [List.map_congr_left same, List.map_id']
  rw [folded, List.destutter_of_isChain _ _ chain, unchanged, List.rdropWhile_eq_self_iff]
  intro nonempty
  simpa [List.getLast?_eq_getLast_of_ne_nil nonempty] using last

/-! ### The images of a run -/

/-- Any two images of a run have different names, and one archive exactly when their names are folded
alike. Names of safe characters that end in no underscore are never folded alike. -/
theorem archives_shared_iff {at_ : List Step} {value : Value} {file : RunFile}
    (accepted : RunFile.read at_ value = .valid file) (baseDir : Path) (properties : Table String) :
    file.images.Pairwise fun first second => first.name ≠ second.name ∧
      ∀ r s, parse first.name = .ok r → parse second.name = .ok s →
        let outputDir := (Context.ofRunFile file baseDir properties).absoluteOutputDir
        (location outputDir first.name = location outputDir second.name ↔
          folded first.name = folded second.name) ∧
        (Tidy first.name → Tidy second.name → location outputDir first.name ≠ location outputDir second.name) := by
  have distinct := List.pairwise_map.1 (nodup_of_read accepted)
  refine distinct.imp ?_
  intro first second different
  refine ⟨different, ?_⟩
  intro r s left right outputDir
  have shared := location_eq_iff left right outputDir
  refine ⟨shared, ?_⟩
  intro tidy tidy' same
  have alike := shared.1 same
  rw [folded_of_tidy tidy, folded_of_tidy tidy', String.toList_inj] at alike
  exact different alike

def named (names : List String) : Value :=
  .map [(.text "images", .list (names.map fun name => .map [(.text "name", .text name)]))]

theorem archives_shared_iff_tagged :
    ∃ file first second, RunFile.read [] (named ["team/app", "app:1"]) = .valid file ∧
      file.images = [first, second] ∧
      let outputDir := (Context.ofRunFile file (Path.ofText "/work") .empty).absoluteOutputDir
      location outputDir first.name ≠ location outputDir second.name := by
  refine ⟨_, _, _, rfl, rfl, ?_⟩
  have accepted : RunFile.read [] (named ["team/app", "app:1"]) = .valid _ := rfl
  have pairs := archives_shared_iff accepted (Path.ofText "/work") .empty
  have pair := (List.pairwise_cons.1 pairs).1 _ List.mem_cons_self
  have left : parse "team/app" = .ok ⟨"team/app", none, "team/app", none, none⟩ := by decide
  have right : parse "app:1" = .ok ⟨"app:1", none, "app", some "1", none⟩ := by decide
  have apart : folded "team/app" ≠ folded "app:1" := by decide
  exact fun same => apart ((pair.2 _ _ left right).1.1 same)

/-- Different names are not enough: a stroke and an underscore are folded alike. -/
theorem stroke_shares_underscore :
    ∃ file first second, RunFile.read [] (named ["a/b", "a_b"]) = .valid file ∧ file.images = [first, second] ∧
      first.name ≠ second.name ∧ (∃ r, parse first.name = .ok r) ∧ (∃ r, parse second.name = .ok r) ∧
      let outputDir := (Context.ofRunFile file (Path.ofText "/work") .empty).absoluteOutputDir
      location outputDir first.name = location outputDir second.name := by
  refine ⟨_, _, _, rfl, rfl, by decide, ?_, ?_, by decide⟩
  · exact ⟨⟨"a/b", none, "a/b", none, none⟩, by decide⟩
  · exact ⟨⟨"a_b", none, "a_b", none, none⟩, by decide⟩

end ImageBuild.Archive
