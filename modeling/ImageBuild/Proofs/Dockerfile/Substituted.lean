import ImageBuild.Proofs.Dockerfile.Declared
import ImageBuild.Proofs.Dockerfile.Layout
import ImageBuild.Proofs.Dockerfile.References
import Mathlib.Data.List.Forall2

namespace ImageBuild.Dockerfile

open Data Text

section image

variable {tree : Files.Node} {path : Path} {before : List Instruction} {word : List Char}

/-- A word whose references all stand for something becomes the base image, another one an error that names the
first reference that stands for nothing. -/
theorem extract_of_opens {content : ByteArray} {chars : List Char} (reads : Files.read tree path = .ok content)
    (decoded : Utf8.decode content = .ok chars) (opens : Opens (String.ofList chars) before word) :
    (∀ v, .variable v ∈ pieces word → ¬Lacks before v) ∧
        extract tree path = .ok (String.ofList ((pieces word).flatMap (Piece.shown (declared before)))) ∨
      ∃ v, .variable v ∈ pieces word ∧ Lacks before v ∧
        extract tree path = .error (.noBase (.noDefault (String.ofList word) path.text v.name)) := by
  rw [extract_of_decoded reads decoded, baseOf_of_opens opens, interpolate]
  simp only [lacks_iff]
  by_cases known : ∀ v, .variable v ∈ pieces word → v.value? (declared before) ≠ none
  · refine .inl ⟨known, ?_⟩
    rw [substitute_of_all known]
    rfl
  · push Not at known
    obtain ⟨v, member, lacks⟩ := known
    obtain ⟨w, member, lacks, failed⟩ := exists_of_substitute member lacks
    refine .inr ⟨w, member, lacks, ?_⟩
    rw [failed]
    rfl

/-! ### Words as they are spelled -/

/-- What a part stands for behind the given instructions. -/
inductive Means (before : List Instruction) : Part → List Char → Prop where
  | literal (text : List Char) : Means before (.literal text) text
  | reference {part : Part} {v : Variable} {value : String} (refers : part.reference? = some v)
    (stands : Stands before v value) : Means before part value.toList

def Part.shown (args : Table String) (part : Part) : List Char := part.pieces.flatMap (Piece.shown args)

theorem mem_pieces {part : Part} {v : Variable} : .variable v ∈ part.pieces ↔ part.reference? = some v := by
  cases part <;> simp [Part.pieces, Part.reference?, eq_comm]

theorem shown_literal (args : Table String) (text : List Char) : (Part.literal text).shown args = text :=
  flatMap_chars (fun _ => rfl) text

theorem shown_reference {part : Part} {v : Variable} {value : String} (refers : part.reference? = some v)
    (stands : Stands before v value) : part.shown (declared before) = value.toList := by
  rw [Part.shown, Part.pieces_of_reference? refers, List.flatMap_singleton, Piece.shown, stands_iff.1 stands]
  rfl

theorem means_iff {part : Part} {text : List Char} : Means before part text ↔
    (∀ v, part.reference? = some v → ¬Lacks before v) ∧ part.shown (declared before) = text := by
  constructor
  · rintro (_ | @⟨_, v, value, refers, stands⟩)
    · exact ⟨nofun, shown_literal _ text⟩
    · refine ⟨fun w same lacks => ?_, shown_reference refers stands⟩
      obtain rfl := Option.some.inj (refers.symm.trans same)
      exact lacks value stands
  · rintro ⟨known, rfl⟩
    cases refers : part.reference? with
    | none =>
      obtain ⟨text, rfl⟩ := Part.literal_of_reference? refers
      rw [shown_literal]
      exact .literal text
    | some v =>
      obtain ⟨value, stands⟩ := not_lacks_iff.1 (known v refers)
      rw [shown_reference refers stands]
      exact .reference refers stands

theorem forall_means_iff {parts : List Part} {texts : List (List Char)} : List.Forall₂ (Means before) parts texts ↔
    (∀ part ∈ parts, ∀ v, part.reference? = some v → ¬Lacks before v) ∧ parts.map (Part.shown (declared before)) = texts := by
  have means : Means before = fun part text => (∀ v, part.reference? = some v → ¬Lacks before v) ∧
      part.shown (declared before) = text := funext fun _ => funext fun _ => propext means_iff
  have same : List.Forall₂ (fun part text => part.shown (declared before) = text) parts texts ↔
      parts.map (Part.shown (declared before)) = texts := by
    rw [← List.forall₂_map_left_iff (R := (· = ·)), List.forall₂_eq_eq_eq]
  rw [means, List.forall₂_and_left, same]

/-- The base image is the word with what each part stands for in its place. There is an error if and only if a
reference stands for nothing, and it names such a reference. -/
theorem references_replaced {text : String} {parts : List Part} (reads : Files.read tree path = .ok text.toUTF8)
    (opens : Opens text before (spelling parts)) (regular : Regular parts) :
    (∀ image, extract tree path = .ok image ↔
      ∃ texts, List.Forall₂ (Means before) parts texts ∧ image = String.ofList texts.flatten) ∧
    ((∃ error, extract tree path = .error (.noBase error)) ↔
      ∃ part ∈ parts, ∃ v, part.reference? = some v ∧ Lacks before v) ∧
    ∀ error, extract tree path = .error (.noBase error) → ∃ part ∈ parts, ∃ v, part.reference? = some v ∧
      Lacks before v ∧ error = .noDefault (String.ofList (spelling parts)) path.text v.name := by
  have whole : (pieces (spelling parts)).flatMap (Piece.shown (declared before)) =
      (parts.map (Part.shown (declared before))).flatten := by
    rw [pieces_spelling regular, List.flatMap_assoc, ← List.flatMap_def]
    rfl
  have references (v : Variable) : .variable v ∈ pieces (spelling parts) ↔ ∃ part ∈ parts, part.reference? = some v := by
    simp only [pieces_spelling regular, List.mem_flatMap, mem_pieces]
  rw [← String.ofList_toList (s := text)] at opens
  simp only [forall_means_iff]
  rcases extract_of_opens reads (Utf8.decode_toUTF8 text) opens with ⟨known, found⟩ | ⟨v, member, lacks, failed⟩
  · rw [found, whole]
    have known : ∀ part ∈ parts, ∀ v, part.reference? = some v → ¬Lacks before v :=
      fun part member v refers => known v ((references v).2 ⟨part, member, refers⟩)
    refine ⟨fun image => ⟨?_, ?_⟩, ?_, nofun⟩
    · rintro ⟨⟩
      exact ⟨_, ⟨known, rfl⟩, rfl⟩
    · rintro ⟨_, ⟨-, rfl⟩, rfl⟩
      rfl
    · refine iff_of_false nofun ?_
      rintro ⟨part, member, v, refers, lacks⟩
      exact known part member v refers lacks
  · rw [failed]
    obtain ⟨part, member, refers⟩ := (references v).1 member
    refine ⟨fun image => iff_of_false nofun ?_, iff_of_true ⟨_, rfl⟩ ⟨part, member, v, refers, lacks⟩, ?_⟩
    · rintro ⟨_, ⟨known, -⟩, -⟩
      exact known part member v refers lacks
    · rintro error ⟨⟩
      exact ⟨part, member, v, refers, lacks, rfl⟩

end image

theorem references_replaced_forms :
    extract (directoryOf "ARG BASE=alpine\nARG BASE=python\nARG V=\"3.12\"\nFROM --platform=x ${BASE}:$V-${KIND:-slim} AS a\n")
      (.ofText "Dockerfile") = .ok "python:3.12-slim" := by
  set text := "ARG BASE=alpine\nARG BASE=python\nARG V=\"3.12\"\nFROM --platform=x ${BASE}:$V-${KIND:-slim} AS a\n"
  let before : List Instruction := [⟨"ARG", "BASE=alpine"⟩, ⟨"ARG", "BASE=python"⟩, ⟨"ARG", "V=\"3.12\""⟩]
  let parts : List Part := [.braced "BASE".toList, .literal ":".toList, .plain "V".toList, .literal "-".toList,
    .withDefault "KIND".toList true "slim".toList]
  have opens : Opens text before (spelling parts) := by
    refine ⟨by decide, "--platform=x ${BASE}:$V-${KIND:-slim} AS a", [], ["--platform=x".toList], ["AS".toList, "a".toList], ?_⟩
    decide +kernel
  have stands {v : Variable} (value : String) (known : v.value? (declared before) = some value) : Stands before v value :=
    stands_iff.2 known
  have means : List.Forall₂ (Means before) parts ["python".toList, ":".toList, "3.12".toList, "-".toList, "slim".toList] :=
    .cons (.reference rfl (stands "python" (by decide +kernel))) <| .cons (.literal _) <|
      .cons (.reference rfl (stands "3.12" (by decide +kernel))) <| .cons (.literal _) <|
        .cons (.reference rfl (stands "slim" (by decide +kernel))) .nil
  exact ((references_replaced (read_directoryOf text) opens (by decide +kernel)).1 _).2 ⟨_, means, by decide +kernel⟩

end ImageBuild.Dockerfile
