import ImageBuild.Proofs.Data.Splits
import ImageBuild.Proofs.Dockerfile.Substituted
import ImageBuild.Reference.Basic

namespace ImageBuild.Dockerfile

open Data Text

def Refers (s : List Char) : Prop := ∃ front rest, s = front ++ '$' :: rest ∧ (readVariable? rest).isSome = true

/-- A base image made from a word, with what each piece of the word has become. -/
structure Filled (before : List Instruction) (word : List Char) (shown : Piece → List Char) (image : String) : Prop where
  char : ∀ c, shown (.char c) = [c]
  reference : ∀ v, .variable v ∈ pieces word → ∃ value, Stands before v value ∧ shown (.variable v) = value.toList
  whole : image.toList = (pieces word).flatMap shown

/-- The ways in which a reference is left. -/
inductive LeftOver (word : List Char) (shown : Piece → List Char) : Prop where
  /-- What a reference stands for holds a dollar sign that begins one with what follows. -/
  | inside {front back : List Piece} {v : Variable} {head tail : List Char} (split : pieces word = front ++ .variable v :: back)
    (holds : shown (.variable v) = head ++ '$' :: tail) (begins : (readVariable? (tail ++ back.flatMap shown)).isSome = true)
  /-- A dollar sign that stood for itself begins one with what is put in for a later reference. -/
  | completed {front back : List Piece} {v : Variable} (split : pieces word = front ++ .char '$' :: back)
    (later : .variable v ∈ back) (begins : (readVariable? (back.flatMap shown)).isSome = true)

section pieces

variable {s : List Char}

theorem pieces_eq_map (plain : ∀ v, .variable v ∉ pieces s) : pieces s = s.map .char := by
  fun_induction pieces s with
  | case1 => rfl
  | case2 rest v after read within ih => exact absurd List.mem_cons_self (plain v)
  | case3 rest unread ih => rw [ih fun v member => plain v (List.mem_cons_of_mem _ member), List.map_cons]
  | case4 c rest other ih => rw [ih fun v member => plain v (List.mem_cons_of_mem _ member), List.map_cons]

/-- A dollar sign that is kept as a piece begins no reference in the word. -/
theorem exists_behind {front back : List Piece} (split : pieces s = front ++ .char '$' :: back) :
    ∃ rest, readVariable? rest = none ∧ pieces rest = back := by
  fun_induction pieces s generalizing front with
  | case1 => simp at split
  | case2 rest v after read within ih =>
    rcases List.append_eq_cons_iff.1 split.symm with ⟨rfl, same⟩ | ⟨front, rfl, same⟩
    · cases same
    · exact ih same
  | case3 rest unread ih =>
    rcases List.append_eq_cons_iff.1 split.symm with ⟨rfl, same⟩ | ⟨front, rfl, same⟩
    · exact ⟨rest, unread, (List.cons.inj same).2.symm⟩
    · exact ih same
  | case4 c rest other ih =>
    rcases List.append_eq_cons_iff.1 split.symm with ⟨rfl, same⟩ | ⟨front, rfl, same⟩
    · obtain ⟨⟨⟩, -⟩ := List.cons.inj same
      exact absurd rfl other
    · exact ih same

end pieces

section filled

variable {before : List Instruction} {word : List Char} {shown : Piece → List Char} {image : String}

theorem unread_of_chars (filled : Filled before word shown image) {front back : List Piece}
    (split : pieces word = front ++ .char '$' :: back) (plain : ∀ v, .variable v ∉ back) :
    readVariable? (back.flatMap shown) = none := by
  obtain ⟨rest, unread, rfl⟩ := exists_behind split
  rw [pieces_eq_map plain, flatMap_chars filled.char]
  exact unread

theorem refers_iff (filled : Filled before word shown image) : Refers image.toList ↔ LeftOver word shown := by
  rw [filled.whole]
  constructor
  · rintro ⟨_, _, same, begins⟩
    obtain ⟨front, piece, back, head, tail, split, holds, -, rfl⟩ := split_flatMap same
    rcases piece with c | v
    · rw [filled.char] at holds
      obtain ⟨rfl, single⟩ : head = [] ∧ [c] = '$' :: tail := by
        cases head with
        | nil => exact ⟨rfl, holds⟩
        | cons => simp at holds
      obtain ⟨rfl, rfl⟩ := List.cons.inj single
      by_cases plain : ∀ v, .variable v ∉ back
      · simp [unread_of_chars filled split plain] at begins
      · push Not at plain
        obtain ⟨v, later⟩ := plain
        exact .completed split later begins
    · exact .inside split holds begins
  · rintro (@⟨front, back, v, head, tail, split, holds, begins⟩ | @⟨front, back, v, split, later, begins⟩)
    · refine ⟨front.flatMap shown ++ head, tail ++ back.flatMap shown, ?_, begins⟩
      rw [split, List.flatMap_append, List.flatMap_cons, holds]
      simp only [List.append_assoc, List.cons_append]
    · refine ⟨front.flatMap shown, back.flatMap shown, ?_, begins⟩
      rw [split, List.flatMap_append, List.flatMap_cons, filled.char, List.singleton_append]

theorem filled_shown (known : ∀ v, .variable v ∈ pieces word → ¬Lacks before v) :
    Filled before word (Piece.shown (declared before))
      (String.ofList ((pieces word).flatMap (Piece.shown (declared before)))) where
  char _ := rfl
  reference v member := by
    obtain ⟨value, stands⟩ := not_lacks_iff.1 (known v member)
    exact ⟨value, stands, by rw [Piece.shown, stands_iff.1 stands, Option.getD_some]⟩
  whole := String.toList_ofList

end filled

/-- A base image has a reference left in the ways that are told, so it has none when no dollar sign is put in and none
stands in front of a reference of the word. A word with a reference that stands for nothing is refused. -/
theorem reference_left_iff {tree : Files.Node} {path : Path} {content : ByteArray} {chars : List Char}
    (reads : Files.read tree path = .ok content) (decoded : Utf8.decode content = .ok chars) :
    (∀ image, extract tree path = .ok image → ∃ before word shown, Opens (String.ofList chars) before word ∧
      Filled before word shown image ∧ (Refers image.toList ↔ LeftOver word shown) ∧
      ((∀ v, .variable v ∈ pieces word → '$' ∉ shown (.variable v)) →
        (∀ front back, pieces word = front ++ .char '$' :: back → ∀ v, .variable v ∉ back) → ¬Refers image.toList)) ∧
    ∀ before word, Opens (String.ofList chars) before word →
      ((∃ error, extract tree path = .error (.noBase error)) ↔ ∃ v, .variable v ∈ pieces word ∧ Lacks before v) := by
  refine ⟨fun image found => ?_, fun before word opens => ?_⟩
  · obtain ⟨before, word, opens⟩ : ∃ before word, Opens (String.ofList chars) before word := by
      rw [extract_of_decoded reads decoded] at found
      cases based : baseOf path.text .empty (instructions (String.ofList chars)) with
      | ok base => exact exists_opens based
      | error error =>
        rw [based] at found
        cases found
    rcases extract_of_opens reads decoded opens with ⟨known, same⟩ | ⟨_, _, _, failed⟩
    · obtain rfl := Except.ok.inj (same.symm.trans found)
      have filled := filled_shown known
      refine ⟨before, word, _, opens, filled, refers_iff filled, fun free alone refers => ?_⟩
      rcases (refers_iff filled).1 refers with @⟨front, back, v, head, tail, split, holds, -⟩ | ⟨split, later, -⟩
      · exact free v (by simp [split]) (by simp [holds])
      · exact alone _ _ split _ later
    · cases failed.symm.trans found
  · rcases extract_of_opens reads decoded opens with ⟨known, same⟩ | ⟨v, member, lacks, failed⟩
    · rw [same]
      refine iff_of_false nofun ?_
      rintro ⟨v, member, lacks⟩
      exact known v member lacks
    · exact iff_of_true ⟨_, failed⟩ ⟨v, member, lacks⟩

/-- The name of an argument is put behind a dollar sign. -/
theorem reference_left_iff_completed :
    let text := "ARG NAME=BASE\nFROM $${NAME}\n"
    ∃ before word shown, Opens text before word ∧ Filled before word shown "$BASE" ∧ LeftOver word shown := by
  intro text
  have found : extract (directoryOf text) (.ofText "Dockerfile") = .ok "$BASE" := by decide +kernel
  have refers : Refers "$BASE".toList := ⟨[], "BASE".toList, rfl, by decide +kernel⟩
  obtain ⟨before, word, shown, opens, filled, left, -⟩ :=
    (reference_left_iff (read_directoryOf text) (Utf8.decode_toUTF8 text)).1 _ found
  exact ⟨before, word, shown, String.ofList_toList (s := text) ▸ opens, filled, left.1 refers⟩

/-- A default that refers to another argument, or a reference within a default, is handed on as it is, and is no
reference to an image. -/
theorem reference_handed_on :
    extract (directoryOf "ARG BASE=alpine:$TAG\nFROM $BASE\n") (.ofText "Dockerfile") = .ok "alpine:$TAG" ∧
      Refers "alpine:$TAG".toList ∧ Reference.parse "alpine:$TAG" = .error (.invalid "alpine:$TAG" [.tag "$TAG"]) ∧
    extract (directoryOf "FROM ${BASE:-${OTHER}}\n") (.ofText "Dockerfile") = .ok "${OTHER}" ∧ Refers "${OTHER}".toList := by
  have refers : Refers "alpine:$TAG".toList := ⟨"alpine:".toList, "TAG".toList, rfl, by decide +kernel⟩
  have refers' : Refers "${OTHER}".toList := ⟨[], "{OTHER}".toList, rfl, by decide +kernel⟩
  exact ⟨by decide +kernel, refers, by decide +kernel, by decide +kernel, refers'⟩

end ImageBuild.Dockerfile
