import ImageBuild.Dockerfile.BaseImage
import ImageBuild.Proofs.Dockerfile.References
import ImageBuild.Proofs.Text.Lines
import ImageBuild.Proofs.Text.Words

namespace ImageBuild.Dockerfile

open Data Text

/-! ### The first instruction -/

/-- A word that stands for itself: without blanks, marks that continue a line or begin a reference, or the dash
of a flag in front. -/
structure Inert (word : List Char) : Prop where
  visible : ∀ c ∈ word, isBlank c = false
  literal : '$' ∉ word
  ended : '\\' ∉ word
  begins : ∃ c rest, word = c :: rest ∧ c ≠ '-'

namespace Inert

variable {word : List Char} (inert : Inert word)
include inert

theorem ne_nil : word ≠ [] := by
  obtain ⟨c, rest, rfl, -⟩ := inert.begins
  exact List.cons_ne_nil c rest

theorem visible_head : ∀ c ∈ word.head?, isBlank c = false := fun c first => inert.visible c (List.mem_of_head? first)

theorem visible_last : ∀ c ∈ word.getLast?, isBlank c = false := fun c last => inert.visible c (List.mem_of_getLast? last)

theorem fromWords : fromWords (String.ofList word) = [word] := by
  have single : words (String.ofList word).toList = [word] := by
    rw [String.toList_ofList, words_visible inert.ne_nil inert.visible]
  obtain ⟨c, rest, rfl, other⟩ := inert.begins
  unfold Dockerfile.fromWords
  rw [single]
  simp [List.isPrefixOf, beq_false_of_ne (Ne.symm other)]

theorem interpolate (args : Table String) (path : String) : interpolate args path word = .ok (String.ofList word) := by
  unfold Dockerfile.interpolate
  rw [substitute_literal inert.literal]

theorem cutWord : cutWord ("FROM ".toList ++ word) = ("FROM".toList, word) := by
  have behind : trimStart (' ' :: word) = word := trimStart_eq_self inert.visible_head
  have start : trimStart ("FROM ".toList ++ word) = 'F' :: 'R' :: 'O' :: 'M' :: ' ' :: word := rfl
  have key : ∀ rest, ('F' :: 'R' :: 'O' :: 'M' :: ' ' :: rest).takeWhile (fun c => !isBlank c) = "FROM".toList := fun _ => rfl
  have back : ∀ rest, ('F' :: 'R' :: 'O' :: 'M' :: ' ' :: rest).dropWhile (fun c => !isBlank c) = ' ' :: rest := fun _ => rfl
  unfold Text.cutWord
  dsimp only
  rw [start, key, back, behind]

theorem ofLine : Instruction.ofLine ("FROM ".toList ++ word) = ⟨"FROM", String.ofList word⟩ := by
  have keyword : upper "FROM" = "FROM" := by decide +kernel
  unfold Instruction.ofLine
  rw [inert.cutWord]
  dsimp only
  rw [trim_eq_self inert.visible_head inert.visible_last, String.ofList_toList, keyword]

theorem trim_line : trim ("FROM ".toList ++ word) = "FROM ".toList ++ word := by
  have last : ("FROM ".toList ++ word).getLast? = word.getLast? := by
    exact List.getLast?_append_of_ne_nil _ inert.ne_nil
  refine trim_eq_self (by rintro c ⟨⟩; rfl) ?_
  rw [last]
  exact inert.visible_last

theorem instructions (rest : List Char) :
    ∃ more, instructions (String.ofList ("FROM ".toList ++ word ++ '\n' :: rest)) = ⟨"FROM", String.ofList word⟩ :: more := by
  have key : "FROM ".toList.all (fun c => !isLineEnd c) = true := by decide
  have inside : ∀ c ∈ "FROM ".toList ++ word, isLineEnd c = false := by
    intro c member
    rcases List.mem_append.1 member with early | late
    · simpa using List.all_eq_true.1 key c early
    · cases ends : isLineEnd c with
      | false => rfl
      | true => exact absurd (isBlank_of_isLineEnd ends) (by simp [inert.visible c late])
  have last : ∀ c ∈ ("FROM ".toList ++ word).getLast?, c ≠ '\\' := by
    rintro c member rfl
    rcases List.mem_append.1 (List.mem_of_getLast? member) with early | late
    · exact absurd early (by decide)
    · exact inert.ended late
  have ended : continued? ("FROM ".toList ++ word) = none := if_neg fun continues => last _ continues rfl
  unfold Dockerfile.instructions
  rw [String.toList_ofList, lines_append inside, List.map_cons, inert.trim_line, ofLines, if_neg (by simp), ended]
  dsimp only
  rw [List.nil_append, inert.ofLine]
  exact ⟨_, rfl⟩

theorem baseImage (path : String) (rest : List Char) :
    baseImage path (String.ofList ("FROM ".toList ++ word ++ '\n' :: rest)) = .ok (String.ofList word) := by
  obtain ⟨more, found⟩ := inert.instructions rest
  unfold Dockerfile.baseImage
  rw [found, baseOf, if_pos rfl, inert.fromWords]
  exact inert.interpolate .empty path

end Inert

end ImageBuild.Dockerfile
