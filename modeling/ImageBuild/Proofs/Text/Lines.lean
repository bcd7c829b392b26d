import ImageBuild.Text.Blank
import ImageBuild.Text.Lines

namespace ImageBuild.Text

theorem isBlank_of_isLineEnd {c : Char} (ends : isLineEnd c = true) : isBlank c = true := by
  have within : ∀ line ∈ lineEndRanges, ∃ blank ∈ blankRanges, blank.1 ≤ line.1 ∧ line.2 ≤ blank.2 := by
    decide +kernel
  obtain ⟨line, isLine, inside⟩ := List.any_eq_true.1 ends
  obtain ⟨blank, isBlankRange, low, high⟩ := within line isLine
  refine List.any_eq_true.2 ⟨blank, isBlankRange, ?_⟩
  simp only [Bool.and_eq_true, decide_eq_true_eq] at inside ⊢
  omega

theorem plainNewlines_cons {c : Char} (other : c ≠ '\r') (rest : List Char) :
    plainNewlines (c :: rest) = c :: plainNewlines rest := by
  rw [plainNewlines]
  · simp [other]
  · rintro r rfl
    exact absurd rfl other

theorem plainNewlines_append {front : List Char} (free : '\r' ∉ front) (rest : List Char) :
    plainNewlines (front ++ rest) = front ++ plainNewlines rest := by
  induction front with
  | nil => rfl
  | cons c front ih =>
    obtain ⟨other, free⟩ := not_or.1 (mt List.mem_cons.2 free)
    rw [List.cons_append, plainNewlines_cons (Ne.symm other), ih free, List.cons_append]

theorem lines_lineFeed (rest : List Char) : lines ('\n' :: rest) = [] :: lines rest := by
  rw [lines]
  · rfl
  · nofun

theorem lines_cons {c : Char} (inside : isLineEnd c = false) {line : List Char} {rest : List Char} {more : List (List Char)}
    (later : lines rest = line :: more) : lines (c :: rest) = (c :: line) :: more := by
  rw [lines]
  · simp [inside, later]
  · rintro r rfl
    exact absurd inside (by decide)

theorem lines_append {front : List Char} (inside : ∀ c ∈ front, isLineEnd c = false) (rest : List Char) :
    lines (front ++ '\n' :: rest) = front :: lines rest := by
  induction front with
  | nil => exact lines_lineFeed rest
  | cons c front ih =>
    obtain ⟨here, later⟩ := List.forall_mem_cons.1 inside
    exact lines_cons here (ih later)

theorem lines_end {c : Char} (ends : isLineEnd c = true) (other : c ≠ '\r') (rest : List Char) :
    lines (c :: rest) = [] :: lines rest := by
  rw [lines]
  · exact if_pos ends
  · rintro r rfl
    exact absurd rfl other

theorem lines_congr {c : Char} {s t : List Char} (inside : isLineEnd c = false) (same : lines s = lines t) :
    lines (c :: s) = lines (c :: t) := by
  cases later : lines t with
  | nil =>
    have single (u : List Char) (none : lines u = []) : lines (c :: u) = [[c]] := by
      rw [lines]
      · simp [inside, none]
      · rintro r rfl
        exact absurd inside (by decide)
    rw [single t later, single s (same.trans later)]
  | cons line more => rw [lines_cons inside later, lines_cons inside (same.trans later)]

theorem lines_plainNewlines (s : List Char) : lines (plainNewlines s) = lines s := by
  fun_induction plainNewlines s with
  | case1 => rfl
  | case2 r ih => rw [lines_lineFeed, ih, lines]
  | case3 c r apart ih =>
    by_cases same : c = '\r'
    · subst same
      have own : lines ('\r' :: r) = [] :: lines r := by
        rw [lines]
        · rfl
        · exact fun r' _ same => apart r' rfl same
      rw [own]
      exact (lines_lineFeed _).trans (congrArg _ ih)
    · rw [if_neg (by simpa using same)]
      cases ends : isLineEnd c with
      | true => rw [lines_end ends same, lines_end ends same, ih]
      | false => exact lines_congr ends ih

end ImageBuild.Text
