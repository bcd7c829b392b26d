import ImageBuild.Text.Blank
import Mathlib.Data.List.Basic
import Mathlib.Data.List.TakeWhile

namespace ImageBuild.Text

def Blanks (s : List Char) : Prop := ∀ c ∈ s, isBlank c = true

instance (s : List Char) : Decidable (Blanks s) := List.decidableBAll _ s

def Visible (s : List Char) : Prop := ∀ c ∈ s, isBlank c = false

instance (s : List Char) : Decidable (Visible s) := List.decidableBAll _ s

def Spaced (s : List Char) : Prop := ∃ front b, s = front ++ [b] ∧ isBlank b = true

section blanks

variable {s t left right : List Char} {c : Char}

theorem blanks_nil : Blanks [] := List.forall_mem_nil _

theorem blanks_append : Blanks (s ++ t) ↔ Blanks s ∧ Blanks t := List.forall_mem_append

theorem not_blanks_cons (visible : isBlank c = false) (s : List Char) : ¬Blanks (c :: s) := by
  intro blanks
  cases visible.symm.trans (blanks c List.mem_cons_self)

theorem spaced_append (s : List Char) (spaced : Spaced t) : Spaced (s ++ t) := by
  obtain ⟨front, b, rfl, blank⟩ := spaced
  exact ⟨s ++ front, b, (List.append_assoc _ _ _).symm, blank⟩

theorem spaced_of_blanks (blanks : Blanks s) (nonempty : s ≠ []) : Spaced s := by
  refine ⟨s.dropLast, s.getLast nonempty, (List.dropLast_concat_getLast nonempty).symm, ?_⟩
  exact blanks _ (List.getLast_mem nonempty)

theorem Spaced.ne_nil (spaced : Spaced s) : s ≠ [] := by
  obtain ⟨front, b, rfl, -⟩ := spaced
  simp

/-! ### Trimming -/

theorem trimStart_blanks (blanks : Blanks left) (s : List Char) : trimStart (left ++ s) = trimStart s :=
  List.dropWhile_append_of_pos blanks

theorem trimStart_eq_nil_iff : trimStart s = [] ↔ Blanks s := List.dropWhile_eq_nil_iff

theorem exists_trimStart (s : List Char) : ∃ left, Blanks left ∧ s = left ++ trimStart s :=
  ⟨s.takeWhile isBlank, fun _ member => List.mem_takeWhile_imp member, List.takeWhile_append_dropWhile.symm⟩

theorem trimStart_append (visible : ¬Blanks s) (t : List Char) : trimStart (s ++ t) = trimStart s ++ t := by
  have nonempty : trimStart s ≠ [] := mt trimStart_eq_nil_iff.1 visible
  rw [trimStart, List.dropWhile_append, if_neg (by simpa [trimStart] using nonempty), trimStart]

theorem trimStart_eq_self (first : ∀ c ∈ s.head?, isBlank c = false) : trimStart s = s := by
  cases s with
  | nil => rfl
  | cons c rest => exact List.dropWhile_cons_of_neg (by simp [first c rfl])

theorem trimEnd_eq (s : List Char) : trimEnd s = (trimStart s.reverse).reverse := rfl

theorem blanks_reverse : Blanks s.reverse ↔ Blanks s := by simp [Blanks]

theorem trimEnd_blanks (blanks : Blanks right) (s : List Char) : trimEnd (s ++ right) = trimEnd s := by
  rw [trimEnd_eq, List.reverse_append, trimStart_blanks (blanks_reverse.2 blanks), trimEnd_eq]

theorem trimEnd_append (s : List Char) (visible : ¬Blanks t) : trimEnd (s ++ t) = s ++ trimEnd t := by
  rw [trimEnd_eq, List.reverse_append, trimStart_append (mt blanks_reverse.1 visible), List.reverse_append,
    List.reverse_reverse, trimEnd_eq]

theorem trimEnd_eq_self (last : ∀ c ∈ s.getLast?, isBlank c = false) : trimEnd s = s := by
  rw [trimEnd_eq, trimStart_eq_self (by simpa using last), List.reverse_reverse]

theorem trimEnd_eq_nil_iff : trimEnd s = [] ↔ Blanks s := by
  rw [trimEnd_eq, List.reverse_eq_nil_iff, trimStart_eq_nil_iff, blanks_reverse]

theorem trim_eq_self (first : ∀ c ∈ s.head?, isBlank c = false) (last : ∀ c ∈ s.getLast?, isBlank c = false) :
    trim s = s := by
  rw [trim, trimStart_eq_self first, trimEnd_eq_self last]

theorem trim_append (visible : ¬Blanks s) (visible' : ¬Blanks t) : trim (s ++ t) = trimStart s ++ trimEnd t := by
  rw [trim, trimStart_append visible, trimEnd_append _ visible']

theorem trim_padded (before : Blanks left) (behind : Blanks right) (s : List Char) :
    trim (left ++ s ++ right) = trim s := by
  rw [List.append_assoc, trim, trimStart_blanks before, trim]
  by_cases blanks : Blanks s
  · rw [trimStart_eq_nil_iff.2 (blanks_append.2 ⟨blanks, behind⟩), trimStart_eq_nil_iff.2 blanks]
  · rw [trimStart_append blanks, trimEnd_blanks behind]

theorem exists_padded (s : List Char) : ∃ left right, Blanks left ∧ Blanks right ∧ s = left ++ trim s ++ right := by
  obtain ⟨left, before, front⟩ := exists_trimStart s
  obtain ⟨right, behind, back⟩ := exists_trimStart (trimStart s).reverse
  refine ⟨left, right.reverse, before, blanks_reverse.2 behind, ?_⟩
  have whole : trimStart s = trim s ++ right.reverse := by
    rw [trim, trimEnd_eq, ← List.reverse_append, ← back, List.reverse_reverse]
  rw [List.append_assoc, ← whole]
  exact front

theorem trim_trimStart (s : List Char) : trim (trimStart s) = trim s := by
  obtain ⟨left, before, front⟩ := exists_trimStart s
  calc trim (trimStart s) = trim (left ++ trimStart s ++ []) := (trim_padded before blanks_nil _).symm
    _ = trim s := by rw [List.append_nil, ← front]

theorem trim_trimEnd (s : List Char) : trim (trimEnd s) = trim s := by
  obtain ⟨right, behind, back⟩ := exists_trimStart s.reverse
  have whole : s = trimEnd s ++ right.reverse := by
    rw [trimEnd_eq, ← List.reverse_append, ← back, List.reverse_reverse]
  calc trim (trimEnd s) = trim ([] ++ trimEnd s ++ right.reverse) :=
        (trim_padded blanks_nil (blanks_reverse.2 behind) _).symm
    _ = trim s := by rw [List.nil_append, ← whole]

theorem trim_around (visible : isBlank c = false) (s t : List Char) :
    trim (s ++ c :: t) = trimStart s ++ c :: trimEnd t := by
  have front : trimStart (s ++ c :: t) = trimStart s ++ c :: t := by
    by_cases blanks : Blanks s
    · rw [trimStart_blanks blanks, trimStart_eq_nil_iff.2 blanks]
      exact List.dropWhile_cons_of_neg (by simp [visible])
    · exact trimStart_append blanks _
  have back : trimEnd (c :: t) = c :: trimEnd t := by
    by_cases blanks : Blanks t
    · have single : trimEnd [c] = [c] := trimEnd_eq_self (by simp [visible])
      rw [← List.singleton_append, trimEnd_blanks blanks, trimEnd_eq_nil_iff.2 blanks, single]
    · exact trimEnd_append [c] blanks
  rw [trim, front, trimEnd_append _ (not_blanks_cons visible t), back]

theorem trim_eq_nil_iff : trim s = [] ↔ Blanks s := by
  constructor
  · intro empty
    obtain ⟨left, right, before, behind, same⟩ := exists_padded s
    rw [same, empty, List.append_nil]
    exact blanks_append.2 ⟨before, behind⟩
  · intro blanks
    rw [trim, trimStart_eq_nil_iff.2 blanks]
    rfl

end blanks

/-! ### Words -/

section words

variable {s t word rest : List Char} {b c d : Char}

theorem words_blank (blank : isBlank b = true) (s : List Char) : words (b :: s) = words s := by
  rw [words.eq_def]
  exact if_pos blank

theorem words_single (visible : isBlank c = false) : words [c] = [[c]] := by
  rw [words.eq_def]
  exact if_neg (by simp [visible])

theorem words_next (visible : isBlank c = false) (d : Char) (s : List Char) :
    words (c :: d :: s) =
      match words (d :: s) with
      | [] => [[c]]
      | word :: more => if isBlank d then [c] :: word :: more else (c :: word) :: more := by
  rw [words.eq_def]
  dsimp only
  rw [if_neg (by simp [visible])]
  cases words (d :: s) <;> rfl

theorem words_ended (visible : isBlank c = false) (blank : isBlank d = true) (s : List Char) :
    words (c :: d :: s) = [c] :: words s := by
  rw [words_next visible, words_blank blank]
  cases words s with
  | nil => rfl
  | cons word more => simp [blank]

theorem words_longer (visible : isBlank c = false) (visible' : isBlank d = false) {more : List (List Char)}
    (known : words (d :: s) = word :: more) : words (c :: d :: s) = (c :: word) :: more := by
  rw [words_next visible, known]
  simp [visible']

theorem exists_words (visible : isBlank c = false) (s : List Char) :
    ∃ word more, words (c :: s) = (c :: word) :: more := by
  induction s generalizing c with
  | nil => exact ⟨[], [], words_single visible⟩
  | cons d s ih =>
    cases blank : isBlank d with
    | true => exact ⟨[], words s, words_ended visible blank s⟩
    | false =>
      obtain ⟨word, more, known⟩ := ih blank
      exact ⟨d :: word, more, words_longer visible blank known⟩

/-- The words of a text are those before a blank in it and those behind. -/
theorem words_append_blank (blank : isBlank b = true) (s t : List Char) :
    words (s ++ b :: t) = words s ++ words t := by
  induction s with
  | nil => exact words_blank blank t
  | cons c s ih =>
    cases visible : isBlank c with
    | true => rw [List.cons_append, words_blank visible, words_blank visible, ih]
    | false =>
      cases s with
      | nil => rw [List.singleton_append, words_ended visible blank, words_single visible, List.singleton_append]
      | cons d s =>
        cases visible' : isBlank d with
        | true =>
          rw [List.cons_append, words_blank visible', words_blank visible'] at ih
          rw [List.cons_append, List.cons_append, words_ended visible visible', words_ended visible visible', ih,
            List.cons_append]
        | false =>
          obtain ⟨word, more, known⟩ := exists_words visible' s
          rw [known, List.cons_append, List.cons_append] at ih
          rw [List.cons_append, List.cons_append, words_longer visible visible' ih, words_longer visible visible' known,
            List.cons_append]

theorem words_spaced (spaced : Spaced s) (t : List Char) : words (s ++ t) = words s ++ words t := by
  obtain ⟨front, b, rfl, blank⟩ := spaced
  have ended := words_append_blank blank front []
  rw [List.append_assoc, List.singleton_append, words_append_blank blank, ended, words, List.append_nil]

theorem words_eq_nil_iff : words s = [] ↔ Blanks s := by
  induction s with
  | nil => exact iff_of_true rfl blanks_nil
  | cons c s ih =>
    cases visible : isBlank c with
    | true => simp [words_blank visible, ih, Blanks, visible]
    | false =>
      obtain ⟨word, more, known⟩ := exists_words visible s
      exact iff_of_false (by simp [known]) (not_blanks_cons visible s)

theorem words_blanks (blanks : Blanks s) (t : List Char) : words (s ++ t) = words t := by
  by_cases empty : s = []
  · rw [empty, List.nil_append]
  · rw [words_spaced (spaced_of_blanks blanks empty), words_eq_nil_iff.2 blanks, List.nil_append]

theorem words_then_blanks (s : List Char) (blanks : Blanks t) : words (s ++ t) = words s := by
  cases t with
  | nil => rw [List.append_nil]
  | cons b t =>
    obtain ⟨blank, more⟩ := List.forall_mem_cons.1 blanks
    rw [words_append_blank blank, words_eq_nil_iff.2 more, List.append_nil]

theorem words_trim (s : List Char) : words (trim s) = words s := by
  obtain ⟨left, right, before, behind, same⟩ := exists_padded s
  calc words (trim s) = words (left ++ (trim s ++ right)) := by rw [words_blanks before, words_then_blanks _ behind]
    _ = words s := by rw [← List.append_assoc, ← same]

theorem blanks_trim {s : List Char} : Blanks (trim s) ↔ Blanks s := by
  rw [← words_eq_nil_iff, words_trim, words_eq_nil_iff]

theorem words_trimStart (s : List Char) : words (trimStart s) = words s := by
  obtain ⟨left, before, front⟩ := exists_trimStart s
  calc words (trimStart s) = words (left ++ trimStart s) := (words_blanks before _).symm
    _ = words s := by rw [← front]

/-! ### The first word -/

theorem words_visible (nonempty : word ≠ []) (visible : Visible word) : words word = [word] := by
  induction word with
  | nil => exact absurd rfl nonempty
  | cons c rest ih =>
    obtain ⟨here, later⟩ := List.forall_mem_cons.1 visible
    cases rest with
    | nil => exact words_single here
    | cons d rest => exact words_longer here (later d List.mem_cons_self) (ih (List.cons_ne_nil d rest) later)

theorem trimStart_word {left : List Char} (blanks : Blanks left) (nonempty : word ≠ []) (visible : Visible word)
    (rest : List Char) : trimStart (left ++ word ++ rest) = word ++ rest := by
  rw [List.append_assoc, trimStart_blanks blanks]
  refine trimStart_eq_self fun c first => ?_
  rw [List.head?_append_of_ne_nil _ nonempty] at first
  exact visible c (List.mem_of_head? first)

theorem trim_word {left : List Char} (blanks : Blanks left) (nonempty : word ≠ []) (visible : Visible word)
    (rest : List Char) : trim (left ++ word ++ rest) = word ++ trimEnd rest := by
  rw [trim, trimStart_word blanks nonempty visible]
  by_cases none : Blanks rest
  · rw [trimEnd_blanks none, trimEnd_eq_nil_iff.2 none, List.append_nil]
    exact trimEnd_eq_self fun c last => visible c (List.mem_of_getLast? last)
  · exact trimEnd_append word none

theorem exists_front (s : List Char) :
    ∃ front rest, s = front ++ rest ∧ Visible front ∧ ∀ c ∈ rest.head?, isBlank c = true := by
  refine ⟨s.takeWhile (!isBlank ·), s.dropWhile (!isBlank ·), List.takeWhile_append_dropWhile.symm, ?_, ?_⟩
  · intro c member
    simpa using List.mem_takeWhile_imp member
  · intro c first
    have known := List.head?_dropWhile_not (!isBlank ·) s
    rw [Option.mem_def.1 first] at known
    simpa using known

/-- A text is blank, or a first word stands behind blanks and at a blank or the end. -/
theorem exists_first (s : List Char) : Blanks s ∨ ∃ left word rest, s = left ++ word ++ rest ∧ Blanks left ∧
    word ≠ [] ∧ Visible word ∧ ∀ c ∈ rest.head?, isBlank c = true := by
  refine or_iff_not_imp_left.2 fun shown => ?_
  obtain ⟨left, blanks, same⟩ := exists_trimStart s
  obtain ⟨word, rest, cut, visible, apart⟩ := exists_front (trimStart s)
  refine ⟨left, word, rest, by rw [List.append_assoc, ← cut, ← same], blanks, ?_, visible, apart⟩
  -- A blank in front of the rest would have been trimmed.
  rintro rfl
  rw [List.nil_append] at cut
  obtain ⟨c, behind, known⟩ := List.exists_cons_of_ne_nil (mt trimStart_eq_nil_iff.1 shown)
  have blank := apart c (by rw [← cut, known]; rfl)
  have first := List.head?_dropWhile_not isBlank s
  rw [← trimStart, known] at first
  cases blank.symm.trans first

theorem head?_trim (s : List Char) : (trim s).head? = (trimStart s).head? := by
  rcases exists_first s with blanks | ⟨left, word, rest, rfl, blanks, nonempty, visible, -⟩
  · rw [trim_eq_nil_iff.2 blanks, trimStart_eq_nil_iff.2 blanks]
  · rw [trim_word blanks nonempty visible, trimStart_word blanks nonempty visible,
      List.head?_append_of_ne_nil _ nonempty, List.head?_append_of_ne_nil _ nonempty]

theorem visible_head_trimStart (s : List Char) : ∀ c ∈ (trimStart s).head?, isBlank c = false := by
  intro c first
  have known := List.head?_dropWhile_not isBlank s
  rw [← trimStart, Option.mem_def.1 first] at known
  simpa using known

theorem visible_head_trim (s : List Char) : ∀ c ∈ (trim s).head?, isBlank c = false := by
  rw [head?_trim]
  exact visible_head_trimStart s

theorem visible_last_trim (s : List Char) : ∀ c ∈ (trim s).getLast?, isBlank c = false := by
  rw [trim, trimEnd_eq, List.getLast?_reverse]
  exact visible_head_trimStart _

theorem cutWord_eq {left : List Char} (blanks : Blanks left) (nonempty : word ≠ []) (visible : Visible word)
    (apart : ∀ c ∈ rest.head?, isBlank c = true) : cutWord (left ++ word ++ rest) = (word, trimStart rest) := by
  have seen : ∀ c ∈ word, (!isBlank c) = true := fun c member => by simp [visible c member]
  unfold cutWord
  dsimp only
  rw [trimStart_word blanks nonempty visible, List.takeWhile_append_of_pos seen, List.dropWhile_append_of_pos seen]
  cases rest with
  | nil => simp
  | cons b rest =>
    simp [apart b rfl]

theorem cutWord_blanks (blanks : Blanks s) : cutWord s = ([], []) := by
  unfold cutWord
  rw [trimStart_eq_nil_iff.2 blanks]
  rfl

theorem words_first {left : List Char} (blanks : Blanks left) (nonempty : word ≠ []) (visible : Visible word)
    (apart : ∀ c ∈ rest.head?, isBlank c = true) : words (left ++ word ++ rest) = word :: words rest := by
  rw [List.append_assoc, words_blanks blanks]
  cases rest with
  | nil => rw [List.append_nil, words_visible nonempty visible, words]
  | cons b rest =>
    rw [words_append_blank (apart b rfl), words_blank (apart b rfl), words_visible nonempty visible,
      List.singleton_append]

theorem words_cutWord {more : List (List Char)} (known : words s = word :: more) :
    (cutWord s).1 = word ∧ words (cutWord s).2 = more := by
  rcases exists_first s with blanks | ⟨left, first, rest, rfl, blanks, nonempty, visible, apart⟩
  · rw [words_eq_nil_iff.2 blanks] at known
    cases known
  · rw [words_first blanks nonempty visible apart] at known
    obtain ⟨rfl, rfl⟩ := List.cons.inj known
    rw [cutWord_eq blanks nonempty visible apart]
    exact ⟨rfl, words_trimStart rest⟩

theorem exists_single (spaced : Spaced s) (known : words s = [word]) :
    ∃ left right, s = left ++ word ++ right ∧ Blanks left ∧ word ≠ [] ∧ Visible word ∧ Blanks right ∧ right ≠ [] := by
  rcases exists_first s with blanks | ⟨left, first, rest, rfl, blanks, nonempty, visible, apart⟩
  · rw [words_eq_nil_iff.2 blanks] at known
    cases known
  · rw [words_first blanks nonempty visible apart] at known
    obtain ⟨rfl, none⟩ := List.cons.inj known
    refine ⟨left, rest, rfl, blanks, nonempty, visible, words_eq_nil_iff.1 none, ?_⟩
    rintro rfl
    obtain ⟨front, b, same, blank⟩ := spaced
    have last : b ∈ (left ++ first).getLast? := by
      rw [List.append_nil] at same
      rw [same, List.getLast?_concat]
      rfl
    rw [List.getLast?_append_of_ne_nil _ nonempty] at last
    cases blank.symm.trans (visible b (List.mem_of_getLast? last))

end words

end ImageBuild.Text
