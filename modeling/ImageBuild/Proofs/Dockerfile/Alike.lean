import ImageBuild.Dockerfile.BaseImage
import ImageBuild.Proofs.Text.Words

/-!
# Instructions with the same base image

The base image reads no more of an instruction than its keyword and, of a `FROM` or an `ARG`, the words or the
argument that follow. What is pending may be replaced by another text wherever every instruction that it can begin
is read alike.
-/

namespace ImageBuild.Dockerfile

open Data Text

/-- The base image reads the same of both. -/
structure Alike (i j : Instruction) : Prop where
  keyword : i.keyword = j.keyword
  words : i.keyword = "FROM" → fromWords i.arguments = fromWords j.arguments
  argument : i.keyword = "ARG" → argument? i.arguments = argument? j.arguments

theorem Alike.of_eq {i j : Instruction} (same : i = j) : Alike i j := ⟨by rw [same], by simp [same], by simp [same]⟩

def Agree (is js : List Instruction) : Prop := ∀ path args, baseOf path args is = baseOf path args js

section agree

variable {i j : Instruction} {is js : List Instruction}

theorem agree_of_eq (same : is = js) : Agree is js := fun _ _ => by rw [same]

theorem agree_cons (alike : Alike i j) (agree : Agree is js) : Agree (i :: is) (j :: js) := by
  obtain ⟨keyword, arguments⟩ := i
  obtain ⟨keyword', arguments'⟩ := j
  obtain ⟨rfl, sameWords, sameArgument⟩ := alike
  dsimp only at sameWords sameArgument
  intro path args
  simp only [baseOf]
  split_ifs with isFrom isArg
  · rw [sameWords isFrom]
  · rw [sameArgument isArg]
    cases argument? arguments' with
    | none => exact agree path args
    | some found => exact agree path _
  · exact agree path args

theorem agree_append (front : List Instruction) (agree : Agree is js) : Agree (front ++ is) (front ++ js) := by
  induction front with
  | nil => exact agree
  | cons i front ih => exact agree_cons (.of_eq rfl) ih

/-- Nothing behind a `FROM` is read. -/
theorem agree_of_from {front : List Instruction} (found : ∃ i ∈ front, i.keyword = "FROM") (is js : List Instruction) :
    Agree (front ++ is) (front ++ js) := by
  induction front with
  | nil => simp at found
  | cons i front ih =>
    intro path args
    obtain ⟨keyword, arguments⟩ := i
    by_cases isFrom : keyword = "FROM"
    · simp only [List.cons_append, baseOf, if_pos isFrom]
    · have later : ∃ i ∈ front, i.keyword = "FROM" := by simpa [isFrom] using found
      exact agree_cons (.of_eq rfl) (ih later) path args

end agree

/-! ### The words of an instruction -/

theorem exists_ofLine {s word : List Char} {more : List (List Char)} (known : words s = word :: more) :
    ∃ arguments, Instruction.ofLine s = ⟨upper (String.ofList word), String.ofList arguments⟩ ∧ words arguments = more := by
  obtain ⟨rfl, others⟩ := words_cutWord known
  exact ⟨trim (cutWord s).2, rfl, (words_trim _).trans others⟩

theorem keyword_blanks {s : List Char} (blanks : Blanks s) : (Instruction.ofLine s).keyword = "" := by
  unfold Instruction.ofLine
  rw [cutWord_blanks blanks]
  decide +kernel

theorem exists_ofLine_visible (rest : List Char) :
    ∃ more arguments, ∀ {left word : List Char}, Blanks left → word ≠ [] → Visible word →
      Instruction.ofLine (left ++ word ++ rest) = ⟨upper (String.ofList word) ++ more, arguments⟩ := by
  obtain ⟨front, behind, rfl, seen, apart⟩ := exists_front rest
  refine ⟨upper (String.ofList front), String.ofList (trim (trimStart behind)), fun {left word} blanks nonempty visible => ?_⟩
  have parts : left ++ word ++ (front ++ behind) = left ++ (word ++ front) ++ behind := by simp only [List.append_assoc]
  unfold Instruction.ofLine
  rw [parts, cutWord_eq blanks (by simp [nonempty]) (List.forall_mem_append.2 ⟨visible, seen⟩) apart]
  simp [upper, String.ofList_append]

theorem ofLine_behind {s word : List Char} (spaced : Spaced s) (known : words s = [word]) (rest : List Char) :
    Instruction.ofLine (s ++ rest) = ⟨upper (String.ofList word), String.ofList (trim rest)⟩ := by
  obtain ⟨left, right, rfl, before, nonempty, visible, behind, parted⟩ := exists_single spaced known
  have apart : ∀ c ∈ (right ++ rest).head?, isBlank c = true := by
    intro c first
    rw [List.head?_append_of_ne_nil _ parted] at first
    exact behind c (List.mem_of_head? first)
  have cut : cutWord (left ++ word ++ right ++ rest) = (word, trimStart rest) := by
    rw [List.append_assoc _ right, cutWord_eq before nonempty visible apart, trimStart_blanks behind]
  unfold Instruction.ofLine
  rw [cut]
  dsimp only
  rw [trim_trimStart]

/-! ### What is pending -/

/-- Pending texts that make no difference: with the same text behind them they are read alike. -/
structure Interchangeable (s t : List Char) : Prop where
  empty : s = [] ↔ t = []
  blanks : Blanks s ↔ Blanks t
  alike : ∀ rest, Alike (.ofLine (s ++ rest)) (.ofLine (t ++ rest))

theorem Interchangeable.append {s t : List Char} (same : Interchangeable s t) (more : List Char) :
    Interchangeable (s ++ more) (t ++ more) where
  empty := by rw [List.append_eq_nil_iff, List.append_eq_nil_iff, same.empty]
  blanks := by rw [blanks_append, blanks_append, same.blanks]
  alike rest := by simpa only [List.append_assoc] using same.alike (more ++ rest)

def ofJoined (pending line : List Char) (rest : List (List Char)) : List Instruction :=
  match continued? line with
  | some part => ofLines (pending ++ part ++ [' ']) rest
  | none => .ofLine (pending ++ line) :: ofLines [] rest

theorem ofLines_counted {pending line : List Char} (nonempty : line ≠ []) (counts : line.head? ≠ some '#')
    (rest : List (List Char)) : ofLines pending (line :: rest) = ofJoined pending line rest := by
  rw [ofLines, if_neg (by simp [nonempty, counts])]
  rfl

theorem agree_ofLines {s t : List Char} (same : Interchangeable s t) (all : List (List Char)) :
    Agree (ofLines s all) (ofLines t all) := by
  induction all generalizing s t with
  | nil =>
    have last : (trim s).isEmpty = (trim t).isEmpty := by
      rw [Bool.eq_iff_iff, List.isEmpty_iff, List.isEmpty_iff, trim_eq_nil_iff, trim_eq_nil_iff, same.blanks]
    rw [ofLines, ofLines, last]
    split_ifs
    · exact agree_of_eq rfl
    · exact agree_cons (by simpa using same.alike []) (agree_of_eq rfl)
  | cons line rest ih =>
    simp only [ofLines, List.isEmpty_iff, same.empty]
    split_ifs
    · exact ih same
    · cases continued? line with
      | some part => exact ih ((same.append part).append [' '])
      | none => exact agree_cons (same.alike line) (agree_of_eq rfl)

theorem agree_ofJoined {s t : List Char} (same : Interchangeable s t) (line : List Char) (rest : List (List Char)) :
    Agree (ofJoined s line rest) (ofJoined t line rest) := by
  unfold ofJoined
  cases continued? line with
  | some part => exact agree_ofLines ((same.append part).append [' ']) rest
  | none => exact agree_cons (same.alike line) (agree_of_eq rfl)

/-- The front of a line that counts is as good as pending. -/
theorem ofJoined_append {front line : List Char} (ended : line = [] → front.getLast? ≠ some '\\') (pending : List Char)
    (rest : List (List Char)) : ofJoined pending (front ++ line) rest = ofJoined (pending ++ front) line rest := by
  unfold ofJoined continued?
  by_cases empty : line = []
  · subst empty
    rw [List.append_nil, if_neg (ended rfl), if_neg (by simp), List.append_nil]
  · rw [List.getLast?_append_of_ne_nil _ empty]
    split_ifs
    · simp only [List.dropLast_append_of_ne_nil empty, List.append_assoc]
    · simp only [List.append_assoc]

/-- An instruction whose next word is looked for: it has begun with `FROM`, or is no more than `ARG` yet. -/
def Instruction.Open (i : Instruction) : Prop := i.keyword = "FROM" ∨ i = ⟨"ARG", ""⟩

theorem exists_words_of_open {s : List Char} (begun : (Instruction.ofLine s).Open) :
    ∃ word more, words s = word :: more ∧
      (upper (String.ofList word) = "FROM" ∨ upper (String.ofList word) = "ARG" ∧ more = []) := by
  cases known : words s with
  | nil =>
    have none := keyword_blanks (words_eq_nil_iff.1 known)
    rcases begun with isFrom | isArg
    · simp [none] at isFrom
    · simp [isArg] at none
  | cons word more =>
    obtain ⟨arguments, same, others⟩ := exists_ofLine known
    rw [same] at begun
    refine ⟨word, more, rfl, begun.imp id fun isArg => ?_⟩
    obtain ⟨keyword, empty⟩ := Instruction.mk.inj isArg
    rw [← String.ofList_nil, String.ofList_inj] at empty
    exact ⟨keyword, by rw [← others, empty, words]⟩

/-- The blanks behind the words of such an instruction may be any. -/
theorem interchangeable_of_open {begin s t : List Char} (begun : (Instruction.ofLine begin).Open)
    (known : words s = words begin) (known' : words t = words begin) (spaced : Spaced s) (spaced' : Spaced t) :
    Interchangeable s t := by
  obtain ⟨word, more, begins, opens⟩ := exists_words_of_open begun
  rw [begins] at known known'
  refine ⟨iff_of_false spaced.ne_nil spaced'.ne_nil, ?_, fun rest => ?_⟩
  · rw [← words_eq_nil_iff, ← words_eq_nil_iff, known, known']
  have split : words (s ++ rest) = word :: (more ++ words rest) := by rw [words_spaced spaced, known, List.cons_append]
  have split' : words (t ++ rest) = word :: (more ++ words rest) := by rw [words_spaced spaced', known', List.cons_append]
  obtain ⟨arguments, line, others⟩ := exists_ofLine split
  obtain ⟨arguments', line', others'⟩ := exists_ofLine split'
  rcases opens with isFrom | ⟨isArg, rfl⟩
  · rw [line, line', isFrom]
    refine ⟨rfl, fun _ => ?_, by simp⟩
    simp only [fromWords, String.toList_ofList, others, others']
  · rw [ofLine_behind spaced known, ofLine_behind spaced' known']
    exact .of_eq rfl

theorem interchangeable_of_upper {left word word' : List Char} (blanks : Blanks left) (nonempty : word ≠ [])
    (nonempty' : word' ≠ []) (visible : Visible word) (visible' : Visible word')
    (same : upper (String.ofList word) = upper (String.ofList word')) : Interchangeable (left ++ word) (left ++ word') := by
  have shown {front : List Char} (nonempty : front ≠ []) (visible : Visible front) : ¬Blanks (left ++ front) := by
    intro none
    obtain ⟨c, rest, rfl⟩ := List.exists_cons_of_ne_nil nonempty
    exact not_blanks_cons (visible c List.mem_cons_self) rest (blanks_append.1 none).2
  refine ⟨by simp [nonempty, nonempty'], iff_of_false (shown nonempty visible) (shown nonempty' visible'), fun rest => ?_⟩
  obtain ⟨more, arguments, read⟩ := exists_ofLine_visible rest
  rw [read blanks nonempty visible, read blanks nonempty' visible', same]
  exact .of_eq rfl

end ImageBuild.Dockerfile
