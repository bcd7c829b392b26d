import ImageBuild.Proofs.Data.Splits
import ImageBuild.Proofs.Dockerfile.Layout
import ImageBuild.Proofs.Text.Upper

/-!
# Real instructions

An instruction is told by lines of its own: a blank line, a comment and a line that is no more than the mark of a
continued one tell nothing of it. An instruction without a keyword comes of nothing but such lines, and that only
where a blank line ends what a lone mark has begun.
-/

namespace ImageBuild.Dockerfile

open Text

/-! ### The parts of an instruction -/

/-- A keyword in upper case and without blanks, and arguments without blanks around them. -/
structure Formed (i : Instruction) : Prop where
  visible : Visible i.keyword.toList
  upper : upper i.keyword = i.keyword
  capitals : ∀ c ∈ i.keyword.toList, ¬('a' ≤ c ∧ c ≤ 'z')
  begins : ∀ c ∈ i.arguments.toList.head?, isBlank c = false
  ends : ∀ c ∈ i.arguments.toList.getLast?, isBlank c = false

theorem ofLine_blanks {s : List Char} (blanks : Blanks s) : Instruction.ofLine s = ⟨"", ""⟩ := by
  unfold Instruction.ofLine
  rw [cutWord_blanks blanks]
  decide +kernel

theorem exists_ofLine_word {s : List Char} (shown : ¬Blanks s) :
    ∃ word rest, word ≠ [] ∧ Visible word ∧
      Instruction.ofLine s = ⟨upper (String.ofList word), String.ofList (trim rest)⟩ := by
  obtain ⟨left, word, rest, rfl, blanks, nonempty, visible, apart⟩ := (exists_first s).resolve_left shown
  refine ⟨word, trimStart rest, nonempty, visible, ?_⟩
  unfold Instruction.ofLine
  rw [cutWord_eq blanks nonempty visible apart]

theorem formed_ofLine (s : List Char) : Formed (.ofLine s) := by
  by_cases blanks : Blanks s
  · rw [ofLine_blanks blanks]
    exact ⟨by decide, by decide +kernel, by simp, by simp, by simp⟩
  · obtain ⟨word, rest, nonempty, visible, told⟩ := exists_ofLine_word blanks
    rw [told]
    refine ⟨visible_upper visible, upper_upper _, fun _ => not_small_of_mem_upper, ?_, ?_⟩
    · rw [String.toList_ofList]
      exact visible_head_trim rest
    · rw [String.toList_ofList]
      exact visible_last_trim rest

theorem keyword_ofLine_iff {s : List Char} : (Instruction.ofLine s).keyword = "" ↔ Blanks s := by
  by_cases blanks : Blanks s
  · exact iff_of_true (keyword_blanks blanks) blanks
  · obtain ⟨word, rest, nonempty, -, told⟩ := exists_ofLine_word blanks
    rw [told]
    exact iff_of_false (mt upper_eq_empty_iff.1 nonempty) blanks

/-! ### What a line tells -/

/-- A blank line, a comment, or a line that is no more than the mark of a continued one. -/
def Idle (line : List Char) : Prop := Blanks line ∨ IsComment line ∨ trim line = ['\\']

/-- What a line adds to the instruction that is being read. -/
def told (line : List Char) : List Char :=
  if IsComment line then []
  else
    match continued? (trim line) with
    | some part => part ++ [' ']
    | none => trim line

def joined (block : List (List Char)) : Instruction := .ofLine (block.flatMap told)

theorem continued?_eq_some {line part : List Char} : continued? line = some part ↔ line = part ++ ['\\'] := by
  unfold continued?
  constructor
  · intro found
    split at found
    · rename_i ends
      obtain ⟨front, rfl⟩ := List.getLast?_eq_some_iff.1 ends
      simpa using found
    · cases found
  · rintro rfl
    simp

theorem continued?_eq_none {line : List Char} : continued? line = none ↔ line.getLast? ≠ some '\\' := by
  unfold continued?
  split <;> simp_all

theorem blanks_part_iff {line part : List Char} (ends : trim line = part ++ ['\\']) : Blanks part ↔ part = [] := by
  refine ⟨fun blanks => ?_, fun empty => empty ▸ blanks_nil⟩
  cases part with
  | nil => rfl
  | cons c part =>
    have first := visible_head_trim line c (by rw [ends]; rfl)
    cases first.symm.trans (blanks c List.mem_cons_self)

theorem blanks_told_iff {line : List Char} : Blanks (told line) ↔ Idle line := by
  unfold told Idle
  by_cases comment : IsComment line
  · rw [if_pos comment]
    exact iff_of_true blanks_nil (.inr (.inl comment))
  · rw [if_neg comment]
    cases continues : continued? (trim line) with
    | some part =>
      have ends := continued?_eq_some.1 continues
      have shown : ¬Blanks line := by
        rw [← trim_eq_nil_iff, ends]
        simp
      have space : Blanks [' '] := List.forall_mem_singleton.2 (by decide)
      simp [blanks_append, space, blanks_part_iff ends, shown, comment, ends]
    | none =>
      have other : trim line ≠ ['\\'] := by
        intro mark
        rw [mark] at continues
        cases continues
      simp [blanks_trim, comment, other]

theorem keyword_joined_iff {block : List (List Char)} : (joined block).keyword = "" ↔ ∀ line ∈ block, Idle line := by
  rw [joined, keyword_ofLine_iff, Blanks, List.forall_mem_flatMap]
  exact forall₂_congr fun line _ => blanks_told_iff

/-! ### Reading on -/

namespace Reading

variable {r : Reading} {line : List Char}

/-- What one more line does: it is passed over, continued on the next line, or ends an instruction. -/
inductive Reads (r : Reading) (line : List Char) : Reading → Prop where
  | passed (nothing : IsComment line ∨ r.pending = [] ∧ Blanks line) : Reads r line r
  | continued {part : List Char} (counts : ¬IsComment line) (ends : trim line = part ++ ['\\']) :
    Reads r line ⟨r.complete, r.pending ++ part ++ [' ']⟩
  | ended (counts : ¬IsComment line) (shown : r.pending = [] → ¬Blanks line) (ends : (trim line).getLast? ≠ some '\\') :
    Reads r line ⟨r.complete ++ [.ofLine (r.pending ++ trim line)], []⟩

theorem reads_next (r : Reading) (line : List Char) : Reads r line (r.next line) := by
  unfold next
  dsimp only
  split_ifs with nothing
  · refine .passed (nothing.imp_right ?_)
    rw [List.isEmpty_iff, List.isEmpty_iff, trim_eq_nil_iff]
    exact id
  · rw [List.isEmpty_iff, List.isEmpty_iff, trim_eq_nil_iff, not_or, not_and] at nothing
    cases continues : continued? (trim line) with
    | some part => exact .continued nothing.1 (continued?_eq_some.1 continues)
    | none => exact .ended nothing.1 nothing.2 (continued?_eq_none.1 continues)

theorem next_told (r : Reading) (line : List Char) : r.next line = ⟨r.complete, r.pending ++ told line⟩ ∨
    r.next line = ⟨r.complete ++ [.ofLine (r.pending ++ told line)], []⟩ := by
  have step := reads_next r line
  generalize r.next line = next at step
  cases step with
  | passed nothing =>
    left
    have silent : told line = [] := by
      unfold told
      by_cases comment : IsComment line
      · rw [if_pos comment]
      · rw [if_neg comment, trim_eq_nil_iff.2 (nothing.resolve_left comment).2]
        rfl
    rw [silent, List.append_nil]
  | continued counts ends =>
    left
    rw [told, if_neg counts, continued?_eq_some.2 ends, List.append_assoc]
  | ended counts shown ends =>
    right
    rw [told, if_neg counts, continued?_eq_none.2 ends]

theorem behind_concat (before : List (List Char)) (line : List Char) :
    behind (before ++ [line]) = (behind before).next line := List.foldl_concat _ _ _ _

/-- The complete instructions are those of consecutive blocks of lines; what is pending is told by the lines behind
them. -/
theorem exists_blocks (before : List (List Char)) : ∃ (blocks : List (List (List Char))) (rest : List (List Char)),
    before = blocks.flatten ++ rest ∧ (behind before).complete = blocks.map joined ∧
      (behind before).pending = rest.flatMap told := by
  induction before using List.reverseRecOn with
  | nil => exact ⟨[], [], rfl, rfl, rfl⟩
  | append_singleton before line ih =>
    obtain ⟨blocks, rest, split, complete, pending⟩ := ih
    have further : (behind before).pending ++ told line = (rest ++ [line]).flatMap told := by
      rw [pending, List.flatMap_append, List.flatMap_singleton]
    rw [behind_concat]
    rcases next_told (behind before) line with same | same
    · refine ⟨blocks, rest ++ [line], ?_, ?_, ?_⟩
      · rw [split, List.append_assoc]
      · rw [same, complete]
      · rw [same, further]
    · refine ⟨blocks ++ [rest ++ [line]], [], ?_, ?_, ?_⟩
      · simp [split]
      · rw [same, complete, further, List.map_append, List.map_singleton, joined]
      · rw [same, List.flatMap_nil]

end Reading

/-- The last line that is no comment ends with the mark that continues it. -/
def Continued (before : List (List Char)) : Prop :=
  ∃ line ∈ (before.filter fun line => !IsComment line).getLast?, (trim line).getLast? = some '\\'

/-- At the end stand a lone mark, where nothing was continued, and nothing but comments and lone marks behind it. -/
def Marked (before : List (List Char)) : Prop := ∃ front mark between,
  before = front ++ mark :: between ∧ ¬Continued front ∧ trim mark = ['\\'] ∧
    ∀ other ∈ between, IsComment other ∨ trim other = ['\\']

/-- A blank line follows lone marks that have begun nothing. -/
def Stray (all : List (List Char)) : Prop := ∃ before line after,
  all = before ++ line :: after ∧ Marked before ∧ Blanks line

section continued

variable {before : List (List Char)} {line : List Char}

theorem continued_comment (comment : IsComment line) : Continued (before ++ [line]) ↔ Continued before := by
  simp [Continued, List.filter_append, comment]

theorem continued_counts (counts : ¬IsComment line) :
    Continued (before ++ [line]) ↔ (trim line).getLast? = some '\\' := by
  simp [Continued, List.filter_append, counts]

theorem marked_concat (marked : Marked before) (idle : IsComment line ∨ trim line = ['\\']) :
    Marked (before ++ [line]) := by
  obtain ⟨front, mark, between, split, ended, alone, others⟩ := marked
  refine ⟨front, mark, between ++ [line], by simp [split], ended, alone, ?_⟩
  exact List.forall_mem_append.2 ⟨others, List.forall_mem_singleton.2 idle⟩

end continued

namespace Reading

variable {r : Reading} {line : List Char}

def Hangs (r : Reading) : Prop := r.pending ≠ [] ∧ Blanks r.pending

theorem pending_eq_nil_iff (before : List (List Char)) : (behind before).pending = [] ↔ ¬Continued before := by
  induction before using List.reverseRecOn with
  | nil => exact iff_of_true rfl (by simp [Continued])
  | append_singleton before line ih =>
    rw [behind_concat]
    have step := reads_next (behind before) line
    generalize (behind before).next line = next at step
    cases step with
    | passed nothing =>
      by_cases comment : IsComment line
      · rw [continued_comment comment]
        exact ih
      · obtain ⟨empty, blanks⟩ := nothing.resolve_left comment
        rw [continued_counts comment, trim_eq_nil_iff.2 blanks]
        exact iff_of_true empty (by simp)
    | continued counts ends =>
      rw [continued_counts counts, ends]
      simp
    | ended counts shown ends =>
      rw [continued_counts counts]
      exact iff_of_true rfl ends

/-- A lone mark leaves something pending, and nothing of an instruction. -/
theorem hangs_mark (blanks : Blanks r.pending) (alone : trim line = ['\\']) : (r.next line).Hangs := by
  have step := reads_next r line
  generalize r.next line = next at step
  cases step with
  | passed nothing =>
    rcases nothing with comment | ⟨-, blank⟩
    · rw [IsComment, alone] at comment
      cases comment
    · rw [trim_eq_nil_iff.2 blank] at alone
      cases alone
  | @continued part counts ends =>
    obtain rfl : part = [] := by simpa using ends.symm.trans alone
    refine ⟨by simp, ?_⟩
    rw [List.append_nil]
    exact blanks_append.2 ⟨blanks, List.forall_mem_singleton.2 (by decide)⟩
  | ended counts shown ends =>
    rw [alone] at ends
    exact absurd rfl ends

theorem next_comment (comment : IsComment line) (r : Reading) : r.next line = r := if_pos (.inl comment)

theorem marked_of_hangs (before : List (List Char)) : (behind before).Hangs → Marked before := by
  induction before using List.reverseRecOn with
  | nil => exact fun hangs => absurd rfl hangs.1
  | append_singleton before line ih =>
    rw [behind_concat]
    have step := reads_next (behind before) line
    generalize (behind before).next line = next at step
    rintro ⟨nonempty, blanks⟩
    cases step with
    | passed nothing =>
      have comment := nothing.resolve_right fun blank => nonempty blank.1
      exact marked_concat (ih ⟨nonempty, blanks⟩) (.inl comment)
    | continued counts ends =>
      obtain ⟨⟨earlier, part⟩, -⟩ := (blanks_append.1 blanks).imp_left blanks_append.1
      rw [(blanks_part_iff ends).1 part, List.nil_append] at ends
      by_cases empty : (behind before).pending = []
      · exact ⟨before, line, [], rfl, (pending_eq_nil_iff before).1 empty, ends, by simp⟩
      · exact marked_concat (ih ⟨empty, earlier⟩) (.inr ends)
    | ended counts shown ends => exact absurd rfl nonempty

theorem hangs_of_marked {before : List (List Char)} (marked : Marked before) : (behind before).Hangs := by
  obtain ⟨front, mark, between, rfl, ended, alone, others⟩ := marked
  induction between using List.reverseRecOn with
  | nil =>
    rw [behind_concat]
    refine hangs_mark ?_ alone
    rw [(pending_eq_nil_iff front).2 ended]
    exact blanks_nil
  | append_singleton between other ih =>
    obtain ⟨earlier, last⟩ := List.forall_mem_append.1 others
    have hangs := ih earlier
    rw [← List.cons_append, ← List.append_assoc, behind_concat]
    rcases List.forall_mem_singleton.1 last with comment | again
    · rw [next_comment comment]
      exact hangs
    · exact hangs_mark hangs.2 again

theorem hangs_iff (before : List (List Char)) : (behind before).Hangs ↔ Marked before :=
  ⟨marked_of_hangs before, hangs_of_marked⟩

/-- An instruction has no keyword when a blank line ends what hangs. -/
theorem blank_complete_iff (all : List (List Char)) : (∃ i ∈ (behind all).complete, i.keyword = "") ↔
    ∃ before line after, all = before ++ line :: after ∧ (behind before).Hangs ∧ Blanks line := by
  induction all using List.reverseRecOn with
  | nil => simp [behind]
  | append_singleton all line ih =>
    rw [exists_split_concat fun before line => (behind before).Hangs ∧ Blanks line, ← ih, behind_concat]
    have step := reads_next (behind all) line
    generalize (behind all).next line = next at step
    cases step with
    | passed nothing =>
      refine (or_iff_left ?_).symm
      rintro ⟨hangs, blank⟩
      rcases nothing with comment | ⟨empty, -⟩
      · rw [IsComment, trim_eq_nil_iff.2 blank] at comment
        cases comment
      · exact hangs.1 empty
    | continued counts ends =>
      refine (or_iff_left ?_).symm
      rintro ⟨-, blank⟩
      rw [trim_eq_nil_iff.2 blank] at ends
      simp at ends
    | ended counts shown ends =>
      have last : Blanks ((behind all).pending ++ trim line) ↔ (behind all).Hangs ∧ Blanks line := by
        rw [blanks_append, blanks_trim, Hangs]
        constructor
        · rintro ⟨blanks, blank⟩
          exact ⟨⟨fun empty => shown empty blank, blanks⟩, blank⟩
        · rintro ⟨⟨-, blanks⟩, blank⟩
          exact ⟨blanks, blank⟩
      simp only [List.mem_append, or_and_right, exists_or, List.mem_singleton, exists_eq_left, keyword_ofLine_iff, last]

end Reading

theorem instructions_eq (text : String) : instructions text =
    (Reading.behind (lines text.toList)).complete ++
      if Blanks (Reading.behind (lines text.toList)).pending then []
      else [.ofLine (Reading.behind (lines text.toList)).pending] := by
  have all := Reading.followedBy_behind (lines text.toList) []
  rw [List.append_nil] at all
  rw [instructions, ← all, Reading.followedBy, List.map_nil, ofLines]
  simp only [List.isEmpty_iff, trim_eq_nil_iff]

/-- The last instruction of a text is never the one that has no keyword. -/
theorem blank_instruction_iff (text : String) :
    (∃ i ∈ instructions text, i.keyword = "") ↔ Stray (lines text.toList) := by
  have last : (∃ i ∈ instructions text, i.keyword = "") ↔
      ∃ i ∈ (Reading.behind (lines text.toList)).complete, i.keyword = "" := by
    rw [instructions_eq]
    split_ifs with blanks
    · rw [List.append_nil]
    · have worded := mt keyword_ofLine_iff.1 blanks
      simp [or_and_right, exists_or, worded]
  simp only [last, Reading.blank_complete_iff, Reading.hangs_iff, Stray]

theorem exists_instruction_blocks (text : String) : ∃ (blocks : List (List (List Char))) (rest : List (List Char)),
    lines text.toList = blocks.flatten ++ rest ∧ instructions text = blocks.map joined ∧ ∀ line ∈ rest, Idle line := by
  obtain ⟨blocks, rest, split, complete, pending⟩ := Reading.exists_blocks (lines text.toList)
  rw [instructions_eq, complete, pending]
  by_cases blanks : Blanks (rest.flatMap told)
  · refine ⟨blocks, rest, split, by rw [if_pos blanks, List.append_nil], fun line among => ?_⟩
    exact blanks_told_iff.1 (List.forall_mem_flatMap.1 blanks line among)
  · refine ⟨blocks ++ [rest], [], by simp [split], ?_, by simp⟩
    rw [if_neg blanks, List.map_append, List.map_singleton, joined]

/-- Every instruction has a keyword in upper case without blanks, or is empty, and arguments without blanks around them.
The instructions are those of consecutive blocks of lines, and one is empty exactly if its lines are all idle: there is
one exactly if a blank line ends what a lone mark has begun. -/
theorem instructions_told_by_lines (text : String) :
    (∀ i ∈ instructions text, Formed i ∧ (i.keyword = "" → i = ⟨"", ""⟩)) ∧
    (∃ (blocks : List (List (List Char))) (rest : List (List Char)), lines text.toList = blocks.flatten ++ rest ∧
      instructions text = blocks.map joined ∧ (∀ line ∈ rest, Idle line) ∧
      ∀ block ∈ blocks, (joined block).keyword = "" ↔ ∀ line ∈ block, Idle line) ∧
    ((∃ i ∈ instructions text, i.keyword = "") ↔ Stray (lines text.toList)) := by
  obtain ⟨blocks, rest, split, told, idle⟩ := exists_instruction_blocks text
  refine ⟨?_, ⟨blocks, rest, split, told, idle, fun block _ => keyword_joined_iff⟩, blank_instruction_iff text⟩
  rw [told]
  refine List.forall_mem_map.2 fun block _ => ⟨formed_ofLine _, fun wordless => ?_⟩
  exact ofLine_blanks (keyword_ofLine_iff.1 wordless)

example : instructions "from alpine\n" = [⟨"FROM", "alpine"⟩] := by decide +kernel

/-- A lone mark and a blank line make an instruction of their own. -/
theorem lone_mark_yields_empty : instructions "\\\n\nFROM alpine\n" = [⟨"", ""⟩, ⟨"FROM", "alpine"⟩] := by
  decide +kernel

end ImageBuild.Dockerfile
