import ImageBuild.Dockerfile.Variable

namespace ImageBuild.Dockerfile

open Data Text

/-! ### Names -/

def IsName (name : List Char) : Prop := name.head?.any isNameStart = true ∧ ∀ c ∈ name, isNameChar c = true

instance (name : List Char) : Decidable (IsName name) :=
  decidable_of_iff (name.head?.any isNameStart = true ∧ name.all isNameChar = true) (and_congr_right' List.all_eq_true)

def EndsName (rest : List Char) : Prop := ∀ c ∈ rest.head?, isNameChar c = false

theorem endsName_cons {c : Char} (other : isNameChar c = false) (rest : List Char) : EndsName (c :: rest) := by
  rintro _ ⟨⟩
  exact other

instance : (rest : List Char) → Decidable (EndsName rest)
  | [] => isTrue nofun
  | c :: rest => decidable_of_iff (isNameChar c = false) ⟨fun other => endsName_cons other rest, fun ends => ends c rfl⟩

theorem readName?_append {name rest : List Char} (isName : IsName name) (ends : EndsName rest) :
    readName? (name ++ rest) = some (String.ofList name, rest) := by
  obtain ⟨start, all⟩ := isName
  have begins : (name ++ rest).head?.any isNameStart = true := by
    cases name with
    | nil => cases start
    | cons => exact start
  have stop : rest.takeWhile isNameChar = [] ∧ rest.dropWhile isNameChar = rest := by
    cases rest with
    | nil => exact ⟨rfl, rfl⟩
    | cons c rest => simp [ends c rfl]
  rw [readName?, if_pos begins, List.takeWhile_append_of_pos all,
    List.dropWhile_append_of_pos all, stop.1, stop.2, List.append_nil]

/-! ### The forms of a reference -/

/-- A part of a word: a text that stands for itself, or a reference in one of its forms. -/
inductive Part where
  | literal (text : List Char)
  | plain (name : List Char)
  | braced (name : List Char)
  /-- The default stands behind a dash, which may have a colon in front. -/
  | withDefault (name : List Char) (colon : Bool) (default : List Char)

namespace Part

def reference? : Part → Option Variable
  | literal _ => none
  | plain name | braced name => some ⟨String.ofList name, none⟩
  | withDefault name _ default => some ⟨String.ofList name, some (String.ofList default)⟩

def spelled : Part → List Char
  | literal text => text
  | plain name => '$' :: name
  | braced name => '$' :: '{' :: (name ++ ['}'])
  | withDefault name colon default =>
    '$' :: '{' :: (name ++ (if colon then [':', '-'] else ['-']) ++ default ++ ['}'])

/-- A part that is told apart from what follows it: literal texts hold no dollar sign, the name of a plain reference
is not continued, and a default ends at the first closing brace. -/
def Apart (rest : List Char) : Part → Prop
  | literal text => '$' ∉ text
  | plain name => IsName name ∧ EndsName rest
  | braced name => IsName name
  | withDefault name _ default => IsName name ∧ '}' ∉ default

instance (rest : List Char) : (part : Part) → Decidable (part.Apart rest)
  | literal _ => inferInstanceAs (Decidable (_ ∉ _))
  | plain _ => inferInstanceAs (Decidable (_ ∧ _))
  | braced name => inferInstanceAs (Decidable (IsName name))
  | withDefault .. => inferInstanceAs (Decidable (_ ∧ _))

def pieces : Part → List Piece
  | literal text => text.map .char
  | part => part.reference?.toList.map .variable

theorem literal_of_reference? {part : Part} (none : part.reference? = none) : ∃ text, part = literal text := by
  cases part with
  | literal text => exact ⟨text, rfl⟩
  | _ => cases none

theorem pieces_of_reference? {part : Part} {v : Variable} (refers : part.reference? = some v) :
    part.pieces = [.variable v] := by
  cases part with
  | literal => cases refers
  | _ => simp [pieces, refers]

/-- A reference begins with a dollar sign, and the rest of it is read up to its end. -/
theorem read_spelled {part : Part} {v : Variable} {rest : List Char} (refers : part.reference? = some v)
    (apart : part.Apart rest) : ∃ body, part.spelled = '$' :: body ∧ readVariable? (body ++ rest) = some (v, rest) := by
  cases part with
  | literal => cases refers
  | plain name =>
    obtain ⟨rfl⟩ := refers
    obtain ⟨isName, ends⟩ := apart
    refine ⟨name, rfl, ?_⟩
    have unbraced (s : List Char) : name ++ rest ≠ '{' :: s := by
      intro same
      cases name with
      | nil => cases isName.1
      | cons c others =>
        obtain ⟨rfl, -⟩ := List.cons.inj same
        exact absurd isName.1 (show isNameStart '{' ≠ true by decide)
    rw [readVariable?, readName?_append isName ends]
    · rfl
    · exact unbraced
  | braced name =>
    obtain ⟨rfl⟩ := refers
    refine ⟨'{' :: (name ++ ['}']), rfl, ?_⟩
    have read := readName?_append apart (endsName_cons (c := '}') (by decide) rest)
    simp [readVariable?, read]
  | withDefault name colon default =>
    obtain ⟨rfl⟩ := refers
    obtain ⟨isName, unclosed⟩ := apart
    refine ⟨_, rfl, ?_⟩
    have last : readDefault? (String.ofList name) (default ++ '}' :: rest) =
        some (⟨String.ofList name, some (String.ofList default)⟩, rest) := by
      rw [readDefault?, splitFirst_append unclosed]
      rfl
    cases colon with
    | true =>
      have read := readName?_append isName (endsName_cons (c := ':') (by decide) ('-' :: (default ++ '}' :: rest)))
      simp [readVariable?, read, last]
    | false =>
      have read := readName?_append isName (endsName_cons (c := '-') (by decide) (default ++ '}' :: rest))
      simp [readVariable?, read, last]

end Part

def spelling (parts : List Part) : List Char := parts.flatMap Part.spelled

/-- Every part is told apart from those behind it. -/
def Regular : List Part → Prop
  | [] => True
  | part :: rest => part.Apart (spelling rest) ∧ Regular rest

instance decidableRegular : (parts : List Part) → Decidable (Regular parts)
  | [] => isTrue trivial
  | _ :: rest => @instDecidableAnd _ _ _ (decidableRegular rest)

/-! ### The pieces of a word -/

theorem pieces_cons {c : Char} (other : c ≠ '$') (rest : List Char) : pieces (c :: rest) = .char c :: pieces rest := by
  rw [pieces, if_neg other]

theorem pieces_reference {s rest : List Char} {v : Variable} (read : readVariable? s = some (v, rest)) :
    pieces ('$' :: s) = .variable v :: pieces rest := by
  rw [pieces, if_pos rfl]
  split
  · rename_i found
    obtain ⟨rfl, rfl⟩ := Prod.mk.inj (Option.some.inj (read.symm.trans found))
    rfl
  · rename_i none
    cases read.symm.trans none

theorem pieces_literal {text : List Char} (free : '$' ∉ text) (rest : List Char) :
    pieces (text ++ rest) = text.map .char ++ pieces rest := by
  induction text with
  | nil => rfl
  | cons c text ih =>
    obtain ⟨other, free⟩ := not_or.1 (mt List.mem_cons.2 free)
    rw [List.cons_append, pieces_cons (Ne.symm other), ih free, List.map_cons, List.cons_append]

theorem pieces_spelling {parts : List Part} (regular : Regular parts) :
    pieces (spelling parts) = parts.flatMap Part.pieces := by
  induction parts with
  | nil => rw [spelling, List.flatMap_nil, List.flatMap_nil, pieces]
  | cons part rest ih =>
    obtain ⟨apart, regular⟩ := regular
    have split : spelling (part :: rest) = part.spelled ++ spelling rest := List.flatMap_cons
    rw [split, List.flatMap_cons, ← ih regular]
    cases refers : part.reference? with
    | none =>
      obtain ⟨text, rfl⟩ := Part.literal_of_reference? refers
      exact pieces_literal apart _
    | some v =>
      obtain ⟨body, same, read⟩ := Part.read_spelled refers apart
      rw [same, List.cons_append, pieces_reference read, Part.pieces_of_reference? refers, List.singleton_append]

/-! ### Substitution -/

def Piece.shown (args : Table String) : Piece → List Char
  | .char c => [c]
  | .variable v => ((v.value? args).getD "").toList

section substitution

variable {args : Table String} {all : List Piece}

theorem flatMap_chars {shown : Piece → List Char} (char : ∀ c, shown (.char c) = [c]) (text : List Char) :
    (text.map Piece.char).flatMap shown = text := by
  rw [List.flatMap_map]
  simp only [char]
  exact List.flatMap_singleton' text

theorem substitute_of_all (known : ∀ v, .variable v ∈ all → v.value? args ≠ none) :
    substitute args all = .ok (all.flatMap (Piece.shown args)) := by
  induction all with
  | nil => rfl
  | cons piece rest ih =>
    have later := ih fun v member => known v (List.mem_cons_of_mem _ member)
    rcases piece with c | v
    · rw [substitute, later]
      rfl
    · obtain ⟨value, stands⟩ := Option.ne_none_iff_exists'.1 (known v List.mem_cons_self)
      rw [substitute, stands, later, List.flatMap_cons, Piece.shown, stands]
      rfl

theorem exists_of_substitute {v : Variable} (member : .variable v ∈ all) (lacks : v.value? args = none) :
    ∃ w, .variable w ∈ all ∧ w.value? args = none ∧ substitute args all = .error w.name := by
  induction all with
  | nil => cases member
  | cons piece rest ih =>
    rcases piece with c | u
    · obtain ⟨w, later, lacks, failed⟩ := ih (by simpa using member)
      refine ⟨w, List.mem_cons_of_mem _ later, lacks, ?_⟩
      rw [substitute, failed]
      rfl
    · cases stands : u.value? args with
      | none => exact ⟨u, List.mem_cons_self, stands, by rw [substitute, stands]⟩
      | some value =>
        have other : v ≠ u := by
          rintro rfl
          cases stands.symm.trans lacks
        obtain ⟨w, later, lacks, failed⟩ := ih (by simpa [other] using member)
        refine ⟨w, List.mem_cons_of_mem _ later, lacks, ?_⟩
        rw [substitute, stands, failed]
        rfl

theorem substitute_literal {word : List Char} (free : '$' ∉ word) (args : Table String) :
    substitute args (pieces word) = .ok word := by
  have chars : pieces word = word.map .char := by
    have whole := pieces_literal free []
    rwa [List.append_nil, pieces, List.append_nil] at whole
  rw [chars, substitute_of_all (by simp), flatMap_chars fun _ => rfl]

end substitution

end ImageBuild.Dockerfile
