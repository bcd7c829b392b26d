import ImageBuild.Proofs.Dockerfile.Alike
import ImageBuild.Proofs.Dockerfile.Declared
import ImageBuild.Proofs.Text.Lines
import ImageBuild.Proofs.Text.Utf8
import Mathlib.Logic.Relation

namespace ImageBuild.Dockerfile

open Data Text

/-! ### Reading line by line -/

/-- How far a file has been read: the instructions that are complete, and the front of one that is continued. -/
structure Reading where
  complete : List Instruction
  pending : List Char

namespace Reading

def next (r : Reading) (line : List Char) : Reading :=
  let line := trim line
  if line.head? = some '#' ∨ (r.pending.isEmpty ∧ line.isEmpty) then r
  else
    match continued? line with
    | some part => ⟨r.complete, r.pending ++ part ++ [' ']⟩
    | none => ⟨r.complete ++ [.ofLine (r.pending ++ line)], []⟩

def behind (before : List (List Char)) : Reading := before.foldl next ⟨[], []⟩

def followedBy (r : Reading) (after : List (List Char)) : List Instruction := r.complete ++ ofLines r.pending (after.map trim)

theorem followedBy_next (r : Reading) (line : List Char) (after : List (List Char)) :
    (r.next line).followedBy after = r.followedBy (line :: after) := by
  unfold followedBy next
  dsimp only
  rw [List.map_cons, ofLines]
  split_ifs
  · rfl
  · cases continued? (trim line) with
    | some part => rfl
    | none => exact List.append_assoc _ _ _

theorem followedBy_foldl (r : Reading) (before after : List (List Char)) :
    (before.foldl next r).followedBy after = r.followedBy (before ++ after) := by
  induction before generalizing r with
  | nil => rfl
  | cons line before ih => exact (ih (r.next line)).trans (followedBy_next r line (before ++ after))

theorem followedBy_behind (before after : List (List Char)) :
    (behind before).followedBy after = ofLines [] ((before ++ after).map trim) := followedBy_foldl _ before after

/-- Whatever is pending ends with a blank, the one that stands for the line break. -/
def Parted (r : Reading) : Prop := r.pending = [] ∨ Spaced r.pending

theorem parted_next {r : Reading} (parted : r.Parted) (line : List Char) : (r.next line).Parted := by
  unfold next
  dsimp only
  split_ifs
  · exact parted
  · cases continued? (trim line) with
    | some part => exact .inr ⟨_, ' ', rfl, by decide⟩
    | none => exact .inl rfl

theorem parted_behind (before : List (List Char)) : (behind before).Parted := by
  have all (r : Reading) (parted : r.Parted) : (before.foldl next r).Parted := by
    induction before generalizing r with
    | nil => exact parted
    | cons line before ih => exact ih _ (parted_next parted line)
  exact all _ (.inl rfl)

theorem Parted.words_append {r : Reading} (parted : r.Parted) (line : List Char) :
    words (r.pending ++ line) = words r.pending ++ words line := by
  rcases parted with empty | spaced
  · rw [empty, words, List.nil_append, List.nil_append]
  · exact words_spaced spaced line

end Reading

/-! ### Changes of layout -/

def IsComment (line : List Char) : Prop := (trim line).head? = some '#'

instance (line : List Char) : Decidable (IsComment line) := inferInstanceAs (Decidable (_ = _))

/-- What can begin an instruction: neither the mark of a comment in front nor one that continues the line behind. -/
structure Keyword (word : List Char) : Prop where
  nonempty : word ≠ []
  visible : Visible word
  uncommented : word.head? ≠ some '#'
  ended : word.getLast? ≠ some '\\'

/-- One change of the layout of a file, from its lines to other lines. -/
inductive Relaid : List (List Char) → List (List Char) → Prop where
  /-- A comment, between any two lines. -/
  | comment {before after : List (List Char)} {line : List Char} (marked : IsComment line) :
    Relaid (before ++ after) (before ++ line :: after)
  /-- A blank line where no instruction is continued. -/
  | blank {before after : List (List Char)} {line : List Char} (blanks : Blanks line)
    (ended : (Reading.behind before).pending = []) : Relaid (before ++ after) (before ++ line :: after)
  /-- Blanks around a line. -/
  | padded {before after : List (List Char)} {left line right : List Char} (blanks : Blanks left) (blanks' : Blanks right) :
    Relaid (before ++ line :: after) (before ++ (left ++ line ++ right) :: after)
  /-- A line break instead of the blanks before a word of a `FROM`, or before the first word of an `ARG`. -/
  | folded {before after : List (List Char)} {front gap next : List Char} {first : Char}
    (begun : (Instruction.ofLine ((Reading.behind before).pending ++ front)).Open) (uncommented : ¬IsComment front)
    (blanks : Blanks gap) (nonempty : gap ≠ []) (visible : isBlank first = false) (other : first ≠ '#') :
    Relaid (before ++ (front ++ gap ++ first :: next) :: after) (before ++ (front ++ ['\\']) :: (first :: next) :: after)
  /-- Another case of a keyword. -/
  | recased {before after : List (List Char)} {left word word' rest : List Char}
    (begins : Blanks (Reading.behind before).pending) (blanks : Blanks left) (keyword : Keyword word) (keyword' : Keyword word')
    (same : upper (String.ofList word) = upper (String.ofList word')) :
    Relaid (before ++ (left ++ word ++ rest) :: after) (before ++ (left ++ word' ++ rest) :: after)
  /-- Any lines behind a complete `FROM`. -/
  | appended {before after after' : List (List Char)}
    (found : ∃ i ∈ (Reading.behind before).complete, i.keyword = "FROM") : Relaid (before ++ after) (before ++ after')

section changes

variable {before after after' : List (List Char)} {pending : List Char}

theorem agree_behind (same : Agree (ofLines (Reading.behind before).pending (after.map trim))
    (ofLines (Reading.behind before).pending (after'.map trim))) :
    Agree (ofLines [] ((before ++ after).map trim)) (ofLines [] ((before ++ after').map trim)) := by
  rw [← Reading.followedBy_behind, ← Reading.followedBy_behind]
  exact agree_append _ same

theorem ofLines_comment {line : List Char} (marked : IsComment line) (pending : List Char) (rest : List (List Char)) :
    ofLines pending (trim line :: rest) = ofLines pending rest := by
  rw [ofLines]
  exact if_pos (.inl marked)

theorem ofLines_blank {line : List Char} (blanks : Blanks line) (rest : List (List Char)) :
    ofLines [] (trim line :: rest) = ofLines [] rest := by
  rw [trim_eq_nil_iff.2 blanks, ofLines]
  exact if_pos (.inr ⟨rfl, rfl⟩)

theorem ofLines_broken {front : List Char} (uncommented : ¬IsComment front) (pending : List Char) (rest : List (List Char)) :
    ofLines pending (trim (front ++ ['\\']) :: rest) = ofLines (pending ++ trimStart front ++ [' ']) rest := by
  have mark : Visible ['\\'] := List.forall_mem_singleton.2 (by decide)
  have broken : trim (front ++ ['\\']) = trimStart front ++ ['\\'] := by
    by_cases blanks : Blanks front
    · rw [trimStart_eq_nil_iff.2 blanks, ← List.append_nil (front ++ _), trim_word blanks (by simp) mark]
      rfl
    · exact trim_append blanks (not_blanks_cons (mark _ List.mem_cons_self) [])
  have counts : (trimStart front ++ ['\\']).head? ≠ some '#' := by
    rw [IsComment, head?_trim] at uncommented
    cases known : (trimStart front).head? with
    | none => simp [List.head?_append, known]
    | some c => simpa [List.head?_append, known] using uncommented
  rw [broken, ofLines_counted (by simp) counts, ofJoined, continued?, if_pos (by simp)]
  simp

theorem agree_folded {r : Reading} {front gap next : List Char} {first : Char} (parted : r.Parted)
    (begun : (Instruction.ofLine (r.pending ++ front)).Open) (uncommented : ¬IsComment front)
    (blanks : Blanks gap) (nonempty : gap ≠ []) (visible : isBlank first = false) (other : first ≠ '#')
    (rest : List (List Char)) :
    Agree (ofLines r.pending (trim (front ++ gap ++ first :: next) :: rest))
      (ofLines r.pending (trim (front ++ ['\\']) :: trim (first :: next) :: rest)) := by
  have word : Visible [first] := List.forall_mem_singleton.2 visible
  have back : trim (first :: next) = first :: trimEnd next := trim_word blanks_nil (by simp) word next
  have joined (pending : List Char) :
      ofLines pending ((first :: trimEnd next) :: rest) = ofJoined pending (first :: trimEnd next) rest :=
    ofLines_counted (by simp) (by simpa using other) rest
  have broken : words (r.pending ++ trimStart front ++ [' ']) = words (r.pending ++ front) := by
    rw [words_then_blanks _ (List.forall_mem_singleton.2 (by decide)), parted.words_append, words_trimStart, parted.words_append]
  have spaced : Spaced (r.pending ++ trimStart front ++ [' ']) := ⟨_, ' ', rfl, by decide⟩
  rw [ofLines_broken uncommented, back, joined]
  by_cases empty : Blanks front
  · -- The front is behind a line break itself: what has begun is all pending.
    have whole : trim (front ++ gap ++ first :: next) = first :: trimEnd next := by
      simpa using trim_word (blanks_append.2 ⟨empty, blanks⟩) (by simp) word next
    have pending : Spaced r.pending := by
      refine parted.resolve_left fun none => ?_
      obtain ⟨_, _, known, -⟩ := exists_words_of_open begun
      rw [none, List.nil_append, words_eq_nil_iff.2 empty] at known
      cases known
    rw [whole, joined]
    refine agree_ofJoined (interchangeable_of_open begun ?_ broken pending spaced) _ rest
    exact (words_then_blanks _ empty).symm
  · have whole : trim (front ++ gap ++ first :: next) = (trimStart front ++ gap) ++ first :: trimEnd next := by
      have shown : ¬Blanks (first :: next) := not_blanks_cons visible next
      have start : trimStart (first :: next) = first :: next := trimStart_eq_self (by simpa using visible)
      rw [trim_append (mt (fun all => (blanks_append.1 all).1) empty) shown, trimStart_append empty, ← back, trim, start]
    have counts : ((trimStart front ++ gap) ++ first :: trimEnd next).head? ≠ some '#' := by
      rw [IsComment, head?_trim] at uncommented
      have start : trimStart front ≠ [] := mt trimStart_eq_nil_iff.1 empty
      rw [List.append_assoc, List.head?_append_of_ne_nil _ start]
      exact uncommented
    rw [whole, ofLines_counted (by simp) counts, ofJoined_append (by simp)]
    refine agree_ofJoined (interchangeable_of_open begun ?_ broken ?_ spaced) _ rest
    · rw [parted.words_append, words_then_blanks _ blanks, words_trimStart, parted.words_append]
    · exact spaced_append _ (spaced_append _ (spaced_of_blanks blanks nonempty))

theorem agree_recased {left word word' : List Char} (begins : Blanks pending) (blanks : Blanks left)
    (keyword : Keyword word) (keyword' : Keyword word') (same : upper (String.ofList word) = upper (String.ofList word'))
    (rest : List Char) (more : List (List Char)) :
    Agree (ofLines pending (trim (left ++ word ++ rest) :: more)) (ofLines pending (trim (left ++ word' ++ rest) :: more)) := by
  have joined {word : List Char} (keyword : Keyword word) :
      ofLines pending (trim (left ++ word ++ rest) :: more) = ofJoined (pending ++ word) (trimEnd rest) more := by
    have counts : (word ++ trimEnd rest).head? ≠ some '#' := by
      rw [List.head?_append_of_ne_nil _ keyword.nonempty]
      exact keyword.uncommented
    rw [trim_word blanks keyword.nonempty keyword.visible, ofLines_counted (by simp [keyword.nonempty]) counts,
      ofJoined_append fun _ => keyword.ended]
  rw [joined keyword, joined keyword']
  exact agree_ofJoined (interchangeable_of_upper begins keyword.nonempty keyword'.nonempty keyword.visible keyword'.visible same)
    _ more

/-- One change of layout leaves the base image, and the error when there is none. -/
theorem agree_of_relaid {all all' : List (List Char)} (relaid : Relaid all all') :
    Agree (ofLines [] (all.map trim)) (ofLines [] (all'.map trim)) := by
  cases relaid with
  | comment marked => exact agree_behind (agree_of_eq (ofLines_comment marked _ _).symm)
  | blank blanks ended =>
    refine agree_behind ?_
    rw [ended]
    exact agree_of_eq (ofLines_blank blanks _).symm
  | padded blanks blanks' =>
    refine agree_behind (agree_of_eq ?_)
    rw [List.map_cons, List.map_cons, trim_padded blanks blanks']
  | folded begun uncommented blanks nonempty visible other =>
    exact agree_behind (agree_folded (Reading.parted_behind _) begun uncommented blanks nonempty visible other _)
  | recased begins blanks keyword keyword' same => exact agree_behind (agree_recased begins blanks keyword keyword' same _ _)
  | appended found =>
    rw [← Reading.followedBy_behind, ← Reading.followedBy_behind]
    exact agree_of_from found _ _

theorem agree_of_relayouts {all all' : List (List Char)} (relaid : Relation.EqvGen Relaid all all') :
    Agree (ofLines [] (all.map trim)) (ofLines [] (all'.map trim)) := by
  induction relaid with
  | rel _ _ step => exact agree_of_relaid step
  | refl _ => exact agree_of_eq rfl
  | symm _ _ _ ih => exact fun path args => (ih path args).symm
  | trans _ _ _ _ _ first second => exact fun path args => (first path args).trans (second path args)

end changes

theorem extract_of_text {tree : Files.Node} {path : Path} {text : String} (reads : Files.read tree path = .ok text.toUTF8) :
    extract tree path =
      (baseOf path.text .empty (ofLines [] ((lines text.toList).map trim))).mapError .noBase := by
  rw [extract_of_decoded reads (Utf8.decode_toUTF8 text), instructions, String.toList_ofList]

/-- Files whose lines differ in layout only have one base image, or one error. -/
theorem extract_of_relaid {tree tree' : Files.Node} {path : Path} {text text' : String}
    (reads : Files.read tree path = .ok text.toUTF8) (reads' : Files.read tree' path = .ok text'.toUTF8)
    (relaid : Relation.EqvGen Relaid (lines text.toList) (lines text'.toList)) : extract tree path = extract tree' path := by
  rw [extract_of_text reads, extract_of_text reads', agree_of_relayouts relaid]

def directoryOf (text : String) : Files.Node := .folder [("Dockerfile", .file (.bytes text.toUTF8))]

theorem read_directoryOf (text : String) : Files.read (directoryOf text) (.ofText "Dockerfile") = .ok text.toUTF8 := rfl

def rows (all : List String) : List (List Char) := all.map String.toList

/-- An `ARG` in another case is continued behind a comment, and a second stage is added. -/
theorem extract_of_relaid_argument :
    extract (directoryOf "arg\\\n# The newest.\\\nTAG=3\nFROM alpine:$TAG\nFROM other\n") (.ofText "Dockerfile") =
      .ok "alpine:3" := by
  have keyword : Keyword "ARG".toList := by constructor <;> decide +kernel
  have keyword' : Keyword "arg".toList := by constructor <;> decide +kernel
  have fold : Relaid (rows ["ARG TAG=3", "FROM alpine:$TAG"]) (rows ["ARG\\", "TAG=3", "FROM alpine:$TAG"]) :=
    @Relaid.folded [] (rows ["FROM alpine:$TAG"]) "ARG".toList " ".toList "AG=3".toList 'T' (.inr (by decide +kernel))
      (by decide +kernel) (by decide +kernel) (by decide +kernel) (by decide +kernel) (by decide)
  have note : Relaid _ (rows ["ARG\\", "# The newest.\\", "TAG=3", "FROM alpine:$TAG"]) :=
    @Relaid.comment (rows ["ARG\\"]) (rows ["TAG=3", "FROM alpine:$TAG"]) "# The newest.\\".toList (by decide +kernel)
  have recase : Relaid _ (rows ["arg\\", "# The newest.\\", "TAG=3", "FROM alpine:$TAG"]) :=
    @Relaid.recased [] (rows ["# The newest.\\", "TAG=3", "FROM alpine:$TAG"]) [] "ARG".toList "arg".toList "\\".toList
      blanks_nil blanks_nil keyword keyword' (by decide +kernel)
  have stage : Relaid _ (rows ["arg\\", "# The newest.\\", "TAG=3", "FROM alpine:$TAG", "FROM other"]) :=
    @Relaid.appended (rows ["arg\\", "# The newest.\\", "TAG=3", "FROM alpine:$TAG"]) [] (rows ["FROM other"])
      ⟨⟨"FROM", "alpine:$TAG"⟩, by decide +kernel, rfl⟩
  have relaid := Relation.EqvGen.trans _ _ _ (.rel _ _ fold) (.trans _ _ _ (.rel _ _ note)
    (.trans _ _ _ (.rel _ _ recase) (.rel _ _ stage)))
  have read : lines "ARG TAG=3\nFROM alpine:$TAG\n".toList = rows ["ARG TAG=3", "FROM alpine:$TAG"] := by decide +kernel
  have read' : lines "arg\\\n# The newest.\\\nTAG=3\nFROM alpine:$TAG\nFROM other\n".toList =
      rows ["arg\\", "# The newest.\\", "TAG=3", "FROM alpine:$TAG", "FROM other"] := by decide +kernel
  rw [← read, ← read'] at relaid
  exact (extract_of_relaid (read_directoryOf _) (read_directoryOf _) relaid.symm).trans (by decide +kernel)

end ImageBuild.Dockerfile
