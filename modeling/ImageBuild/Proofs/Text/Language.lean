import ImageBuild.Text.Split
import Mathlib.Computability.Language

/-!
# Languages of joined pieces

Words that are pieces with joints between them. `joined_induction` follows the pieces,
`splitAll_iff_joined` cuts a word into them, and `foldl_joined` reads it character by character.
-/

namespace ImageBuild.Text

open scoped Computability

def one (p : Char → Prop) : Language Char := {s | ∃ c, s = [c] ∧ p c}

/-- The words of at least so many characters, all of one class. -/
def atLeast (n : Nat) (p : Char → Prop) : Language Char := {s | n ≤ s.length ∧ ∀ c ∈ s, p c}

/-- One piece, or several with a joint between neighbours. -/
def joined (piece joint : Language Char) : Language Char := piece * (joint * piece)∗

theorem mem_singleton {word s : List Char} : s ∈ ({word} : Language Char) ↔ s = word := Iff.rfl

theorem atLeast_single {p : Char → Prop} {c : Char} (holds : p c) : [c] ∈ atLeast 1 p :=
  ⟨Nat.le_refl 1, by simpa using holds⟩

theorem atLeast_snoc {n : Nat} {p : Char → Prop} {c : Char} (holds : p c) {s : List Char}
    (member : s ∈ atLeast n p) : s ++ [c] ∈ atLeast n p := by
  obtain ⟨long, all⟩ := member
  refine ⟨?_, ?_⟩
  · rw [List.length_append]
    omega
  · intro d inside
    rcases List.mem_append.1 inside with early | late
    · exact all d early
    · rw [List.mem_singleton.1 late]
      exact holds

section joined

variable {piece joint : Language Char} {s j p : List Char}

theorem joined_of_piece (member : s ∈ piece) : s ∈ joined piece joint :=
  ⟨s, member, [], Language.nil_mem_kstar _, List.append_nil s⟩

theorem joined_cons (first : p ∈ piece) (between : j ∈ joint) (rest : s ∈ joined piece joint) :
    p ++ (j ++ s) ∈ joined piece joint := by
  obtain ⟨next, isNext, more, many, rfl⟩ := rest
  obtain ⟨words, rfl, members⟩ := Language.mem_kstar.1 many
  have longer : ((j ++ next) :: words).flatten ∈ (joint * piece)∗ := by
    refine Language.join_mem_kstar (List.forall_mem_cons.2 ⟨?_, members⟩)
    exact Language.append_mem_mul between isNext
  exact ⟨p, first, _, longer, by simp⟩

/-- Joined words are built from a last piece by putting pieces with their joints in front. -/
@[elab_as_elim]
theorem joined_induction {motive : (s : List Char) → s ∈ joined piece joint → Prop}
    (single : ∀ p (isPiece : p ∈ piece), motive p (joined_of_piece isPiece))
    (cons : ∀ p (isPiece : p ∈ piece) j (between : j ∈ joint) t (rest : t ∈ joined piece joint), motive t rest →
      motive (p ++ (j ++ t)) (joined_cons isPiece between rest))
    (member : s ∈ joined piece joint) : motive s member := by
  have all (words : List (List Char)) (members : ∀ w ∈ words, w ∈ joint * piece) :
      ∀ first (_ : first ∈ piece) s (_ : s = first ++ words.flatten) (member : s ∈ joined piece joint),
        motive s member := by
    induction words with
    | nil =>
      rintro first isPiece s same member
      obtain rfl : s = first := by simpa using same
      exact single s isPiece
    | cons word words ih =>
      rintro first isPiece s same member
      obtain ⟨here, later⟩ := List.forall_mem_cons.1 members
      obtain ⟨j, between, next, isNext, apart⟩ := here
      have rest : next ++ words.flatten ∈ joined piece joint :=
        ⟨next, isNext, _, Language.join_mem_kstar later, rfl⟩
      obtain rfl : s = first ++ (j ++ (next ++ words.flatten)) := by
        rw [same, List.flatten_cons, ← apart]
        simp
      exact cons first isPiece j between _ rest (ih later next isNext _ rfl rest)
  obtain ⟨first, isPiece, more, many, same⟩ := id member
  obtain ⟨words, rfl, members⟩ := Language.mem_kstar.1 many
  exact all words members first isPiece s same.symm member

theorem joined_append (front : s ∈ joined piece joint) (between : j ∈ joint) (last : p ∈ piece) :
    s ++ j ++ p ∈ joined piece joint := by
  induction front using joined_induction with
  | single first isPiece =>
    rw [List.append_assoc]
    exact joined_cons isPiece between (joined_of_piece last)
  | cons first isPiece k joins t _ ih =>
    have longer := joined_cons isPiece joins ih
    simpa only [List.append_assoc] using longer

theorem joined_snoc {c : Char} (grows : ∀ p ∈ piece, p ++ [c] ∈ piece) (member : s ∈ joined piece joint) :
    s ++ [c] ∈ joined piece joint := by
  induction member using joined_induction with
  | single first isPiece => exact joined_of_piece (grows first isPiece)
  | cons first isPiece k joins t _ ih =>
    have longer := joined_cons isPiece joins ih
    simpa only [List.append_assoc] using longer

theorem joined_of_joinWith {sep : List Char} {words : List (List Char)} (nonempty : words ≠ [])
    (members : ∀ p ∈ words, p ∈ piece) : joinWith sep words ∈ joined piece {sep} := by
  induction words with
  | nil => contradiction
  | cons word words ih =>
    obtain ⟨here, later⟩ := List.forall_mem_cons.1 members
    cases words with
    | nil => exact joined_of_piece here
    | cons next words =>
      have rest := ih (by simp) later
      rw [show joinWith sep (word :: next :: words) = word ++ sep ++ joinWith sep (next :: words) from rfl,
        List.append_assoc]
      exact joined_cons here rfl rest

/-- The pieces of a text belong to a language exactly when the text is joined out of its words,
provided that no word contains the separator. -/
theorem splitAll_iff_joined {sep : Char} (free : ∀ p ∈ piece, sep ∉ p) :
    (∀ p ∈ splitAll sep s, p ∈ piece) ↔ s ∈ joined piece {[sep]} := by
  constructor
  · intro pieces
    have whole : joinWith [sep] (splitAll sep s) ∈ joined piece {[sep]} :=
      joined_of_joinWith (splitAll_ne_nil sep s) pieces
    rw [joinWith_splitAll] at whole
    exact whole
  · intro member
    induction member using joined_induction with
    | single p isPiece =>
      rw [splitAll_of_notMem (free p isPiece)]
      simpa using isPiece
    | cons p isPiece j between t _ ih =>
      rw [mem_singleton.1 between, List.singleton_append, splitAll_append (free p isPiece)]
      exact List.forall_mem_cons.2 ⟨isPiece, ih⟩

end joined

/-! ### The characters of a language -/

def Within (p : Char → Prop) (l : Language Char) : Prop := ∀ s ∈ l, ∀ c ∈ s, p c

section within

variable {p q : Char → Prop} {l m : Language Char}

theorem Within.mono (within : Within p l) (wider : ∀ c, p c → q c) : Within q l :=
  fun s member c inside => wider c (within s member c inside)

theorem Within.notMem (within : Within p l) {c : Char} (outside : ¬p c) {s : List Char} (member : s ∈ l) : c ∉ s :=
  fun inside => outside (within s member c inside)

theorem within_one (wider : ∀ c, p c → q c) : Within q (one p) := by
  rintro s ⟨c, rfl, holds⟩ d inside
  rw [List.mem_singleton.1 inside]
  exact wider c holds

theorem within_atLeast (n : Nat) (wider : ∀ c, p c → q c) : Within q (atLeast n p) :=
  fun _ member c inside => wider c (member.2 c inside)

theorem within_singleton {word : List Char} (all : ∀ c ∈ word, p c) : Within p {word} := by
  intro s member c inside
  rw [mem_singleton.1 member] at inside
  exact all c inside

theorem within_add (left : Within p l) (right : Within p m) : Within p (l + m) := by
  rintro s (first | second)
  · exact left s first
  · exact right s second

theorem within_mul (left : Within p l) (right : Within p m) : Within p (l * m) := by
  rintro s ⟨first, isFirst, second, isSecond, rfl⟩ c inside
  rcases List.mem_append.1 inside with early | late
  · exact left first isFirst c early
  · exact right second isSecond c late

theorem within_joined (pieces : Within p l) (joints : Within p m) : Within p (joined l m) := by
  intro s member
  induction member using joined_induction with
  | single w isPiece => exact pieces w isPiece
  | cons w isPiece j between t _ ih =>
    intro c inside
    rcases List.mem_append.1 inside with first | rest
    · exact pieces w isPiece c first
    rcases List.mem_append.1 rest with joint | later
    · exact joints j between c joint
    · exact ih c later

end within

/-! ### Readers -/

section readers

variable {σ : Type} {step : σ → Char → σ} {home : σ} {piece joint : Language Char}

theorem foldl_reached {reached : σ → Language Char}
    (keeps : ∀ state, ∀ s ∈ reached state, ∀ c, s ++ [c] ∈ reached (step state c)) (empty : [] ∈ reached home)
    (s : List Char) : s ∈ reached (s.foldl step home) := by
  induction s using List.reverseRecOn with
  | nil => exact empty
  | append_singleton s c ih =>
    rw [List.foldl_append]
    exact keeps _ s ih c

theorem foldl_stays {p : Char → Prop} {state : σ} (stays : ∀ c, p c → step state c = state) {s : List Char}
    (all : ∀ c ∈ s, p c) : s.foldl step state = state := by
  induction s with
  | nil => rfl
  | cons c s ih =>
    obtain ⟨here, later⟩ := List.forall_mem_cons.1 all
    rw [List.foldl_cons, stays c here]
    exact ih later

/-- A reader that comes home over every piece and leaves home alive over every joint comes home
over joined words. -/
theorem foldl_joined (alive : σ → Prop) (pieces : ∀ p ∈ piece, ∀ state, alive state → p.foldl step state = home)
    (joints : ∀ j ∈ joint, alive (j.foldl step home)) {s : List Char} (member : s ∈ joined piece joint)
    {state : σ} (start : alive state) : s.foldl step state = home := by
  induction member using joined_induction generalizing state with
  | single p isPiece => exact pieces p isPiece state start
  | cons p isPiece j between t _ ih =>
    rw [List.foldl_append, List.foldl_append, pieces p isPiece state start]
    exact ih (joints j between)

end readers

end ImageBuild.Text
