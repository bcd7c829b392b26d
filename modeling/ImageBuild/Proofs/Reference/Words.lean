import ImageBuild.Reference.Grammar
import ImageBuild.Proofs.Text.Language

/-!
# The words of references

The grammar of the four parts of a reference, as languages built from unions, sequences and
repetitions. Each recogniser accepts the words of its language and no others: `isRegistry_iff`,
`isRepository_iff`, `isTag_iff` and `isDigest_iff`.
-/

namespace ImageBuild.Reference.Words

open Text

/-! ### Classes of characters -/

def Letter (c : Char) : Prop := 'a' ≤ c ∧ c ≤ 'z' ∨ 'A' ≤ c ∧ c ≤ 'Z'

def Digit (c : Char) : Prop := '0' ≤ c ∧ c ≤ '9'

def Alnum (c : Char) : Prop := Letter c ∨ Digit c

def LowerAlnum (c : Char) : Prop := 'a' ≤ c ∧ c ≤ 'z' ∨ Digit c

def Hex (c : Char) : Prop := Digit c ∨ 'a' ≤ c ∧ c ≤ 'f' ∨ 'A' ≤ c ∧ c ≤ 'F'

instance (c : Char) : Decidable (Letter c) := inferInstanceAs (Decidable (_ ∨ _))

instance (c : Char) : Decidable (Digit c) := inferInstanceAs (Decidable (_ ∧ _))

instance (c : Char) : Decidable (Alnum c) := inferInstanceAs (Decidable (_ ∨ _))

instance (c : Char) : Decidable (LowerAlnum c) := inferInstanceAs (Decidable (_ ∨ _))

instance (c : Char) : Decidable (Hex c) := inferInstanceAs (Decidable (_ ∨ _))

theorem isDigit_iff {c : Char} : c.isDigit = true ↔ Digit c := by
  simp only [Char.isDigit, Digit, Char.le_def, Bool.and_eq_true, decide_eq_true_eq, ge_iff_le]

theorem isLower_iff {c : Char} : c.isLower = true ↔ 'a' ≤ c ∧ c ≤ 'z' := by
  show (decide (c.val ≥ 'a'.val) && decide (c.val ≤ 'z'.val)) = true ↔ _
  simp only [Char.le_def, Bool.and_eq_true, decide_eq_true_eq, ge_iff_le]

theorem isUpper_iff {c : Char} : c.isUpper = true ↔ 'A' ≤ c ∧ c ≤ 'Z' := by
  show decide (c.val ≥ 'A'.val ∧ c.val ≤ 'Z'.val) = true ↔ _
  simp only [Char.le_def, decide_eq_true_eq, ge_iff_le]

theorem isAlpha_iff {c : Char} : c.isAlpha = true ↔ Letter c := by
  show (c.isUpper || c.isLower) = true ↔ _
  rw [Bool.or_eq_true, isUpper_iff, isLower_iff, or_comm, Letter]

theorem isAlphanum_iff {c : Char} : c.isAlphanum = true ↔ Alnum c := by
  rw [Char.isAlphanum, Bool.or_eq_true, isAlpha_iff, isDigit_iff, Alnum]

theorem isLowerAlnum_iff {c : Char} : isLowerAlnum c = true ↔ LowerAlnum c := by
  rw [isLowerAlnum, Bool.or_eq_true, isLower_iff, isDigit_iff, LowerAlnum]

theorem isHexDigit_iff {c : Char} : isHexDigit c = true ↔ Hex c := by
  simp only [isHexDigit, Bool.or_eq_true, Bool.and_eq_true, decide_eq_true_eq, isDigit_iff, Hex, or_assoc]

/-! ### Repositories -/

/-- A point, one underscore or two, or dashes. -/
def separator : Language Char := {['.']} + {['_']} + {['_', '_']} + atLeast 1 (· = '-')

def component : Language Char := joined (atLeast 1 LowerAlnum) separator

def repository : Language Char := joined component {['/']}

/-- What a reader of a component has read when it stands in a state. -/
def reached : ComponentState → Language Char
  | .start => 1
  | .run => component
  | .underscore => component * {['_']}
  | .dashes => component * atLeast 1 (· = '-')
  | .separated => component * ({['.']} + {['_', '_']})
  | .dead => {_s | True}

theorem run_after_separator {s : List Char} {c : Char} (member : s ∈ component * separator)
    (lower : LowerAlnum c) : s ++ [c] ∈ component := by
  obtain ⟨front, earlier, between, isSeparator, rfl⟩ := member
  exact joined_append earlier isSeparator (atLeast_single lower)

theorem reached_lower {state : ComponentState} {s : List Char} {c : Char} (member : s ∈ reached state)
    (alive : state ≠ .dead) (lower : LowerAlnum c) : s ++ [c] ∈ component := by
  cases state with
  | start =>
    rw [show s = [] from member]
    exact joined_of_piece (atLeast_single lower)
  | run => exact joined_snoc (fun _ => atLeast_snoc lower) member
  | underscore =>
    obtain ⟨front, earlier, between, single, rfl⟩ := member
    exact run_after_separator (Language.append_mem_mul earlier (.inl (.inl (.inr single)))) lower
  | dashes =>
    obtain ⟨front, earlier, between, dashes, rfl⟩ := member
    exact run_after_separator (Language.append_mem_mul earlier (.inr dashes)) lower
  | separated =>
    obtain ⟨front, earlier, between, point | double, rfl⟩ := member
    · exact run_after_separator (Language.append_mem_mul earlier (.inl (.inl (.inl point)))) lower
    · exact run_after_separator (Language.append_mem_mul earlier (.inl (.inr double))) lower
  | dead => contradiction

theorem step_lower {state : ComponentState} {c : Char} (alive : state ≠ .dead) (lower : isLowerAlnum c = true) :
    state.step c = .run := by
  cases state with
  | dead => contradiction
  | _ => simp only [ComponentState.step, lower, if_true]

theorem reached_step (state : ComponentState) (s : List Char) (member : s ∈ reached state) (c : Char) :
    s ++ [c] ∈ reached (state.step c) := by
  by_cases lower : isLowerAlnum c = true
  · by_cases dead : state = .dead
    · subst dead
      simp only [ComponentState.step, lower, if_true]
      trivial
    · rw [step_lower dead lower]
      exact reached_lower member dead (isLowerAlnum_iff.1 lower)
  -- A separator begins or grows, or the reader is lost.
  · cases state with
    | run =>
      simp only [ComponentState.step, if_neg lower]
      split
      · rename_i point
        subst point
        exact Language.append_mem_mul member (.inl rfl)
      split
      · rename_i underscore
        subst underscore
        exact Language.append_mem_mul member rfl
      split
      · rename_i dash
        exact Language.append_mem_mul member (atLeast_single dash)
      · trivial
    | underscore =>
      simp only [ComponentState.step, if_neg lower]
      split
      · rename_i underscore
        subst underscore
        obtain ⟨front, earlier, between, rfl, rfl⟩ := member
        rw [List.append_assoc]
        exact Language.append_mem_mul earlier (.inr rfl)
      · trivial
    | dashes =>
      simp only [ComponentState.step, if_neg lower]
      split
      · rename_i dash
        obtain ⟨front, earlier, between, dashes, rfl⟩ := member
        have longer : between ++ [c] ∈ atLeast 1 (· = '-') := atLeast_snoc (p := (· = '-')) dash dashes
        rw [List.append_assoc]
        exact Language.append_mem_mul earlier longer
      · trivial
    | start | separated | dead =>
      simp only [ComponentState.step, if_neg lower]
      trivial

theorem foldl_run {s : List Char} (member : s ∈ atLeast 1 LowerAlnum) (state : ComponentState)
    (alive : state ≠ .dead) : s.foldl ComponentState.step state = .run := by
  obtain ⟨nonempty, lower⟩ := member
  obtain ⟨c, rest, rfl⟩ := List.exists_cons_of_length_pos nonempty
  obtain ⟨here, later⟩ := List.forall_mem_cons.1 lower
  rw [List.foldl_cons, step_lower alive (isLowerAlnum_iff.2 here)]
  refine foldl_stays ?_ later
  intro d lower
  exact step_lower (by simp) (isLowerAlnum_iff.2 lower)

theorem foldl_separator {s : List Char} (member : s ∈ separator) :
    s.foldl ComponentState.step .run ≠ .dead := by
  obtain ((rfl | rfl) | rfl) | dashes := member
  · decide
  · decide
  · decide
  · obtain ⟨nonempty, all⟩ := dashes
    obtain ⟨c, rest, rfl⟩ := List.exists_cons_of_length_pos nonempty
    obtain ⟨rfl, later⟩ := List.forall_mem_cons.1 all
    have stays : ∀ c, c = '-' → ComponentState.step .dashes c = .dashes := by
      rintro c rfl
      rfl
    rw [List.foldl_cons, show ComponentState.step .run '-' = .dashes from rfl, foldl_stays stays later]
    simp

theorem isComponent_iff {s : List Char} : isComponent s = true ↔ s ∈ component := by
  rw [isComponent, beq_iff_eq]
  constructor
  · intro ended
    have empty : [] ∈ reached .start := rfl
    have read := foldl_reached reached_step empty s
    rw [ended] at read
    exact read
  · intro member
    exact foldl_joined (· ≠ .dead) (fun _ => foldl_run) (fun _ => foldl_separator) member (by simp)

theorem within_component : Within (fun c => LowerAlnum c ∨ c ∈ ['.', '_', '-']) component := by
  have separators : Within (fun c => LowerAlnum c ∨ c ∈ ['.', '_', '-']) separator := by
    refine within_add (within_add (within_add ?_ ?_) ?_) ?_
    · exact within_singleton (by simp)
    · exact within_singleton (by simp)
    · exact within_singleton (by simp)
    · exact within_atLeast 1 (by simp)
  exact within_joined (within_atLeast 1 fun _ => .inl) separators

theorem within_repository : Within (fun c => LowerAlnum c ∨ c ∈ ['.', '_', '-', '/']) repository := by
  refine within_joined (within_component.mono ?_) (within_singleton (by simp))
  intro c inside
  simp only [List.mem_cons, List.not_mem_nil, or_false] at inside ⊢
  tauto

theorem isRepository_iff {s : List Char} : isRepository s = true ↔ s ∈ repository := by
  have free : ∀ w ∈ component, '/' ∉ w := fun _ => within_component.notMem (by decide)
  rw [isRepository, List.all_eq_true, repository, ← splitAll_iff_joined free]
  simp only [isComponent_iff]

/-! ### Registries -/

def domainComponent : Language Char :=
  one Alnum + one Alnum * atLeast 0 (fun c => Alnum c ∨ c = '-') * one Alnum

def host : Language Char := joined domainComponent {['.']}

def registry : Language Char := host * (1 + {[':']} * atLeast 1 Digit)

theorem isDomainComponent_iff {s : List Char} : isDomainComponent s = true ↔ s ∈ domainComponent := by
  have ends (c d : Char) (inner : List Char) : (c :: (inner ++ [d])).getLast? = some d := by
    rw [← List.cons_append, List.getLast?_concat]
  simp only [isDomainComponent, Bool.and_eq_true, List.all_eq_true, Bool.or_eq_true, beq_iff_eq, isAlphanum_iff]
  constructor
  · rintro ⟨⟨all, first⟩, last⟩
    cases s with
    | nil => simp at first
    | cons c rest =>
      have begins : Alnum c := isAlphanum_iff.1 (by simpa using first)
      rcases List.eq_nil_or_concat rest with rfl | ⟨inner, d, shape⟩
      · exact .inl ⟨c, rfl, begins⟩
      · rw [List.concat_eq_append] at shape
        subst shape
        rw [ends, Option.any_some] at last
        have between : ∀ e ∈ inner, Alnum e ∨ e = '-' := fun e inside => all e (by simp [inside])
        have front : c :: inner ∈ one Alnum * atLeast 0 (fun c => Alnum c ∨ c = '-') :=
          ⟨[c], ⟨c, rfl, begins⟩, inner, ⟨Nat.zero_le _, between⟩, rfl⟩
        exact .inr ⟨c :: inner, front, [d], ⟨d, rfl, isAlphanum_iff.1 last⟩, rfl⟩
  · rintro (⟨c, rfl, begins⟩ | ⟨_, ⟨_, ⟨c, rfl, begins⟩, inner, ⟨-, between⟩, rfl⟩, _, ⟨d, rfl, last⟩, rfl⟩)
    · have alnum := isAlphanum_iff.2 begins
      simp [alnum, begins]
    · show ((∀ e ∈ c :: (inner ++ [d]), Alnum e ∨ e = '-') ∧ (c :: (inner ++ [d])).head?.any Char.isAlphanum = true) ∧
        (c :: (inner ++ [d])).getLast?.any Char.isAlphanum = true
      rw [ends]
      refine ⟨⟨?_, isAlphanum_iff.2 begins⟩, isAlphanum_iff.2 last⟩
      intro e inside
      rcases List.mem_cons.1 inside with rfl | later
      · exact .inl begins
      rcases List.mem_append.1 later with middle | final
      · exact between e middle
      · rw [List.mem_singleton.1 final]
        exact .inl last

theorem within_domainComponent : Within (fun c => Alnum c ∨ c = '-') domainComponent := by
  refine within_add ?_ (within_mul (within_mul ?_ ?_) ?_)
  · exact within_one fun _ => .inl
  · exact within_one fun _ => .inl
  · exact within_atLeast 0 fun _ => id
  · exact within_one fun _ => .inl

theorem within_host : Within (fun c => Alnum c ∨ c ∈ ['-', '.']) host := by
  refine within_joined (within_domainComponent.mono ?_) (within_singleton (by simp))
  exact fun c inside => inside.imp_right (by simp +contextual)

theorem within_registry : Within (fun c => Alnum c ∨ c ∈ ['-', '.', ':']) registry := by
  refine within_mul (within_host.mono ?_) (within_add ?_ (within_mul (within_singleton (by simp)) ?_))
  · intro c inside
    simp only [List.mem_cons, List.not_mem_nil, or_false] at inside ⊢
    tauto
  · exact within_singleton (by simp)
  · exact within_atLeast 1 fun _ digit => .inl (.inr digit)

theorem isHost_iff {s : List Char} : isHost s = true ↔ s ∈ host := by
  have free : ∀ w ∈ domainComponent, '.' ∉ w := fun _ => within_domainComponent.notMem (by decide)
  rw [isHost, List.all_eq_true, host, ← splitAll_iff_joined free]
  simp only [isDomainComponent_iff]

theorem isPort_iff {s : List Char} : isPort s = true ↔ s ∈ atLeast 1 Digit := by
  simp only [isPort, Bool.and_eq_true, Bool.not_eq_true', List.isEmpty_eq_false_iff, List.all_eq_true, isDigit_iff]
  exact and_congr_left' List.length_pos_iff.symm

theorem isRegistry_bare {front : List Char} (free : ':' ∉ front) : isRegistry front = isHost front := by
  rw [isRegistry, splitFirst_eq_none.2 free]

theorem isRegistry_port {front : List Char} (free : ':' ∉ front) (port : List Char) :
    isRegistry (front ++ ':' :: port) = (isHost front && isPort port) := by
  rw [isRegistry, splitFirst_append free]

theorem isRegistry_iff {s : List Char} : isRegistry s = true ↔ s ∈ registry := by
  have free {front : List Char} (member : front ∈ host) : ':' ∉ front := within_host.notMem (by decide) member
  constructor
  · intro accepted
    rcases found : splitFirst ':' s with _ | ⟨front, port⟩
    · rw [isRegistry_bare (splitFirst_eq_none.1 found)] at accepted
      exact ⟨s, isHost_iff.1 accepted, [], .inl rfl, List.append_nil s⟩
    · obtain ⟨rfl, absent⟩ := splitFirst_eq_some found
      rw [isRegistry_port absent, Bool.and_eq_true, isHost_iff, isPort_iff] at accepted
      exact ⟨front, accepted.1, ':' :: port, .inr ⟨[':'], rfl, port, accepted.2, rfl⟩, rfl⟩
  · rintro ⟨front, isFront, _, rfl | ⟨_, rfl, port, isDigits, rfl⟩, rfl⟩
    · show isRegistry (front ++ []) = true
      rw [List.append_nil, isRegistry_bare (free isFront)]
      exact isHost_iff.2 isFront
    · show isRegistry (front ++ ':' :: port) = true
      rw [isRegistry_port (free isFront), Bool.and_eq_true]
      exact ⟨isHost_iff.2 isFront, isPort_iff.2 isDigits⟩

/-! ### Tags -/

/-- One to 128 characters, word characters or points and dashes, the first of them no point and no dash. -/
def tag (word : Char → Prop) : Language Char :=
  {s | 1 ≤ s.length ∧ s.length ≤ 128 ∧ (∀ c ∈ s, word c ∨ c = '.' ∨ c = '-') ∧
    s.head? ≠ some '.' ∧ s.head? ≠ some '-'}

theorem isWordChar_ascii {c : Char} (ascii : c.toNat < 128) : isWordChar c = true ↔ Alnum c ∨ c = '_' := by
  -- The first four ranges are those of ASCII, and all others begin beyond it.
  have first : wordRanges.take 4 = [(0x30, 0x39), (0x41, 0x5A), (0x5F, 0x5F), (0x61, 0x7A)] := rfl
  have high : ∀ range ∈ wordRanges.drop 4, 128 ≤ range.1 := by decide +kernel
  have later : Ranges.has (wordRanges.drop 4) c = false := by
    refine List.any_eq_false.2 ?_
    intro range member
    have bound := high range member
    simp only [Bool.and_eq_true, decide_eq_true_eq]
    omega
  have underscore : c = '_' ↔ c.toNat = 95 := by
    rw [← Char.toNat_inj]
    rfl
  rw [Ranges.has] at later
  rw [isWordChar, Ranges.has, ← List.take_append_drop 4 wordRanges, List.any_append, later, first, underscore]
  simp only [List.any_cons, List.any_nil, Bool.or_false, Bool.or_eq_true, Bool.and_eq_true, decide_eq_true_eq,
    Alnum, Letter, Digit, Char.le_def, UInt32.le_iff_toNat_le]
  show _ ↔ ((97 ≤ c.toNat ∧ c.toNat ≤ 122 ∨ 65 ≤ c.toNat ∧ c.toNat ≤ 90) ∨ 48 ≤ c.toNat ∧ c.toNat ≤ 57) ∨ c.toNat = 95
  omega

theorem isTag_iff {s : List Char} : isTag s = true ↔ s ∈ tag (isWordChar · = true) := by
  cases s with
  | nil =>
    refine iff_of_false (by simp [isTag]) ?_
    rintro ⟨nonempty, -⟩
    simp at nonempty
  | cons c rest =>
    simp only [isTag, Bool.and_eq_true, decide_eq_true_eq, List.all_eq_true, Bool.or_eq_true, beq_iff_eq]
    constructor
    · rintro ⟨⟨first, short⟩, all⟩
      refine ⟨Nat.succ_pos _, Nat.succ_le_succ short, List.forall_mem_cons.2 ⟨.inl first, ?_⟩, ?_, ?_⟩
      · intro d inside
        exact or_assoc.1 (all d inside)
      · rintro point
        rw [Option.some.inj point] at first
        exact absurd ((isWordChar_ascii (by decide)).1 first) (by decide)
      · rintro dash
        rw [Option.some.inj dash] at first
        exact absurd ((isWordChar_ascii (by decide)).1 first) (by decide)
    · rintro ⟨-, short, all, point, dash⟩
      obtain ⟨first, later⟩ := List.forall_mem_cons.1 all
      refine ⟨⟨?_, Nat.le_of_succ_le_succ short⟩, fun d inside => or_assoc.2 (later d inside)⟩
      rcases first with word | rfl | rfl
      · exact word
      · exact absurd rfl point
      · exact absurd rfl dash

theorem within_tag (word : Char → Prop) : Within (fun c => word c ∨ c = '.' ∨ c = '-') (tag word) :=
  fun _ member => member.2.2.1

/-! ### Digests -/

/-- Words that begin with a letter, joined by single marks. -/
def algorithm : Language Char := joined (one Letter * atLeast 0 Alnum) (one (· ∈ ['-', '_', '+', '.']))

def digest : Language Char := algorithm * ({[':']} * atLeast 32 Hex)

def algorithmReached : AlgorithmState → Language Char
  | .start => 1 + algorithm * one (· ∈ ['-', '_', '+', '.'])
  | .word => algorithm
  | .dead => {_s | True}

theorem word_snoc {c : Char} (alnum : Alnum c) (s : List Char) (member : s ∈ one Letter * atLeast 0 Alnum) :
    s ++ [c] ∈ one Letter * atLeast 0 Alnum := by
  obtain ⟨first, letter, rest, all, rfl⟩ := member
  have longer := atLeast_snoc alnum all
  exact ⟨first, letter, rest ++ [c], longer, (List.append_assoc _ _ _).symm⟩

theorem word_single {c : Char} (letter : Letter c) : [c] ∈ one Letter * atLeast 0 Alnum :=
  ⟨[c], ⟨c, rfl, letter⟩, [], ⟨Nat.zero_le _, by simp⟩, rfl⟩

theorem algorithmReached_step (state : AlgorithmState) (s : List Char) (member : s ∈ algorithmReached state)
    (c : Char) : s ++ [c] ∈ algorithmReached (state.step c) := by
  cases state with
  | start =>
    rw [AlgorithmState.step]
    split
    · rename_i letter
      have begins := word_single (isAlpha_iff.1 letter)
      rcases member with empty | ⟨front, earlier, mark, isMark, rfl⟩
      · rw [(Language.mem_one s).1 empty]
        exact joined_of_piece begins
      · exact joined_append earlier isMark begins
    · trivial
  | word =>
    rw [AlgorithmState.step]
    split
    · rename_i alnum
      exact joined_snoc (word_snoc (isAlphanum_iff.1 alnum)) member
    split
    · rename_i mark
      exact .inr (Language.append_mem_mul member ⟨c, rfl, mark⟩)
    · trivial
  | dead => trivial

theorem foldl_word {s : List Char} (member : s ∈ one Letter * atLeast 0 Alnum) (state : AlgorithmState)
    (start : state = .start) : s.foldl AlgorithmState.step state = .word := by
  obtain ⟨_, ⟨c, rfl, letter⟩, rest, ⟨-, alnum⟩, rfl⟩ := member
  subst start
  show (c :: rest).foldl AlgorithmState.step .start = .word
  rw [List.foldl_cons, AlgorithmState.step, if_pos (isAlpha_iff.2 letter)]
  refine foldl_stays ?_ alnum
  intro d alnum
  rw [AlgorithmState.step, if_pos (isAlphanum_iff.2 alnum)]

theorem isAlgorithm_iff {s : List Char} : isAlgorithm s = true ↔ s ∈ algorithm := by
  rw [isAlgorithm, beq_iff_eq]
  constructor
  · intro ended
    have empty : [] ∈ algorithmReached .start := .inl rfl
    have read := foldl_reached algorithmReached_step empty s
    rw [ended] at read
    exact read
  · intro member
    refine foldl_joined (· = .start) (fun _ => foldl_word) ?_ member rfl
    rintro _ ⟨c, rfl, mark⟩
    simp only [List.mem_cons, List.not_mem_nil, or_false] at mark
    rcases mark with rfl | rfl | rfl | rfl <;> decide

theorem within_algorithm : Within (fun c => Alnum c ∨ c ∈ ['-', '_', '+', '.']) algorithm := by
  refine within_joined (within_mul ?_ ?_) (within_one fun _ => .inr)
  · exact within_one fun _ letter => .inl (.inl letter)
  · exact within_atLeast 0 fun _ => .inl

theorem isDigest_iff {s : List Char} : isDigest s = true ↔ s ∈ digest := by
  have hexes (hex : List Char) : (decide (32 ≤ hex.length) && hex.all isHexDigit) = true ↔ hex ∈ atLeast 32 Hex := by
    simp only [Bool.and_eq_true, decide_eq_true_eq, List.all_eq_true, isHexDigit_iff]
    rfl
  constructor
  · intro accepted
    unfold isDigest at accepted
    split at accepted
    · rename_i front hex found
      obtain ⟨rfl, absent⟩ := splitFirst_eq_some found
      rw [Bool.and_assoc, Bool.and_eq_true, isAlgorithm_iff, hexes] at accepted
      exact ⟨front, accepted.1, ':' :: hex, ⟨[':'], rfl, hex, accepted.2, rfl⟩, rfl⟩
    · cases accepted
  · rintro ⟨front, isFront, _, ⟨_, rfl, hex, isHex, rfl⟩, rfl⟩
    show isDigest (front ++ ':' :: hex) = true
    rw [isDigest, splitFirst_append (within_algorithm.notMem (by decide) isFront)]
    show (isAlgorithm front && decide (32 ≤ hex.length) && hex.all isHexDigit) = true
    rw [Bool.and_assoc, Bool.and_eq_true, isAlgorithm_iff, hexes]
    exact ⟨isFront, isHex⟩

theorem alnum_of_hex {c : Char} (hex : Hex c) : Alnum c := by
  rcases hex with digit | ⟨low, high⟩ | ⟨low, high⟩
  · exact .inr digit
  · exact .inl (.inl ⟨low, Char.le_trans high (by decide)⟩)
  · exact .inl (.inr ⟨low, Char.le_trans high (by decide)⟩)

theorem alnum_of_lower {c : Char} (lower : LowerAlnum c) : Alnum c := lower.imp_left .inl

theorem within_digest : Within (fun c => Alnum c ∨ c ∈ ['-', '_', '+', '.', ':']) digest := by
  refine within_mul (within_algorithm.mono ?_) (within_mul (within_singleton (by simp)) ?_)
  · intro c inside
    simp only [List.mem_cons, List.not_mem_nil, or_false] at inside ⊢
    tauto
  · exact within_atLeast 32 fun _ hex => .inl (alnum_of_hex hex)

end ImageBuild.Reference.Words
