import ImageBuild.Dockerfile.BaseImage
import ImageBuild.Proofs.Text.Lines
import Mathlib.Data.List.DropRight
import Mathlib.Data.List.TakeWhile

namespace ImageBuild.Dockerfile

open Data Text

/-! ### Quotes -/

/-- What is left of a text without the quotes at both of its ends. -/
structure Unquoted (text bare : List Char) : Prop where
  parts : ∃ left right, text = left ++ bare ++ right ∧ (∀ c ∈ left, isQuote c = true) ∧ ∀ c ∈ right, isQuote c = true
  begins : ∀ c ∈ bare.head?, isQuote c = false
  ends : ∀ c ∈ bare.getLast?, isQuote c = false

theorem stripQuotes_eq (text : List Char) : stripQuotes text = (text.dropWhile isQuote).rdropWhile isQuote := rfl

theorem unquoted_stripQuotes (text : List Char) : Unquoted text (stripQuotes text) := by
  have front := List.takeWhile_append_dropWhile (p := isQuote) (l := text)
  have back := List.rdropWhile_append_rtakeWhile (p := isQuote) (l := text.dropWhile isQuote)
  rw [stripQuotes_eq]
  refine ⟨⟨text.takeWhile isQuote, (text.dropWhile isQuote).rtakeWhile isQuote, ?_, ?_, ?_⟩, ?_, ?_⟩
  · rw [List.append_assoc, back, front]
  · exact fun c member => List.mem_takeWhile_imp member
  · exact fun c member => List.mem_rtakeWhile_imp member
  · intro c first
    have kept : c ∈ (text.dropWhile isQuote).head? := by
      obtain ⟨rest, same⟩ := List.rdropWhile_prefix (p := isQuote) (l := text.dropWhile isQuote)
      rw [← same, List.head?_append_of_ne_nil _ (List.ne_nil_of_mem (List.mem_of_head? first))]
      exact first
    have known := List.head?_dropWhile_not isQuote text
    rw [Option.mem_def.1 kept] at known
    simpa using known
  · intro c last
    have nonempty := List.ne_nil_of_mem (List.mem_of_getLast? last)
    have known := List.rdropWhile_last_not isQuote (text.dropWhile isQuote) nonempty
    rw [List.getLast?_eq_some_getLast nonempty, Option.mem_some_iff] at last
    simpa [← last] using known

theorem unquoted_iff {text bare : List Char} : Unquoted text bare ↔ stripQuotes text = bare := by
  refine ⟨?_, fun same => same ▸ unquoted_stripQuotes text⟩
  rintro ⟨⟨left, right, rfl, quotes, quotes'⟩, begins, ends⟩
  rw [stripQuotes_eq, List.append_assoc, List.dropWhile_append_of_pos quotes]
  cases bare with
  | nil => rw [List.nil_append, List.dropWhile_eq_nil_iff.2 quotes', List.rdropWhile_nil]
  | cons c rest =>
    have visible : (c :: rest ++ right).dropWhile isQuote = c :: rest ++ right :=
      List.dropWhile_cons_of_neg (by simp [begins c rfl])
    rw [visible, List.rdropWhile, List.reverse_append,
      List.dropWhile_append_of_pos fun d member => quotes' d (List.mem_reverse.1 member)]
    refine List.rdropWhile_eq_self_iff.2 fun nonempty => ?_
    simp [ends _ (List.getLast?_eq_some_getLast nonempty)]

/-! ### Defaults -/

/-- An `ARG` gives a name a default: the text behind the first equals sign, without the quotes around it. -/
def Gives (i : Instruction) (name value : String) : Prop :=
  i.keyword = "ARG" ∧ ∃ key default, i.arguments.toList = key ++ '=' :: default ∧ '=' ∉ key ∧
    trim key = name.toList ∧ Unquoted (trim default) value.toList

def LastGiven (before : List Instruction) (name value : String) : Prop :=
  ∃ front i back, before = front ++ i :: back ∧ Gives i name value ∧ ∀ j ∈ back, ∀ other, ¬Gives j name other

/-- What a reference stands for behind the given instructions. -/
inductive Stands (before : List Instruction) (v : Variable) : String → Prop where
  | given {value : String} (last : LastGiven before v.name value) (nonempty : value ≠ "") : Stands before v value
  | own {value : String} (none : ∀ other, LastGiven before v.name other → other = "") (default : v.default = some value) :
    Stands before v value

/-- Neither an `ARG` nor the reference itself has a default. -/
def Lacks (before : List Instruction) (v : Variable) : Prop := ∀ value, ¬Stands before v value

def given? (i : Instruction) : Option (String × String) := if i.keyword = "ARG" then argument? i.arguments else none

def declare (args : Table String) (i : Instruction) : Table String :=
  match given? i with
  | some (name, default) => args.put name default
  | none => args

def declared (before : List Instruction) : Table String := before.foldl declare .empty

section defaults

variable {before : List Instruction} {i : Instruction} {name value : String}

theorem gives_iff : Gives i name value ↔ given? i = some (name, value) := by
  unfold Gives given?
  split_ifs with isArg
  · rw [argument?, Option.map_eq_some_iff]
    constructor
    · rintro ⟨-, key, default, same, first, named, bare⟩
      refine ⟨(key, default), by rw [same, splitFirst_append first], ?_⟩
      dsimp only
      rw [named, unquoted_iff.1 bare, String.ofList_toList, String.ofList_toList]
    · rintro ⟨⟨key, default⟩, found, same⟩
      obtain ⟨rfl, rfl⟩ := Prod.mk.inj same
      obtain ⟨split, first⟩ := splitFirst_eq_some found
      exact ⟨isArg, key, default, split, first, String.toList_ofList.symm,
        unquoted_iff.2 String.toList_ofList.symm⟩
  · simp [isArg]

theorem lastGiven_concat : LastGiven (before ++ [i]) name value ↔
    Gives i name value ∨ (∀ other, ¬Gives i name other) ∧ LastGiven before name value := by
  constructor
  · rintro ⟨front, j, back, split, gives, later⟩
    rcases List.eq_nil_or_concat' back with rfl | ⟨back, last, rfl⟩
    · obtain ⟨-, same⟩ := List.append_inj' split rfl
      obtain ⟨rfl⟩ := same
      exact .inl gives
    · rw [← List.cons_append, ← List.append_assoc] at split
      obtain ⟨rfl, same⟩ := List.append_inj' split rfl
      obtain ⟨rfl⟩ := same
      exact .inr ⟨later i (by simp), front, j, back, rfl, gives, fun k member => later k (by simp [member])⟩
  · rintro (gives | ⟨none, front, j, back, rfl, gives, later⟩)
    · exact ⟨before, i, [], rfl, gives, by simp⟩
    · refine ⟨front, j, back ++ [i], by simp, gives, fun k member => ?_⟩
      rcases List.mem_append.1 member with early | late
      · exact later k early
      · rw [List.mem_singleton.1 late]
        exact none

theorem get?_declared : (declared before).get? name = some value ↔ LastGiven before name value := by
  induction before using List.reverseRecOn with
  | nil => exact iff_of_false (by simp [declared, Table.get?, Table.empty]) (by rintro ⟨front, i, back, split, -⟩; simp at split)
  | append_singleton before i ih =>
    have step : declared (before ++ [i]) = declare (declared before) i := List.foldl_concat ..
    rw [step, lastGiven_concat, declare]
    simp only [gives_iff]
    cases given? i with
    | none => simpa using ih
    | some found =>
      obtain ⟨key, default⟩ := found
      dsimp only
      rw [Table.get?_put]
      by_cases same : name = key
      · subst same
        simp
      · simp [same, Ne.symm same, ih]

theorem stands_iff {v : Variable} : Stands before v value ↔ v.value? (declared before) = some value := by
  have given : ((declared before).get? v.name).filter (· ≠ "") = some value ↔ LastGiven before v.name value ∧ value ≠ "" := by
    rw [Option.filter_eq_some_iff, get?_declared]
    simp
  have none : ((declared before).get? v.name).filter (· ≠ "") = none ↔ ∀ other, LastGiven before v.name other → other = "" := by
    rw [Option.filter_eq_none_iff]
    simp [get?_declared]
  rw [Variable.value?, Option.or_eq_some_iff, given, none]
  constructor
  · rintro (⟨last, nonempty⟩ | ⟨none, default⟩)
    · exact .inl ⟨last, nonempty⟩
    · exact .inr ⟨none, default⟩
  · rintro (⟨last, nonempty⟩ | ⟨none, default⟩)
    · exact .given last nonempty
    · exact .own none default

theorem lacks_iff {v : Variable} : Lacks before v ↔ v.value? (declared before) = none := by
  simp only [Lacks, stands_iff, Option.eq_none_iff_forall_ne_some, ne_eq]

theorem not_lacks_iff {v : Variable} : ¬Lacks before v ↔ ∃ value, Stands before v value := by simp [Lacks]

end defaults

/-! ### The first `FROM` -/

/-- A file opens with instructions in front of its first `FROM`, the first word of which that is no flag is given. -/
structure Opens (text : String) (before : List Instruction) (word : List Char) : Prop where
  front : ∀ i ∈ before, i.keyword ≠ "FROM"
  names : ∃ arguments after flags more, instructions text = before ++ ⟨"FROM", arguments⟩ :: after ∧
    words arguments.toList = flags ++ word :: more ∧ (∀ flag ∈ flags, "--".toList <+: flag) ∧ ¬"--".toList <+: word

section opens

variable {path text : String} {args : Table String} {before : List Instruction} {word : List Char} {image : String}

theorem baseOf_append (others : ∀ i ∈ before, i.keyword ≠ "FROM") (rest : List Instruction) :
    baseOf path args (before ++ rest) = baseOf path (before.foldl declare args) rest := by
  induction before generalizing args with
  | nil => rfl
  | cons i before ih =>
    obtain ⟨keyword, arguments⟩ := i
    obtain ⟨other, others⟩ := List.forall_mem_cons.1 others
    rw [List.cons_append, List.foldl_cons, ← ih others, baseOf, if_neg other, declare, given?]
    split_ifs with isArg
    · cases argument? arguments <;> rfl
    · rfl

theorem baseOf_from (arguments : String) (after : List Instruction) :
    baseOf path args (⟨"FROM", arguments⟩ :: after) =
      match fromWords arguments with
      | [] => .error (.emptyFrom path)
      | word :: _ => interpolate args path word := by
  rw [baseOf]
  exact if_pos rfl

theorem exists_first_from (all : List Instruction) : (∀ i ∈ all, i.keyword ≠ "FROM") ∨
    ∃ before arguments after, all = before ++ ⟨"FROM", arguments⟩ :: after ∧ ∀ i ∈ before, i.keyword ≠ "FROM" := by
  cases found : all.find? fun i => i.keyword == "FROM" with
  | none => exact .inl (by simpa using found)
  | some i =>
    obtain ⟨keyword, arguments⟩ := i
    obtain ⟨same, before, after, split, others⟩ := List.find?_eq_some_iff_append.1 found
    obtain rfl : keyword = "FROM" := by simpa using same
    exact .inr ⟨before, arguments, after, split, by simpa using others⟩

theorem fromWords_eq_cons {arguments : String} : (∃ rest, fromWords arguments = word :: rest) ↔
    ∃ flags more, words arguments.toList = flags ++ word :: more ∧ (∀ flag ∈ flags, "--".toList <+: flag) ∧
      ¬"--".toList <+: word := by
  unfold fromWords
  simp only [List.filter_eq_cons_iff, Bool.not_eq_true', ← Bool.not_eq_true, Decidable.not_not, List.isPrefixOf_iff_prefix]
  constructor
  · rintro ⟨rest, flags, more, split, flagged, own, -⟩
    exact ⟨flags, more, split, flagged, own⟩
  · rintro ⟨flags, more, split, flagged, own⟩
    exact ⟨_, flags, more, split, flagged, own, rfl⟩

theorem baseOf_of_opens (opens : Opens text before word) :
    baseOf path .empty (instructions text) = interpolate (declared before) path word := by
  obtain ⟨others, arguments, after, flags, more, made, worded⟩ := opens
  obtain ⟨rest, found⟩ := fromWords_eq_cons.2 ⟨flags, more, worded⟩
  rw [made, baseOf_append others, baseOf_from, found]
  rfl

theorem exists_opens (found : baseOf path .empty (instructions text) = .ok image) :
    ∃ before word, Opens text before word := by
  rcases exists_first_from (instructions text) with none | ⟨before, arguments, after, split, others⟩
  · have all : baseOf path .empty (instructions text ++ []) = .error (.noFrom path) := baseOf_append none []
    rw [List.append_nil, found] at all
    cases all
  · rw [split, baseOf_append others, baseOf_from] at found
    split at found
    · cases found
    · rename_i word rest worded
      obtain ⟨flags, more, worded⟩ := fromWords_eq_cons.1 ⟨rest, worded⟩
      exact ⟨before, word, others, arguments, after, flags, more, split, worded⟩

theorem extract_of_decoded {tree : Files.Node} {path : Path} {content : ByteArray} {chars : List Char}
    (reads : Files.read tree path = .ok content) (decoded : Utf8.decode content = .ok chars) :
    extract tree path = (baseOf path.text .empty (instructions (String.ofList chars))).mapError .noBase := by
  unfold extract baseImage instructions
  rw [reads]
  dsimp only
  rw [decoded]
  dsimp only
  rw [String.toList_ofList, String.toList_ofList, lines_plainNewlines]
  cases baseOf path.text .empty (ofLines [] ((lines chars).map trim)) <;> rfl

end opens

end ImageBuild.Dockerfile
