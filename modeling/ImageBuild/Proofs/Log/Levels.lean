import ImageBuild.Proofs.Data.Splits
import ImageBuild.Proofs.Log.Names
import ImageBuild.Proofs.Text.Words

namespace ImageBuild.Log

open Data Text

def Paired (piece : List Char) (name level : String) : Prop :=
  ∃ key value, piece = key ++ '=' :: value ∧ '=' ∉ key ∧
    name = String.ofList (trim key) ∧ level = upper (String.ofList (trim value))

/-- Of the pieces of a text, those between its commas, the last one with the name pairs it with the level. -/
def LastPaired (text name level : String) : Prop :=
  ∃ front piece back, text.toList = joinWith [','] (front ++ piece :: back) ∧
    (∀ part ∈ front ++ piece :: back, ',' ∉ part) ∧
    Paired piece name level ∧ ∀ later ∈ back, ∀ other, ¬Paired later name other

section pieces

variable {piece key : List Char} {name level text : String}

theorem pair?_append (bare : '=' ∉ key) (value : List Char) :
    pair? (key ++ '=' :: value) = some (String.ofList (trim key), upper (String.ofList (trim value))) := by
  have bare' : '=' ∉ trimStart key := fun inside => bare ((List.dropWhile_sublist _).subset inside)
  rw [pair?, trim_around (by decide), splitFirst_append bare', Option.map_some]
  dsimp only
  rw [trim_trimStart, trim_trimEnd]

theorem pair?_bare (bare : '=' ∉ piece) : pair? piece = none := by
  have bare' : '=' ∉ trim piece := by
    obtain ⟨left, right, -, -, same⟩ := exists_padded piece
    intro inside
    rw [same] at bare
    exact bare (List.mem_append_left _ (List.mem_append_right _ inside))
  rw [pair?, splitFirst_eq_none.2 bare', Option.map_none]

theorem pair?_eq_some : pair? piece = some (name, level) ↔ Paired piece name level := by
  constructor
  · intro found
    cases cut : splitFirst '=' piece with
    | none => cases (pair?_bare (splitFirst_eq_none.1 cut)).symm.trans found
    | some parts =>
      obtain ⟨key, value⟩ := parts
      obtain ⟨rfl, bare⟩ := splitFirst_eq_some cut
      obtain ⟨rfl, rfl⟩ := Prod.mk.inj (Option.some.inj ((pair?_append bare value).symm.trans found))
      exact ⟨key, value, rfl, bare, rfl, rfl⟩
  · rintro ⟨key, value, rfl, bare, rfl, rfl⟩
    exact pair?_append bare value

/-- A level list is read as the table of its last pairs. -/
theorem get?_parseLevels : (parseLevels text).get? name = some level ↔ LastPaired text name level := by
  rw [parseLevels, Table.get?_ofList_eq_some]
  constructor
  · rintro ⟨done, rest, split, later⟩
    obtain ⟨front, last, pieces, -, read⟩ := List.filterMap_eq_append_iff.1 split
    obtain ⟨skipped, piece, back, rfl, blind, paired, rfl⟩ := List.filterMap_eq_cons_iff.1 read
    refine ⟨front ++ skipped, piece, back, ?_, ?_, pair?_eq_some.1 paired, ?_⟩
    · rw [List.append_assoc, ← pieces, joinWith_splitAll]
    · intro part between
      rw [List.append_assoc, ← pieces] at between
      exact notMem_of_splitAll between
    · intro piece behind other again
      exact later _ (List.mem_filterMap.2 ⟨piece, behind, pair?_eq_some.2 again⟩) rfl
  · rintro ⟨front, piece, back, written, apart, paired, later⟩
    have pieces : splitAll ',' text.toList = front ++ piece :: back := by
      rw [written, splitAll_joinWith (by simp) apart]
    refine ⟨front.filterMap pair?, back.filterMap pair?, ?_, ?_⟩
    · rw [pieces, List.filterMap_append, List.filterMap_cons_some (pair?_eq_some.2 paired)]
    · rintro ⟨again, other⟩ behind rfl
      obtain ⟨piece, member, found⟩ := List.mem_filterMap.1 behind
      exact later piece member other (pair?_eq_some.1 found)

end pieces

/-! ### The logger above all others -/

def rootNames : List String := ["", wildcard, "root", "root" ++ wildcard]

theorem exists_base (name : String) :
    ∃ base, stripWildcard name.toList = base.toList ∧ (name = base ∨ name = base ++ wildcard) := by
  by_cases ends : wildcard.toList <:+ name.toList
  · obtain ⟨front, same⟩ := ends
    refine ⟨String.ofList front, ?_, .inr ?_⟩
    · rw [← same, stripWildcard_append, String.toList_ofList]
    · rw [← String.ofList_toList (s := name), ← same, String.ofList_append, String.ofList_toList]
  · exact ⟨name, stripWildcard_bare ends, .inl rfl⟩

theorem isRoot_iff {name : String} : Loggers.isRoot name = true ↔ name = "" ∨ name = "root" := by
  simp [Loggers.isRoot]

theorem mem_rootNames_of_isRoot {name : String} (above : Loggers.isRoot (channelName name) = true) :
    name ∈ rootNames := by
  have table : ∀ entry ∈ aliases, Loggers.isRoot entry.2 = false := by decide
  cases found : aliases.lookup name with
  | some channel =>
    have short := mem_of_lookup found
    rw [channelName_short short, table _ short] at above
    cases above
  | none =>
    obtain ⟨base, stripped, written⟩ := exists_base name
    rw [channelName_long found, stripped] at above
    rcases placed_cases base.toList with same | ⟨below, -⟩
    · rw [same, String.ofList_toList, isRoot_iff] at above
      rcases above with rfl | rfl <;> rcases written with rfl | rfl <;> decide
    · -- What is put below the root of all channels is longer than either name of the logger above it.
      rw [below, isRoot_iff] at above
      have long : root.length ≤ (root ++ String.ofList base.toList).length := by
        rw [String.length_append]
        exact Nat.le_add_right _ _
      rcases above with short | short <;> rw [short] at long <;> exact absurd long (by decide)

def rootLevel? (entry : String × Value) : Option Nat :=
  if Loggers.isRoot (channelName entry.1) then levelOfName? entry.2.display else none

theorem rootLevel_assigned (loggers : Loggers) (entry : String × Value) :
    (assigned loggers entry).rootLevel = (rootLevel? entry).getD loggers.rootLevel := by
  unfold rootLevel?
  cases known : levelOfName? entry.2.display with
  | none =>
    rw [assigned_unknown known]
    split <;> rfl
  | some level =>
    rw [assigned_known known, Loggers.rootLevel_set]
    split <;> rfl

theorem rootLevel_applyEach (loggers : Loggers) (entries : List (String × Value)) :
    (entries.foldl assigned loggers).rootLevel =
      ((entries.filterMap rootLevel?).getLast?).getD loggers.rootLevel := by
  induction entries generalizing loggers with
  | nil => rfl
  | cons entry rest ih =>
    rw [List.foldl_cons, ih, rootLevel_assigned]
    cases given : rootLevel? entry with
    | none => rw [List.filterMap_cons_none given, Option.getD_none]
    | some level =>
      rw [List.filterMap_cons_some given, List.getLast?_cons, Option.getD_some, Option.getD_some]

def rootLevels (text : String) : List Nat :=
  (parseLevels text).entries.filterMap fun (name, level) => rootLevel? (name, .text level)

theorem mem_rootLevels {text : String} {number : Nat} : number ∈ rootLevels text ↔
    ∃ name, Loggers.isRoot (channelName name) = true ∧
      ∃ level, LastPaired text name level ∧ levelOfName? level = some number := by
  rw [rootLevels, List.mem_filterMap]
  constructor
  · rintro ⟨⟨name, level⟩, listed, counted⟩
    obtain ⟨above, known⟩ := Option.ite_none_right_eq_some.1 counted
    exact ⟨name, above, level, get?_parseLevels.1 (Table.get?_eq_some.2 listed), known⟩
  · rintro ⟨name, above, level, listed, known⟩
    exact ⟨(name, level), Table.get?_eq_some.1 (get?_parseLevels.2 listed), (if_pos above).trans known⟩

theorem applyLevels_rootLevel {text : String} {environment : Environment} {options : Options}
    (given : environment.levels = some text) (unset : options.levels = none) (logging : Logging) :
    (logging.applyLevels environment options).loggers.rootLevel =
      (rootLevels text).getLast?.getD logging.loggers.rootLevel := by
  rw [Logging.applyLevels, Logging.givenLevels, unset, given, loggers_applyEach, rootLevel_applyEach,
    List.filterMap_map]
  rfl

/-- A level list is read as the table of its last pairs, whatever else is in it. Given for the levels, it leaves the
logger above all others as it was unless it pairs one of that logger's names with a known level, and one of those names
is the empty one: a pair without a name sets that logger's level. -/
theorem levels_listed {text : String} {environment : Environment} {options : Options}
    (given : environment.levels = some text) (unset : options.levels = none) (logging : Logging) :
    (∀ name level, (parseLevels text).get? name = some level ↔ LastPaired text name level) ∧
    ((logging.applyLevels environment options).loggers.rootLevel = logging.loggers.rootLevel ∨
      ∃ name ∈ rootNames, ∃ level, LastPaired text name level ∧
        levelOfName? level = some (logging.applyLevels environment options).loggers.rootLevel) ∧
    ∀ level number, LastPaired text "" level → levelOfName? level = some number →
      (∀ name ∈ rootNames, name ≠ "" → ∀ other, ¬LastPaired text name other) →
      (logging.applyLevels environment options).loggers.rootLevel = number := by
  rw [applyLevels_rootLevel given unset]
  refine ⟨fun name level => get?_parseLevels, ?_, ?_⟩
  · cases last : (rootLevels text).getLast? with
    | none => exact .inl rfl
    | some number =>
      obtain ⟨name, above, level, paired, known⟩ := mem_rootLevels.1 (List.mem_of_getLast? last)
      exact .inr ⟨name, mem_rootNames_of_isRoot above, level, paired, known⟩
  · intro level number unnamed known alone
    have present : number ∈ rootLevels text := mem_rootLevels.2 ⟨"", by decide, level, unnamed, known⟩
    obtain ⟨last, found⟩ := Option.isSome_iff_exists.1 (List.getLast?_isSome.2 (List.ne_nil_of_mem present))
    obtain ⟨name, above, other, paired, known'⟩ := mem_rootLevels.1 (List.mem_of_getLast? found)
    obtain rfl : name = "" := by_contra fun named => alone name (mem_rootNames_of_isRoot above) named other paired
    have same : level = other := Option.some.inj ((get?_parseLevels.2 unnamed).symm.trans (get?_parseLevels.2 paired))
    rw [found, Option.getD_some]
    exact Option.some.inj (known'.symm.trans (same ▸ known))

theorem levels_listed_debug :
    let text := "pull=info, =debug,,broken"
    let environment : Environment := ⟨false, none, some text, ""⟩
    let options : Options := ⟨false, none, none⟩
    let logging : Logging := ⟨⟨20, .empty⟩, none, .folder [], ""⟩
    environment.levels = some text ∧ options.levels = none ∧
      LastPaired text "pull" "INFO" ∧ (logging.applyLevels environment options).loggers.rootLevel = 10 := by
  intro text environment options logging
  obtain ⟨read, -, unnamed⟩ := @levels_listed text environment options rfl rfl logging
  refine ⟨rfl, rfl, (read "pull" "INFO").1 (by decide +kernel), ?_⟩
  refine unnamed "DEBUG" 10 ((read "" "DEBUG").1 (by decide +kernel)) (by decide +kernel) ?_
  intro name above named other paired
  have absent : ∀ name ∈ rootNames, name ≠ "" → (parseLevels text).get? name = none := by decide +kernel
  cases (absent name above named).symm.trans ((read name other).2 paired)

/-- A level without a name reaches the logger above all others. -/
theorem unnamed_pair_kept :
    (parseLevels "=DEBUG").get? "" = some "DEBUG" ∧
      (Logging.applyLevels ⟨false, none, some "=DEBUG", ""⟩ ⟨false, none, none⟩
        ⟨⟨20, .empty⟩, none, .folder [], ""⟩).loggers.rootLevel = 10 := by
  decide +kernel

end ImageBuild.Log
