import ImageBuild.Archive.Pack
import ImageBuild.Proofs.Files.Node
import Mathlib.Data.List.TakeWhile

namespace ImageBuild.Archive

open Files

/-! ### Names of members -/

def slashed (place : List String) : String := "/".intercalate place

theorem slashed_cons {place : List String} (further : place ≠ []) (name : String) :
    slashed (name :: place) = name ++ "/" ++ slashed place :=
  String.intercalate_cons_of_ne_nil further

theorem splitAll_slashed {place : List String} (further : place ≠ []) (free : ∀ name ∈ place, '/' ∉ name.toList)
    (behind : List Char) :
    Text.splitAll '/' ((slashed place).toList ++ '/' :: behind) = place.map String.toList ++ Text.splitAll '/' behind ∧
      Text.splitAll '/' (slashed place).toList = place.map String.toList := by
  induction place with
  | nil => exact absurd rfl further
  | cons name place ih =>
    obtain ⟨here, later⟩ := List.forall_mem_cons.1 free
    by_cases last : place = []
    · subst last
      have single : (slashed [name]).toList = name.toList := by simp [slashed]
      rw [single, Text.splitAll_append here, Text.splitAll_of_notMem here]
      simp
    · obtain ⟨onwards, whole⟩ := ih last later
      have cut : (slashed (name :: place)).toList = name.toList ++ '/' :: (slashed place).toList := by
        simp [slashed_cons last]
      rw [cut, List.append_assoc, List.cons_append, Text.splitAll_append here, Text.splitAll_append here, onwards, whole]
      exact ⟨rfl, rfl⟩

theorem map_toList_injective : Function.Injective (List.map String.toList) :=
  List.map_injective_iff.2 fun _ _ => String.toList_inj.1

theorem prefix_iff_slashed {own place : List String} (further : own ≠ []) (further' : place ≠ [])
    (free : ∀ name ∈ own, '/' ∉ name.toList) (free' : ∀ name ∈ place, '/' ∉ name.toList) :
    own <+: place ↔ (slashed place).toList = (slashed own).toList ∨
      (slashed own).toList ++ ['/'] <+: (slashed place).toList := by
  constructor
  · rintro ⟨rest, rfl⟩
    by_cases whole : rest = []
    · left
      rw [whole, List.append_nil]
    · right
      have cut : slashed (own ++ rest) = slashed own ++ "/" ++ slashed rest :=
        String.intercalate_append_of_ne_nil further whole
      exact ⟨(slashed rest).toList, by simp [cut]⟩
  · rintro (same | ⟨behind, cut⟩)
    · have pieces := (splitAll_slashed further' free' []).2
      rw [same, (splitAll_slashed further free []).2] at pieces
      exact ⟨[], by rw [List.append_nil, map_toList_injective pieces]⟩
    · have pieces := (splitAll_slashed further' free' []).2
      rw [← cut, List.append_assoc, List.singleton_append, (splitAll_slashed further free behind).1] at pieces
      obtain ⟨front, rest, rfl, same, -⟩ := List.map_eq_append_iff.1 pieces.symm
      rw [map_toList_injective same]
      exact List.prefix_append _ _

theorem head_slashed {place : List String} (names : ∀ name ∈ place, IsName name) :
    (slashed place).toList.head? ≠ some '/' := by
  cases place with
  | nil => simp [slashed]
  | cons name rest =>
    have isName := names name List.mem_cons_self
    cases spelled : name.toList with
    | nil => exact absurd (by simpa using spelled) isName.nonempty
    | cons c more =>
      have begins : ∃ behind, (slashed (name :: rest)).toList = c :: behind := by
        cases rest with
        | nil => exact ⟨more, by simp [slashed, spelled]⟩
        | cons second rest =>
          rw [slashed_cons (List.cons_ne_nil second rest)]
          simp [spelled]
      obtain ⟨behind, same⟩ := begins
      rw [same, List.head?_cons]
      intro slash
      refine isName.noSlash ?_
      rw [spelled, Option.some.inj slash]
      exact List.mem_cons_self

theorem memberName_eq {name : String} (relative : name.toList.head? ≠ some '/') : memberName name = name := by
  unfold memberName
  cases spelled : name.toList with
  | nil => rw [List.dropWhile_nil, ← spelled, String.ofList_toList]
  | cons c rest =>
    have other : c ≠ '/' := by
      rintro rfl
      rw [spelled] at relative
      exact relative rfl
    rw [List.dropWhile_cons_of_neg (by simpa using other), ← spelled, String.ofList_toList]

theorem memberName_append {name : String} {c : Char} (inside : c ∈ name.toList) (other : c ≠ '/') (rest : String) :
    memberName (name ++ rest) = memberName name ++ rest ∧ memberName name ≠ "" := by
  have stays : name.toList.dropWhile (· == '/') ≠ [] := by
    intro nothing
    have all := List.dropWhile_eq_nil_iff.1 nothing c inside
    exact other (by simpa using all)
  unfold memberName
  refine ⟨?_, ?_⟩
  · have isSome : (name.toList.dropWhile (· == '/')).isEmpty = false := by simpa using stays
    rw [← String.toList_inj]
    simp only [String.toList_ofList, String.toList_append, List.dropWhile_append, isSome, Bool.false_eq_true, if_false]
  · intro nothing
    exact stays (by simpa using congrArg String.toList nothing)

theorem exists_ne_slash {name : String} (isName : IsName name) : ∃ c ∈ name.toList, c ≠ '/' := by
  cases spelled : name.toList with
  | nil => exact absurd (by simpa using spelled) isName.nonempty
  | cons c rest =>
    refine ⟨c, List.mem_cons_self, ?_⟩
    rintro rfl
    exact isName.noSlash (spelled ▸ List.mem_cons_self)

/-! ### What is left out -/

namespace Exclusion

def inside (exclusion : Exclusion) (name : String) : List Char :=
  if exclusion.folder.isEmpty then name.toList else name.toList.drop (exclusion.folder.length + 1)

theorem keeps_eq_false {exclusion : Exclusion} {name : String} :
    exclusion.keeps name = false ↔ ∃ own, exclusion.own = some own ∧
      (exclusion.inside name = own.toList ∨ own.toList ++ ['/'] <+: exclusion.inside name) := by
  unfold keeps
  cases known : exclusion.own with
  | none => simp
  | some own =>
    have shown : (own ++ "/").toList = own.toList ++ ['/'] := by simp
    simp only [shown, Bool.not_eq_false', Bool.or_eq_true, beq_iff_eq, List.isPrefixOf_iff_prefix, Option.some.injEq,
      exists_eq_left', inside]

theorem keeps_below {exclusion : Exclusion} (named : exclusion.own ≠ some "") {name : String}
    (out : exclusion.keeps name = false) (rest : String) : exclusion.keeps (name ++ "/" ++ rest) = false := by
  obtain ⟨own, known, covered⟩ := keeps_eq_false.1 out
  have nonempty : own.toList ≠ [] := by
    intro nothing
    exact named (by rw [known, String.toList_eq_nil_iff.1 nothing])
  refine keeps_eq_false.2 ⟨own, known, .inr ?_⟩
  have further : exclusion.inside name ≠ [] := by
    rcases covered with same | ⟨more, same⟩
    · rw [same]
      exact nonempty
    · rw [← same]
      simp
  have onwards : exclusion.inside (name ++ "/" ++ rest) = exclusion.inside name ++ '/' :: rest.toList := by
    unfold inside at further ⊢
    split at further
    · rename_i top
      simp [top]
    · rename_i folder
      have long := List.length_pos_of_ne_nil further
      rw [List.length_drop] at long
      rw [if_neg folder, if_neg folder, String.append_assoc, String.toList_append,
        List.drop_append_of_le_length (by omega)]
      simp
  rw [onwards]
  rcases covered with same | ahead
  · rw [same]
    exact ⟨rest.toList, by simp⟩
  · exact ahead.trans (List.prefix_append _ _)

end Exclusion

/-! ### The members -/

def memberOf (start : String) (found : List String × Item) : Member := (memberName (start ++ slashed found.1), found.2)

def packs (exclusion : Exclusion) (place : List String) (start : String) (found : List String × Item) : Bool :=
  !(found.2.isFile && place ++ found.1 == exclusion.archive) && exclusion.keeps (memberName (start ++ slashed found.1))

variable {exclusion : Exclusion} {place : List String} {start : String}

theorem start_cons {below : List String} (further : below ≠ []) (start child : String) :
    start ++ slashed (child :: below) = start ++ child ++ "/" ++ slashed below := by
  rw [slashed_cons further]
  simp [String.append_assoc]

def packed (exclusion : Exclusion) (place : List String) (start : String) (found : List (List String × Item)) :
    List Member :=
  (found.filter (packs exclusion place start)).map (memberOf start)

theorem packed_under (place : List String) (start child : String) {node : Node} (proper : node.Proper) :
    packed exclusion place start (node.under.map fun found => (child :: found.1, found.2)) =
      packed exclusion (place ++ [child]) (start ++ child ++ "/") node.under := by
  have further : ∀ found ∈ node.under, found.1 ≠ [] := by
    intro found member
    exact ((Node.mem_under node proper found).1 member).1
  unfold packed
  rw [List.filter_map, List.map_map]
  have chosen : node.under.filter (packs exclusion place start ∘ fun found => (child :: found.1, found.2)) =
      node.under.filter (packs exclusion (place ++ [child]) (start ++ child ++ "/")) := by
    refine List.filter_congr ?_
    intro found member
    simp only [Function.comp, packs, start_cons (further found member), List.append_assoc, List.singleton_append]
  rw [chosen]
  refine List.map_congr_left ?_
  intro found member
  simp only [Function.comp, memberOf, start_cons (further found (List.mem_filter.1 member).1)]

theorem packed_hidden (named : exclusion.own ≠ some "") (place : List String) (start : String) {child : String}
    (isName : IsName child) (out : exclusion.keeps (memberName (start ++ child)) = false)
    (found : List (List String × Item)) : packed exclusion place (start ++ child ++ "/") found = [] := by
  have none : found.filter (packs exclusion place (start ++ child ++ "/")) = [] := by
    refine List.filter_eq_nil_iff.2 ?_
    intro below _
    obtain ⟨c, inside, other⟩ := exists_ne_slash isName
    have within : c ∈ (start ++ child).toList := by simp [inside]
    have onwards := (memberName_append within other ("/" ++ slashed below.1)).1
    have same : start ++ child ++ "/" ++ slashed below.1 = start ++ child ++ ("/" ++ slashed below.1) := String.append_assoc
    have hidden : exclusion.keeps (memberName (start ++ child ++ "/" ++ slashed below.1)) = false := by
      rw [same, onwards, ← String.append_assoc]
      exact Exclusion.keeps_below named out _
    simp [packs, hidden]
  rw [packed, none]
  rfl

mutual

theorem members_eq (named : exclusion.own ≠ some "") (place : List String) (start : String) :
    ∀ (node : Node), node.Proper → ∀ {child : String}, IsName child →
      members exclusion (place ++ [child]) (start ++ child) node =
        packed exclusion place start
          (([child], node.item) :: node.under.map fun found => (child :: found.1, found.2))
  | .file content, _, child, _ => by
    have single : slashed [child] = child := String.intercalate_singleton
    by_cases archive : place ++ [child] = exclusion.archive
    · simp [members, packed, packs, Node.under, Node.item, Item.isFile, archive]
    · by_cases kept : exclusion.keeps (memberName (start ++ child)) = true
      · simp [members, packed, packs, Node.under, Node.item, Item.isFile, archive, single, kept, memberOf]
      · simp [members, packed, packs, Node.under, Node.item, Item.isFile, single, kept]
  | .folder entries, proper, child, isName => by
    have single : slashed [child] = child := String.intercalate_singleton
    have inner := entryMembers_eq named (place ++ [child]) (start ++ child ++ "/") entries proper
    have below : packed exclusion place start ((Node.folder entries).under.map fun found => (child :: found.1, found.2)) = _ :=
      packed_under place start child proper
    have split : ∀ found rest, packed exclusion place start (found :: rest) =
        packed exclusion place start [found] ++ packed exclusion place start rest := by
      intro found rest
      rw [← List.singleton_append, packed, List.filter_append, List.map_append]
      rfl
    rw [split, below]
    by_cases kept : exclusion.keeps (memberName (start ++ child)) = true
    · have first : packed exclusion place start [([child], (Node.folder entries).item)] =
          [(memberName (start ++ child), .directory)] := by
        simp [packed, packs, Node.item, Item.isFile, single, kept, memberOf]
      rw [first, Node.under, ← inner]
      simp [members, kept]
    · -- a directory that is left out is not entered, and the filter drops all below it as well
      have out : exclusion.keeps (memberName (start ++ child)) = false := by simpa using kept
      have first : packed exclusion place start [([child], (Node.folder entries).item)] = [] := by
        simp [packed, packs, single, out]
      rw [first, packed_hidden named (place ++ [child]) start isName out]
      simp [members, out]

theorem entryMembers_eq (named : exclusion.own ≠ some "") (place : List String) (start : String) :
    ∀ (entries : List (String × Node)), (Node.folder entries).Proper →
      entryMembers exclusion place start entries = packed exclusion place start (Node.underAll entries)
  | [], _ => rfl
  | (name, node) :: rest, proper => by
    obtain ⟨-, here, later, -⟩ := Node.proper_cons.1 proper
    have isName := (proper [] _ (Node.get?_nil _)).names _ List.mem_cons_self
    have first := members_eq named place start node here isName
    have behind := entryMembers_eq named place start rest later
    rw [entryMembers, Node.underAll, first, behind, packed, packed, packed, List.filter_append, List.map_append]

end

end ImageBuild.Archive
