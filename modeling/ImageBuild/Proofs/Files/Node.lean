import ImageBuild.Data.Table
import ImageBuild.Files.Tree
import Mathlib.Data.List.Lex
import Mathlib.Data.String.Basic

namespace ImageBuild.Files

open Data

structure IsName (name : String) : Prop where
  nonempty : name ≠ ""
  notHere : name ≠ "."
  notAbove : name ≠ ".."
  noSlash : '/' ∉ name.toList
  short : name.utf8ByteSize ≤ maxName

structure IsListing (entries : List (String × Node)) : Prop where
  ascending : entries.Pairwise fun a b => a.1 < b.1
  names : ∀ entry ∈ entries, IsName entry.1

def Item.isFile : Item → Bool
  | .file _ => true
  | _ => false

namespace Node

def item : Node → Item
  | file content => .file content
  | folder _ => .directory

def item? (tree : Node) (place : List String) : Option Item := (tree.get? place).map item

def Proper (tree : Node) : Prop :=
  ∀ place entries, tree.get? place = some (folder entries) → IsListing entries

/-! ### Places -/

@[simp] theorem get?_nil (tree : Node) : tree.get? [] = some tree := by
  unfold get?
  rfl

theorem get?_cons (tree : Node) (name : String) (rest : List String) :
    tree.get? (name :: rest) = (tree.entries.lookup name).bind fun child => child.get? rest := by
  rw [get?]

theorem get?_append (tree : Node) (place rest : List String) :
    tree.get? (place ++ rest) = (tree.get? place).bind fun node => node.get? rest := by
  induction place generalizing tree with
  | nil => simp
  | cons name place ih =>
    rw [List.cons_append, get?_cons, get?_cons, Option.bind_assoc]
    congr 1
    funext child
    exact ih child

theorem item?_append (tree : Node) (place rest : List String) :
    tree.item? (place ++ rest) = (tree.get? place).bind fun node => node.item? rest := by
  unfold item?
  rw [get?_append, Option.map_bind]
  rfl

theorem item?_directory {tree : Node} {place : List String} :
    tree.item? place = some .directory ↔ ∃ entries, tree.get? place = some (folder entries) := by
  unfold item?
  cases found : tree.get? place with
  | none => simp
  | some node => cases node <;> simp [item]

theorem item?_file {tree : Node} {place : List String} {content : Content} :
    tree.item? place = some (.file content) ↔ tree.get? place = some (file content) := by
  unfold item?
  cases found : tree.get? place with
  | none => simp
  | some node => cases node <;> simp [item]

theorem directory_above {tree : Node} {place rest : List String} {item : Item} (further : rest ≠ [])
    (found : tree.item? (place ++ rest) = some item) : tree.item? place = some .directory := by
  rw [item?_append] at found
  obtain ⟨node, here, below⟩ := Option.bind_eq_some_iff.1 found
  cases node with
  | folder entries => exact item?_directory.2 ⟨entries, here⟩
  | file content =>
    obtain ⟨name, rest, rfl⟩ := List.exists_cons_of_ne_nil further
    rw [item?, get?_cons] at below
    cases below

theorem item?_below {tree : Node} {place rest : List String} (vacant : tree.item? place ≠ some .directory)
    (further : rest ≠ []) : tree.item? (place ++ rest) = none :=
  Option.eq_none_iff_forall_ne_some.2 fun _ found => vacant (directory_above further found)

theorem item?_file_below (content : Content) {rest : List String} (further : rest ≠ []) :
    (file content).item? rest = none := by
  obtain ⟨first, rest, rfl⟩ := List.exists_cons_of_ne_nil further
  rfl

theorem Proper.child {tree : Node} (proper : tree.Proper) {place : List String} {node : Node}
    (found : tree.get? place = some node) : node.Proper := by
  intro rest entries listed
  refine proper (place ++ rest) entries ?_
  rw [get?_append, found]
  exact listed

theorem proper_file (content : Content) : (file content).Proper := by
  intro place entries found
  cases place with
  | nil =>
    rw [get?_nil] at found
    cases found
  | cons name place =>
    rw [get?_cons] at found
    cases found

theorem proper_folder {entries : List (String × Node)} :
    (folder entries).Proper ↔ IsListing entries ∧ ∀ name child, entries.lookup name = some child → child.Proper := by
  constructor
  · intro proper
    refine ⟨proper [] entries (get?_nil _), ?_⟩
    intro name child found
    have here : (folder entries).get? [name] = some child := by
      rw [get?_cons, Node.entries, found]
      exact get?_nil child
    exact proper.child here
  · rintro ⟨listing, children⟩ place others found
    cases place with
    | nil =>
      rw [get?_nil] at found
      cases found
      exact listing
    | cons name place =>
      rw [get?_cons] at found
      obtain ⟨child, here, below⟩ := Option.bind_eq_some_iff.1 found
      exact children name child here place others below

/-! ### Entries -/

theorem lookup_of_mem {entries : List (String × Node)} (listing : IsListing entries) {name : String} {node : Node}
    (member : (name, node) ∈ entries) : entries.lookup name = some node :=
  lookup_of_distinct (listing.ascending.imp fun less => String.ne_of_lt less) member

theorem isName_of_get? {tree : Node} (proper : tree.Proper) {place : List String} (found : (tree.get? place).isSome) :
    ∀ name ∈ place, IsName name := by
  induction place generalizing tree with
  | nil => simp
  | cons first place ih =>
    obtain ⟨node, known⟩ := Option.isSome_iff_exists.1 found
    rw [get?_cons] at known
    obtain ⟨child, here, below⟩ := Option.bind_eq_some_iff.1 known
    cases tree with
    | file content => cases here
    | folder entries =>
      obtain ⟨listing, children⟩ := proper_folder.1 proper
      refine List.forall_mem_cons.2 ⟨listing.names _ (mem_of_lookup here), ?_⟩
      exact ih (children first child here) (Option.isSome_iff_exists.2 ⟨node, below⟩)

/-! ### Everything below a directory -/

mutual

def under : Node → List (List String × Item)
  | file _ => []
  | folder entries => underAll entries

def underAll : List (String × Node) → List (List String × Item)
  | [] => []
  | (name, node) :: rest =>
    ([name], node.item) :: node.under.map (fun found => (name :: found.1, found.2)) ++ underAll rest

end

theorem proper_nil : (folder []).Proper := by
  refine proper_folder.2 ⟨⟨List.Pairwise.nil, by simp⟩, ?_⟩
  intro name child found
  cases found

theorem proper_cons {name : String} {node : Node} {rest : List (String × Node)} :
    (folder ((name, node) :: rest)).Proper ↔
      IsName name ∧ node.Proper ∧ (folder rest).Proper ∧ ∀ entry ∈ rest, name < entry.1 := by
  constructor
  · intro proper
    obtain ⟨listing, children⟩ := proper_folder.1 proper
    obtain ⟨less, ascending⟩ := List.pairwise_cons.1 listing.ascending
    obtain ⟨isName, names⟩ := List.forall_mem_cons.1 listing.names
    refine ⟨isName, children name node (by simp), ?_, less⟩
    refine proper_folder.2 ⟨⟨ascending, names⟩, ?_⟩
    intro other child found
    refine children other child (lookup_of_mem listing ?_)
    exact List.mem_cons_of_mem _ (mem_of_lookup found)
  · rintro ⟨isName, here, later, less⟩
    obtain ⟨listing, children⟩ := proper_folder.1 later
    refine proper_folder.2 ⟨⟨List.pairwise_cons.2 ⟨less, listing.ascending⟩, ?_⟩, ?_⟩
    · exact List.forall_mem_cons.2 ⟨isName, listing.names⟩
    · intro other child found
      rcases List.mem_cons.1 (mem_of_lookup found) with same | member
      · obtain ⟨rfl, rfl⟩ := Prod.mk.inj same
        exact here
      · exact children other child (lookup_of_mem listing member)

theorem item?_cons_self (name : String) (node : Node) (rest : List (String × Node)) (place : List String) :
    (folder ((name, node) :: rest)).item? (name :: place) = node.item? place := by
  simp [item?, get?_cons, Node.entries]

theorem item?_cons_other {name other : String} (different : other ≠ name) (node : Node)
    (rest : List (String × Node)) (place : List String) :
    (folder ((name, node) :: rest)).item? (other :: place) = (folder rest).item? (other :: place) := by
  have apart : (other == name) = false := by simpa using different
  simp [item?, get?_cons, Node.entries, List.lookup_cons, apart]

mutual

theorem mem_under : ∀ (node : Node), node.Proper → ∀ found : List String × Item,
    found ∈ node.under ↔ found.1 ≠ [] ∧ node.item? found.1 = some found.2
  | .file content, _, found => by
    have nothing : found.1 ≠ [] → (file content).item? found.1 = none := by
      intro further
      obtain ⟨name, rest, same⟩ := List.exists_cons_of_ne_nil further
      rw [same, item?, get?_cons]
      rfl
    simp only [under, List.not_mem_nil, false_iff, not_and]
    intro further
    simp [nothing further]
  | .folder entries, proper, found => by
    rw [under]
    exact mem_underAll entries proper found

theorem mem_underAll : ∀ (entries : List (String × Node)), (folder entries).Proper → ∀ found : List String × Item,
    found ∈ underAll entries ↔ found.1 ≠ [] ∧ (folder entries).item? found.1 = some found.2
  | [], _, (place, item) => by
    cases place <;> simp [underAll, item?, get?_cons, Node.entries]
  | (name, node) :: rest, proper, (place, item) => by
    obtain ⟨-, here, later, less⟩ := proper_cons.1 proper
    have inside := mem_under node here
    have behind := mem_underAll rest later (place, item)
    rw [underAll, List.cons_append, List.mem_cons, List.mem_append, behind]
    cases place with
    | nil => simp
    | cons first place =>
      by_cases same : first = name
      · subst same
        have absent : (folder rest).item? (first :: place) = none := by
          have none : rest.lookup first = none := by
            refine List.lookup_eq_none_iff.2 ?_
            intro entry member
            simpa using String.ne_of_lt (less entry member)
          rw [item?, get?_cons, Node.entries, none]
          rfl
        rw [item?_cons_self, absent]
        cases place with
        | nil => simp [inside, item?, eq_comm]
        | cons second place => simp [inside]
      · rw [item?_cons_other same]
        simp [same, Ne.symm same]

end

theorem first_of_underAll {entries : List (String × Node)} (proper : (folder entries).Proper) {found : List String × Item}
    (member : found ∈ underAll entries) : ∃ name node rest, (name, node) ∈ entries ∧ found.1 = name :: rest := by
  obtain ⟨further, known⟩ := (mem_underAll entries proper found).1 member
  obtain ⟨name, rest, same⟩ := List.exists_cons_of_ne_nil further
  rw [same, item?, get?_cons, Option.map_bind, Option.bind_eq_some_iff] at known
  obtain ⟨node, here, -⟩ := known
  exact ⟨name, node, rest, mem_of_lookup here, same⟩

mutual

theorem ascending_under : ∀ (node : Node), node.Proper → node.under.Pairwise fun a b => a.1 < b.1
  | .file _, _ => List.Pairwise.nil
  | .folder entries, proper => by
    rw [under]
    exact ascending_underAll entries proper

theorem ascending_underAll : ∀ (entries : List (String × Node)), (folder entries).Proper →
    (underAll entries).Pairwise fun a b => a.1 < b.1
  | [], _ => List.Pairwise.nil
  | (name, node) :: rest, proper => by
    obtain ⟨-, here, later, less⟩ := proper_cons.1 proper
    have within : ∀ found ∈ node.under, found.1 ≠ [] := by
      intro found member
      exact ((mem_under node here found).1 member).1
    have behind : ∀ found ∈ underAll rest, ∀ place, name :: place < found.1 := by
      intro found member place
      obtain ⟨other, child, more, entry, same⟩ := first_of_underAll later member
      rw [same]
      exact List.cons_lt_cons_iff.2 (.inl (less _ entry))
    rw [underAll, List.cons_append, List.pairwise_cons, List.pairwise_append, List.pairwise_map]
    refine ⟨?_, ?_, ascending_underAll rest later, ?_⟩
    · intro found member
      rcases List.mem_append.1 member with inside | after
      · obtain ⟨below, known, rfl⟩ := List.mem_map.1 inside
        obtain ⟨first, more, same⟩ := List.exists_cons_of_ne_nil (within below known)
        refine List.cons_lt_cons_iff.2 (.inr ⟨rfl, ?_⟩)
        rw [same]
        exact List.nil_lt_cons first more
      · exact behind found after []
    · refine (ascending_under node here).imp ?_
      intro a b before
      exact List.cons_lt_cons_iff.2 (.inr ⟨rfl, before⟩)
    · intro a inside b after
      obtain ⟨found, -, rfl⟩ := List.mem_map.1 inside
      exact behind b after found.1

end

end Node

end ImageBuild.Files
