import ImageBuild.Data.Table
import ImageBuild.Text.Split

/-!
# Variables

References to arguments within a word: `$NAME`, `${NAME}`, `${NAME-default}` and
`${NAME:-default}`. A dollar sign that begins no reference stands for itself.
-/

namespace ImageBuild.Dockerfile

open Data Text

structure Variable where
  name : String
  default : Option String
deriving DecidableEq

inductive Piece where
  | char (c : Char)
  | variable (v : Variable)
deriving DecidableEq

def isNameStart (c : Char) : Bool := c.isAlpha || c == '_'

def isNameChar (c : Char) : Bool := c.isAlphanum || c == '_'

def readName? (s : List Char) : Option (String × List Char) :=
  if s.head?.any isNameStart then
    some (String.ofList (s.takeWhile isNameChar), s.dropWhile isNameChar)
  else none

def readDefault? (name : String) (s : List Char) : Option (Variable × List Char) :=
  (splitFirst '}' s).map fun (default, rest) => (⟨name, some (String.ofList default)⟩, rest)

def readVariable? : List Char → Option (Variable × List Char)
  | '{' :: s =>
    match readName? s with
    | some (name, '}' :: rest) => some (⟨name, none⟩, rest)
    | some (name, ':' :: '-' :: rest) => readDefault? name rest
    | some (name, '-' :: rest) => readDefault? name rest
    | _ => none
  | s => (readName? s).map fun (name, rest) => (⟨name, none⟩, rest)

theorem length_dropWhile_le {α : Type} (p : α → Bool) (s : List α) : (s.dropWhile p).length ≤ s.length := by
  induction s with
  | nil => simp
  | cons c r ih => simp only [List.dropWhile]; split <;> simp_all; omega

theorem readName?_length {s rest : List Char} {name : String} (h : readName? s = some (name, rest)) :
    rest.length ≤ s.length := by
  unfold readName? at h
  split at h
  · obtain ⟨_, rfl⟩ := Prod.mk.inj (Option.some.inj h)
    exact length_dropWhile_le _ _
  · simp at h

theorem readDefault?_length {s rest : List Char} {name : String} {v : Variable}
    (h : readDefault? name s = some (v, rest)) : rest.length < s.length := by
  obtain ⟨⟨before, after⟩, found, same⟩ := Option.map_eq_some_iff.1 h
  obtain ⟨_, rfl⟩ := Prod.mk.inj same
  obtain ⟨rfl, _⟩ := splitFirst_eq_some found
  simp only [List.length_append, List.length_cons]
  omega

theorem readVariable?_length {s rest : List Char} {v : Variable} (h : readVariable? s = some (v, rest)) :
    rest.length ≤ s.length := by
  unfold readVariable? at h
  split at h
  · rename_i s
    split at h
    · rename_i found
      obtain ⟨_, rfl⟩ := Prod.mk.inj (Option.some.inj h)
      have := readName?_length found
      simp only [List.length_cons] at this ⊢
      omega
    · rename_i found
      have := readName?_length found
      have := readDefault?_length h
      simp only [List.length_cons] at *
      omega
    · rename_i found
      have := readName?_length found
      have := readDefault?_length h
      simp only [List.length_cons] at *
      omega
    · simp at h
  · obtain ⟨⟨name, after⟩, found, same⟩ := Option.map_eq_some_iff.1 h
    obtain ⟨_, rfl⟩ := Prod.mk.inj same
    exact readName?_length found

def pieces : List Char → List Piece
  | [] => []
  | c :: rest =>
    if c = '$' then
      match h : readVariable? rest with
      | some (v, after) =>
        have := readVariable?_length h
        .variable v :: pieces after
      | none => .char c :: pieces rest
    else .char c :: pieces rest
termination_by s => s.length

/-- A reference means the argument's value, or its own default when the argument is absent or empty. -/
def Variable.value? (args : Table String) (v : Variable) : Option String :=
  ((args.get? v.name).filter (· ≠ "")).or v.default

/-- Puts values in the place of references, or names the first reference that has none. -/
def substitute (args : Table String) : List Piece → Except String (List Char)
  | [] => .ok []
  | .char c :: rest => (substitute args rest).map (c :: ·)
  | .variable v :: rest =>
    match v.value? args with
    | some value => (substitute args rest).map (value.toList ++ ·)
    | none => .error v.name

end ImageBuild.Dockerfile
