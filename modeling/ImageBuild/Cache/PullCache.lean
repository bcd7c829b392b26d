import ImageBuild.Json.Reader
import ImageBuild.Json.Writer

namespace ImageBuild.Cache

open Text (Points)

def insertName (name : Points) : List Points → List Points
  | [] => [name]
  | first :: rest =>
    if name < first then name :: first :: rest
    else if name = first then first :: rest
    else first :: insertName name rest

theorem mem_insertName {name other : Points} {names : List Points} :
    other ∈ insertName name names ↔ other = name ∨ other ∈ names := by
  induction names with
  | nil => simp [insertName]
  | cons first rest ih =>
    unfold insertName
    split
    · simp
    · split
      · simp_all
      · simp only [List.mem_cons, ih]; grind

theorem pairwise_insertName (name : Points) {names : List Points} (ascending : names.Pairwise (· < ·)) :
    (insertName name names).Pairwise (· < ·) := by
  induction names with
  | nil => simp [insertName]
  | cons first rest ih =>
    obtain ⟨least, tail⟩ := List.pairwise_cons.1 ascending
    unfold insertName
    split
    · rename_i before
      refine List.pairwise_cons.2 ⟨?_, ascending⟩
      intro other member
      rcases List.mem_cons.1 member with same | later
      · exact same ▸ before
      · exact Points.lt_trans before (least other later)
    · split
      · exact ascending
      · rename_i notBefore different
        refine List.pairwise_cons.2 ⟨?_, ih tail⟩
        intro other member
        rcases mem_insertName.1 member with same | later
        · subst same
          exact Points.lt_of_not_lt notBefore different
        · exact least other later

structure PullCache where
  names : List Points
  ascending : names.Pairwise (· < ·)
deriving DecidableEq

inductive Corruption where
  | notJson (place : String)
  | unexpectedShape (text : String)
deriving DecidableEq

def Corruption.message : Corruption → String
  | notJson place => "Pull cache is not valid JSON: " ++ place
  | unexpectedShape text => "Pull cache has an unexpected shape: " ++ Text.quoted text

inductive Unreadable where
  | corrupted (reason : Corruption)
  | excess (excess : Json.Excess)
deriving DecidableEq

namespace PullCache

def empty : PullCache := ⟨[], .nil⟩

instance : Inhabited PullCache := ⟨empty⟩

def add (cache : PullCache) (name : Points) : PullCache :=
  ⟨insertName name cache.names, pairwise_insertName name cache.ascending⟩

def ofList (names : List Points) : PullCache := names.foldl add empty

def contains (cache : PullCache) (name : Points) : Bool := cache.names.contains name

def size (cache : PullCache) : Nat := cache.names.length

def serialize (cache : PullCache) : String :=
  Json.write (.map [("images", .list (cache.names.map .text))])

def texts? : List Json.Value → Option (List Points)
  | [] => some []
  | .text s :: rest => (texts? rest).map (s :: ·)
  | _ :: _ => none

def images? : Json.Value → Option (List Points)
  | .map members =>
    match Json.Value.get? members "images" with
    | some (.list items) => texts? items
    | _ => none
  | _ => none

/-- Reads a cache; an absent or empty text is an empty cache. -/
def parse (text : Option String) : Except Unreadable PullCache :=
  match text with
  | none | some "" => .ok empty
  | some text =>
    match Json.read text with
    | .error (.malformed problem left) => .error (.corrupted (.notJson (Json.place text.toList problem left)))
    | .error (.excess excess) => .error (.excess excess)
    | .ok value =>
      match images? value with
      | some names => .ok (ofList names)
      | none => .error (.corrupted (.unexpectedShape text))

def described (cache : PullCache) : String :=
  "ImagePullCache([" ++ ", ".intercalate (cache.names.map Points.quoted) ++ "])"

@[simp] theorem mem_add {cache : PullCache} {name other : Points} :
    other ∈ (cache.add name).names ↔ other = name ∨ other ∈ cache.names := mem_insertName

@[simp] theorem contains_add {cache : PullCache} {name other : Points} :
    (cache.add name).contains other = (other == name || cache.contains other) := by
  rw [Bool.eq_iff_iff]
  simp [contains]

end PullCache

end ImageBuild.Cache
