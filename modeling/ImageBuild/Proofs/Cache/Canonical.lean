import ImageBuild.Proofs.Cache.RoundTrip

/-!
# One text for each set of images

However a cache came to hold its images, its text depends on their set alone and tells them all.
`serialize_eq_iff` is the step from texts back to members.
-/

namespace ImageBuild.Cache

open Text (Points)

namespace PullCache

def built (given added : List Points) : PullCache := added.foldl add (ofList given)

theorem mem_built {given added : List Points} {name : Points} :
    name ∈ (built given added).names ↔ name ∈ given ∨ name ∈ added := by
  rw [built, mem_foldl_add, mem_ofList, or_comm]

theorem serialize_injective {cache other : PullCache} (same : cache.serialize = other.serialize) :
    cache = other := by
  have reread := cache.parse_serialize
  rw [same, other.parse_serialize] at reread
  exact (Except.ok.inj reread).symm

theorem serialize_eq_iff {cache other : PullCache} :
    cache.serialize = other.serialize ↔ ∀ name, name ∈ cache.names ↔ name ∈ other.names := by
  constructor
  · intro same name
    rw [serialize_injective same]
  · intro same
    rw [ext same]

/-- The text of a cache is read as exactly the names it was built from, the names are listed once
each by ascending code points, and two caches have one text exactly when they have the same names. -/
theorem text_determines_images (given added given' added' : List Points) :
    (∃ cache, parse (some (built given added).serialize) = .ok cache ∧
      ∀ name, name ∈ cache.names ↔ name ∈ given ∨ name ∈ added) ∧
    (∀ name, name ∈ (built given added).names ↔ name ∈ given ∨ name ∈ added) ∧
    ((built given added).names.map Points.numbers).Pairwise (· < ·) ∧
    ((built given added).serialize = (built given' added').serialize ↔
      ∀ name, name ∈ given ∨ name ∈ added ↔ name ∈ given' ∨ name ∈ added') := by
  refine ⟨⟨_, parse_serialize _, fun _ => mem_built⟩, fun _ => mem_built, ?_, ?_⟩
  · have ascending := (built given added).ascending
    exact ascending.map Points.numbers fun _ _ before => before
  · rw [serialize_eq_iff]
    simp only [mem_built]

end PullCache

end ImageBuild.Cache
