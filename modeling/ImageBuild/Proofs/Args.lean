import ImageBuild.Args
import Mathlib.Data.List.Nodup
import Mathlib.Data.String.Basic

namespace ImageBuild.Args

open Data

def marked? (marker : String) (properties : Table String) (name : String) : Option String :=
  if name = "" then none else (properties.get? (marker ++ name)).filter (· ≠ "")

section Property

variable {marker name value : String}

theorem isPrefixOf?_marker {key : String} {rest : List Char} :
    List.isPrefixOf? marker.toList key.toList = some rest ↔ key = marker ++ String.ofList rest := by
  rw [List.isPrefixOf?_eq_some_iff_append_eq, ← String.toList_inj, String.toList_append, String.toList_ofList,
    eq_comm]

theorem ofProperty?_eq_some {property : String × String} :
    ofProperty? marker property = some (name, value) ↔
      name ≠ "" ∧ value ≠ "" ∧ property = (marker ++ name, value) := by
  constructor
  · intro set
    unfold ofProperty? at set
    split at set
    · cases set
    · cases set
    · rename_i rest further cut
      split at set
      · cases set
      · cases set
        rename_i given
        exact ⟨fun empty => further (String.ofList_eq_empty_iff.1 empty), given,
          Prod.ext (isPrefixOf?_marker.1 cut) rfl⟩
  · rintro ⟨named, given, same⟩
    cases same
    have cut : List.isPrefixOf? marker.toList (marker ++ name).toList = some name.toList :=
      isPrefixOf?_marker.2 (by rw [String.ofList_toList])
    unfold ofProperty?
    rw [cut]
    split
    · rename_i empty
      exact absurd (String.toList_eq_nil_iff.1 (Option.some.inj empty)) named
    · rename_i none
      cases none
    · rename_i rest further found
      cases found
      rw [if_neg given, String.ofList_toList]

theorem marked?_eq_some {properties : Table String} :
    marked? marker properties name = some value ↔
      name ≠ "" ∧ value ≠ "" ∧ (marker ++ name, value) ∈ properties.entries := by
  unfold marked?
  split
  · simp [*]
  · simp [*, Option.filter_eq_some_iff, Table.get?_eq_some, and_comm]

theorem nodup_ofProperty? (marker : String) (properties : Table String) :
    ((properties.entries.filterMap (ofProperty? marker)).map (·.1)).Nodup := by
  refine List.pairwise_map.2 (.filterMap _ ?_ (List.pairwise_map.1 properties.distinct))
  rintro one other apart ⟨name, value⟩ set ⟨name', value'⟩ set' rfl
  rw [(ofProperty?_eq_some.1 set).2.2, (ofProperty?_eq_some.1 set').2.2] at apart
  exact apart rfl

theorem get?_fromProperties (marker : String) (properties : Table String) (name : String) :
    (fromProperties marker properties).get? name = marked? marker properties name := by
  refine Option.ext fun value => ?_
  have distinct := nodup_ofProperty? marker properties
  calc (fromProperties marker properties).get? name = some value
    _ ↔ (name, value) ∈ properties.entries.filterMap (ofProperty? marker) := by
        rw [fromProperties, Table.get?_ofList distinct]
        exact ⟨mem_of_lookup, lookup_of_distinct (List.pairwise_map.1 distinct)⟩
    _ ↔ marked? marker properties name = some value := by
        simp only [List.mem_filterMap, ofProperty?_eq_some, marked?_eq_some]
        exact ⟨fun ⟨_, member, named, given, same⟩ => ⟨named, given, same ▸ member⟩,
          fun ⟨named, given, member⟩ => ⟨_, member, named, given, rfl⟩⟩

end Property

theorem get?_resolve (marker : String) (run project global image : Table String) (name : String) :
    (resolve marker run project global image).get? name =
      (image.get? name).or
        ((marked? marker global name).or ((marked? marker project name).or (run.get? name))) := by
  unfold resolve
  rw [Table.get?_merge, Table.get?_merge, Table.get?_merge, Table.get?_merge, get?_fromProperties,
    get?_fromProperties]
  exact congrArg _ (congrArg _ (congrArg _ Option.or_none))

/-- Each source hides those below it, for every marker and every name, even one that itself begins with
the marker. -/
theorem get?_resolveGiven (marker : String) (run project global image : Option (Table String)) (name : String) :
    (resolveGiven marker run project global image).get? name =
      (image.bind fun own => own.get? name).or
        ((global.bind fun properties => marked? marker properties name).or
          ((project.bind fun properties => marked? marker properties name).or
            (run.bind fun args => args.get? name))) := by
  have plain (source : Option (Table String)) :
      (source.getD .empty).get? name = source.bind fun args => args.get? name := by
    cases source <;> rfl
  have shown (source : Option (Table String)) :
      marked? marker (source.getD .empty) name = source.bind fun properties => marked? marker properties name := by
    cases source
    · unfold marked?
      split <;> rfl
    · rfl
  rw [resolveGiven, get?_resolve, plain, plain, shown, shown]

end ImageBuild.Args
