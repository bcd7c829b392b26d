namespace ImageBuild.Data

theorem lookup_of_distinct {κ ν : Type} [BEq κ] [LawfulBEq κ] {entries : List (κ × ν)}
    (distinct : entries.Pairwise fun a b => a.1 ≠ b.1) {key : κ} {value : ν} (member : (key, value) ∈ entries) :
    entries.lookup key = some value := by
  obtain ⟨front, back, rfl⟩ := List.append_of_mem member
  refine List.lookup_eq_some_iff.2 ⟨front, back, rfl, ?_⟩
  intro entry earlier
  have other := (List.pairwise_append.1 distinct).2.2 entry earlier _ List.mem_cons_self
  simpa using other.symm

theorem mem_of_lookup {κ ν : Type} [BEq κ] [LawfulBEq κ] {entries : List (κ × ν)} {key : κ} {value : ν}
    (found : entries.lookup key = some value) : (key, value) ∈ entries := by
  obtain ⟨front, back, rfl, -⟩ := List.lookup_eq_some_iff.1 found
  simp

/-- Writes an entry: a present key keeps its place. -/
def putEntry {α : Type} : List (String × α) → String → α → List (String × α)
  | [], key, value => [(key, value)]
  | (k, v) :: rest, key, value =>
    if k = key then (k, value) :: rest else (k, v) :: putEntry rest key value

theorem keys_putEntry {α : Type} (entries : List (String × α)) (key : String) (value : α) :
    (putEntry entries key value).map (·.1) =
      if key ∈ entries.map (·.1) then entries.map (·.1) else entries.map (·.1) ++ [key] := by
  induction entries with
  | nil => simp [putEntry]
  | cons entry rest ih =>
    obtain ⟨k, v⟩ := entry
    unfold putEntry
    by_cases same : k = key
    · simp [same]
    · simp only [same, if_false, List.map_cons, ih, List.mem_cons, Ne.symm same, false_or]
      split <;> simp

theorem nodup_putEntry {α : Type} {entries : List (String × α)} (key : String) (value : α)
    (distinct : (entries.map (·.1)).Nodup) : ((putEntry entries key value).map (·.1)).Nodup := by
  rw [keys_putEntry]
  split
  · exact distinct
  · rename_i absent
    rw [List.nodup_append]
    refine ⟨distinct, by simp, ?_⟩
    intro a present b last
    rw [List.mem_singleton] at last
    subst last
    exact fun same => absent (same ▸ present)

theorem putEntry_of_notMem {α : Type} {entries : List (String × α)} {key : String}
    (absent : key ∉ entries.map (·.1)) (value : α) : putEntry entries key value = entries ++ [(key, value)] := by
  induction entries with
  | nil => rfl
  | cons entry rest ih =>
    obtain ⟨k, v⟩ := entry
    obtain ⟨different, later⟩ := not_or.1 (mt List.mem_cons.2 absent)
    rw [putEntry, if_neg (Ne.symm different), ih later, List.cons_append]

@[ext] structure Table (α : Type) where
  entries : List (String × α)
  distinct : (entries.map (·.1)).Nodup
deriving DecidableEq

namespace Table

variable {α : Type}

def empty : Table α := ⟨[], by simp⟩

instance : Inhabited (Table α) := ⟨empty⟩

def keys (table : Table α) : List String := table.entries.map (·.1)

def put (table : Table α) (key : String) (value : α) : Table α :=
  ⟨putEntry table.entries key value, nodup_putEntry key value table.distinct⟩

def get? (table : Table α) (key : String) : Option α := table.entries.lookup key

def ofList (entries : List (String × α)) : Table α :=
  entries.foldl (fun table entry => table.put entry.1 entry.2) empty

/-- The entries of `table` with those of `upper` written on top. -/
def merge (table upper : Table α) : Table α :=
  upper.entries.foldl (fun table entry => table.put entry.1 entry.2) table

def mapValues {β : Type} (f : α → β) (table : Table α) : Table β where
  entries := table.entries.map fun (key, value) => (key, f value)
  distinct := by simpa [Function.comp_def] using table.distinct

def isEmpty (table : Table α) : Bool := table.entries.isEmpty

theorem entries_foldl_put {done rest : List (String × α)} (distinct : (done.map (·.1)).Nodup)
    (apart : ((done ++ rest).map (·.1)).Nodup) :
    (rest.foldl (fun table entry => table.put entry.1 entry.2) (⟨done, distinct⟩ : Table α)).entries =
      done ++ rest := by
  induction rest generalizing done with
  | nil => rw [List.foldl_nil, List.append_nil]
  | cons entry rest ih =>
    have split : done ++ entry :: rest = (done ++ [entry]) ++ rest := by simp
    rw [split] at apart ⊢
    have longer : ((done ++ [entry]).map (·.1)).Nodup := by
      rw [List.map_append] at apart
      exact (List.nodup_append.1 apart).1
    have absent : entry.1 ∉ done.map (·.1) := by
      rw [List.map_append, List.nodup_append] at longer
      exact fun present => longer.2.2 _ present _ (by simp) rfl
    have put : (⟨done, distinct⟩ : Table α).put entry.1 entry.2 = ⟨done ++ [entry], longer⟩ := by
      simp only [Table.put, putEntry_of_notMem absent]
    rw [List.foldl_cons, put, ih longer apart]

theorem ofList_entries (table : Table α) : ofList table.entries = table :=
  Table.ext (entries_foldl_put (by simp) table.distinct)

theorem get?_put (table : Table α) (key other : String) (value : α) :
    (table.put key value).get? other = if other = key then some value else table.get? other := by
  obtain ⟨entries, distinct⟩ := table
  simp only [put, get?]
  clear distinct
  induction entries with
  | nil =>
    rw [putEntry, List.lookup_cons]
    by_cases same : other = key
    · simp [same]
    · simp [same, beq_false_of_ne same]
  | cons entry rest ih =>
    obtain ⟨k, v⟩ := entry
    unfold putEntry
    by_cases taken : k = key
    · rw [if_pos taken, List.lookup_cons, List.lookup_cons, taken]
      by_cases same : other = key
      · simp [same]
      · simp [same, beq_false_of_ne same]
    · rw [if_neg taken, List.lookup_cons, List.lookup_cons, ih]
      by_cases same : other = key
      · simp [same, beq_false_of_ne (Ne.symm taken)]
      · simp [same]

theorem get?_foldl_put {written : List (String × α)} (distinct : (written.map (·.1)).Nodup) (table : Table α)
    (key : String) :
    (written.foldl (fun table entry => table.put entry.1 entry.2) table).get? key =
      (written.lookup key).or (table.get? key) := by
  induction written generalizing table with
  | nil => rfl
  | cons entry rest ih =>
    obtain ⟨k, v⟩ := entry
    obtain ⟨absent, later⟩ := List.nodup_cons.1 distinct
    rw [List.foldl_cons, ih later, get?_put, List.lookup_cons]
    by_cases same : key = k
    · subst same
      have once : rest.lookup key = none := by
        refine List.lookup_eq_none_iff.2 fun other member => bne_iff_ne.2 ?_
        exact fun same => absent (List.mem_map.2 ⟨other, member, same.symm⟩)
      simp [once]
    · simp [same, beq_false_of_ne same]

theorem get?_merge (table upper : Table α) (key : String) :
    (table.merge upper).get? key = (upper.get? key).or (table.get? key) :=
  get?_foldl_put upper.distinct table key

theorem get?_ofList {entries : List (String × α)} (distinct : (entries.map (·.1)).Nodup) (key : String) :
    (ofList entries).get? key = entries.lookup key := by
  rw [ofList, get?_foldl_put distinct]
  exact Option.or_none

theorem get?_foldl_put_reverse (written : List (String × α)) (table : Table α) (key : String) :
    (written.foldl (fun table entry => table.put entry.1 entry.2) table).get? key =
      (written.reverse.lookup key).or (table.get? key) := by
  induction written generalizing table with
  | nil => rfl
  | cons entry rest ih =>
    rw [List.foldl_cons, ih, get?_put, List.reverse_cons, List.lookup_append, List.lookup_cons]
    by_cases same : key = entry.1
    · simp [same]
    · simp [same, beq_false_of_ne same]

/-- Of entries with the same key the last one counts. -/
theorem get?_ofList_eq_some {entries : List (String × α)} {key : String} {value : α} :
    (ofList entries).get? key = some value ↔
      ∃ front back, entries = front ++ (key, value) :: back ∧ ∀ later ∈ back, later.1 ≠ key := by
  have last : (ofList entries).get? key = entries.reverse.lookup key := by
    rw [ofList, get?_foldl_put_reverse]
    exact Option.or_none
  rw [last, List.lookup_eq_some_iff]
  constructor
  · rintro ⟨back, front, split, later⟩
    refine ⟨front.reverse, back.reverse, ?_, ?_⟩
    · rw [← List.reverse_reverse entries, split]
      simp
    · intro entry behind
      simpa using Ne.symm (bne_iff_ne.1 (later entry (List.mem_reverse.1 behind)))
  · rintro ⟨front, back, rfl, later⟩
    refine ⟨back.reverse, front.reverse, by simp, ?_⟩
    intro entry behind
    exact bne_iff_ne.2 (later entry (List.mem_reverse.1 behind)).symm

theorem get?_eq_some {table : Table α} {key : String} {value : α} :
    table.get? key = some value ↔ (key, value) ∈ table.entries :=
  ⟨mem_of_lookup, lookup_of_distinct (List.pairwise_map.1 table.distinct)⟩

theorem get?_filter (table : Table α) (keep : String → Bool) (key : String) :
    (ofList (table.entries.filter fun entry => keep entry.1)).get? key = if keep key then table.get? key else none := by
  have distinct : ((table.entries.filter fun entry => keep entry.1).map (·.1)).Nodup :=
    table.distinct.sublist (List.filter_sublist.map _)
  refine Option.ext fun value => ?_
  rw [get?_ofList distinct]
  calc (table.entries.filter fun entry => keep entry.1).lookup key = some value
    _ ↔ (key, value) ∈ table.entries.filter fun entry => keep entry.1 :=
        ⟨mem_of_lookup, lookup_of_distinct (List.pairwise_map.1 distinct)⟩
    _ ↔ (if keep key then table.get? key else none) = some value := by
        rw [List.mem_filter, ← get?_eq_some]
        split <;> simp [*]

theorem get?_mapValues {β : Type} (f : α → β) (table : Table α) (key : String) :
    (table.mapValues f).get? key = (table.get? key).map f := by
  refine Option.ext fun value => ?_
  rw [get?_eq_some, Option.map_eq_some_iff, mapValues, List.mem_map]
  constructor
  · rintro ⟨⟨key, old⟩, member, ⟨⟩⟩
    exact ⟨old, get?_eq_some.2 member, rfl⟩
  · rintro ⟨old, found, rfl⟩
    exact ⟨(key, old), get?_eq_some.1 found, rfl⟩

end Table

end ImageBuild.Data
