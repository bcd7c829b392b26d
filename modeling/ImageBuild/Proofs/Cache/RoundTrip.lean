import ImageBuild.Cache.PullCache
import ImageBuild.Proofs.Json.Text

namespace ImageBuild.Cache

open Json
open Text (Points)

/-! ### Lists of texts -/

theorem readWith_text (nested : Reader Value) (text : Points) (rest : List Char) :
    readWith nested (writeText text ++ rest) = .ok (.text text, rest) := by
  simp only [writeText, List.cons_append, List.append_assoc, List.nil_append, readWith,
    readText_writeText]

theorem writeItems_text (name : Points) (names : List Points) :
    ∃ rest, writeItems ((name :: names).map .text) = '"' :: rest := by
  cases names <;> exact ⟨_, rfl⟩

theorem length_le_writeItems (names : List Points) :
    names.length ≤ (writeItems (names.map .text)).length := by
  induction names with
  | nil => exact Nat.zero_le _
  | cons name names ih =>
    cases names with
    | nil => simp [writeItems, writeValue, writeText]
    | cons next names =>
      simp only [List.map_cons, writeItems, List.length_append, List.length_cons] at ih ⊢
      omega

theorem readItems_writeItems (nested : Reader Value) {names : List Points} (nonempty : names ≠ [])
    {steps : Nat} (enough : names.length ≤ steps) (rest : List Char) :
    readItems (readWith nested) steps (writeItems (names.map .text) ++ ']' :: rest) =
      .ok (names.map .text, rest) := by
  induction names generalizing steps with
  | nil => exact absurd rfl nonempty
  | cons name names ih =>
    obtain ⟨steps, rfl⟩ : ∃ fewer, steps = fewer + 1 := by
      cases steps with
      | zero => simp at enough
      | succ fewer => exact ⟨fewer, rfl⟩
    cases names with
    | nil =>
      have read := readWith_text nested name (']' :: rest)
      have closed : skipSpace (']' :: rest) = ']' :: rest := rfl
      simp only [List.map_cons, List.map_nil, writeItems, writeValue, readItems, read, closed]
    | cons next names =>
      have later := ih (List.cons_ne_nil _ _) (Nat.le_of_succ_le_succ enough)
      have read := readWith_text nested name
        (',' :: ' ' :: (writeItems ((next :: names).map .text) ++ ']' :: rest))
      obtain ⟨quoted, opened⟩ := writeItems_text next names
      have skipped : skipSpace (' ' :: (writeItems ((next :: names).map .text) ++ ']' :: rest)) =
          writeItems ((next :: names).map .text) ++ ']' :: rest := by
        rw [opened]
        rfl
      have comma (more : List Char) : skipSpace (',' :: more) = ',' :: more := rfl
      have written : writeItems ((name :: next :: names).map .text) ++ ']' :: rest =
          writeText name ++
            (',' :: ' ' :: (writeItems ((next :: names).map .text) ++ ']' :: rest)) := by
        simp only [List.map_cons, writeItems, writeValue, List.append_assoc, List.cons_append,
          List.nil_append]
      rw [written, readItems, read]
      simp only [comma, skipped, later]
      rfl

theorem readWith_items (nested : Reader Value) {first : Char} {inner : List Char}
    (flush : skipSpace (first :: inner) = first :: inner) (more : first ≠ ']') :
    readWith nested ('[' :: first :: inner) =
      (readItems nested (inner.length + 2) (first :: inner)).map fun read => (.list read.1, read.2) := by
  simp only [readWith, flush]
  split
  · rename_i same
    exact absurd (List.cons.inj same).1 more
  · rw [List.length_cons]
    cases readItems nested (inner.length + 2) (first :: inner) <;> rfl

theorem readWith_list (nested : Reader Value) (names : List Points) (rest : List Char) :
    readWith (readWith nested) ('[' :: writeItems (names.map .text) ++ ']' :: rest) =
      .ok (.list (names.map .text), rest) := by
  cases names with
  | nil => rfl
  | cons name names =>
    obtain ⟨quoted, opened⟩ := writeItems_text name names
    have enough : (name :: names).length ≤ (quoted ++ ']' :: rest).length + 2 := by
      have short := length_le_writeItems (name :: names)
      simp only [opened, List.length_append, List.length_cons] at short ⊢
      omega
    have read := readItems_writeItems nested (List.cons_ne_nil name names) enough rest
    rw [opened, List.cons_append] at read
    rw [List.cons_append, opened, List.cons_append, readWith_items _ rfl (by decide), read]
    rfl

theorem readMembers_single {item : Reader Value} {name : Points} {value : Value}
    {written rest : List Char} (flush : skipSpace written = written)
    (read : item written = .ok (value, '}' :: rest)) (steps : Nat) :
    readMembers item (steps + 1)
        ('"' :: (name.points.flatMap escapePoint ++ '"' :: ':' :: ' ' :: written)) =
      .ok ([(name, value)], rest) := by
  have skipped : skipSpace (' ' :: written) = written := flush
  have colon : skipSpace (':' :: ' ' :: written) = ':' :: ' ' :: written := rfl
  have closed : skipSpace ('}' :: rest) = '}' :: rest := rfl
  simp only [readMembers, readText_writeText, colon, skipped, read, closed]

theorem readWith_members (item : Reader Value) (inner : List Char) :
    readWith item ('{' :: '"' :: inner) =
      (readMembers item (inner.length + 2) ('"' :: inner)).map fun read => (Value.ofMembers read.1, read.2) := by
  have quote : skipSpace ('"' :: inner) = '"' :: inner := rfl
  simp only [readWith, quote]
  split
  · rename_i same
    cases same
  · rw [List.length_cons]
    cases readMembers item (inner.length + 2) ('"' :: inner) <;> rfl

theorem readWith_member {item : Reader Value} {name : Points} {value : Value}
    {written rest : List Char} (flush : skipSpace written = written)
    (read : item written = .ok (value, '}' :: rest)) :
    readWith item ('{' :: '"' :: (name.points.flatMap escapePoint ++ '"' :: ':' :: ' ' :: written)) =
      .ok (.map [(name, value)], rest) := by
  rw [readWith_members, readMembers_single flush read]
  rfl

/-! ### Members -/

namespace PullCache

theorem nodup_names (cache : PullCache) : cache.names.Nodup := by
  refine cache.ascending.imp ?_
  rintro name other less rfl
  exact Points.lt_irrefl name less

theorem ext {cache other : PullCache} (same : ∀ name, name ∈ cache.names ↔ name ∈ other.names) :
    cache = other := by
  have permuted := (List.perm_ext_iff_of_nodup cache.nodup_names other.nodup_names).2 same
  have equal : cache.names = other.names :=
    permuted.eq_of_pairwise (fun _ _ _ _ before after => absurd after (Points.lt_asymm before))
      cache.ascending other.ascending
  cases cache
  cases other
  subst equal
  rfl

theorem mem_foldl_add (names : List Points) (cache : PullCache) (name : Points) :
    name ∈ (names.foldl add cache).names ↔ name ∈ names ∨ name ∈ cache.names := by
  induction names generalizing cache with
  | nil => simp
  | cons first names ih =>
    rw [List.foldl_cons, ih, mem_add, List.mem_cons]
    grind

theorem mem_ofList {names : List Points} {name : Points} : name ∈ (ofList names).names ↔ name ∈ names := by
  rw [ofList, mem_foldl_add]
  simp [empty]

theorem ofList_names (cache : PullCache) : ofList cache.names = cache :=
  ext fun _ => mem_ofList

theorem texts?_map (names : List Points) : texts? (names.map .text) = some names := by
  induction names with
  | nil => rfl
  | cons name names ih => rw [List.map_cons, texts?, ih, Option.map_some]

/-! ### The whole text -/

theorem toList_serialize (cache : PullCache) :
    cache.serialize.toList = '{' :: '"' :: (("images" : Points).points.flatMap escapePoint ++
      '"' :: ':' :: ' ' :: ('[' :: writeItems (cache.names.map .text) ++ ']' :: ['}'])) := by
  rw [serialize, write, String.toList_ofList]
  simp only [writeValue, writeMembers, writeText, List.cons_append,
    List.append_assoc, List.nil_append]

theorem read_serialize (cache : PullCache) :
    Json.read cache.serialize = .ok (.map [("images", .list (cache.names.map .text))]) := by
  have listed := readWith_list (readValue 983) cache.names ['}']
  have whole := @readWith_member (readValue 985) "images" _ _ [] rfl listed
  have deep : readValue maxDepth (skipSpace cache.serialize.toList) =
      .ok (.map [("images", .list (cache.names.map .text))], []) := by
    rw [toList_serialize]
    exact whole
  simp only [Json.read, deep]
  rw [toList_serialize]
  rfl

/-- The text of a cache parses back to the cache. -/
theorem parse_serialize (cache : PullCache) : parse (some cache.serialize) = .ok cache := by
  have present : cache.serialize ≠ "" := by
    intro empty
    have opened := cache.toList_serialize
    rw [empty] at opened
    cases opened
  have found : images? (.map [("images", .list (cache.names.map .text))]) = some cache.names :=
    texts?_map cache.names
  unfold parse
  split
  · contradiction
  · rename_i same
    exact absurd (Option.some.inj same) present
  · rename_i same
    obtain rfl := Option.some.inj same
    rw [read_serialize]
    simp only [found, ofList_names]

-- Two halves are two names, and escaped side by side one character.
example :
    let text := "\x7b\"images\": [\"\\ud801\", \"\\ud800\", \"\\ud83d\\ude00\"]\x7d"
    (parse (some text)).toOption.map (·.names.map Points.numbers) = some [[0xD800], [0xD801], [0x1F600]] := by
  decide +kernel

end PullCache

end ImageBuild.Cache
