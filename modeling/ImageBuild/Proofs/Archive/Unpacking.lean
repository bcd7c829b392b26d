import ImageBuild.Proofs.Archive.Listing
import ImageBuild.Proofs.Archive.Ways

namespace ImageBuild.Archive

open Files

/-! ### Places that can be written -/

namespace Unpacked

variable {files : Unpacked} {place : List String}

/-- A place can be written: all directories above it are there, and nothing is a link. -/
structure Ready (files : Unpacked) (place : List String) : Prop where
  further : place ≠ []
  named : ∀ name ∈ place, IsName name
  above : ∀ front, front <+: place → front ≠ place → files.get? front = some .folder
  noLink : ∀ other target, files.get? other ≠ some (.link target)

theorem Ready.leads (ready : Ready files place) : Leads files [] place place := by
  refine ⟨fun empty => (ready.named "" empty).nonempty rfl, fun name member => (ready.named name member).short,
    reach_names ready.named [], ?_, ready.noLink place⟩
  intro front early shorter
  exact ⟨front, reach_names (fun name member => ready.named name (early.subset member)) [], ready.above front early shorter⟩

end Unpacked

/-! ### Members without links -/

theorem pieces_slashed {place : List String} (further : place ≠ []) (named : ∀ name ∈ place, IsName name) :
    pieces (slashed place) = place ∧ pathParts (slashed place) = place := by
  have whole : pieces (slashed place) = place := by
    unfold pieces
    rw [(splitAll_slashed further (fun name member => (named name member).noSlash) []).2, List.map_map]
    simp [Function.comp_def]
  refine ⟨whole, ?_⟩
  unfold pathParts
  rw [whole, List.filter_eq_self]
  intro name member
  simpa using (named name member).nonempty

variable {files files' : Unpacked}

theorem require_gives_of {step : Unpacked.Change Unit} (gives : Gives step files () files') :
    Gives (Unpacking.require step) files () files' := by
  unfold Unpacking.require
  refine bind_gives.2 ⟨.ok (), files', ?_, pure_gives.2 ⟨rfl, rfl⟩⟩
  exact lift_gives.2 gives

/-- The name of a member leads to a place once the directories above have been made. -/
structure Arrives (files files' : Unpacked) (name : String) (place : List String) : Prop where
  relative : name.toList.head? ≠ some '/'
  noLink : ∀ other target, files.get? other ≠ some (.link target)
  parents : Gives (Unpacked.makeParents (pathParts name)) files () files'
  leads : Unpacked.Leads files' [] (pathParts name) place

theorem Unpacked.Ready.arrives {place : List String} (ready : files.Ready place) :
    Arrives files files (slashed place) place := by
  have parts := (pieces_slashed ready.further ready.named).2
  refine ⟨head_slashed ready.named, ready.noLink, ?_, ?_⟩ <;> rw [parts]
  · exact Unpacked.makeParents_gives ready.leads ready.further
  · exact ready.leads

def entryOf : Item → Entry
  | .file content => .file content
  | _ => .folder

def isPlain : Item → Bool
  | .file _ | .directory => true
  | _ => false

variable {place : List String} {name : String}

/-- The checks pass, so only what is done at the end of the path matters. -/
theorem unpackMember_run (arrives : Arrives files files' name place) (before all : List Member) {item : Item}
    (plain : isPlain item) :
    (unpackMember before all (name, item)).run.run files =
      (match item with
        | .file content => Unpacking.require (Unpacked.writeFile (pathParts name) content)
        | .directory => Unpacking.require (Unpacked.makeFolder (pathParts name))
        | _ => pure () : Unpacking Unit).run.run files' := by
  have same : String.ofList (dropSlashes name.toList) = name := memberName_eq arrives.relative
  have inside : files.staysInside (pieces name) = true := by
    rw [Unpacked.staysInside_eq arrives.noLink, ← Unpacked.reach_filled, ← pathParts, arrives.leads.reached]
    rfl
  have checked : Gives (checkMember name item) files () files := by
    unfold checkMember
    refine bind_gives.2 ⟨files, files, get_gives.2 ⟨rfl, rfl⟩, ?_⟩
    rw [if_pos inside]
    cases item with
    | file | directory => exact pure_gives.2 ⟨rfl, rfl⟩
    | symbolicLink | hardLink | special => cases plain
  unfold unpackMember
  dsimp only
  rw [same, run_of_gives checked, Archive.place, run_of_gives (require_gives_of arrives.parents)]
  cases item with
  | file | directory => rfl
  | symbolicLink | hardLink | special => cases plain

theorem unpackMember_new (arrives : Arrives files files' name place) (vacant : files'.get? place = none)
    (before all : List Member) {item : Item} (plain : isPlain item) :
    Gives (unpackMember before all (name, item)) files () (files'.add place (entryOf item)) := by
  unfold Gives
  rw [unpackMember_run arrives before all plain]
  cases item with
  | file content =>
    refine require_gives_of ?_
    unfold Gives
    rw [Unpacked.writeFile_run arrives.leads, vacant]
    rfl
  | directory =>
    refine require_gives_of ?_
    unfold Gives
    rw [Unpacked.makeFolder_run arrives.leads, vacant]
    rfl
  | symbolicLink | hardLink | special => cases plain

theorem unpackMember_there (arrives : Arrives files files' name place) (there : files'.get? place = some .folder)
    (before all : List Member) : Gives (unpackMember before all (name, .directory)) files () files' := by
  unfold Gives
  rw [unpackMember_run arrives before all rfl]
  refine require_gives_of ?_
  unfold Gives
  rw [Unpacked.makeFolder_run arrives.leads, there]

theorem unpackMember_blocked (arrives : Arrives files files' name place) (there : files'.get? place = some .folder)
    (before all : List Member) (content : Content) :
    (unpackMember before all (name, .file content)).run.run files =
      (.error (.failure (.problem (.file .isDirectory))), files') := by
  have blocked := Unpacked.writeFile_run arrives.leads content
  rw [there] at blocked
  rw [unpackMember_run arrives before all rfl]
  unfold Unpacking.require Unpacking.change
  have told : Gives (ExceptT.lift (Unpacked.writeFile (pathParts name) content).run : Unpacking _) files'
      (.error .isDirectory) files' := lift_gives.2 blocked
  exact run_of_gives told _

theorem unpackMember_outside (relative : name.toList.head? ≠ some '/')
    (noLink : ∀ other target, files.get? other ≠ some (.link target)) (outside : Unpacked.reach [] (pathParts name) = none)
    (before all : List Member) (item : Item) :
    (unpackMember before all (name, item)).run.run files = (.error (.failure (.problem .outside)), files) := by
  have same : String.ofList (dropSlashes name.toList) = name := memberName_eq relative
  have leaves : files.staysInside (pieces name) = false := by
    rw [Unpacked.staysInside_eq noLink, ← Unpacked.reach_filled, ← pathParts, outside]
    rfl
  have refused : (checkMember name item).run.run files = (.error (.failure (.problem .outside)), files) := by
    unfold checkMember
    rw [get_run, leaves]
    rfl
  unfold unpackMember
  dsimp only
  rw [same, bind_run, refused]

/-! ### A listing -/

/-- Files and directories by their places, each after the directories in which it lies. -/
structure Unfolds (found : List (List String × Item)) : Prop where
  ascending : found.Pairwise fun a b => a.1 < b.1
  further : ∀ one ∈ found, one.1 ≠ []
  named : ∀ one ∈ found, ∀ name ∈ one.1, IsName name
  plain : ∀ one ∈ found, isPlain one.2
  parents : ∀ one ∈ found, ∀ front, front <+: one.1 → front ≠ one.1 → front ≠ [] → (front, .directory) ∈ found

def spread (found : List (List String × Item)) : Unpacked := ⟨found.map fun one => (one.1, entryOf one.2)⟩

theorem get?_spread {found : List (List String × Item)} (ascending : found.Pairwise fun a b => a.1 < b.1)
    (further : place ≠ []) {entry : Entry} :
    (spread found).get? place = some entry ↔ ∃ item, (place, item) ∈ found ∧ entry = entryOf item := by
  rw [get?_of_further further]
  constructor
  · intro known
    obtain ⟨one, member, same⟩ := List.mem_map.1 (Data.mem_of_lookup known)
    cases same
    exact ⟨one.2, member, rfl⟩
  · rintro ⟨item, member, rfl⟩
    have distinct : (spread found).entries.Pairwise fun a b => a.1 ≠ b.1 := by
      refine List.pairwise_map.2 (ascending.imp ?_)
      intro a b less
      exact ne_of_lt less
    exact Data.lookup_of_distinct distinct (List.mem_map.2 ⟨_, member, rfl⟩)

theorem prefix_lt {front place : List String} (early : front <+: place) (shorter : front ≠ place) : front < place := by
  obtain ⟨rest, rfl⟩ := early
  cases rest with
  | nil => exact absurd (List.append_nil front).symm shorter
  | cons name rest =>
    have less : front ++ [] < front ++ name :: rest := List.append_left_lt (List.nil_lt_cons name rest)
    rwa [List.append_nil] at less

theorem noLink_spread {found : List (List String × Item)} (ascending : found.Pairwise fun a b => a.1 < b.1)
    (other : List String) (target : String) : (spread found).get? other ≠ some (.link target) := by
  intro known
  by_cases further : other = []
  · subst further
    cases known
  · obtain ⟨item, -, same⟩ := (get?_spread ascending further).1 known
    cases item <;> cases same

theorem Unfolds.parent {done rest : List (List String × Item)} {item : Item}
    (unfolds : Unfolds (done ++ (place, item) :: rest)) {front : List String} (early : front <+: place)
    (shorter : front ≠ place) (further : front ≠ []) : (front, .directory) ∈ done := by
  have member : (place, item) ∈ done ++ (place, item) :: rest := by simp
  have behind := (List.pairwise_cons.1 (List.pairwise_append.1 unfolds.ascending).2.1).1
  rcases List.mem_append.1 (unfolds.parents _ member front early shorter further) with inside | here
  · exact inside
  · rcases List.mem_cons.1 here with same | later
    · cases same
      exact absurd rfl shorter
    · exact absurd (prefix_lt early shorter) (lt_asymm (behind _ later))

theorem Unfolds.ready {done rest : List (List String × Item)} {item : Item}
    (unfolds : Unfolds (done ++ (place, item) :: rest)) :
    (spread done).Ready place ∧ (spread done).get? place = none := by
  obtain ⟨sorted, -, before⟩ := List.pairwise_append.1 unfolds.ascending
  have member : (place, item) ∈ done ++ (place, item) :: rest := by simp
  have further := unfolds.further _ member
  refine ⟨⟨further, unfolds.named _ member, ?_, noLink_spread sorted⟩, ?_⟩
  · intro front early shorter
    by_cases top : front = []
    · subst top
      rfl
    · exact (get?_spread sorted top).2 ⟨.directory, unfolds.parent early shorter top, rfl⟩
  · cases known : (spread done).get? place with
    | none => rfl
    | some entry =>
      obtain ⟨other, inside, -⟩ := (get?_spread sorted further).1 known
      exact absurd (before _ inside _ List.mem_cons_self) (lt_irrefl place)

/-- The members of a listing are unpacked one by one, and what follows finds them all. -/
theorem unpackAll_listing {found : List (List String × Item)} (unfolds : Unfolds found) (all more : List Member)
    (done rest : List (List String × Item)) (split : done ++ rest = found) (before : List Member) :
    ∃ before', unpackAll all before (rest.map (memberOf "") ++ more) (spread done) =
      unpackAll all before' more (spread found) := by
  -- by induction on what is left; `spread done` holds what has been unpacked
  induction rest generalizing done before with
  | nil =>
    rw [List.append_nil] at split
    exact ⟨before, by rw [split]; rfl⟩
  | cons one rest ih =>
    obtain ⟨place, item⟩ := one
    subst split
    obtain ⟨ready, vacant⟩ := unfolds.ready
    have plain := unfolds.plain (place, item) (by simp)
    have named : memberOf "" (place, item) = (slashed place, item) := by
      rw [memberOf, String.empty_append, memberName_eq (head_slashed ready.named)]
    have step := unpackMember_new ready.arrives vacant before all plain
    obtain ⟨before', onwards⟩ := ih (done ++ [(place, item)]) (by simp) (before ++ [(slashed place, item)])
    refine ⟨before', ?_⟩
    rw [← onwards, List.map_cons, List.cons_append, named, unpackAll, step]
    dsimp only
    congr 1
    simp [spread, Unpacked.add]

theorem readName_eq {name : String} (ends : name.toList.getLast? ≠ some '/') (item : Item) : readName name item = name := by
  cases item with
  | file | symbolicLink | hardLink | special => rfl
  | directory =>
    have relative : memberName (String.ofList name.toList.reverse) = String.ofList name.toList.reverse :=
      memberName_eq (by simpa using ends)
    have same := congrArg String.toList relative
    unfold memberName at same
    rw [String.toList_ofList, String.toList_ofList] at same
    rw [readName, dropSlashes, same, List.reverse_reverse, String.ofList_toList]

theorem getLast?_slashed {place : List String} (further : place ≠ []) (named : ∀ name ∈ place, IsName name) :
    ∃ c, (slashed place).toList.getLast? = some c ∧ c ≠ '/' := by
  obtain ⟨front, last, rfl⟩ := (List.eq_nil_or_concat place).resolve_left further
  rw [List.concat_eq_append] at named ⊢
  have isName := named last (by simp)
  obtain ⟨more, c, spelled⟩ := (List.eq_nil_or_concat last.toList).resolve_left fun nothing =>
    isName.nonempty (by simpa using nothing)
  refine ⟨c, ?_, ?_⟩
  · by_cases top : front = []
    · subst top
      simp [slashed, spelled]
    · have cut : slashed (front ++ [last]) = slashed front ++ "/" ++ last := by
        rw [slashed, String.intercalate_append_of_ne_nil top (List.cons_ne_nil last []), String.intercalate_singleton]
        rfl
      rw [cut, String.toList_append, spelled, List.concat_eq_append, ← List.append_assoc, List.getLast?_concat]
  · rintro rfl
    exact isName.noSlash (by simp [spelled])

theorem readName_slashed {place : List String} (further : place ≠ []) (named : ∀ name ∈ place, IsName name) (item : Item) :
    readName (slashed place) item = slashed place := by
  obtain ⟨c, last, other⟩ := getLast?_slashed further named
  exact readName_eq (by simpa [last] using other) item

/-- A listing is unpacked as it is; the files behind it come next. -/
theorem unpack_listing {found : List (List String × Item)} (unfolds : Unfolds found) {more : List Member}
    (files : ∀ member ∈ more, member.2.isFile) :
    ∃ all before, unpack (found.map (memberOf "") ++ more) = unpackAll all before more (spread found) := by
  have read : (found.map (memberOf "") ++ more).map (fun member => (readName member.1 member.2, member.2)) =
      found.map (memberOf "") ++ more := by
    rw [List.map_append, List.map_map]
    congr 1
    · refine List.map_congr_left ?_
      intro one member
      have named : memberName ("" ++ slashed one.1) = slashed one.1 := by
        rw [String.empty_append, memberName_eq (head_slashed (unfolds.named one member))]
      simp only [Function.comp, memberOf, named, readName_slashed (unfolds.further one member) (unfolds.named one member)]
    · refine (List.map_congr_left ?_).trans (List.map_id more)
      intro member known
      have isFile := files member known
      obtain ⟨name, item⟩ := member
      cases item with
      | file => rfl
      | _ => cases isFile
  obtain ⟨before, onwards⟩ := unpackAll_listing unfolds (found.map (memberOf "") ++ more) more [] found rfl []
  refine ⟨found.map (memberOf "") ++ more, before, ?_⟩
  rw [← onwards]
  unfold unpack
  dsimp only
  rw [read]
  rfl

/-! ### One file more -/

theorem ready_top (noLink : ∀ other target, files.get? other ≠ some (.link target)) {name : String} (isName : IsName name) :
    files.Ready [name] := by
  refine ⟨List.cons_ne_nil name [], by simpa using isName, ?_, noLink⟩
  intro front early shorter
  cases front with
  | nil => rfl
  | cons first more =>
    obtain ⟨rfl, nothing⟩ := List.cons_prefix_cons.1 early
    rw [List.prefix_nil.1 nothing] at shorter
    exact absurd rfl shorter

end ImageBuild.Archive
