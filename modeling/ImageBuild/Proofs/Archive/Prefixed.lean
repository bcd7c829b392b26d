import ImageBuild.Proofs.Archive.Making
import ImageBuild.Proofs.Archive.Unpacking

/-!
# Unpacking a listing under a name

A listing that has been packed under a name is unpacked where the name leads: the first member makes the
directories of the name, and every member becomes an entry below the last of them. That goes wrong where the name
leads out of the directory, and where one of its directories is in the way of a file.
-/

namespace ImageBuild.Archive

open Files

/-! ### Names of members -/

section names

variable {place : List String}

theorem pathParts_between (first second : String) :
    pathParts (first ++ "/" ++ second) = pathParts first ++ pathParts second := by
  have cut : (first ++ "/" ++ second).toList = first.toList ++ '/' :: second.toList := by simp
  simp only [pathParts, pieces, cut, Text.splitAll_between, List.map_append, List.filter_append]

theorem pathParts_memberName (name : String) : pathParts (memberName name) = pathParts name := by
  have dropped : ∀ s : List Char,
      pathParts (String.ofList (s.dropWhile (· == '/'))) = pathParts (String.ofList s) := by
    intro s
    induction s with
    | nil => rfl
    | cons c rest ih =>
      by_cases slash : c = '/'
      · subst slash
        have further : pathParts (String.ofList ('/' :: rest)) = pathParts (String.ofList rest) := by
          simp [pathParts, pieces, Text.splitAll]
        rw [List.dropWhile_cons_of_pos (by simp), ih, further]
      · rw [List.dropWhile_cons_of_neg (by simpa using slash)]
  have same := dropped name.toList
  rwa [String.ofList_toList] at same

theorem pathParts_memberOf (name : String) (further : place ≠ []) (named : ∀ name ∈ place, IsName name) (item : Item) :
    pathParts (memberOf (Job.nameStart name) (place, item)).1 = pathParts name ++ place := by
  have own := (pieces_slashed further named).2
  rw [memberOf, pathParts_memberName, Job.nameStart]
  split
  · rename_i top
    obtain rfl : name = "" := by simpa using top
    rw [String.empty_append, own]
    rfl
  · rw [pathParts_between, own]

theorem head?_memberName (name : String) : (memberName name).toList.head? ≠ some '/' := by
  rw [memberName, String.toList_ofList]
  intro first
  have known := List.head?_dropWhile_not (· == '/') name.toList
  rw [first] at known
  simp at known

theorem readName_memberOf (start : String) (further : place ≠ []) (named : ∀ name ∈ place, IsName name) (item : Item) :
    readName (memberOf start (place, item)).1 item = (memberOf start (place, item)).1 := by
  obtain ⟨c, last, other⟩ := getLast?_slashed further named
  refine readName_eq ?_ item
  rw [memberOf, memberName, String.toList_ofList]
  intro slash
  obtain ⟨front, cut⟩ := List.dropWhile_suffix (l := (start ++ slashed place).toList) (· == '/')
  have whole : (start ++ slashed place).toList.getLast? = some '/' := by
    rw [← cut, List.getLast?_append, slash]
    rfl
  rw [String.toList_append, List.getLast?_append, last] at whole
  exact other (Option.some.inj whole)

end names

/-! ### Files below a path -/

section below

variable {files files' : Unpacked} {lead base place : List String} {item : Item}
  {done rest : List (List String × Item)}

/-- The directories of a path have been made, and what has been unpacked stands below the place to which it leads. -/
def Unpacked.Spreads (files : Unpacked) (lead base : List String) (done : List (List String × Item)) : Prop :=
  ∀ place entry, files.get? place = some entry ↔
    (entry = .folder ∧ Unpacked.Passes lead place) ∨ ∃ one ∈ done, place = base ++ one.1 ∧ entry = entryOf one.2

theorem spreads_nil : files.Spreads lead base [] ↔ files.Paved lead := by
  simp [Unpacked.Spreads, Unpacked.Paved]

theorem noLink_of_spreads (spreads : files.Spreads lead base done) (other : List String) (link : String) :
    files.get? other ≠ some (.link link) := by
  intro known
  rcases (spreads other _).1 known with ⟨folder, -⟩ | ⟨one, -, -, same⟩
  · cases folder
  · cases item : one.2 <;> rw [item] at same <;> cases same

/-- A path of which something may be unpacked. -/
structure Sound (lead base : List String) : Prop where
  filled : "" ∉ lead
  short : ∀ part ∈ lead, part.utf8ByteSize ≤ Unpacked.maxName
  reached : Unpacked.reach [] lead = some base

theorem Sound.reach (sound : Sound lead base) (named : ∀ name ∈ place, IsName name) :
    Unpacked.reach [] (lead ++ place) = some (base ++ place) := by
  rw [Unpacked.reach_append, sound.reached]
  exact Unpacked.reach_names named base

theorem leads_of_spreads (sound : Sound lead base) (unfolds : Unfolds (done ++ (place, item) :: rest))
    (spreads : files.Spreads lead base done) : Unpacked.Leads files [] (lead ++ place) (base ++ place) := by
  have member : (place, item) ∈ done ++ (place, item) :: rest := by simp
  have named := unfolds.named _ member
  refine ⟨?_, ?_, sound.reach named, ?_, noLink_of_spreads spreads _⟩
  · intro empty
    rcases List.mem_append.1 empty with led | inside
    · exact sound.filled led
    · exact (named "" inside).nonempty rfl
  · intro part inside
    rcases List.mem_append.1 inside with led | below
    · exact sound.short part led
    · exact (named part below).short
  · -- what is on the way belongs to the path, or is a directory that the listing has before its files
    intro front early shorter
    rcases List.prefix_or_prefix_of_prefix early (List.prefix_append lead place) with above | ⟨below, rfl⟩
    · have inside : (Unpacked.reach [] lead).isSome := by rw [sound.reached]; rfl
      obtain ⟨passed, reached⟩ := Option.isSome_iff_exists.1 (Unpacked.isSome_reach_front above inside)
      exact ⟨passed, reached, (spreads passed .folder).2 (.inl ⟨rfl, front, above, reached⟩)⟩
    · have before : below <+: place := (List.prefix_append_right_inj lead).1 early
      have other : below ≠ place := fun same => shorter (by rw [same])
      have reached := sound.reach fun name inside => named name (before.subset inside)
      refine ⟨_, reached, ?_⟩
      by_cases top : below = []
      · subst top
        rw [List.append_nil]
        exact (spreads base .folder).2 (.inl ⟨rfl, lead, List.prefix_rfl, sound.reached⟩)
      · exact (spreads _ _).2 (.inr ⟨_, unfolds.parent before other top, rfl, rfl⟩)

/-- How far the unpacking has come: nothing has been done yet, or the directories of the path are there. -/
def Unpacked.Begun (files : Unpacked) (lead base : List String) (done : List (List String × Item)) : Prop :=
  done = [] ∧ files = .empty ∨ files.Spreads lead base done

theorem noLink_of_begun (begun : files.Begun lead base done) (other : List String) (link : String) :
    files.get? other ≠ some (.link link) := by
  rcases begun with ⟨-, rfl⟩ | spreads
  · exact Unpacked.noLink_empty other link
  · exact noLink_of_spreads spreads other link

theorem arrives_of_begun (sound : Sound lead base) (unfolds : Unfolds (done ++ (place, item) :: rest))
    (begun : files.Begun lead base done) {name : String} (relative : name.toList.head? ≠ some '/')
    (parts : pathParts name = lead ++ place) :
    ∃ files', Arrives files files' name (base ++ place) ∧ files'.Spreads lead base done := by
  have further : place ≠ [] := unfolds.further (place, item) (by simp)
  obtain ⟨files', made, spreads⟩ : ∃ files', Gives (Unpacked.makeParents (lead ++ place)) files () files' ∧
      files'.Spreads lead base done := by
    rcases begun with ⟨rfl, rfl⟩ | spreads
    · -- nothing comes before the first place, not even a directory above it
      have single : place.dropLast = [] := by
        by_contra longer
        have before := ne_of_prefix_dropLast further List.prefix_rfl
        exact absurd (unfolds.parent (List.dropLast_prefix place) before longer) List.not_mem_nil
      have above : (lead ++ place).dropLast = lead := by
        rw [List.dropLast_append_of_ne_nil further, single, List.append_nil]
      have inside : (Unpacked.reach [] lead).isSome := by rw [sound.reached]; rfl
      obtain ⟨files', made, paved⟩ := Unpacked.makeParents_empty above sound.filled sound.short inside
      exact ⟨files', made, spreads_nil.2 paved⟩
    · have leads := leads_of_spreads sound unfolds spreads
      exact ⟨files, Unpacked.makeParents_gives leads (List.append_ne_nil_of_right_ne_nil lead further), spreads⟩
  refine ⟨files', ⟨relative, noLink_of_begun begun, ?_, ?_⟩, spreads⟩ <;> rw [parts]
  · exact made
  · exact leads_of_spreads sound unfolds spreads

theorem exists_concat {last : List String × Item} {p : List String × Item → Prop} :
    (∃ one ∈ done ++ [last], p one) ↔ (∃ one ∈ done, p one) ∨ p last := by
  simp only [List.mem_append, List.mem_singleton, or_and_right, exists_or, exists_eq_left]

theorem spreads_add (spreads : files.Spreads lead base done) (vacant : files.get? (base ++ place) = none) :
    (files.add (base ++ place) (entryOf item)).Spreads lead base (done ++ [(place, item)]) := by
  intro other entry
  rw [get?_add vacant, exists_concat, ← or_assoc, ← spreads other entry]
  by_cases here : other = base ++ place
  · simp [here, vacant, eq_comm]
  · simp [here]

theorem spreads_there (spreads : files.Spreads lead base done) (passed : Unpacked.Passes lead (base ++ place)) :
    files.Spreads lead base (done ++ [(place, .directory)]) := by
  intro other entry
  rw [exists_concat, ← or_assoc, ← spreads other entry]
  refine ⟨.inl, ?_⟩
  rintro (known | ⟨rfl, rfl⟩)
  · exact known
  · exact (spreads _ _).2 (.inl ⟨rfl, passed⟩)

theorem unpackMember_below (sound : Sound lead base) (unfolds : Unfolds (done ++ (place, item) :: rest))
    (begun : files.Begun lead base done) {name : String} (relative : name.toList.head? ≠ some '/')
    (parts : pathParts name = lead ++ place) (free : item.isFile → ¬Unpacked.Passes lead (base ++ place))
    (begun' all : List Member) :
    ∃ files', Gives (unpackMember begun' all (name, item)) files () files' ∧
      files'.Spreads lead base (done ++ [(place, item)]) := by
  obtain ⟨files', arrives, spreads⟩ := arrives_of_begun sound unfolds begun relative parts
  obtain ⟨-, -, before⟩ := List.pairwise_append.1 unfolds.ascending
  have plain := unfolds.plain (place, item) (by simp)
  cases known : files'.get? (base ++ place) with
  | none => exact ⟨_, unpackMember_new arrives known _ _ plain, spreads_add spreads known⟩
  | some entry =>
    rcases (spreads _ entry).1 known with ⟨rfl, passed⟩ | ⟨one, member, same, -⟩
    · cases item with
      | directory => exact ⟨files', unpackMember_there arrives known _ _, spreads_there spreads passed⟩
      | file content => exact absurd passed (free rfl)
      | symbolicLink | hardLink | special => cases plain
    · have other := before one member _ List.mem_cons_self
      rw [← List.append_cancel_left same] at other
      exact absurd other (lt_irrefl place)

/-- The members of a listing are unpacked one by one, and what follows finds what they have become. -/
theorem unpackAll_below {name : String} (sound : Sound (pathParts name) base) {found : List (List String × Item)}
    (unfolds : Unfolds found)
    (free : ∀ one ∈ found, one.2.isFile → ¬Unpacked.Passes (pathParts name) (base ++ one.1)) (all more : List Member)
    (split : done ++ rest = found) (begun : files.Begun (pathParts name) base done) (before : List Member) :
    ∃ before' files', unpackAll all before (rest.map (memberOf (Job.nameStart name)) ++ more) files =
      unpackAll all before' more files' ∧ files'.Begun (pathParts name) base found := by
  -- by induction on what is left; `Begun` says what has become of the members before it
  induction rest generalizing done files before with
  | nil =>
    rw [List.append_nil] at split
    exact ⟨before, files, rfl, split ▸ begun⟩
  | cons one rest ih =>
    obtain ⟨place, item⟩ := one
    subst split
    have member : (place, item) ∈ done ++ (place, item) :: rest := by simp
    have parts := pathParts_memberOf name (unfolds.further _ member) (unfolds.named _ member) item
    obtain ⟨after, step, spreads⟩ :=
      unpackMember_below sound unfolds begun (head?_memberName _) parts (free _ member) before all
    obtain ⟨before', files', onwards, begun'⟩ := ih (by simp) (.inr spreads) (before ++ [_])
    refine ⟨before', files', ?_, begun'⟩
    rw [← onwards, List.map_cons, List.cons_append, unpackAll]
    have step' : (unpackMember before all (memberOf (Job.nameStart name) (place, item))).run.run files =
      (.ok (), after) := step
    rw [step']

end below

/-! ### A listing and a file at the top -/

section top

variable {name : String} {found : List (List String × Item)} {files : Unpacked}

/-- Every file and directory of a listing is where the name leads, and no file is anywhere else. -/
structure Stands (files : Unpacked) (name : String) (found : List (List String × Item)) : Prop where
  noLink : ∀ other link, files.get? other ≠ some (.link link)
  vacant : files.get? [dockerfileName] = none
  placed : ∀ one ∈ found, ∃ target, Unpacked.reach [] (pathParts name ++ one.1) = some target ∧
    files.get? target = some (entryOf one.2)
  only : ∀ target content, files.get? target = some (.file content) →
    ∃ one ∈ found, Unpacked.reach [] (pathParts name ++ one.1) = some target ∧ one.2 = .file content

theorem unpack_eq (unfolds : Unfolds found) (name : String) (content : Content) :
    unpack (found.map (memberOf (Job.nameStart name)) ++ [(dockerfileName, .file content)]) =
      unpackAll (found.map (memberOf (Job.nameStart name)) ++ [(dockerfileName, .file content)]) []
        (found.map (memberOf (Job.nameStart name)) ++ [(dockerfileName, .file content)]) .empty := by
  generalize whole : found.map (memberOf (Job.nameStart name)) ++ [(dockerfileName, .file content)] = members
  have read : members.map (fun member => (readName member.1 member.2, member.2)) = members := by
    rw [← whole, List.map_append, List.map_map]
    congr 1
    refine List.map_congr_left fun one member => ?_
    exact congrArg (·, one.2) (readName_memberOf _ (unfolds.further one member) (unfolds.named one member) one.2)
  unfold unpack
  dsimp only
  rw [read]

/-- A name that leads out of the directory is refused with its first file. -/
theorem unpack_outside (unfolds : Unfolds found) (nonempty : found ≠ [])
    (outside : Unpacked.reach [] (pathParts name) = none) (content : Content) :
    unpack (found.map (memberOf (Job.nameStart name)) ++ [(dockerfileName, .file content)]) =
      .error (.problem .outside) := by
  rw [unpack_eq unfolds]
  obtain ⟨⟨place, item⟩, rest, rfl⟩ := List.exists_cons_of_ne_nil nonempty
  have first : (place, item) ∈ (place, item) :: rest := List.mem_cons_self
  have leaves : Unpacked.reach [] (pathParts (memberOf (Job.nameStart name) (place, item)).1) = none := by
    rw [pathParts_memberOf name (unfolds.further _ first) (unfolds.named _ first), Unpacked.reach_append, outside,
      Option.bind_none]
  have step (all : List Member) : (unpackMember [] all (memberOf (Job.nameStart name) (place, item))).run.run .empty =
      (.error (.failure (.problem .outside)), .empty) :=
    unpackMember_outside (head?_memberName _) Unpacked.noLink_empty leaves [] all item
  rw [List.map_cons, List.cons_append, unpackAll, step]

/-- A name that leads past the Dockerfile's place leaves no room for it. -/
theorem unpack_blocked {base : List String} (sound : Sound (pathParts name) base) (unfolds : Unfolds found)
    (nonempty : found ≠ [])
    (free : ∀ one ∈ found, one.2.isFile → ¬Unpacked.Passes (pathParts name) (base ++ one.1))
    (passes : Unpacked.Passes (pathParts name) [dockerfileName]) (content : Content) :
    unpack (found.map (memberOf (Job.nameStart name)) ++ [(dockerfileName, .file content)]) =
      .error (.problem (.file .isDirectory)) := by
  rw [unpack_eq unfolds]
  generalize whole : found.map (memberOf (Job.nameStart name)) ++ [(dockerfileName, .file content)] = all
  obtain ⟨before, files, onwards, begun⟩ := unpackAll_below sound unfolds free all [(dockerfileName, .file content)]
    (List.nil_append found) (.inl ⟨rfl, rfl⟩) []
  rw [whole] at onwards
  rcases begun with ⟨empty, -⟩ | spreads
  · exact absurd empty nonempty
  · have there : files.get? [dockerfileName] = some .folder := (spreads _ _).2 (.inl ⟨rfl, passes⟩)
    have ready := ready_top (noLink_of_spreads spreads) isName_dockerfileName
    have single : slashed [dockerfileName] = dockerfileName := String.intercalate_singleton
    have step := unpackMember_blocked ready.arrives there before all content
    rw [single] at step
    rw [onwards, unpackAll, step]

end top

end ImageBuild.Archive
