import ImageBuild.Archive.Unpack
import ImageBuild.Proofs.Files.Change

/-!
# Where the path of a member leads

A path is followed part by part: `.` stays, `..` takes back the part before it, and above the directory it leads
nowhere. Without links that is where the unpacking writes, as long as each directory on the way is there.
-/

namespace ImageBuild.Archive

/-! ### What stands at a place -/

section places

variable {files : Unpacked} {place : List String}

theorem get?_of_further {place : List String} (further : place ≠ []) (files : Unpacked) :
    files.get? place = files.entries.lookup place := by
  rw [Unpacked.get?, if_neg (by simpa using further)]

theorem further_of_vacant (vacant : files.get? place = none) : place ≠ [] := by
  rintro rfl
  cases vacant

theorem get?_add (vacant : files.get? place = none) (entry : Entry) (other : List String) :
    (files.add place entry).get? other = if other = place then some entry else files.get? other := by
  have further := further_of_vacant vacant
  by_cases top : other = []
  · subst top
    rw [if_neg (Ne.symm further)]
    rfl
  · rw [get?_of_further top, get?_of_further top, Unpacked.add, List.lookup_append]
    rw [get?_of_further further] at vacant
    by_cases same : other = place
    · subst same
      simp [vacant]
    · have apart : (other == place) = false := by simpa using same
      simp [same, apart, List.lookup_cons]

end places

theorem ne_of_prefix_dropLast {parts front : List String} (further : parts ≠ []) (early : front <+: parts.dropLast) :
    front ≠ parts := by
  rintro rfl
  have longer := early.length_le
  rw [List.length_dropLast] at longer
  have positive := List.length_pos_of_ne_nil further
  omega

namespace Unpacked

/-! ### Where parts lead -/

/-- The place to which parts lead from another, unless they lead above the top. -/
def reach : (place parts : List String) → Option (List String)
  | place, [] => some place
  | place, part :: rest =>
    if isHere part then reach place rest
    else if part = ".." then if place.isEmpty then none else reach place.dropLast rest
    else reach (place ++ [part]) rest

variable {files : Unpacked} {place target parts rest front : List String} {part : String}

theorem reach_here (here : isHere part = true) : reach place (part :: rest) = reach place rest := if_pos here

theorem reach_down (there : isHere part = false) (down : part ≠ "..") :
    reach place (part :: rest) = reach (place ++ [part]) rest := by
  rw [reach, if_neg (by simp [there]), if_neg down]

theorem reach_up (further : place ≠ []) : reach place (".." :: rest) = reach place.dropLast rest := by
  rw [reach, if_neg (by decide), if_pos rfl, if_neg (by simpa using further)]

theorem reach_cons (part : String) (place rest : List String) :
    reach place (part :: rest) = (reach place [part]).bind (reach · rest) := by
  cases here : isHere part with
  | true => rw [reach_here here, reach_here here]; rfl
  | false =>
    by_cases up : part = ".."
    · subst up
      by_cases top : place = []
      · subst top
        rfl
      · rw [reach_up top, reach_up top]
        rfl
    · rw [reach_down here up, reach_down here up]
      rfl

theorem reach_append (place parts rest : List String) :
    reach place (parts ++ rest) = (reach place parts).bind (reach · rest) := by
  induction parts generalizing place with
  | nil => rfl
  | cons part parts ih =>
    rw [List.cons_append, reach_cons, reach_cons part place parts, Option.bind_assoc]
    exact Option.bind_congr fun next _ => ih next

theorem reach_names (named : ∀ name ∈ parts, Files.IsName name) (place : List String) :
    reach place parts = some (place ++ parts) := by
  induction parts generalizing place with
  | nil => rw [reach, List.append_nil]
  | cons name rest ih =>
    obtain ⟨isName, later⟩ := List.forall_mem_cons.1 named
    have there : isHere name = false := by simp [isHere, isName.nonempty, isName.notHere]
    rw [reach_down there isName.notAbove, ih later, List.append_assoc]
    rfl

theorem isSome_reach_front (early : front <+: parts) (inside : (reach place parts).isSome) :
    (reach place front).isSome := by
  obtain ⟨rest, rfl⟩ := early
  rw [reach_append] at inside
  exact Option.isSome_of_isSome_bind inside

theorem reach_filled (place parts : List String) : reach place (parts.filter (· ≠ "")) = reach place parts := by
  induction parts generalizing place with
  | nil => rfl
  | cons part parts ih =>
    by_cases empty : part = ""
    · subst empty
      rw [List.filter_cons_of_neg (by simp), ih]
      exact (reach_here (by decide)).symm
    · rw [List.filter_cons_of_pos (by simpa using empty), reach_cons, reach_cons part place parts]
      exact Option.bind_congr fun next _ => ih next

/-! ### Following a path -/

/-- Without links a path is found to lead where its parts do. -/
theorem target_reach (noLink : ∀ place link, files.get? place ≠ some (.link link)) (links : Nat)
    (opened : List (List String)) (place parts : List String) :
    files.target links opened place parts =
      match reach place parts with
      | some target => .resolved target
      | none => .outside := by
  induction parts generalizing place with
  | nil => rw [target, reach]
  | cons part rest ih =>
    cases here : isHere part with
    | true => rw [target, if_pos here, ih, reach_here here]
    | false =>
      rw [target, if_neg (by simp [here])]
      by_cases up : part = ".."
      · subst up
        rw [if_pos rfl]
        by_cases top : place = []
        · subst top
          rfl
        · rw [if_neg (by simpa using top), ih, reach_up top]
      · rw [if_neg up, reach_down here up]
        dsimp only
        split
        · rename_i found
          exact absurd found (noLink _ _)
        · rename_i found
          exact absurd found (noLink _ _)
        · exact ih _

theorem staysInside_eq (noLink : ∀ place link, files.get? place ≠ some (.link link)) (parts : List String) :
    files.staysInside parts = (reach [] parts).isSome := by
  rw [staysInside, target_reach noLink]
  cases reach [] parts <;> rfl

/-- Parts that lead to a place past directories, and at the end to no link. -/
structure Leads (files : Unpacked) (from_ parts place : List String) : Prop where
  filled : "" ∉ parts
  short : ∀ part ∈ parts, part.utf8ByteSize ≤ maxName
  reached : reach from_ parts = some place
  above : ∀ front, front <+: parts → front ≠ parts →
    ∃ passed, reach from_ front = some passed ∧ files.get? passed = some .folder
  last : ∀ link, files.get? place ≠ some (.link link)

theorem Leads.here (leads : Leads files place parts target) (further : parts ≠ []) :
    files.get? place = some .folder := by
  obtain ⟨passed, same, folder⟩ := leads.above [] List.nil_prefix further.symm
  rwa [← Option.some.inj same] at folder

theorem Leads.next {onwards : List String} (leads : Leads files place (part :: rest) target)
    (stepped : reach place [part] = some onwards) : Leads files onwards rest target := by
  have further : ∀ front, reach place (part :: front) = reach onwards front := by
    intro front
    rw [reach_cons, stepped]
    rfl
  refine ⟨(not_or.1 (mt List.mem_cons.2 leads.filled)).2, (List.forall_mem_cons.1 leads.short).2,
    (further rest).symm.trans leads.reached, ?_, leads.last⟩
  intro front early longer
  rw [← further]
  exact leads.above _ (List.cons_prefix_cons.2 ⟨rfl, early⟩) (by simpa using longer)

theorem Leads.walk (leads : Leads files place parts target) (ending : Ending) (links : Nat) :
    files.walk ending links place parts = .ok target := by
  induction parts generalizing place with
  | nil =>
    rw [Unpacked.walk]
    exact congrArg Except.ok (Option.some.inj leads.reached)
  | cons part rest ih =>
    have later : "" ∉ rest := (not_or.1 (mt List.mem_cons.2 leads.filled)).2
    have short := (List.forall_mem_cons.1 leads.short).1
    rw [Unpacked.walk, leads.here (List.cons_ne_nil part rest)]
    dsimp only
    by_cases stays : isHere part = true
    · rw [if_pos stays]
      exact ih (leads.next (reach_here stays))
    · rw [if_neg stays]
      by_cases up : part = ".."
      · subst up
        rw [if_pos rfl]
        have further : place ≠ [] := by
          rintro rfl
          cases leads.reached
        exact ih (leads.next (reach_up further))
      · have stepped : reach place [part] = some (place ++ [part]) := reach_down (by simpa using stays) up
        have slash : ¬(ending = .written ∧ !rest.isEmpty ∧ rest.all (· = "")) := by
          rintro ⟨-, further, blank⟩
          obtain ⟨one, member⟩ := List.exists_mem_of_ne_nil rest (by simpa using further)
          obtain rfl : one = "" := by simpa using List.all_eq_true.1 blank one member
          exact later member
        rw [if_neg up, if_neg slash, if_neg (Nat.not_lt.2 short)]
        have next := leads.next stepped
        have arrived : rest = [] → place ++ [part] = target := by
          rintro rfl
          exact Option.some.inj next.reached
        -- what is missing, or a link, can only be at the end
        have inner : rest ≠ [] → files.get? (place ++ [part]) = some .folder := next.here
        cases found : files.get? (place ++ [part]) with
        | none =>
          cases rest with
          | nil => exact congrArg Except.ok (arrived rfl)
          | cons second more => cases found.symm.trans (inner (List.cons_ne_nil second more))
        | some entry =>
          cases entry with
          | folder => exact ih next
          | file content => exact ih next
          | link link =>
            cases rest with
            | nil => exact absurd (arrived rfl ▸ found) (leads.last link)
            | cons second more => cases found.symm.trans (inner (List.cons_ne_nil second more))

theorem Leads.parent (leads : Leads files place parts target) (further : parts ≠ []) :
    ∃ passed, Leads files place parts.dropLast passed ∧ files.get? passed = some .folder := by
  have early : parts.dropLast <+: parts := List.dropLast_prefix parts
  obtain ⟨passed, reached, folder⟩ := leads.above _ early (ne_of_prefix_dropLast further List.prefix_rfl)
  refine ⟨passed, ⟨fun empty => leads.filled (early.subset empty),
    fun part member => leads.short part (early.subset member), reached, ?_, ?_⟩, folder⟩
  · exact fun front before _ => leads.above front (before.trans early) (ne_of_prefix_dropLast further before)
  · intro link known
    cases known.symm.trans folder

theorem Leads.find? (leads : Leads files [] parts place) : files.find? parts = files.get? place := by
  rw [Unpacked.find?, follow, leads.walk]

theorem Leads.isFolder (leads : Leads files [] parts place) :
    files.isFolder parts = match files.get? place with
      | some .folder => true
      | _ => false := by
  rw [← leads.find?]
  rfl

/-! ### Steps at the end of a path -/

theorem create_run (leads : Leads files [] parts place) :
    (create parts .folder).run.run files =
      if (files.get? place).isSome then (.error .alreadyExists, files) else (.ok (), files.add place .folder) := by
  unfold create
  rw [if_neg (by decide), get_run, locate, leads.walk]
  dsimp only
  split <;> rfl

theorem attempt_create_vacant (leads : Leads files [] parts place) (vacant : files.get? place = none) :
    Gives (attempt (create parts .folder)) files (.ok ()) (files.add place .folder) := by
  have created := create_run leads
  rw [vacant] at created
  exact lift_gives.2 created

theorem attempt_create_taken (leads : Leads files [] parts place) {entry : Entry}
    (taken : files.get? place = some entry) :
    Gives (attempt (create parts .folder)) files (.error .alreadyExists) files := by
  have created := create_run leads
  rw [taken] at created
  exact lift_gives.2 created

theorem makeFolder_run (leads : Leads files [] parts place) :
    (makeFolder parts).run.run files =
      match files.get? place with
      | none => (.ok (), files.add place .folder)
      | some .folder => (.ok (), files)
      | some _ => (.error .alreadyExists, files) := by
  cases known : files.get? place with
  | none =>
    rw [makeFolder, run_of_gives (attempt_create_vacant leads known)]
    rfl
  | some entry =>
    rw [makeFolder, run_of_gives (attempt_create_taken leads known)]
    dsimp only
    rw [get_run, leads.isFolder, known]
    cases entry <;> rfl

theorem writeFile_run (leads : Leads files [] parts place) (content : Files.Content) :
    (writeFile parts content).run.run files =
      match files.get? place with
      | none => (.ok (), files.add place (.file content))
      | some .folder => (.error .isDirectory, files)
      | some _ => (.ok (), files.set place (.file content)) := by
  unfold writeFile
  rw [get_run, leads.walk]
  dsimp only
  cases files.get? place with
  | none => rfl
  | some entry => cases entry <;> rfl

theorem makeParents_gives (leads : Leads files [] parts place) (further : parts ≠ []) :
    Gives (makeParents parts) files () files := by
  obtain ⟨passed, above, folder⟩ := leads.parent further
  unfold makeParents
  refine bind_gives.2 ⟨files, files, get_gives.2 ⟨rfl, rfl⟩, ?_⟩
  rw [above.find?, folder, if_pos (by rfl)]
  exact pure_gives.2 ⟨rfl, rfl⟩

/-! ### The directories of a path -/

def Passes (parts place : List String) : Prop := ∃ front, front <+: parts ∧ reach [] front = some place

def Paved (files : Unpacked) (parts : List String) : Prop :=
  ∀ place entry, files.get? place = some entry ↔ entry = .folder ∧ Passes parts place

theorem passes_concat :
    Passes (parts ++ [part]) place ↔ reach [] (parts ++ [part]) = some place ∨ Passes parts place := by
  constructor
  · rintro ⟨front, early, leads⟩
    rcases List.prefix_concat_iff.1 early with rfl | before
    · exact .inl leads
    · exact .inr ⟨front, before, leads⟩
  · rintro (whole | ⟨front, before, leads⟩)
    · exact ⟨_, List.prefix_rfl, whole⟩
    · exact ⟨front, before.trans (List.prefix_append _ _), leads⟩

theorem empty_get? : empty.get? place = if place.isEmpty then some .folder else none := rfl

theorem noLink_empty (other : List String) (link : String) : empty.get? other ≠ some (.link link) := by
  rw [empty_get?]
  split <;> simp

theorem reach_of_here (here : ∀ part ∈ parts, isHere part = true) : reach place parts = some place := by
  induction parts with
  | nil => rfl
  | cons part rest ih =>
    obtain ⟨first, later⟩ := List.forall_mem_cons.1 here
    rw [reach_here first, ih later]

theorem paved_empty (here : ∀ part ∈ parts, isHere part = true) : empty.Paved parts := by
  have stays : ∀ front, front <+: parts → reach [] front = some [] := fun front early =>
    reach_of_here fun part member => here part (early.subset member)
  intro place entry
  rw [empty_get?, Option.ite_none_right_eq_some, List.isEmpty_iff, Option.some.injEq]
  constructor
  · rintro ⟨rfl, rfl⟩
    exact ⟨rfl, [], List.nil_prefix, rfl⟩
  · rintro ⟨rfl, front, early, leads⟩
    exact ⟨Option.some.inj (leads.symm.trans (stays front early)), rfl⟩

theorem here_of_found (inside : (reach [] parts).isSome) (found : (empty.find? parts).isSome) :
    ∀ part ∈ parts, isHere part = true := by
  induction parts with
  | nil => exact List.forall_mem_nil _
  | cons part rest ih =>
    have top : empty.get? [] = some .folder := rfl
    cases here : isHere part with
    | true =>
      rw [reach_here here] at inside
      have same : empty.find? (part :: rest) = empty.find? rest := by
        rw [Unpacked.find?, follow, Unpacked.walk, top]
        dsimp only
        rw [if_pos here]
        rfl
      exact List.forall_mem_cons.2 ⟨here, ih inside (same ▸ found)⟩
    | false =>
      have down : part ≠ ".." := by
        rintro rfl
        cases inside
      have missing : empty.get? ([] ++ [part]) = none := rfl
      -- the walk ends where nothing is, if it does not fail before
      have ended : ∀ target, empty.walk .through maxLinks [] (part :: rest) = .ok target → target = [part] := by
        intro target walked
        rw [Unpacked.walk, top] at walked
        dsimp only at walked
        rw [here, if_neg Bool.false_ne_true, if_neg down, if_neg (by simp)] at walked
        split at walked
        · cases walked
        · rw [missing] at walked
          dsimp only at walked
          split at walked
          · exact (Except.ok.inj walked).symm
          · cases walked
      have nothing : empty.find? (part :: rest) = none := by
        rw [Unpacked.find?, follow]
        cases walked : empty.walk .through maxLinks [] (part :: rest) with
        | error problem => rfl
        | ok target => rw [ended target walked]; rfl
      rw [nothing] at found
      cases found

theorem leads_of_paved (filled : "" ∉ parts ++ [part]) (short : ∀ one ∈ parts ++ [part], one.utf8ByteSize ≤ maxName)
    (reached : reach [] (parts ++ [part]) = some target) (paved : files.Paved parts) :
    Leads files [] (parts ++ [part]) target := by
  refine ⟨filled, short, reached, ?_, ?_⟩
  · intro front early shorter
    have inside : (reach [] (parts ++ [part])).isSome := by rw [reached]; rfl
    obtain ⟨passed, leads⟩ := Option.isSome_iff_exists.1 (isSome_reach_front early inside)
    have before := (List.prefix_concat_iff.1 early).resolve_left shorter
    exact ⟨passed, leads, (paved passed .folder).2 ⟨rfl, front, before, leads⟩⟩
  · intro link known
    cases ((paved target _).1 known).1

theorem createLast_gives (filled : "" ∉ parts ++ [part]) (short : ∀ one ∈ parts ++ [part], one.utf8ByteSize ≤ maxName)
    (inside : (reach [] (parts ++ [part])).isSome) (paved : files.Paved parts) :
    ∃ files', Gives (do
      match ← attempt (create (parts ++ [part]) .folder) with
      | .ok () => return
      | .error problem => if (← get).isFolder (parts ++ [part]) then return else throw problem) files () files' ∧
        files'.Paved (parts ++ [part]) := by
  obtain ⟨target, reached⟩ := Option.isSome_iff_exists.1 inside
  have leads := leads_of_paved filled short reached paved
  cases known : files.get? target with
  | none =>
    refine ⟨_, bind_gives.2 ⟨_, _, attempt_create_vacant leads known, pure_gives.2 ⟨rfl, rfl⟩⟩, ?_⟩
    intro place entry
    rw [get?_add known, passes_concat, reached, Option.some.injEq]
    by_cases here : place = target
    · simp [here, eq_comm]
    · simp [here, Ne.symm here, paved place entry]
  | some entry =>
    obtain ⟨rfl, passed⟩ := (paved target entry).1 known
    refine ⟨files, bind_gives.2 ⟨_, _, attempt_create_taken leads known, ?_⟩, ?_⟩
    · dsimp only
      refine bind_gives.2 ⟨files, files, get_gives.2 ⟨rfl, rfl⟩, ?_⟩
      rw [leads.isFolder, known]
      exact pure_gives.2 ⟨rfl, rfl⟩
    · intro place entry
      rw [paved, passes_concat, reached, Option.some.injEq]
      exact and_congr_right fun _ => ⟨.inr, fun either => either.elim (fun here => here ▸ passed) id⟩

/-- The directories of a path are made one after the other. -/
theorem makeFolders_gives (filled : "" ∉ parts) (short : ∀ part ∈ parts, part.utf8ByteSize ≤ maxName)
    (inside : (reach [] parts).isSome) :
    ∃ files, Gives (makeFolders parts.reverse) empty () files ∧ files.Paved parts := by
  induction parts using List.reverseRecOn with
  | nil => exact ⟨empty, pure_gives.2 ⟨rfl, rfl⟩, paved_empty (List.forall_mem_nil _)⟩
  | append_singleton parts part ih =>
    have before : reach [] parts |>.isSome := isSome_reach_front (List.prefix_append _ _) inside
    rw [List.reverse_concat, makeFolders, List.reverse_reverse, List.reverse_cons, List.reverse_reverse]
    by_cases found : (empty.find? parts).isSome
    · obtain ⟨files, made, paved⟩ := createLast_gives filled short inside (paved_empty (here_of_found before found))
      refine ⟨files, ?_, paved⟩
      refine bind_gives.2 ⟨empty, empty, get_gives.2 ⟨rfl, rfl⟩, ?_⟩
      rw [if_neg (by simpa using Option.isSome_iff_ne_none.1 found)]
      exact made
    · obtain ⟨files, made, paved⟩ := ih (fun empty => filled (List.mem_append_left _ empty))
        (fun one member => short one (List.mem_append_left _ member)) before
      obtain ⟨files', made', paved'⟩ := createLast_gives filled short inside paved
      have attempted : Gives (attempt (makeFolders parts.reverse)) empty (.ok ()) files := lift_gives.2 made
      by_cases stays : part = "."
      · -- `.` behind directories that were missing is not made
        subst stays
        refine ⟨files, ?_, ?_⟩
        · refine bind_gives.2 ⟨empty, empty, get_gives.2 ⟨rfl, rfl⟩, ?_⟩
          rw [if_pos (by simpa using found)]
          exact bind_gives.2 ⟨_, _, attempted, pure_gives.2 ⟨rfl, rfl⟩⟩
        · have same : reach [] (parts ++ ["."]) = reach [] parts := by
            rw [reach_append]
            cases reach [] parts <;> rfl
          intro place entry
          rw [paved, passes_concat, same]
          have whole : reach [] parts = some place → Passes parts place := fun here => ⟨parts, List.prefix_rfl, here⟩
          exact and_congr_right fun _ => ⟨.inr, fun either => either.elim whole id⟩
      · refine ⟨files', ?_, paved'⟩
        refine bind_gives.2 ⟨empty, empty, get_gives.2 ⟨rfl, rfl⟩, ?_⟩
        rw [if_pos (by simpa using found)]
        refine bind_gives.2 ⟨_, _, attempted, ?_⟩
        dsimp only
        rw [if_neg stays]
        exact made'

theorem makeParents_empty {lead : List String} (above : parts.dropLast = lead) (filled : "" ∉ lead)
    (short : ∀ part ∈ lead, part.utf8ByteSize ≤ maxName) (inside : (reach [] lead).isSome) :
    ∃ files, Gives (makeParents parts) empty () files ∧ files.Paved lead := by
  unfold makeParents
  rw [above]
  by_cases found : (empty.find? lead).isSome
  · refine ⟨empty, bind_gives.2 ⟨empty, empty, get_gives.2 ⟨rfl, rfl⟩, ?_⟩, paved_empty (here_of_found inside found)⟩
    rw [if_pos found]
    exact pure_gives.2 ⟨rfl, rfl⟩
  · obtain ⟨files, made, paved⟩ := makeFolders_gives filled short inside
    refine ⟨files, bind_gives.2 ⟨empty, empty, get_gives.2 ⟨rfl, rfl⟩, ?_⟩, paved⟩
    rw [if_neg found]
    exact made

end Unpacked

end ImageBuild.Archive
