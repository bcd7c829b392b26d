import ImageBuild.Proofs.Session.InTurn
import ImageBuild.Proofs.Workflow.Execution

/-!
# Which ids are removed

A build removes the id that its own name had before and has no longer. It does not know the ids of
other images: an id that another image of the run has been given goes with it.
-/

namespace ImageBuild.Workflow

open Program Config

/-- The id goes: the name was looked up as `id` before its build and as another one after it. -/
structure Superseded (image : Image) (id : String) (new : Option String) (es : List Happening) : Prop where
  requested : image.build.cleanup.isRemovalRequested = true
  different : new ≠ some id
  course : ∃ archive options,
    [⟨.resolveId image.name, .ok (some id)⟩, ⟨.build image.name archive options, .ok ()⟩,
      ⟨.resolveId image.name, .ok new⟩].Sublist es

theorem last_of_append {α : Type} {init head tail : List α} {last one : α}
    (same : init ++ [last] = head ++ one :: tail) (absent : one ∉ init) : head = init ∧ one = last := by
  rcases List.eq_nil_or_concat tail with rfl | ⟨rest, final, rfl⟩
  · obtain ⟨begun, ended⟩ := List.append_inj' same rfl
    exact ⟨begun.symm, (List.cons.inj ended).1.symm⟩
  · have shifted : init ++ [last] = (head ++ one :: rest) ++ [final] := by simpa using same
    obtain ⟨rfl, -⟩ := List.append_inj' shifted rfl
    exact absurd (by simp) absent

theorem isRemoval_of_isUpkeep {call : Call} (upkeep : call.isUpkeep = true) : call.isRemoval = false := by
  cases call <;> first | rfl | cases upkeep

theorem lookup_of_looked {image : Image} {old : Option String} {es : List Happening}
    (looked : Looked image old es) : ∀ e ∈ es, ∃ answer, e = ⟨.resolveId image.name, answer⟩ := by
  cases looked <;> simp

section builds

variable {image : Image} {context : Context} {nocache new : Option String} {i j : Inside}
variable {es : List Happening}

theorem built_name (h : Behaves (buildOne image context nocache) i es (.ok new) j) :
    ∀ e ∈ es, ∀ name archive options, e.call = .build name archive options → name = image.name := by
  obtain ⟨front, back, rfl, upkeep, executed⟩ := behaves_buildOne h
  intro e member name archive options called
  rcases List.mem_append.1 member with early | late
  · have idle := upkeep e early
    rw [called] at idle
    cases idle
  · cases executed with
    | loaded source looked =>
      rcases List.mem_append.1 late with lookup | load
      · obtain ⟨answer, rfl⟩ := lookup_of_looked looked e lookup
        cases called
      · obtain rfl := List.mem_singleton.1 load
        cases called
    | built generative looked retired =>
      rcases List.mem_append.1 late with lookup | later
      · obtain ⟨answer, rfl⟩ := lookup_of_looked looked e lookup
        cases called
      · simp only [List.mem_cons] at later
        rcases later with rfl | rfl | rfl | removal
        · cases called
        · cases called
          rfl
        · cases called
        · cases retired with
          | spared => cases removal
          | removed =>
            obtain rfl := List.mem_singleton.1 removal
            cases called

theorem removal_last (h : Behaves (buildOne image context nocache) i es (.ok new) j) :
    ∃ front back, es = front ++ back ∧ (∀ e ∈ front, e.call.isRemoval = false) ∧
      (back = [] ∨ ∃ id answer, back = [⟨.remove id true, answer⟩] ∧ Superseded image id new front) := by
  obtain ⟨front, back, rfl, upkeep, executed⟩ := behaves_buildOne h
  have idle : ∀ e ∈ front, e.call.isRemoval = false := fun e member => isRemoval_of_isUpkeep (upkeep e member)
  cases executed with
  | @loaded _ lookups path source looked =>
    refine ⟨front ++ (lookups ++ [⟨.load image.name path, .ok ()⟩]), [], (List.append_nil _).symm, ?_, .inl rfl⟩
    simp only [List.forall_mem_append]
    exact ⟨idle, isRemoval_of_looked looked, by simp [Call.isRemoval]⟩
  | @built old _ lookups back archive generative looked retired =>
    let options := buildOptions image.build (nocache.or (nocacheOverride context)) (buildArgs image context)
    let middle : List Happening := [⟨.createArchive image.name image.build context, .ok archive⟩,
      ⟨.build image.name archive options, .ok ()⟩, ⟨.resolveId image.name, .ok new⟩]
    refine ⟨front ++ (lookups ++ middle), back, by simp [middle, options], ?_, ?_⟩
    · simp only [List.forall_mem_append]
      exact ⟨idle, isRemoval_of_looked looked, by simp [middle, Call.isRemoval]⟩
    · cases retired with
      | spared => exact .inl rfl
      | @removed id answer stale different requested =>
        subst stale
        refine .inr ⟨id, answer, rfl, requested, Ne.symm different, archive, options, ?_⟩
        cases looked with
        | asked =>
          apply List.Sublist.trans _ (List.sublist_append_right front _)
          exact .cons_cons _ (.cons _ (List.Sublist.refl _))

theorem superseded_of_removed {head tail : List Happening} {id : String} {force : Bool}
    {answer : Except Fault Unit} (h : Behaves (buildOne image context nocache) i es (.ok new) j)
    (split : es = head ++ ⟨.remove id force, answer⟩ :: tail) : Superseded image id new head := by
  obtain ⟨front, back, rfl, none, rest⟩ := removal_last h
  have absent : ⟨.remove id force, answer⟩ ∉ front := fun early => nomatch none _ early
  rcases rest with rfl | ⟨other, told, rfl, superseded⟩
  · rw [List.append_nil] at split
    exact absurd (by simp [split]) absent
  · obtain ⟨rfl, same⟩ := last_of_append split absent
    cases same
    exact superseded

end builds

section runs

variable {W : Type} (answers : Answers surroundings W) (context : Context) (nocache : Option String)

theorem inTurn_behaves (images : List Image) (s : State surroundings W) :
    ∀ one ∈ (inTurn answers context nocache images s).1,
      ∃ i j, Behaves (buildOne one.image context nocache) i one.events one.outcome j := by
  induction images generalizing s with
  | nil => simp [inTurn]
  | cons image images ih =>
    exact List.forall_mem_cons.2 ⟨⟨_, _, run_behaves answers (buildOne image context nocache) s⟩, ih _⟩

end runs

theorem verdict_eq_ok {turns : List Built} {ids : Data.Table (Option String)} (told : verdict turns = .ok ids) :
    (∀ one ∈ turns, ∃ id, one.outcome = .ok id) ∧ ids = gathered .empty turns := by
  unfold verdict at told
  cases failure : firstFailure? (turns.map Built.result) with
  | some fault =>
    rw [failure] at told
    cases told
  | none =>
    rw [failure] at told
    refine ⟨fun one member => ?_, (Except.ok.inj told).symm⟩
    have passed := List.findSome?_eq_none_iff.1 failure one.result (List.mem_map_of_mem member)
    cases ended : one.outcome with
    | ok id => exact ⟨id, rfl⟩
    | error fault => simp [Built.result, ended] at passed

theorem name_ne_of_distinct {before after : List Built} {one later : Built}
    (distinct : ((before ++ one :: after).map fun each => each.image.name).Nodup) (member : later ∈ after) :
    later.image.name ≠ one.image.name := by
  rw [List.map_append, List.map_cons, List.nodup_append] at distinct
  have absent := (List.nodup_cons.1 distinct.2.1).1
  intro same
  exact absent (List.mem_map.2 ⟨later, member, same⟩)

/-- With different names, the id that is told for a name is the one of its only build. -/
theorem get?_of_distinct {turns : List Built} (distinct : (turns.map fun one => one.image.name).Nodup)
    (ended : ∀ one ∈ turns, ∃ id, one.outcome = .ok id) {one : Built} {id : Option String}
    (member : one ∈ turns) (told : one.outcome = .ok id) :
    (gathered .empty turns).get? one.image.name = some id := by
  obtain ⟨before, after, rfl⟩ := List.append_of_mem member
  apply (get?_gathered ended _ _ _).2
  exact .inl ⟨before, one, after, rfl, rfl, told, fun later inside => name_ne_of_distinct distinct inside⟩

/-- An id that a run tells for a name is removed after the build of that name only by the build of
another image, which by then has found that its own name lost the id. -/
theorem removed_by_other {W : Type} (answers : Answers surroundings W) (images : List Image)
    (context : Context) (nocache : Option String) (s : State surroundings W)
    (distinct : (images.map Image.name).Nodup) {ids : Data.Table (Option String)}
    (told : ((buildAll images context nocache (some 1)).run answers s).1 = .ok ids) {name id : String}
    (known : ids.get? name = some (some id)) {front middle rest : List Happening} {archive : Path}
    {options : BuildOptions} {built answer : Except Fault Unit} {force : Bool}
    (course : (buildAll images context nocache (some 1)).events answers s =
      front ++ ⟨.build name archive options, built⟩ :: (middle ++ ⟨.remove id force, answer⟩ :: rest)) :
    ∃ other ∈ images, other.name ≠ name ∧ ∃ new i j begun ending, begun <:+ middle ∧
      Behaves (buildOne other context nocache) i (begun ++ ⟨.remove id force, answer⟩ :: ending) (.ok new) j ∧
      Superseded other id new begun ∧ ids.get? other.name = some new := by
  obtain ⟨events, log, ran⟩ := run_buildAll answers context nocache images s
  have behaves := inTurn_behaves answers context nocache images s
  have listed := inTurn_images answers context nocache images s
  generalize (inTurn answers context nocache images s).1 = turns at events ran behaves listed
  subst listed
  rw [List.map_map] at distinct
  have outcome : verdict turns = .ok ids := (congrArg Prod.fst ran).symm.trans told
  obtain ⟨ended, rfl⟩ := verdict_eq_ok outcome
  rw [events] at course
  obtain ⟨before, own, after, head, tail, rfl, inside, -, later⟩ := split_flatMap course
  have member : own ∈ before ++ own :: after := by simp
  obtain ⟨new, given⟩ := ended own member
  obtain ⟨i, j, ownBuild⟩ := behaves own member
  rw [given] at ownBuild
  have called : ⟨.build name archive options, built⟩ ∈ own.events := by simp [inside]
  have named : name = own.image.name := built_name ownBuild _ called name archive options rfl
  have tells := get?_of_distinct distinct ended member given
  rw [← named, known] at tells
  obtain rfl := Option.some.inj tells
  rcases split_append later.symm with ⟨more, rfl, -⟩ | ⟨between, rfl, afterwards⟩
  · -- the build of the image itself found its old id to be another one
    have whole : own.events = (head ++ ⟨.build name archive options, built⟩ :: middle) ++
        ⟨.remove id force, answer⟩ :: more := by simp [inside]
    exact absurd rfl (superseded_of_removed ownBuild whole).different
  · obtain ⟨earlier, other, last, begun, ending, rfl, removal, rfl, -⟩ := split_flatMap afterwards
    have present : other ∈ before ++ own :: (earlier ++ other :: last) := by simp
    obtain ⟨found, returned⟩ := ended other present
    obtain ⟨k, l, otherBuild⟩ := behaves other present
    rw [returned] at otherBuild
    have superseded := superseded_of_removed otherBuild removal
    have recent : begun <:+ tail ++ (earlier.flatMap Built.events ++ begun) :=
      (List.suffix_append _ begun).trans (List.suffix_append tail _)
    rw [removal] at otherBuild
    refine ⟨other.image, List.mem_map_of_mem present, ?_, found, k, l, begun, ending, recent, otherBuild,
      superseded, get?_of_distinct distinct ended present returned⟩
    rw [named]
    exact name_ne_of_distinct distinct (by simp)

def shared : State surroundings Script :=
  .start { plainScript with ids := .ofList [("a", [some "x", some "y"]), ("b", [some "y", some "z"])] }
    .empty (.ofList [])

def sharedIds : Data.Table (Option String) := .ofList [("a", some "y"), ("b", some "z")]

theorem run_shared :
    ((buildAll [bare "a", bare "b"] bareContext none (some 1)).run Script.answers shared).1 = .ok sharedIds := by
  decide +kernel

theorem events_shared : ∃ front middle rest archive options,
    (buildAll [bare "a", bare "b"] bareContext none (some 1)).events Script.answers shared =
      front ++ ⟨.build "a" archive options, .ok ()⟩ :: (middle ++ ⟨.remove "y" true, .ok ()⟩ :: rest) :=
  ⟨[_, _], [_, _, _, _, _, _], [], _, _, rfl⟩

/-- The id that a run tells for a name can be removed after the build of that name. -/
theorem built_image_removed :
    ([bare "a", bare "b"].map Image.name).Nodup ∧
    ((buildAll [bare "a", bare "b"] bareContext none (some 1)).run Script.answers shared).1 = .ok sharedIds ∧
    sharedIds.get? "a" = some (some "y") ∧ ∃ front middle rest archive options,
      (buildAll [bare "a", bare "b"] bareContext none (some 1)).events Script.answers shared =
        front ++ ⟨.build "a" archive options, .ok ()⟩ :: (middle ++ ⟨.remove "y" true, .ok ()⟩ :: rest) :=
  ⟨by decide, run_shared, by decide, events_shared⟩

theorem removed_by_other_shared :
    ∃ middle, ∃ other ∈ [bare "a", bare "b"], other.name ≠ "a" ∧ ∃ new i j begun ending, begun <:+ middle ∧
      Behaves (buildOne other bareContext none) i (begun ++ ⟨.remove "y" true, .ok ()⟩ :: ending) (.ok new) j ∧
      Superseded other "y" new begun ∧ sharedIds.get? other.name = some new := by
  obtain ⟨front, middle, rest, archive, options, course⟩ := events_shared
  exact ⟨middle, removed_by_other Script.answers [bare "a", bare "b"] bareContext none shared (by decide)
    run_shared (by decide) course⟩

end ImageBuild.Workflow
