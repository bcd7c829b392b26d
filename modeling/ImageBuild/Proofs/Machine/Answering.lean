import ImageBuild.Proofs.Machine.Routines
import ImageBuild.Proofs.Program.Blind
import ImageBuild.Proofs.Program.Failing
import ImageBuild.Proofs.Workflow.Handlers

namespace ImageBuild.Machine

open Program Workflow

def issues : Workflow.Call → Machine.Call → Bool
  | .requiresPull .., .client (.inspect _) | .hasImage _, .client (.inspect _) | .resolveId _, .client (.inspect _) => true
  | .pull .., .client (.login ..) | .pull .., .client (.pull _) => true
  | .build .., .unpack _ | .build .., .client (.build _) => true
  | .load .., .client (.load _) | .load .., .client (.tag ..) | .tag .., .client (.tag ..) => true
  | .remove .., .client (.remove ..) => true
  | .createArchive .., .pack .. | .extract _, .extract _ => true
  | _, _ => false

/-! ### What a routine may ask -/

section routines

variable {allowed : Machine.Call → Prop}

theorem confined_command {operation : Daemon.Operation} {command : Daemon.Command} (may : allowed (.client command)) :
    (Machine.command operation command).Confined allowed := by
  refine ⟨may, fun answer => ?_⟩
  cases answer <;> trivial

theorem confined_noted_command {message : String} {operation : Daemon.Operation} {command : Daemon.Command}
    (may : allowed (.client command)) :
    (debug message >>= fun _ => Machine.command operation command).Confined allowed :=
  confined_bind (confined_note _) fun _ => confined_command may

theorem confined_pull {image : String} {login : Option Login} {registry : Option String}
    (enter : ∀ server username password, allowed (.client (.login server username password)))
    (fetch : ∀ name, allowed (.client (.pull name))) : (pull image login registry).Confined allowed := by
  unfold pull
  refine confined_bind (confined_ofExcept _ _) fun name => ?_
  cases login with
  | none => exact confined_noted_command (fetch _)
  | some login => exact confined_bind (confined_command (enter _ _ _)) fun _ => confined_noted_command (fetch _)

theorem confined_noteIgnored (names : List String) : (noteIgnored names).Confined allowed := by
  induction names with
  | nil => exact confined_pure _
  | cons name names ih => exact confined_ite (fun _ => confined_bind (confined_note _) fun _ => ih) fun _ => ih

theorem confined_build {image : String} {archive : Path} {options : BuildOptions} (opens : allowed (.unpack archive))
    (builds : ∀ request, allowed (.client (.build request))) : (build image archive options).Confined allowed := by
  refine ⟨opens, fun answer => ?_⟩
  rcases answer with (_ | _ | _ | _) | files
  iterate 4 trivial
  refine confined_bind (p := noteIgnored _) (confined_noteIgnored _) fun _ => ?_
  exact confined_ite (fun _ => confined_bind (confined_note _) fun _ => confined_noted_command (builds _))
    fun _ => confined_noted_command (builds _)

theorem confined_load {image : String} {archive : Path} (loads : allowed (.client (.load archive)))
    (tags : ∀ source target, allowed (.client (.tag source target))) : (load image archive).Confined allowed := by
  refine confined_bind (confined_command loads) fun loaded => ?_
  split
  · exact confined_pure _
  · exact confined_ite (fun _ => confined_pure _) fun _ => confined_noted_command (tags _ _)

theorem confined_createArchive {image : String} {build : Config.Build} {context : Context}
    (packs : allowed (.pack image build context)) : (createArchive image build context).Confined allowed := by
  refine ⟨packs, fun answer => ?_⟩
  rcases answer with (_ | _ | _ | ⟨_, _ | _⟩) | path
  iterate 5 trivial
  exact confined_bind (p := Program.debug _ _) (confined_note _) fun _ => confined_pure _

theorem confined_extract {dockerfile : Path} (reads : allowed (.extract dockerfile)) :
    (extract dockerfile).Confined allowed := by
  refine ⟨reads, fun answer => ?_⟩
  rcases answer with (_ | _ | _) | image
  iterate 3 trivial
  exact confined_bind (p := Program.debug _ _) (confined_note _) fun _ => confined_pure _

end routines

theorem confined_routine (call : Workflow.Call) : (routine call).Confined fun asked => issues call asked = true := by
  cases call with
  | requiresPull =>
    refine confined_decide (fun name => ?_) _ _ _ _
    exact confined_lookup rfl
  | hasImage => exact confined_lookup rfl
  | resolveId name => exact confined_imageId rfl
  | resolveLogin => exact confined_bind (confined_note _) fun _ => confined_pure _
  | pull => exact confined_pull (fun _ _ _ => rfl) fun _ => rfl
  | build => exact confined_build rfl fun _ => rfl
  | load => exact confined_load rfl fun _ _ => rfl
  | tag => exact confined_noted_command rfl
  | remove => exact confined_command rfl
  | createArchive => exact confined_createArchive rfl
  | extract => exact confined_extract rfl

/-! ### Where an event comes from -/

section calls

variable {α : Type} {answer : (call : Workflow.Call) → Routine call.Answer} {i j : Inside} {es : List Seen}

/-- A call is answered by its routine, and a failure of the routine ends the program. -/
theorem interpret_ask (call : Workflow.Call) (f : call.Answer → Build α) :
    (ask call >>= f).interpret (fun call => (answer call).outcome) =
      answer call >>= fun value => (f value).interpret fun call => (answer call).outcome := by
  refine (congrArg (answer call).outcome.bind (funext fun told => ?_)).trans (outcome_bind (answer call) _)
  cases told <;> rfl

theorem behaves_answered {call : Workflow.Call} {f : call.Answer → Build α} {r : Except Fault α}
    (h : Behaves ((ask call >>= f).interpret fun call => (answer call).outcome) i es r j) :
    (∃ fault, Behaves (answer call) i es (.error fault) j ∧ r = .error fault) ∨
    ∃ value k first rest, Behaves (answer call) i first (.ok value) k ∧
      Behaves ((f value).interpret fun call => (answer call).outcome) k rest r j ∧ es = first ++ rest := by
  rw [interpret_ask] at h
  exact behaves_bind h

end calls

section parts

variable {α β : Type} {i j : Inside} {e : Seen} {r : Except Fault α}

/-- In a sequence an event belongs to the first program, which then ends or goes on, or to the second. -/
theorem behaves_bind_split {p : Routine β} {f : β → Routine α} {front back : List Seen}
    (h : Behaves (p >>= f) i (front ++ e :: back) r j) :
    (∃ fault, Behaves p i (front ++ e :: back) (.error fault) j ∧ r = .error fault) ∨
    (∃ value k rest later, Behaves p i (front ++ e :: rest) (.ok value) k ∧ Behaves (f value) k later r j ∧
      back = rest ++ later) ∨
    ∃ value k first before, Behaves p i first (.ok value) k ∧ Behaves (f value) k (before ++ e :: back) r j ∧
      front = first ++ before := by
  rcases behaves_bind h with ended | ⟨value, k, first, later, head, tail, split⟩
  · exact .inl ended
  · rcases split_append split.symm with ⟨rest, rfl, same⟩ | ⟨before, same, rfl⟩
    · exact .inr (.inl ⟨value, k, rest, later, head, tail, same⟩)
    · exact .inr (.inr ⟨value, k, first, before, head, tail, same⟩)

/-- Every event lies in the part that one call of the build shows. -/
theorem behaves_part {answer : (call : Workflow.Call) → Routine call.Answer} {P : Place surroundings α} {p : Build α}
    {front back : List Seen} (every : p.Every P)
    (h : Behaves (p.interpret fun call => (answer call).outcome) i (front ++ e :: back) r j) :
    ∃ call next told before first rest after k l, P call next ∧
      Behaves (answer call) k (first ++ e :: rest) told l ∧
      Behaves ((next told).interpret fun call => (answer call).outcome) l after r j ∧
      front = before ++ first ∧ back = rest ++ after := by
  induction p generalizing i front with
  | done | failed =>
    generalize shown : front ++ e :: back = es at h
    cases h
    simp at shown
  | perform call next ih =>
    rcases behaves_bind_split (p := (answer call).outcome) h with
      ⟨fault, impossible, -⟩ | ⟨told, l, rest, later, asked, ends, rfl⟩ | ⟨told, l, part, before, -, ends, rfl⟩
    · obtain ⟨_, ended, -⟩ := behaves_outcome impossible
      cases ended
    · obtain ⟨_, ⟨⟩, asked⟩ := behaves_outcome asked
      exact ⟨call, next, told, [], front, rest, later, i, l, every.1, asked, ends, rfl, rfl⟩
    · obtain ⟨call', next', told', before', first, rest, after, k, m, holds, asked', ends', rfl, rfl⟩ :=
        ih told (every.2 told) ends
      exact ⟨call', next', told', part ++ before', first, rest, after, k, m, holds, asked', ends',
        (List.append_assoc _ _ _).symm, rfl⟩
  | ledger change next ih =>
    cases h with
    | ledger rest => exact ih _ (every _) rest
  | time next ih =>
    cases h with
    | time rest => exact ih _ (every _) rest

variable {es : List Seen}

theorem behaves_without {p : Build α} (never : p.Every fun call _ => issues call e.call = false)
    (h : Behaves (onMachine p) i es r j) : e ∉ es := by
  intro member
  obtain ⟨front, back, rfl⟩ := List.append_of_mem member
  obtain ⟨call, next, told, before, first, rest, after, k, l, silent, asked, -⟩ := behaves_part never h
  have issued := (behaves_confined (confined_routine call) asked).1 e (by simp)
  exact nomatch silent.symm.trans issued

theorem behaves_stage {p : Build β} {f : β → Build α} (h : Behaves (onMachine (p >>= f)) i es r j) :
    (∃ fault, Behaves (onMachine p) i es (.error fault) j ∧ r = .error fault) ∨
    ∃ value k first rest, Behaves (onMachine p) i first (.ok value) k ∧ Behaves (onMachine (f value)) k rest r j ∧
      es = first ++ rest := by
  unfold onMachine at h
  rw [interpret_bind] at h
  exact behaves_bind h

theorem behaves_later {p : Build β} {f : β → Build α} (never : p.Every fun call _ => issues call e.call = false)
    (h : Behaves (onMachine (p >>= f)) i es r j) (member : e ∈ es) :
    ∃ value k rest, Behaves (onMachine (f value)) k rest r j ∧ e ∈ rest ∧ rest ⊆ es := by
  rcases behaves_stage h with ⟨fault, early, -⟩ | ⟨value, k, first, rest, early, late, rfl⟩
  · exact absurd member (behaves_without never early)
  · exact ⟨value, k, rest, late, (List.mem_append.1 member).resolve_left (behaves_without never early),
      List.subset_append_right _ _⟩

theorem behaves_earlier {p : Build β} {f : β → Build α}
    (never : ∀ value, (f value).Every fun call _ => issues call e.call = false)
    (h : Behaves (onMachine (p >>= f)) i es r j) (member : e ∈ es) :
    ∃ told k first, Behaves (onMachine p) i first told k ∧ e ∈ first ∧ first ⊆ es := by
  rcases behaves_stage h with ⟨fault, early, -⟩ | ⟨value, k, first, rest, early, late, rfl⟩
  · exact ⟨.error fault, j, es, early, member, List.Subset.refl es⟩
  · exact ⟨.ok value, k, first, early, (List.mem_append.1 member).resolve_right (behaves_without (never value) late),
      List.subset_append_left _ _⟩

end parts

/-- A machine that packs and opens archives at once, and keeps its images. -/
def handy : Answers interface Images
  | .client command, images => images.run command
  | .pack .., images => (.ok (Path.ofText "/work/out/app/docker-build.tar"), images)
  | .unpack _, images => (.ok .empty, images)
  | .extract _, images => (.ok "alpine", images)
  | .read _, images => (.ok .empty, images)

end ImageBuild.Machine
