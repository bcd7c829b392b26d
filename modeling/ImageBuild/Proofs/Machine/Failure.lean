import ImageBuild.Proofs.Machine.Answering
import ImageBuild.Proofs.Session.Play
import ImageBuild.Proofs.Workflow.Abort

namespace ImageBuild.Machine

open Program Workflow
open Daemon (ClientError Command Operation)

def failure (command : Command) (error : ClientError) : Seen := ⟨.client command, .error error⟩

def tellsAbsence : Command → ClientError → Bool
  | .inspect _, .noSuchImage _ => true
  | _, _ => false

/-- How an operation ends when a command has failed: with an error of its own that has the failure as its
cause, unless it has an answer to an absent image. -/
inductive Concludes {α : Type} (absent : Option α) (command : Command) (error : ClientError) : Except Fault α → Prop where
  | answered {value : α} (known : absent = some value) (tells : tellsAbsence command error = true) :
      Concludes absent command error (.ok value)
  | refused {message : String} (final : tellsAbsence command error = true → absent = none) :
      Concludes absent command error (.error (.daemon ⟨message, some (.client error)⟩))

/-- Nothing is asked after a command that fails, and its failure decides how the operation ends. -/
def LosesNoFailure {α : Type} (absent : Option α) (p : Routine α) : Prop :=
  ∀ i front command error back r j, Behaves p i (front ++ failure command error :: back) r j →
    back = [] ∧ Concludes absent command error r

def Call.isCommand : Call → Bool
  | client _ => true
  | _ => false

abbrev Apart {α : Type} (p : Routine α) : Prop := p.Confined fun call : Call => call.isCommand = false

/-! ### Operations -/

section composition

variable {α β : Type} {absent : Option α}

theorem unasked {p : Routine α} (apart : Apart p) {i j : Inside}
    {front back : List Seen} {command : Command} {error : ClientError} {r : Except Fault α} :
    ¬Behaves p i (front ++ failure command error :: back) r j :=
  fun h => nomatch (behaves_confined apart h).1 (failure command error) (by simp)

theorem keeps_apart {p : Routine α} (apart : Apart p) :
    LosesNoFailure absent p :=
  fun _ _ _ _ _ _ _ h => absurd h (unasked apart)

theorem keeps_after {p : Routine β} {f : β → Routine α} (apart : Apart p)
    (rest : ∀ value, LosesNoFailure absent (f value)) : LosesNoFailure absent (p >>= f) := by
  intro i front command error back r j h
  rcases behaves_bind_split h with
    ⟨fault, early, -⟩ | ⟨value, k, _, _, early, -⟩ | ⟨value, k, first, before, -, late, -⟩
  · exact absurd early (unasked apart)
  · exact absurd early (unasked apart)
  · exact rest value _ _ _ _ _ _ _ late

theorem keeps_bind {p : Routine β} {f : β → Routine α} (first : LosesNoFailure none p)
    (rest : ∀ value, LosesNoFailure none (f value)) : LosesNoFailure none (p >>= f) := by
  intro i front command error back r j h
  rcases behaves_bind_split h with
    ⟨fault, early, rfl⟩ | ⟨value, k, _, _, early, -⟩ | ⟨value, k, first, before, -, late, -⟩
  · obtain ⟨rfl, concluded⟩ := first _ _ _ _ _ _ _ early
    cases concluded with
    | refused => exact ⟨rfl, .refused fun _ => rfl⟩
  · cases (first _ _ _ _ _ _ _ early).2 with
    | answered known => cases known
  · exact rest value _ _ _ _ _ _ _ late

theorem keeps_map {absent : Option β} {p : Routine β} (keeps : LosesNoFailure absent p) (f : β → α) :
    LosesNoFailure (absent.map f) (p >>= fun value => pure (f value)) := by
  intro i front command error back r j h
  rcases behaves_bind_split h with
    ⟨fault, early, rfl⟩ | ⟨value, k, rest, later, early, late, rfl⟩ | ⟨value, k, first, before, -, late, -⟩
  · obtain ⟨rfl, concluded⟩ := keeps _ _ _ _ _ _ _ early
    cases concluded with
    | refused final => exact ⟨rfl, .refused fun tells => by rw [final tells]; rfl⟩
  · obtain ⟨rfl, concluded⟩ := keeps _ _ _ _ _ _ _ early
    obtain ⟨rfl, rfl, -⟩ := behaves_pure late
    cases concluded with
    | answered known tells => exact ⟨rfl, .answered (by rw [known]; rfl) tells⟩
  · exact absurd (behaves_pure late).1 (by simp)

end composition

section operations

theorem keeps_command (operation : Operation) (command : Command) :
    LosesNoFailure none (Machine.command operation command) := by
  intro i front other error back r j h
  obtain ⟨answer, only, rfl, -⟩ := behaves_command h
  obtain ⟨rfl, alone⟩ : front = [] ∧ failure other error :: back = [⟨.client command, answer⟩] := by
    simpa using List.append_eq_singleton_iff.1 only
  cases alone
  exact ⟨rfl, .refused fun _ => rfl⟩

theorem keeps_noted_command (message : String) (operation : Operation) (command : Command) :
    LosesNoFailure none (debug message >>= fun _ => Machine.command operation command) :=
  keeps_after (confined_note _) fun _ => keeps_command operation command

theorem keeps_pull (image : String) (login : Option Login) (registry : Option String) :
    LosesNoFailure none (pull image login registry) := by
  unfold pull
  refine keeps_after (confined_ofExcept _ _) fun name => ?_
  cases login with
  | none => exact keeps_noted_command _ _ (.pull _)
  | some login =>
    exact keeps_bind (keeps_command _ (.login _ login.credentials.username login.credentials.password))
      fun _ => keeps_noted_command _ _ (.pull _)

theorem keeps_build (image : String) (archive : Path) (options : BuildOptions) :
    LosesNoFailure none (build image archive options) := by
  have finishes (files : Archive.Unpacked) := keeps_noted_command s!"[Daemon] Building {image} from {archive.text}"
    (.build image) (.build (request image options files))
  have opens : Apart (unpack archive) := by
    refine ⟨rfl, fun answer => ?_⟩
    rcases answer with (_ | _ | _ | _) | files <;> trivial
  unfold build
  refine keeps_after opens fun files => keeps_after (confined_noteIgnored _) fun _ => ?_
  cases options.forceRemove with
  | true => exact keeps_after (confined_note _) fun _ => finishes files
  | false => exact finishes files

theorem keeps_tag (source target : String) : LosesNoFailure none (tag source target) :=
  keeps_noted_command _ _ (.tag source target)

theorem keeps_load (image : String) (archive : Path) : LosesNoFailure none (load image archive) := by
  refine keeps_bind (keeps_command _ (.load archive)) fun loaded => ?_
  split
  · exact keeps_apart (confined_pure _)
  · split
    · exact keeps_apart (confined_pure _)
    · exact keeps_tag _ _

theorem keeps_remove (id : String) (force : Bool) : LosesNoFailure none (remove id force) :=
  keeps_command _ (.remove id force)

theorem keeps_imageId (name : String) : LosesNoFailure (some none) (imageId name) := by
  intro i front command error back r j h
  generalize shown : front ++ failure command error :: back = es at h
  cases h with
  | @perform _ _ answer _ _ rest _ tail =>
    obtain rfl : rest = [] := by
      rcases answer with (text | text) | id
      · exact (behaves_failed tail).1
      · exact (behaves_pure tail).1
      · exact (behaves_pure tail).1
    obtain ⟨rfl, alone⟩ : front = [] ∧ failure command error :: back = [⟨.client (.inspect name), answer⟩] := by
      simpa using List.append_eq_singleton_iff.1 shown
    cases alone
    cases error with
    | failed text =>
      obtain ⟨-, rfl, -⟩ := behaves_failed tail
      exact ⟨rfl, .refused nofun⟩
    | noSuchImage text =>
      obtain ⟨-, rfl, -⟩ := behaves_pure tail
      exact ⟨rfl, .answered rfl rfl⟩

theorem keeps_hasImage (name : String) : LosesNoFailure (some false) (hasImage name) := by
  unfold hasImage
  rw [map_eq_pure_bind]
  exact keeps_map (keeps_imageId name) Option.isSome

theorem keeps_decide (policy : Option String) (image : String) (allowed : Bool) (cached : Cache.PullCache) :
    LosesNoFailure (some true) (Pull.decide hasImage policy image allowed cached) := by
  unfold Pull.decide
  refine keeps_after (confined_ofExcept _ _) fun mode => ?_
  split
  · exact keeps_apart (confined_pure _)
  · refine keeps_apart (confined_bind ?_ fun _ => confined_pure _)
    exact confined_ite (fun _ => confined_note _) fun _ => confined_pure _
  · exact keeps_map (keeps_hasImage image) Bool.not

/-- The routine of every call keeps the failures of its commands. -/
theorem keeps_routine (call : Workflow.Call) : ∃ absent, LosesNoFailure absent (routine call) := by
  cases call with
  | requiresPull => exact ⟨_, keeps_decide _ _ _ _⟩
  | hasImage name => exact ⟨_, keeps_hasImage name⟩
  | resolveId name => exact ⟨_, keeps_imageId name⟩
  | resolveLogin => exact ⟨none, keeps_apart (confined_bind (confined_note _) fun _ => confined_pure _)⟩
  | pull => exact ⟨_, keeps_pull _ _ _⟩
  | build => exact ⟨_, keeps_build _ _ _⟩
  | load => exact ⟨_, keeps_load _ _⟩
  | tag => exact ⟨_, keeps_tag _ _⟩
  | remove => exact ⟨_, keeps_remove _ _⟩
  | createArchive => exact ⟨none, keeps_apart (confined_createArchive rfl)⟩
  | extract => exact ⟨none, keeps_apart (confined_extract rfl)⟩

end operations

/-! ### Builds -/

def isAttempt (mode : Config.Cleanup) : Command → Bool
  | .remove .. => mode == .attempt
  | _ => false

theorem tolerates_daemon {mode : Config.Cleanup} {call : Workflow.Call} {command : Command}
    (issued : issues call (.client command) = true) (error : Daemon.Error) :
    tolerates mode call (.daemon error) = isAttempt mode command := by
  cases call with
  | remove id force =>
    cases command with
    | remove id force => exact Bool.and_true _
    | _ => cases issued
  | _ =>
    cases command with
    | remove id force => cases issued
    | _ => rfl

theorem behaves_told {α : Type} {records : List Log.Record} {value : α} {i j : Inside} {es : List Seen}
    {r : Except Fault α} (h : Behaves (onMachine (told records value)) i es r j) : es = [] ∧ r = .ok value := by
  induction records generalizing i with
  | nil =>
    obtain ⟨rfl, rfl, -⟩ := behaves_pure h
    exact ⟨rfl, rfl⟩
  | cons record records ih =>
    cases h with
    | ledger rest => exact ih rest

theorem refused_of_concludes {α : Type} {absent : Option α} {command : Command} {error : ClientError} {r : Except Fault α}
    (concluded : Concludes absent command error r) (present : tellsAbsence command error = false) :
    ∃ message, r = .error (.daemon ⟨message, some (.client error)⟩) := by
  cases concluded with
  | answered known tells =>
    rw [present] at tells
    cases tells
  | @refused message => exact ⟨message, rfl⟩

/-- A build ends with the first command that fails: with that failure, or well where the old image may stay. -/
theorem behaves_failing {image : Config.Image} {context : Context} {nocache : Option String} {i j : Inside}
    {front back : List Seen} {command : Command} {error : ClientError} {r : Except Fault (Option String)}
    (h : Behaves (onMachine (buildOne image context nocache)) i (front ++ failure command error :: back) r j)
    (present : tellsAbsence command error = false) :
    back = [] ∧ (isAttempt image.build.cleanup command = true → ∃ new, r = .ok new) ∧
      (isAttempt image.build.cleanup command = false →
        ∃ message, r = .error (.daemon ⟨message, some (.client error)⟩)) := by
  obtain ⟨call, next, answer, before, first, rest, after, k, l, stops, asked, ends, -, rfl⟩ :=
    behaves_part (stops_buildOne image context nocache) h
  have issued : issues call (.client command) = true :=
    (behaves_confined (confined_routine call) asked).1 (failure command error) (by simp)
  obtain ⟨absent, keeps⟩ := keeps_routine call
  obtain ⟨rfl, concluded⟩ := keeps _ _ _ _ _ _ _ asked
  obtain ⟨message, rfl⟩ := refused_of_concludes concluded present
  have tolerated : tolerates image.build.cleanup call (.daemon ⟨message, some (.client error)⟩) =
      isAttempt image.build.cleanup command := tolerates_daemon issued _
  cases attempted : isAttempt image.build.cleanup command with
  | false =>
    rw [aborts_of_stops stops (tolerated.trans attempted)] at ends
    obtain ⟨rfl, rfl, -⟩ := behaves_failed ends
    exact ⟨rfl, nofun, fun _ => ⟨message, rfl⟩⟩
  | true =>
    have mild := tolerated.trans attempted
    cases call with
    | remove id force =>
      obtain ⟨good, bad, value, -, ended⟩ := ends_of_stops stops mild
      have finishes : Behaves (onMachine (told bad value)) l after r j := by
        rw [← ended]
        exact ends
      obtain ⟨rfl, rfl⟩ := behaves_told finishes
      exact ⟨rfl, fun _ => ⟨value, rfl⟩, nofun⟩
    | _ => cases mild

/-- Every operation keeps the failures of its commands, and so does a build made of them. -/
theorem no_failure_lost :
    (∀ image login registry, LosesNoFailure none (pull image login registry)) ∧
    (∀ image archive options, LosesNoFailure none (build image archive options)) ∧
    (∀ image archive, LosesNoFailure none (load image archive)) ∧
    (∀ source target, LosesNoFailure none (tag source target)) ∧
    (∀ id force, LosesNoFailure none (remove id force)) ∧
    (∀ name, LosesNoFailure (some none) (imageId name)) ∧
    (∀ name, LosesNoFailure (some false) (hasImage name)) ∧
    ∀ image context nocache i front command error back r j,
      Behaves (onMachine (buildOne image context nocache)) i (front ++ failure command error :: back) r j →
      tellsAbsence command error = false →
      back = [] ∧ (isAttempt image.build.cleanup command = true → ∃ new, r = .ok new) ∧
        (isAttempt image.build.cleanup command = false →
          ∃ message, r = .error (.daemon ⟨message, some (.client error)⟩)) :=
  ⟨keeps_pull, keeps_build, keeps_load, keeps_tag, keeps_remove, keeps_imageId, keeps_hasImage,
    fun _ _ _ _ _ _ _ _ _ _ h present => behaves_failing h present⟩

def renewed (cleanup : Config.Cleanup) : Config.Image := ⟨"app", none, { Config.Build.default with cleanup }⟩

def inUse : State interface Images :=
  .start { present := .ofList [("app", "5c1b")], buildIds := ["9d2e"], failing := .ofList [("remove", "image is in use")] }
    .empty (.ofList [])

theorem no_failure_lost_inUse :
    (∃ new, ((onMachine (buildOne (renewed .attempt) bareContext none)).run handy inUse).1 = .ok new) ∧
    ∃ message, ((onMachine (buildOne (renewed .remove) bareContext none)).run handy inUse).1 =
      .error (.daemon ⟨message, some (.client (.failed "image is in use"))⟩) := by
  obtain ⟨-, -, -, -, -, -, -, builds⟩ := no_failure_lost
  have attempted : (onMachine (buildOne (renewed .attempt) bareContext none)).events handy inUse =
      _ ++ failure (.remove "5c1b" true) (.failed "image is in use") :: [] :=
    (List.take_append_drop 5 _).symm
  have removed : (onMachine (buildOne (renewed .remove) bareContext none)).events handy inUse =
      _ ++ failure (.remove "5c1b" true) (.failed "image is in use") :: [] :=
    (List.take_append_drop 5 _).symm
  have spared := run_behaves handy (onMachine (buildOne (renewed .attempt) bareContext none)) inUse
  have insisted := run_behaves handy (onMachine (buildOne (renewed .remove) bareContext none)) inUse
  rw [attempted] at spared
  rw [removed] at insisted
  exact ⟨(builds _ _ _ _ _ _ _ _ _ _ spared rfl).2.1 rfl, (builds _ _ _ _ _ _ _ _ _ _ insisted rfl).2.2 rfl⟩

end ImageBuild.Machine
