import ImageBuild.Proofs.Program.Failing
import ImageBuild.Proofs.Workflow.Stages

namespace ImageBuild.Workflow

open Program Config Data

/-- A Dockerfile has no base image to tell, or cannot be read. -/
def isUnreadable : Fault → Bool
  | .baseImage _ | .system _ => true
  | _ => false

def isRefusal : Fault → Bool
  | .daemon _ => true
  | _ => false

/-- The failures that do not end a build. -/
def tolerates (mode : Cleanup) : Call → Fault → Bool
  | .extract _, fault => isUnreadable fault
  | .remove _ _, fault => mode == .attempt && isRefusal fault
  | _, _ => false

def told {α : Type} (records : List Log.Record) (value : α) : Build α :=
  Program.noteAll records >>= fun _ => pure value

/-- A place at which every failure ends the program. -/
structure Plain {α : Type} (call : Call) (next : Except Fault call.Answer → Build α) : Prop where
  strict : ∀ mode fault, tolerates mode call fault = false
  aborts : ∀ fault, next (.error fault) = .failed fault

section places

variable {α β : Type} {mode : Cleanup}

theorem Plain.carry {call : Call} {next : Except Fault call.Answer → Build α} (plain : Plain call next)
    (f : α → Build β) : Plain call fun answer => next answer >>= f := by
  refine ⟨plain.strict, fun fault => ?_⟩
  rw [plain.aborts]
  rfl

theorem every_plain_bind {Q : Place surroundings β} {p : Build α} {f : α → Build β}
    (weaken : ∀ call next, Plain call next → Q call next) (first : p.Every Plain)
    (rest : ∀ value, (f value).Every Q) : (p >>= f).Every Q :=
  every_bind first (fun call _ plain => weaken call _ (plain.carry f)) rest

theorem plain_bind {p : Build α} {f : α → Build β} (first : p.Every Plain)
    (rest : ∀ value, (f value).Every Plain) : (p >>= f).Every Plain :=
  every_plain_bind (fun _ _ plain => plain) first rest

theorem plain_ask {call : Call} (strict : ∀ mode fault, tolerates mode call fault = false) :
    (ask call).Every Plain := by
  refine ⟨⟨strict, fun _ => rfl⟩, fun answer => ?_⟩
  cases answer <;> trivial

theorem plain_pure (value : α) : (pure value : Build α).Every Plain := trivial

theorem plain_note (record : Log.Record) : (Program.note record : Build Unit).Every Plain :=
  fun _ => trivial

theorem plain_ofExcept {ε : Type} (fault : ε → Fault) (value : Except ε α) :
    (Program.ofExcept fault value : Build α).Every Plain := by
  cases value <;> trivial

theorem plain_ofStep (step : Cache.Step α) : (Program.ofStep step : Build α).Every Plain := by
  intro before
  dsimp only
  split <;> trivial

theorem plain_elapsed (start : Float) : (elapsed start).Every Plain :=
  plain_bind (fun _ => trivial) fun _ => plain_ofExcept _ _

theorem plain_pullImage (image : String) (name : Reference) (registry : Option String) (context : Context) :
    (pullImage image name registry context).Every Plain := by
  unfold pullImage
  refine plain_bind (fun _ => trivial) fun start => ?_
  refine plain_bind (plain_ask fun _ _ => rfl) fun login => ?_
  refine plain_bind (plain_ask fun _ _ => rfl) fun _ => ?_
  refine plain_bind (plain_elapsed start) fun time => ?_
  refine plain_bind (plain_note _) fun _ => ?_
  refine plain_bind (plain_ofStep _) fun _ => ?_
  split
  · refine plain_bind (plain_ofExcept _ _) fun qualified => ?_
    exact plain_bind (plain_ask fun _ _ => rfl) fun _ => plain_note _
  · exact plain_pure _

theorem plain_checkImage (image : String) (registry : Option String) (alwaysAllowed : Bool)
    (context : Context) : (checkImage image registry alwaysAllowed context).Every Plain := by
  unfold checkImage
  refine plain_bind (plain_ofExcept _ _) fun name => ?_
  refine plain_bind (plain_ofStep _) fun cached => ?_
  refine plain_bind (plain_ask fun _ _ => rfl) fun wanted => ?_
  split
  · exact plain_pullImage image name registry context
  · exact plain_note _

theorem plain_checkBase (image : Image) (context : Context) (base : Option String) :
    (checkBase image context base).Every Plain := by
  unfold checkBase
  split
  · exact plain_note _
  · split
    · exact plain_note _
    · exact plain_checkImage _ _ _ _

theorem plain_oldId (image : Image) : (oldId image).Every Plain := by
  unfold oldId
  cases image.build.cleanup.isRemovalRequested with
  | true => exact plain_ask fun _ _ => rfl
  | false => exact plain_pure _

theorem plain_loadImage (image : Image) (archive : Path) : (loadImage image archive).Every Plain :=
  plain_bind (fun _ => trivial) fun start =>
    plain_bind (plain_ask fun _ _ => rfl) fun _ =>
      plain_bind (plain_elapsed start) fun _ => plain_note _

theorem plain_buildImage (image : Image) (context : Context) (nocache : Option String)
    (args : Table String) : (buildImage image context nocache args).Every Plain :=
  plain_bind (fun _ => trivial) fun start =>
    plain_bind (plain_ask fun _ _ => rfl) fun _ =>
      plain_bind (plain_elapsed start) fun _ =>
        plain_bind (plain_note _) fun _ =>
          plain_bind (plain_ask fun _ _ => rfl) fun _ =>
            plain_bind (plain_ask fun _ _ => rfl) fun _ =>
              plain_bind (plain_note _) fun _ => plain_pure _

end places

/-! ### Reading the Dockerfile -/

/-- Every failure ends the program, but after an unreadable Dockerfile it resumes. -/
inductive Reads {α : Type} (resume : Log.Record → Build α) :
    (call : Call) → (Except Fault call.Answer → Build α) → Prop where
  | plain {call : Call} {next : Except Fault call.Answer → Build α} (plain : Plain call next) :
      Reads resume call next
  | extract {path : Path} {next : Except Fault String → Build α}
      (aborts : ∀ fault, isUnreadable fault = false → next (.error fault) = .failed fault)
      (resumes : ∀ fault, isUnreadable fault = true → ∃ record, next (.error fault) = resume record) :
      Reads resume (.extract path) next

section reading

variable {α β : Type} {resume : Log.Record → Build α}

theorem reads_of_plain {p : Build α} (plain : p.Every Plain) : p.Every (Reads resume) :=
  plain.mono fun _ _ => .plain

theorem Reads.carry {call : Call} {next : Except Fault call.Answer → Build α}
    (reads : Reads resume call next) (f : α → Build β) :
    Reads (fun record => resume record >>= f) call fun answer => next answer >>= f := by
  cases reads with
  | plain plain => exact .plain (plain.carry f)
  | extract aborts resumes =>
    refine .extract (fun fault readable => ?_) fun fault unreadable => ?_
    · rw [aborts fault readable]
      rfl
    · obtain ⟨record, resumed⟩ := resumes fault unreadable
      exact ⟨record, by rw [resumed]⟩

theorem reads_baseOfDockerfile (build : Config.Build) (context : Context) :
    (baseOfDockerfile build context).Every
      (Reads fun record => Program.note record >>= fun _ => pure none) := by
  unfold baseOfDockerfile
  cases build.dockerfilePath context.baseDir with
  | error reason => trivial
  | ok path =>
    refine ⟨.extract (fun fault readable => ?_) fun fault unreadable => ?_, fun answer => ?_⟩
    · cases fault with
      | baseImage | system => cases readable
      | _ => rfl
    · cases fault with
      | baseImage | system => exact ⟨_, rfl⟩
      | _ => cases unreadable
    · cases answer with
      | ok => trivial
      | error fault =>
        cases fault with
        | baseImage | system => exact fun _ => trivial
        | _ => trivial

theorem reads_resolveBase (build : Config.Build) (context : Context) :
    (resolveBase build context).Every
      (Reads fun record => Program.note record >>= fun _ => pure none) := by
  unfold resolveBase
  split
  · trivial
  · split
    · exact reads_baseOfDockerfile build context
    · trivial

def skipBase (image : Image) (context : Context) (record : Log.Record) : Build Unit :=
  Program.note record >>= fun _ => checkBase image context none

theorem reads_prepare (image : Image) (context : Context) :
    (prepare image context).Every (Reads (skipBase image context)) := by
  unfold prepare
  split
  · trivial
  · rw [autoPullBase_eq]
    exact every_bind (reads_resolveBase image.build context) (fun _ _ reads => reads.carry _)
      fun base => reads_of_plain (plain_checkBase image context base)

end reading

/-! ### Retiring the old image -/

/-- Every failure ends the program, but after an attempted removal it ends as if the removal had succeeded. -/
inductive Retires {α : Type} (mode : Cleanup) :
    (call : Call) → (Except Fault call.Answer → Build α) → Prop where
  | plain {call : Call} {next : Except Fault call.Answer → Build α} (plain : Plain call next) :
      Retires mode call next
  | remove {id : String} {force : Bool} {next : Except Fault Unit → Build α}
      (aborts : ∀ fault, tolerates mode (.remove id force) fault = false → next (.error fault) = .failed fault)
      (ends : ∀ fault, tolerates mode (.remove id force) fault = true →
        ∃ good bad value, next (.ok ()) = told good value ∧ next (.error fault) = told bad value) :
      Retires mode (.remove id force) next

section retiring

variable {α β : Type} {mode : Cleanup}

theorem retires_of_plain {p : Build α} (plain : p.Every Plain) : p.Every (Retires mode) :=
  plain.mono fun _ _ => .plain

theorem retires_plain_bind {p : Build α} {f : α → Build β} (first : p.Every Plain)
    (rest : ∀ value, (f value).Every (Retires mode)) : (p >>= f).Every (Retires mode) :=
  every_plain_bind (fun _ _ => .plain) first rest

theorem noteAll_append (records more : List Log.Record) :
    (Program.noteAll (records ++ more) : Build Unit) =
      Program.noteAll records >>= fun _ => Program.noteAll more := by
  induction records with
  | nil => rfl
  | cons record records ih =>
    change (Program.note record >>= fun _ => Program.noteAll (records ++ more)) = _
    rw [ih]
    exact (bind_assoc _ _ _).symm

theorem told_bind {records more : List Log.Record} {value : α} {last : β} {f : α → Build β}
    (ends : f value = told more last) : told records value >>= f = told (records ++ more) last := by
  unfold told
  rw [noteAll_append, LawfulMonad.bind_assoc, LawfulMonad.bind_assoc, LawfulMonad.pure_bind, ends]
  rfl

theorem plain_told (records : List Log.Record) (value : α) : (told records value).Every Plain := by
  induction records with
  | nil => trivial
  | cons record records ih => exact fun _ => ih

/-- If what follows only reports, an attempted removal still ends as if it had succeeded. -/
theorem Retires.carry {call : Call} {next : Except Fault call.Answer → Build α} {f : α → Build β}
    (retires : Retires mode call next) (ends : ∀ value, ∃ more last, f value = told more last) :
    Retires mode call fun answer => next answer >>= f := by
  cases retires with
  | plain plain => exact .plain (plain.carry f)
  | remove aborts finish =>
    refine .remove (fun fault strict => ?_) fun fault mild => ?_
    · rw [aborts fault strict]
      rfl
    · obtain ⟨good, bad, value, succeeded, refused⟩ := finish fault mild
      obtain ⟨more, last, ended⟩ := ends value
      refine ⟨good ++ more, bad ++ more, last, ?_, ?_⟩
      · rw [succeeded, told_bind ended]
      · rw [refused, told_bind ended]

theorem retires_bind {p : Build α} {f : α → Build β} (first : p.Every (Retires mode))
    (ends : ∀ value, ∃ more last, f value = told more last) : (p >>= f).Every (Retires mode) := by
  refine every_bind first (fun call next retires => retires.carry ends) fun value => ?_
  obtain ⟨more, last, ended⟩ := ends value
  rw [ended]
  exact retires_of_plain (plain_told more last)

theorem retires_retire (image : Image) (old new : Option String) :
    (retire image old new).Every (Retires image.build.cleanup) := by
  unfold retire
  cases old with
  | none => trivial
  | some id =>
    dsimp only
    split
    · trivial
    · unfold attemptRemoval
      generalize image.build.cleanup = mode
      cases mode with
      | keep => trivial
      | attempt =>
        refine ⟨.remove (fun fault strict => ?_) fun fault mild => ?_, fun answer => ?_⟩
        · cases fault with
          | daemon => cases strict
          | _ => rfl
        · cases fault with
          | daemon => exact ⟨[_], [_], (), rfl, rfl⟩
          | _ => cases mild
        · cases answer with
          | ok => exact fun _ => trivial
          | error fault =>
            cases fault with
            | daemon => exact fun _ => trivial
            | _ => trivial
      | remove =>
        refine ⟨.remove (fun fault _ => ?_) fun fault mild => ?_, fun answer => ?_⟩
        · cases fault <;> rfl
        · cases mild
        · cases answer with
          | ok => exact fun _ => trivial
          | error fault => cases fault <;> trivial

theorem retires_execute (image : Image) (context : Context) (nocache : Option String) (args : Table String) :
    (execute image context nocache args).Every (Retires image.build.cleanup) := by
  rw [execute_eq]
  refine retires_plain_bind (plain_ofExcept _ _) fun _ => retires_plain_bind (plain_oldId image) fun old => ?_
  unfold renew
  split
  · exact retires_of_plain (plain_bind (plain_loadImage image _) fun _ => plain_pure _)
  · refine retires_plain_bind (plain_buildImage image context nocache args) fun new => ?_
    exact retires_bind (retires_retire image old new) fun _ => ⟨[], new, rfl⟩

theorem retires_afterPull (image : Image) (context : Context) (nocache : Option String) :
    (afterPull image context nocache).Every (Retires image.build.cleanup) := by
  refine retires_plain_bind (plain_bind (plain_note _) fun _ => plain_pure _) fun args => ?_
  exact retires_bind (retires_execute image context _ args) fun id => ⟨[_], id, rfl⟩

end retiring

/-! ### The whole build -/

def withoutBase (image : Image) (context : Context) (nocache : Option String) (record : Log.Record) :
    Build (Option String) :=
  skipBase image context record >>= fun _ => afterPull image context nocache

theorem quiet_withoutBase (image : Image) (context : Context) (nocache : Option String) (record : Log.Record) :
    Quiet (withoutBase image context nocache record) :=
  confined_bind (confined_bind (confined_note _) fun _ => confined_note _) fun _ =>
    quiet_afterPull image context nocache

/-- How the failures of a build's calls end it or do not. -/
def Stops (image : Image) (context : Context) (nocache : Option String) : Place surroundings (Option String) :=
  fun call next =>
    Reads (withoutBase image context nocache) call next ∨ Retires image.build.cleanup call next

theorem stops_buildOne (image : Image) (context : Context) (nocache : Option String) :
    (buildOne image context nocache).Every (Stops image context nocache) := by
  have weaken : ∀ call next, Plain call next → Stops image context nocache call next :=
    fun _ _ plain => .inr (.plain plain)
  rw [buildOne_eq]
  refine every_plain_bind weaken (plain_ofExcept _ _) fun _ => ?_
  refine every_plain_bind weaken (plain_note _) fun _ => ?_
  refine every_bind (reads_prepare image context) (fun _ _ reads => .inl (reads.carry _)) fun _ => ?_
  exact (retires_afterPull image context nocache).mono fun _ _ => .inr

theorem aborts_of_stops {image : Image} {context : Context} {nocache : Option String} {call : Call}
    {next : Except Fault call.Answer → Build (Option String)} (stops : Stops image context nocache call next)
    {fault : Fault} (strict : tolerates image.build.cleanup call fault = false) :
    next (.error fault) = .failed fault := by
  rcases stops with reads | retires
  · cases reads with
    | plain plain => exact plain.aborts fault
    | extract aborts _ => exact aborts fault strict
  · cases retires with
    | plain plain => exact plain.aborts fault
    | remove aborts _ => exact aborts fault strict

theorem resumes_of_stops {image : Image} {context : Context} {nocache : Option String} {path : Path}
    {next : Except Fault String → Build (Option String)}
    (stops : Stops image context nocache (.extract path) next) {fault : Fault}
    (unreadable : isUnreadable fault = true) :
    ∃ record, next (.error fault) = withoutBase image context nocache record := by
  rcases stops with reads | retires
  · cases reads with
    | plain plain => exact nomatch unreadable.symm.trans (plain.strict .keep fault)
    | extract _ resumes => exact resumes fault unreadable
  · cases retires with
    | plain plain => exact nomatch unreadable.symm.trans (plain.strict .keep fault)

theorem ends_of_stops {image : Image} {context : Context} {nocache : Option String} {id : String}
    {force : Bool} {next : Except Fault Unit → Build (Option String)}
    (stops : Stops image context nocache (.remove id force) next) {fault : Fault}
    (mild : tolerates image.build.cleanup (.remove id force) fault = true) :
    ∃ good bad value, next (.ok ()) = told good value ∧ next (.error fault) = told bad value := by
  rcases stops with reads | retires
  · cases reads with
    | plain plain => exact nomatch mild.symm.trans (plain.strict image.build.cleanup fault)
  · cases retires with
    | plain plain => exact nomatch mild.symm.trans (plain.strict image.build.cleanup fault)
    | remove _ ends => exact ends fault mild

theorem run_told {α W : Type} (answers : Answers surroundings W) (records : List Log.Record) (value : α)
    (s : State surroundings W) :
    ∃ log, (told records value).run answers s =
      (.ok value, { s with ledger := { s.ledger with log } }) := by
  induction records generalizing s with
  | nil => exact ⟨s.ledger.log, rfl⟩
  | cons record records ih =>
    exact ih { s with ledger := s.ledger.note record.severity record.channel record.message }

end ImageBuild.Workflow
