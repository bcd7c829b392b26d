import ImageBuild.Proofs.Program.Confined
import ImageBuild.Workflow.Build

namespace ImageBuild.Workflow

open Program Config Data

def oldId (image : Image) : Build (Option String) :=
  if image.build.cleanup.isRemovalRequested then ask (.resolveId image.name) else pure none

def renew (image : Image) (context : Context) (nocache : Option String) (args : Table String)
    (old : Option String) : Build (Option String) :=
  match image.build.source context.baseDir with
  | .archive path => loadImage image path >>= fun _ => pure none
  | .generated _ =>
    buildImage image context nocache args >>= fun new => retire image old new >>= fun _ => pure new

theorem execute_eq (image : Image) (context : Context) (nocache : Option String) (args : Table String) :
    execute image context nocache args =
      Program.ofExcept .reference (Reference.parse image.name) >>= fun _ =>
        oldId image >>= renew image context nocache args := by
  unfold execute oldId
  congr 1
  funext _
  cases image.build.cleanup.isRemovalRequested <;> rfl

def afterPull (image : Image) (context : Context) (nocache : Option String) : Build (Option String) :=
  resolveArgs image context >>= fun args =>
    execute image context (nocache.or (nocacheOverride context)) args >>= fun id =>
      Program.info .workflow s!"[BuildService] Finished build workflow for {image.description}" >>= fun _ =>
        pure id

def prepare (image : Image) (context : Context) : Build Unit :=
  if image.build.isArchiveMode then pure () else autoPullBase image context

theorem buildOne_eq (image : Image) (context : Context) (nocache : Option String) :
    buildOne image context nocache =
      Program.ofExcept .reference (Reference.parse image.name) >>= fun _ =>
        Program.info .workflow s!"[BuildService] Starting build workflow for {image.description}" >>= fun _ =>
          prepare image context >>= fun _ => afterPull image context nocache := by
  unfold buildOne prepare
  congr 1
  funext _
  congr 1
  funext _
  cases image.build.isArchiveMode <;> rfl

def checkBase (image : Image) (context : Context) : Option String → Build Unit
  | none =>
    Program.debug .puller s!"[AutoPull] {image.description}: no base image known, skipping auto-pull"
  | some base =>
    if base = scratch then
      Program.debug .puller s!"[AutoPull] {image.description}: '{base}' needs no pull"
    else checkImage base none true context

theorem autoPullBase_eq (image : Image) (context : Context) :
    autoPullBase image context = resolveBase image.build context >>= checkBase image context := rfl

def report (results : List (Image × Except Fault (Option String))) : Build (Table (Option String)) :=
  gather .empty results >>= fun ids =>
    match firstFailure? results with
    | some fault => .failed fault
    | none => pure ids

theorem buildEach_cons (context : Context) (nocache : Option String) (image : Image) (images : List Image) :
    buildEach context nocache (image :: images) =
      (buildOne image context nocache).outcome >>= fun result =>
        buildEach context nocache images >>= fun later => pure ((image, result) :: later) := rfl

def startRecord (images : List Image) : Log.Record :=
  ⟨.info, .workflow, s!"[BuildService] Building {images.length} image(s) with up to {(1 : Int)} workers"⟩

theorem buildAll_cons (image : Image) (images : List Image) (context : Context) (nocache : Option String) :
    buildAll (image :: images) context nocache (some 1) =
      Program.note (startRecord (image :: images)) >>= fun _ =>
        buildEach context nocache (image :: images) >>= report := rfl

/-! ### What a stage may ask -/

section stages

variable {allowed : Call → Prop}

theorem confined_ask {call : Call} (may : allowed call) : (ask call).Confined allowed := by
  refine ⟨may, fun answer => ?_⟩
  cases answer <;> trivial

theorem confined_elapsed (start : Float) : (elapsed start).Confined allowed :=
  confined_bind confined_now fun _ => confined_ofExcept _ _

theorem confined_oldId {image : Image} (looks : allowed (.resolveId image.name)) : (oldId image).Confined allowed :=
  confined_ite (fun _ => confined_ask looks) fun _ => confined_pure _

theorem confined_loadImage {image : Image} {archive : Path} (loads : allowed (.load image.name archive)) :
    (loadImage image archive).Confined allowed :=
  confined_bind confined_now fun _ =>
    confined_bind (confined_ask loads) fun _ =>
      confined_bind (confined_elapsed _) fun _ => confined_note _

theorem confined_attemptRemoval {mode : Cleanup} {id : String} (description : String) (removes : allowed (.remove id true)) :
    (attemptRemoval mode id description).Confined allowed := by
  unfold attemptRemoval
  refine confined_ite (fun _ => confined_pure _) fun _ => ?_
  refine confined_bind (confined_attempt removes) fun answer => ?_
  split
  · exact confined_bind (confined_note _) fun _ => confined_pure _
  · exact confined_ite (fun _ => confined_bind (confined_note _) fun _ => confined_pure _)
      fun _ => confined_pure _
  · trivial

theorem confined_retire (image : Image) (old new : Option String) (removes : ∀ id, allowed (.remove id true)) :
    (retire image old new).Confined allowed := by
  unfold retire
  split
  · exact confined_pure _
  · refine confined_ite (fun _ => confined_pure _) fun _ => ?_
    refine confined_bind (confined_attemptRemoval _ (removes _)) fun removal => ?_
    split <;> trivial

end stages

/-! ### Quiet stages -/

/-- Whether a call has nothing to do with pulling an image. -/
def Call.isQuiet : Call → Bool
  | requiresPull .. | hasImage _ | resolveLogin .. | pull .. | tag .. => false
  | resolveId _ | build .. | load .. | remove .. | createArchive .. | extract _ => true

/-- Makes quiet calls only, and leaves the store alone. -/
abbrev Quiet {α : Type} (p : Build α) : Prop := p.Confined fun call : Call => call.isQuiet = true

theorem quiet_baseOfDockerfile (build : Config.Build) (context : Context) :
    Quiet (baseOfDockerfile build context) := by
  unfold baseOfDockerfile
  refine confined_bind (confined_ofExcept _ _) fun path => ?_
  refine confined_bind (confined_attempt rfl) fun answer => ?_
  split
  · exact confined_pure _
  · exact confined_bind (confined_note _) fun _ => confined_pure _
  · exact confined_bind (confined_note _) fun _ => confined_pure _
  · trivial

theorem quiet_resolveBase (build : Config.Build) (context : Context) :
    Quiet (resolveBase build context) :=
  confined_ite (fun _ => confined_pure _) fun _ =>
    confined_ite (fun _ => quiet_baseOfDockerfile build context) fun _ => confined_pure _

theorem quiet_buildImage (image : Image) (context : Context) (nocache : Option String)
    (args : Table String) : Quiet (buildImage image context nocache args) :=
  confined_bind confined_now fun _ =>
    confined_bind (confined_ask rfl) fun _ =>
      confined_bind (confined_elapsed _) fun _ =>
        confined_bind (confined_note _) fun _ =>
          confined_bind (confined_ask rfl) fun _ =>
            confined_bind (confined_ask rfl) fun _ =>
              confined_bind (confined_note _) fun _ => confined_pure _

theorem quiet_execute (image : Image) (context : Context) (nocache : Option String)
    (args : Table String) : Quiet (execute image context nocache args) := by
  rw [execute_eq]
  refine confined_bind (confined_ofExcept _ _) fun _ => confined_bind (confined_oldId rfl) fun old => ?_
  unfold renew
  split
  · exact confined_bind (confined_loadImage rfl) fun _ => confined_pure _
  · exact confined_bind (quiet_buildImage image context nocache args) fun new =>
      confined_bind (confined_retire image old new fun _ => rfl) fun _ => confined_pure _

theorem quiet_afterPull (image : Image) (context : Context) (nocache : Option String) :
    Quiet (afterPull image context nocache) :=
  confined_bind (confined_bind (confined_note _) fun _ => confined_pure _) fun _ =>
    confined_bind (quiet_execute image context _ _) fun _ =>
      confined_bind (confined_note _) fun _ => confined_pure _

end ImageBuild.Workflow
