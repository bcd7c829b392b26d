import ImageBuild.Proofs.Program.Blind
import ImageBuild.Proofs.Workflow.Stages

namespace ImageBuild.Workflow

open Program Config Data

/-- The calls that deal with a base image. -/
def Call.isUpkeep : Call → Bool
  | requiresPull .. | hasImage _ | resolveLogin .. | pull .. | tag .. | extract _ => true
  | resolveId _ | build .. | load .. | remove .. | createArchive .. => false

abbrev Upkeep {α : Type} (p : Build α) : Prop := p.Blind fun call : Call => call.isUpkeep = true

abbrev Unlogged {α : Type} (p : Build α) : Prop := p.Blind fun _ : Call => True

theorem blind_ask {allowed : Call → Prop} {call : Call} (may : allowed call) : (ask call).Blind allowed := by
  refine ⟨may, fun answer => ?_⟩
  cases answer <;> trivial

theorem blind_elapsed {allowed : Call → Prop} (start : Float) : (elapsed start).Blind allowed :=
  blind_bind blind_now fun _ => blind_ofExcept _ _

theorem upkeep_resolveBase (build : Config.Build) (context : Context) : Upkeep (resolveBase build context) := by
  unfold resolveBase
  split
  · exact blind_pure _
  · split
    · refine blind_bind (blind_ofExcept _ _) fun path => blind_bind (blind_attempt rfl) fun answer => ?_
      split
      · exact blind_pure _
      · exact blind_bind (blind_note _) fun _ => blind_pure _
      · exact blind_bind (blind_note _) fun _ => blind_pure _
      · trivial
    · exact blind_pure _

theorem upkeep_pullImage (image : String) (name : Reference) (registry : Option String) (context : Context) :
    Upkeep (pullImage image name registry context) := by
  unfold pullImage
  refine blind_bind blind_now fun start => ?_
  refine blind_bind (blind_ask rfl) fun login => blind_bind (blind_ask rfl) fun _ => ?_
  refine blind_bind (blind_elapsed start) fun time => blind_bind (blind_note _) fun _ => ?_
  refine blind_bind (blind_add image Cache.cacheKey) fun _ => ?_
  split
  · refine blind_bind (blind_ofExcept _ _) fun qualified => ?_
    exact blind_bind (blind_ask rfl) fun _ => blind_note _
  · exact blind_pure _

theorem upkeep_checkImage (image : String) (registry : Option String) (alwaysAllowed : Bool)
    (context : Context) : Upkeep (checkImage image registry alwaysAllowed context) := by
  unfold checkImage
  refine blind_bind (blind_ofExcept _ _) fun name => ?_
  refine blind_bind (blind_load Cache.cacheKey) fun cached => blind_bind (blind_ask rfl) fun wanted => ?_
  split
  · exact upkeep_pullImage image name registry context
  · exact blind_note _

theorem upkeep_prepare (image : Image) (context : Context) : Upkeep (prepare image context) := by
  unfold prepare
  split
  · exact blind_pure _
  · rw [autoPullBase_eq]
    refine blind_bind (upkeep_resolveBase image.build context) fun base => ?_
    unfold checkBase
    split
    · exact blind_note _
    · split
      · exact blind_note _
      · exact upkeep_checkImage _ _ _ _

theorem unlogged_oldId (image : Image) : Unlogged (oldId image) := by
  unfold oldId
  cases image.build.cleanup.isRemovalRequested with
  | true => exact blind_ask trivial
  | false => exact blind_pure _

theorem unlogged_retire (image : Image) (old new : Option String) : Unlogged (retire image old new) := by
  unfold retire attemptRemoval
  split
  · exact blind_pure _
  · split
    · exact blind_pure _
    · refine blind_bind ?_ fun removal => ?_
      · split
        · exact blind_pure _
        · refine blind_bind (blind_attempt trivial) fun answer => ?_
          split
          · exact blind_bind (blind_note _) fun _ => blind_pure _
          · split
            · exact blind_bind (blind_note _) fun _ => blind_pure _
            · exact blind_pure _
          · trivial
      · split <;> trivial

theorem unlogged_renew (image : Image) (context : Context) (nocache : Option String) (args : Table String)
    (old : Option String) : Unlogged (renew image context nocache args old) := by
  unfold renew loadImage buildImage
  split
  · refine blind_bind (blind_bind blind_now fun start => ?_) fun _ => blind_pure _
    exact blind_bind (blind_ask trivial) fun _ => blind_bind (blind_elapsed start) fun _ => blind_note _
  · refine blind_bind (blind_bind blind_now fun start => ?_) fun new => ?_
    · refine blind_bind (blind_ask trivial) fun archive => blind_bind (blind_elapsed start) fun time => ?_
      refine blind_bind (blind_note _) fun _ => blind_bind (blind_ask trivial) fun _ => ?_
      exact blind_bind (blind_ask trivial) fun id => blind_bind (blind_note _) fun _ => blind_pure _
    · exact blind_bind (unlogged_retire image old new) fun _ => blind_pure _

theorem unlogged_buildOne (image : Image) (context : Context) (nocache : Option String) :
    Unlogged (buildOne image context nocache) := by
  rw [buildOne_eq]
  refine blind_bind (blind_ofExcept _ _) fun _ => blind_bind (blind_note _) fun _ => ?_
  refine blind_bind ((upkeep_prepare image context).mono fun _ _ => trivial) fun _ => ?_
  refine blind_bind (blind_bind (blind_note _) fun _ => blind_pure _) fun args => ?_
  rw [execute_eq]
  refine blind_bind (blind_bind (blind_ofExcept _ _) fun _ => ?_) fun id => ?_
  · exact blind_bind (unlogged_oldId image) fun old => unlogged_renew image context _ args old
  · exact blind_bind (blind_note _) fun _ => blind_pure _

end ImageBuild.Workflow
