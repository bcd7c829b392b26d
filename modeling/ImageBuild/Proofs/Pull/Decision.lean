import ImageBuild.Proofs.Program.Behaviour
import ImageBuild.Workflow.Script

namespace ImageBuild.Pull

open Cache (PullCache)
open Program Workflow
open Text (Points)

def Verdict.pulls (verdict : Verdict) (present : Bool) : Bool :=
  match verdict with
  | pull => true
  | skip => false
  | pullIfAbsent => !present

namespace Policy

variable {policy : Policy} {allowed cached present : Bool}

theorem verdict_eq_pullIfAbsent : policy.verdict allowed cached = .pullIfAbsent ↔
    cached = false ∧ (policy = .on ∨ policy.isUnconditional = true ∧ allowed = false) := by
  cases policy <;> cases allowed <;> cases cached <;> simp [verdict, isUnconditional]

theorem pulls_of_cached (pulled : (policy.verdict allowed true).pulls present = true) :
    (policy.verdict allowed false).pulls present = true := by
  cases policy <;> cases allowed <;> simp [verdict, Verdict.pulls] at pulled ⊢

end Policy

/-- The policy leaves it to what is present: the image is not cached, and it is to be pulled if it is missing. -/
def LeftOpen (policy : Option String) (image : String) (allowed : Bool) (cached : PullCache) : Prop :=
  ∃ mode, Policy.parse policy = .ok mode ∧ cached.contains image = false ∧
    (mode = .on ∨ mode.isUnconditional = true ∧ allowed = false)

section decision

variable {I : Interface} {W : Type} {answers : Answers I W} {hasImage : String → Program I Bool}
  {policy : Option String} {image : String} {allowed : Bool} {cached : PullCache} {mode : Policy} {s : State I W}

theorem run_noteSkip (answers : Answers I W) (mode : Policy) (image : String) (allowed : Bool) (s : State I W) :
    ∃ ledger, (noteSkip mode image allowed).run answers s = (.ok (), { s with ledger }) ∧
      (noteSkip mode image allowed).events answers s = [] := by
  unfold noteSkip
  split
  · exact ⟨_, rfl, rfl⟩
  · exact ⟨s.ledger, rfl, rfl⟩

theorem run_decide_refused (hasImage : String → Program I Bool) {refusal : Config.Refusal}
    (refused : Policy.parse policy = .error refusal) :
    (Pull.decide hasImage policy image allowed cached).run answers s = (.error (.refused refusal), s) ∧
      (Pull.decide hasImage policy image allowed cached).events answers s = [] := by
  unfold Pull.decide
  rw [refused]
  exact ⟨rfl, rfl⟩

/-- A policy that can be read decides by its verdict, and asks only if the verdict leaves it open. -/
theorem run_decide (hasImage : String → Program I Bool) (allowed : Bool) (cached : PullCache)
    (read : Policy.parse policy = .ok mode) {present : Bool}
    (known : ((hasImage image).run answers s).1 = .ok present) :
    ((Pull.decide hasImage policy image allowed cached).run answers s).1 =
        .ok ((mode.verdict allowed (cached.contains image)).pulls present) ∧
      (Pull.decide hasImage policy image allowed cached).events answers s =
        if mode.verdict allowed (cached.contains image) = .pullIfAbsent then (hasImage image).events answers s
        else [] := by
  have first : Program.ofExcept (I := I) Fault.refused (Policy.parse policy) = pure mode := by
    rw [read]
    rfl
  unfold Pull.decide
  rw [first, pure_bind]
  cases mode.verdict allowed (cached.contains image) with
  | pull => exact ⟨rfl, rfl⟩
  | skip =>
    obtain ⟨ledger, noted, silent⟩ := run_noteSkip answers mode image allowed s
    dsimp only
    rw [run_bind, events_bind, noted, silent]
    exact ⟨rfl, rfl⟩
  | pullIfAbsent =>
    obtain ⟨after, ended⟩ : ∃ after, (hasImage image).run answers s = (.ok present, after) := ⟨_, Prod.ext known rfl⟩
    dsimp only
    rw [run_bind, events_bind, ended]
    exact ⟨rfl, List.append_nil _⟩

end decision

/-! ### The query -/

section query

variable {W : Type} {answers : Answers surroundings W} {policy : Option String} {image : String} {allowed : Bool}
  {cached fewer more : PullCache} {mode : Policy} {s : State surroundings W} {present : Bool}

theorem run_ask_hasImage (known : (answers (.hasImage image) s.world).1 = .ok present) :
    ((ask (.hasImage image)).run answers s).1 = .ok present ∧
      (ask (.hasImage image)).events answers s = [⟨.hasImage image, .ok present⟩] := by
  obtain ⟨world, told⟩ : ∃ world, answers (.hasImage image) s.world = (.ok present, world) := ⟨_, Prod.ext known rfl⟩
  simp only [ask, run, events, told, and_self]

theorem requiresPull_read (allowed : Bool) (cached : PullCache) (read : Policy.parse policy = .ok mode)
    (known : (answers (.hasImage image) s.world).1 = .ok present) :
    ((requiresPull policy image allowed cached).run answers s).1 =
        .ok ((mode.verdict allowed (cached.contains image)).pulls present) ∧
      (requiresPull policy image allowed cached).events answers s =
        if mode.verdict allowed (cached.contains image) = .pullIfAbsent then [⟨.hasImage image, .ok present⟩]
        else [] := by
  obtain ⟨answered, asked⟩ := run_ask_hasImage known
  have told := run_decide (fun name => ask (.hasImage name)) allowed cached read answered
  exact ⟨told.1, told.2.trans (ite_congr rfl (fun _ => asked) fun _ => rfl)⟩

theorem requiresPull_refused (answers : Answers surroundings W) (s : State surroundings W) {refusal : Config.Refusal}
    (allowed : Bool) (cached : PullCache) (refused : Policy.parse policy = .error refusal) :
    ((requiresPull policy image allowed cached).run answers s).1 = .error (.refused refusal) ∧
      (requiresPull policy image allowed cached).events answers s = [] := by
  obtain ⟨ended, silent⟩ := run_decide_refused (fun name => ask (.hasImage name)) refused
  exact ⟨congrArg Prod.fst ended, silent⟩

theorem leftOpen_iff (read : Policy.parse policy = .ok mode) :
    LeftOpen policy image allowed cached ↔ mode.verdict allowed (cached.contains image) = .pullIfAbsent := by
  rw [Policy.verdict_eq_pullIfAbsent]
  constructor
  · rintro ⟨_, read', left⟩
    cases read.symm.trans read'
    exact left
  · exact fun left => ⟨mode, read, left⟩

theorem requiresPull_asks (policy : Option String) (allowed : Bool) (cached : PullCache)
    (known : (answers (.hasImage image) s.world).1 = .ok present) :
    ((∃ fault, ((requiresPull policy image allowed cached).run answers s).1 = .error fault) ↔
        ∃ refusal, Policy.parse policy = .error refusal) ∧
      (LeftOpen policy image allowed cached →
        (requiresPull policy image allowed cached).events answers s = [⟨.hasImage image, .ok present⟩]) ∧
      (¬LeftOpen policy image allowed cached → (requiresPull policy image allowed cached).events answers s = []) := by
  cases parsed : Policy.parse policy with
  | error refusal =>
    obtain ⟨ended, silent⟩ := requiresPull_refused answers s allowed cached parsed
    refine ⟨iff_of_true ⟨_, ended⟩ ⟨refusal, rfl⟩, ?_, fun _ => silent⟩
    rintro ⟨mode, read, -⟩
    cases parsed.symm.trans read
  | ok mode =>
    obtain ⟨ended, told⟩ := requiresPull_read allowed cached parsed known
    rw [ended, told, leftOpen_iff parsed]
    exact ⟨iff_of_false nofun nofun, fun left => if_pos left, fun settled => if_neg settled⟩

theorem contains_within (within : fewer.names ⊆ more.names) (image : String) :
    fewer.contains image = more.contains image ∨ fewer.contains image = false ∧ more.contains image = true := by
  cases held : fewer.contains image with
  | true => exact .inl (List.contains_iff_mem.2 (within (List.contains_iff_mem.1 held))).symm
  | false =>
    cases known : more.contains image with
    | true => exact .inr ⟨rfl, rfl⟩
    | false => exact .inl rfl

end query

/-- Two runs of the query from one state, with caches of which one holds the other. The larger cache asks for no
pull that the smaller one does not ask for, only the image itself can tell them apart, and both fail for the same
policies. The daemon is asked for nothing but this image, and once, if the policy leaves it open. -/
theorem pull_antitone {W : Type} (answers : Answers surroundings W) (policy : Option String) (image : String)
    (allowed : Bool) {fewer more : PullCache} (within : fewer.names ⊆ more.names) (s : State surroundings W)
    {present : Bool} (known : (answers (.hasImage image) s.world).1 = .ok present) :
    let decision cached := (requiresPull policy image allowed cached).run answers s
    ((decision more).1 = .ok true → (decision fewer).1 = .ok true) ∧
    ((decision fewer).1 ≠ (decision more).1 → (image : Points) ∈ more.names ∧ (image : Points) ∉ fewer.names) ∧
    (∀ fault, (decision fewer).1 = .error fault ↔ (decision more).1 = .error fault) ∧
    ∀ cached,
      ((∃ fault, (decision cached).1 = .error fault) ↔ ∃ refusal, Policy.parse policy = .error refusal) ∧
      (LeftOpen policy image allowed cached →
        (requiresPull policy image allowed cached).events answers s = [⟨.hasImage image, .ok present⟩]) ∧
      (¬LeftOpen policy image allowed cached →
        (requiresPull policy image allowed cached).events answers s = []) := by
  intro decision
  have asks := fun cached => requiresPull_asks (s := s) policy allowed cached known
  cases parsed : Policy.parse policy with
  | error refusal =>
    have refused : ∀ cached, (decision cached).1 = .error (.refused refusal) := fun cached =>
      (requiresPull_refused answers s allowed cached parsed).1
    rw [parsed] at asks
    rw [refused more, refused fewer]
    exact ⟨id, fun differ => absurd rfl differ, fun _ => Iff.rfl, asks⟩
  | ok mode =>
    have decided : ∀ cached, (decision cached).1 = .ok ((mode.verdict allowed (cached.contains image)).pulls present) :=
      fun cached => (requiresPull_read allowed cached parsed known).1
    rw [parsed] at asks
    rw [decided more, decided fewer]
    refine ⟨?_, ?_, fun fault => iff_of_false nofun nofun, asks⟩
    · intro pulled
      rcases contains_within within image with same | ⟨out, held⟩
      · rw [same]
        exact pulled
      · rw [held] at pulled
        rw [out, Policy.pulls_of_cached (Except.ok.inj pulled)]
    · intro differ
      rcases contains_within within image with same | ⟨out, held⟩
      · exact absurd (by rw [same]) differ
      · refine ⟨List.contains_iff_mem.1 held, fun inside => ?_⟩
        cases out.symm.trans (List.contains_iff_mem.2 inside)

theorem pull_antitone_alpine :
    let script : Script := ⟨.empty, .empty, none, none, none, ⟨.none, []⟩⟩
    let s : State surroundings Script := .start script .empty (.ofList [])
    let more := PullCache.empty.add "alpine"
    PullCache.empty.names ⊆ more.names ∧ (Script.answers (.hasImage "alpine") s.world).1 = .ok false ∧
      (requiresPull (some " Once") "alpine" false .empty).events Script.answers s = [⟨.hasImage "alpine", .ok false⟩] ∧
      (requiresPull (some " Once") "alpine" false more).events Script.answers s = [] := by
  intro script s more
  have within : PullCache.empty.names ⊆ more.names := List.nil_subset _
  have known : (Script.answers (.hasImage "alpine") s.world).1 = .ok false := rfl
  obtain ⟨-, -, -, asked⟩ := pull_antitone Script.answers (some " Once") "alpine" false within s known
  refine ⟨within, known, (asked .empty).2.1 ?_, (asked more).2.2 ?_⟩
  · exact ⟨.once, by decide +kernel, rfl, .inr ⟨rfl, rfl⟩⟩
  · rintro ⟨-, -, out, -⟩
    cases out.symm.trans (by decide +kernel : more.contains "alpine" = true)

end ImageBuild.Pull
