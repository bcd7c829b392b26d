import ImageBuild.Proofs.Workflow.Check

/-!
# Settling base images

When the collaborators answer the same throughout, what is done about a base image depends on the
text of the pull cache alone. Two base images can be settled in either order.
-/

namespace ImageBuild.Workflow

open Program Cache Config

/-- What the collaborators answer: which images are present, which base image a Dockerfile has, and
which login is used. -/
structure Setting where
  present : String → Bool
  base : Path → Except Fault String
  login : Reference → Option String → Bool → Config.Auth → Option Login

def wants (mode : Pull.Policy) (present cached : Bool) : Bool :=
  match mode.verdict true cached with
  | .pull => true
  | .skip => false
  | .pullIfAbsent => !present

def ofBaseImage (base : String) (context : Context) : Check := ⟨base, none, true, context⟩

/-- The calls that pull an image and give it its short name. -/
def dealings (setting : Setting) (check : Check) (name : Reference) : List Call :=
  let server := check.server? name
  let login := setting.login name server false check.context.auth
  match server, name.hasRegistry with
  | some host, false => [check.pull name login, .tag (host ++ "/" ++ name.withLatest) check.image false]
  | _, _ => [check.pull name login]

def entered (text : Option String) : Option String := some (text.getD PullCache.empty.serialize)

def settle (setting : Setting) (context : Context) (base : String) (text : Option String) :
    List Call × Option String :=
  match Reference.parse base with
  | .error _ => ([], text)
  | .ok name =>
    match held text, Pull.Policy.parse context.autoPull with
    | .ok cache, .ok mode =>
      if wants mode (setting.present base) (cache.contains base) then
        (dealings setting (ofBaseImage base context) name, some (cache.add base).serialize)
      else ([], entered text)
    | _, _ => ([], entered text)

theorem get?_opened (key : String) (store : Store) :
    (opened key store).get? key = entered (store.get? key) := by
  unfold opened entered
  cases known : store.get? key with
  | none => rw [Data.Table.get?_put, if_pos rfl]; rfl
  | some text => rw [known]; rfl

@[simp] theorem entered_some (text : String) : entered (some text) = some text := rfl

@[simp] theorem entered_entered (text : Option String) : entered (entered text) = entered text := rfl

@[simp] theorem held_entered (text : Option String) : held (entered text) = held text := by
  cases text with
  | none => rw [entered, Option.getD_none, held_serialize]; rfl
  | some text => rfl

theorem add_comm (cache : PullCache) (first second : String) :
    (cache.add first).add second = (cache.add second).add first := by
  apply PullCache.ext
  intro name
  simp only [PullCache.mem_add]
  exact or_left_comm

section orders

variable (setting : Setting) (context : Context)

theorem settle_ok {base : String} {name : Reference} {cache : PullCache} {mode : Pull.Policy}
    {text : Option String} (parsed : Reference.parse base = .ok name) (known : held text = .ok cache)
    (read : Pull.Policy.parse context.autoPull = .ok mode) :
    settle setting context base text =
      if wants mode (setting.present base) (cache.contains base) then
        (dealings setting (ofBaseImage base context) name, some (cache.add base).serialize)
      else ([], entered text) := by
  simp only [settle, parsed, known, read]

theorem settle_idle {base : String} {name : Reference} {text : Option String}
    (parsed : Reference.parse base = .ok name)
    (idle : ∀ cache mode, ¬(held text = .ok cache ∧ Pull.Policy.parse context.autoPull = .ok mode)) :
    settle setting context base text = ([], entered text) := by
  simp only [settle, parsed]
  split
  · rename_i cache mode known read
    exact absurd ⟨known, read⟩ (idle cache mode)
  · rfl

theorem settle_refused {base : String} {error : Reference.Error} (rejected : Reference.parse base = .error error)
    (text : Option String) : settle setting context base text = ([], text) := by
  simp only [settle, rejected]

theorem contains_add_of_ne (cache : PullCache) {first second : String} (different : first ≠ second) :
    (cache.add first).contains second = cache.contains second := by
  simp [Ne.symm different]

/-- Either of two base images can be settled first. -/
theorem settle_swap (first second : String) (text : Option String) :
    let one := settle setting context first text
    let two := settle setting context second text
    (settle setting context second one.2).2 = (settle setting context first two.2).2 ∧
      (one.1 ++ (settle setting context second one.2).1).Perm (two.1 ++ (settle setting context first two.2).1) := by
  intro one two
  by_cases same : first = second
  · subst same
    exact ⟨rfl, .refl _⟩
  cases parsed : Reference.parse first with
  | error error => simp [one, two, settle_refused setting context parsed]
  | ok name =>
    cases parsed' : Reference.parse second with
    | error error => simp [one, two, settle_refused setting context parsed']
    | ok name' =>
      by_cases active : ∃ cache mode, held text = .ok cache ∧ Pull.Policy.parse context.autoPull = .ok mode
      · obtain ⟨cache, mode, known, read⟩ := active
        -- recording one image does not change whether the other is cached
        have entering : held (entered text) = .ok cache := by rw [held_entered, known]
        have adding := held_serialize (cache.add first)
        have adding' := held_serialize (cache.add second)
        have unmoved := contains_add_of_ne cache same
        have unmoved' := contains_add_of_ne cache (Ne.symm same)
        by_cases pulls : wants mode (setting.present first) (cache.contains first) = true <;>
          by_cases pulls' : wants mode (setting.present second) (cache.contains second) = true <;>
          simp [one, two, settle_ok setting context parsed known read, settle_ok setting context parsed' known read,
            settle_ok setting context parsed entering read, settle_ok setting context parsed' entering read,
            settle_ok setting context parsed adding' read, settle_ok setting context parsed' adding read,
            unmoved, unmoved', pulls, pulls', add_comm cache first second, List.perm_append_comm]
      · have idle : ∀ cache mode, ¬(held text = .ok cache ∧ Pull.Policy.parse context.autoPull = .ok mode) :=
          fun cache mode both => active ⟨cache, mode, both⟩
        have still : ∀ cache mode,
            ¬(held (entered text) = .ok cache ∧ Pull.Policy.parse context.autoPull = .ok mode) := by
          rwa [held_entered]
        simp [one, two, settle_idle setting context parsed idle, settle_idle setting context parsed' idle,
          settle_idle setting context parsed still, settle_idle setting context parsed' still]

def settleIf : Option String → Option String → List Call × Option String
  | none, text => ([], text)
  | some base, text => settle setting context base text

def settleAll : List (Option String) → Option String → List Call × Option String
  | [], text => ([], text)
  | base :: rest, text =>
    let one := settleIf setting context base text
    (one.1 ++ (settleAll rest one.2).1, (settleAll rest one.2).2)

theorem settleIf_swap (first second : Option String) (text : Option String) :
    let one := settleIf setting context first text
    let two := settleIf setting context second text
    (settleIf setting context second one.2).2 = (settleIf setting context first two.2).2 ∧
      (one.1 ++ (settleIf setting context second one.2).1).Perm
        (two.1 ++ (settleIf setting context first two.2).1) := by
  cases first with
  | none => cases second <;> simp [settleIf]
  | some first =>
    cases second with
    | none => simp [settleIf]
    | some second => exact settle_swap setting context first second text

theorem settleAll_perm {bases others : List (Option String)} (same : bases.Perm others) (text : Option String) :
    (settleAll setting context bases text).1.Perm (settleAll setting context others text).1 ∧
      (settleAll setting context bases text).2 = (settleAll setting context others text).2 := by
  induction same generalizing text with
  | nil => exact ⟨.refl _, rfl⟩
  | cons base _ ih =>
    obtain ⟨calls, kept⟩ := ih (settleIf setting context base text).2
    exact ⟨calls.append_left _, kept⟩
  | swap first second rest =>
    obtain ⟨stored, calls⟩ := settleIf_swap setting context second first text
    simp only [settleAll, ← List.append_assoc, stored]
    exact ⟨calls.append_right _, trivial⟩
  | trans _ _ ih ih' => exact ⟨(ih text).1.trans (ih' text).1, (ih text).2.trans (ih' text).2⟩

end orders

end ImageBuild.Workflow
