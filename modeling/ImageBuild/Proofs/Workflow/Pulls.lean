import ImageBuild.Proofs.Workflow.Check

namespace ImageBuild.Workflow

open Program Cache

/-- A pull: the image that was asked about last, the text that is pulled, and whether it succeeds. -/
structure PullMade where
  image? : Option String
  reference : String
  done : Bool
deriving DecidableEq

/-- The pulls among events, when `asked` was asked about before them. -/
def pulls (asked : Option String) : List Happening → List PullMade
  | [] => []
  | ⟨.requiresPull _ image _ _, _⟩ :: rest => pulls (some image) rest
  | ⟨.pull reference _ _, answer⟩ :: rest => ⟨asked, reference, answer.isOk⟩ :: pulls asked rest
  | _ :: rest => pulls asked rest

def pulledImages (es : List Happening) : List String :=
  (pulls none es).filterMap fun made => if made.done then made.image? else none

/-- An image was asked about, its name is right, and the pulled text comes from it. -/
def PullMade.Genuine (made : PullMade) : Prop :=
  ∃ image name, made.image? = some image ∧ Reference.parse image = .ok name ∧
    made.reference = name.withLatest

def lastAsked (asked : Option String) : List Happening → Option String
  | [] => asked
  | ⟨.requiresPull _ image _ _, _⟩ :: rest => lastAsked (some image) rest
  | _ :: rest => lastAsked asked rest

def Call.isBeside : Call → Bool
  | requiresPull .. | pull .. => false
  | _ => true

theorem isBeside_of_isQuiet {call : Call} (quiet : call.isQuiet = true) : call.isBeside = true := by
  cases call <;> first | rfl | cases quiet

theorem isBeside_of_isLookup {call : Call} (lookup : call.isLookup = true) : call.isBeside = true := by
  cases call <;> first | rfl | cases lookup

theorem pulls_cons_beside {e : Happening} (beside : e.call.isBeside = true) (asked : Option String)
    (rest : List Happening) : pulls asked (e :: rest) = pulls asked rest := by
  obtain ⟨call, answer⟩ := e
  cases call <;> first | rfl | cases beside

theorem pulls_append_beside {front : List Happening} (beside : ∀ e ∈ front, e.call.isBeside = true)
    (asked : Option String) (rest : List Happening) : pulls asked (front ++ rest) = pulls asked rest := by
  induction front with
  | nil => rfl
  | cons e front ih =>
    obtain ⟨first, later⟩ := List.forall_mem_cons.1 beside
    rw [List.cons_append, pulls_cons_beside first, ih later]

theorem pulls_of_beside {es : List Happening} (beside : ∀ e ∈ es, e.call.isBeside = true)
    (asked : Option String) : pulls asked es = [] := by
  have skipped := pulls_append_beside beside asked []
  rwa [List.append_nil] at skipped

theorem pulls_append (asked : Option String) (es rest : List Happening) :
    pulls asked (es ++ rest) = pulls asked es ++ pulls (lastAsked asked es) rest := by
  induction es generalizing asked with
  | nil => rfl
  | cons e es ih =>
    obtain ⟨call, answer⟩ := e
    cases call with
    | requiresPull policy image allowed cached => exact ih (some image)
    | pull reference login registry => exact congrArg (_ :: ·) (ih asked)
    | _ => exact ih asked

/-- The events tell by themselves which images they pull: these ones, and only what comes from them. -/
structure Tells (es : List Happening) (names : List String) : Prop where
  alone : ∀ asked, pulls asked es = pulls none es
  images : pulledImages es = names
  genuine : ∀ made ∈ pulls none es, made.Genuine

theorem Tells.append {es rest : List Happening} {names later : List String} (first : Tells es names)
    (second : Tells rest later) : Tells (es ++ rest) (names ++ later) := by
  have whole (asked : Option String) : pulls asked (es ++ rest) = pulls none es ++ pulls none rest := by
    rw [pulls_append, first.alone, second.alone]
  refine ⟨fun asked => (whole asked).trans (whole none).symm, ?_, ?_⟩
  · rw [pulledImages, whole, List.filterMap_append]
    rw [← first.images, ← second.images]
    rfl
  · rw [whole]
    exact List.forall_mem_append.2 ⟨first.genuine, second.genuine⟩

theorem tells_of_pulls {es : List Happening} {made : List PullMade} {names : List String}
    (same : ∀ asked, pulls asked es = made)
    (images : made.filterMap (fun made => if made.done then made.image? else none) = names)
    (genuine : ∀ one ∈ made, one.Genuine) : Tells es names := by
  refine ⟨fun asked => (same asked).trans (same none).symm, ?_, ?_⟩
  · rw [pulledImages, same, images]
  · rw [same]
    exact genuine

theorem tells_none {es : List Happening} (silent : ∀ asked, pulls asked es = []) : Tells es [] :=
  tells_of_pulls silent rfl fun _ member => absurd member List.not_mem_nil

theorem tells_beside {es : List Happening} (beside : ∀ e ∈ es, e.call.isBeside = true) : Tells es [] :=
  tells_none (pulls_of_beside beside)

theorem tells_quiet {es : List Happening} (quiet : ∀ e ∈ es, e.call.isQuiet = true) : Tells es [] :=
  tells_beside fun e member => isBeside_of_isQuiet (quiet e member)

theorem pulls_question {check : Check} {cache : PullCache} {answer : Except Fault Bool}
    {asides : List Happening} (lookups : ∀ e ∈ asides, e.call.isLookup = true) (asked : Option String)
    (rest : List Happening) :
    pulls asked (⟨check.question cache, answer⟩ :: (asides ++ rest)) = pulls (some check.image) rest :=
  pulls_append_beside (fun e member => isBeside_of_isLookup (lookups e member)) _ _

theorem tells_question {check : Check} {cache : PullCache} {answer : Except Fault Bool}
    {asides : List Happening} (lookups : ∀ e ∈ asides, e.call.isLookup = true) :
    Tells (⟨check.question cache, answer⟩ :: asides) [] := by
  refine tells_none fun asked => ?_
  have skipped : pulls asked (⟨check.question cache, answer⟩ :: (asides ++ [])) = [] :=
    pulls_question lookups asked []
  rwa [List.append_nil] at skipped

theorem tells_pulled {check : Check} {cache : PullCache} {name : Reference} {answer : Except Fault Bool}
    {asides es : List Happening} {r : Except Fault Unit} {names : List String}
    (lookups : ∀ e ∈ asides, e.call.isLookup = true) (parsed : Reference.parse check.image = .ok name)
    (pulled : Pulled check name es r names) :
    Tells (⟨check.question cache, answer⟩ :: (asides ++ es)) names := by
  have tells (done : Bool) (one : pulls (some check.image) es =
      [⟨some check.image, name.withLatest, done⟩]) (same : names = if done then [check.image] else []) :
      Tells (⟨check.question cache, answer⟩ :: (asides ++ es)) names := by
    refine tells_of_pulls (fun asked => (pulls_question lookups asked es).trans one) ?_ ?_
    · rw [same]
      cases done <;> rfl
    · intro made member
      obtain rfl := List.mem_singleton.1 member
      exact ⟨check.image, name, rfl, parsed, rfl⟩
  cases pulled with
  | loginFailed => exact tells_none fun asked => pulls_question lookups asked _
  | pullFailed => exact tells false rfl rfl
  | plain => exact tells true rfl rfl
  | tagged => exact tells true rfl rfl

theorem tells_checked {grounds : Grounds} {check : Check} {cached : Except Json.Excess PullCache}
    {es : List Happening} {r : Except Fault Unit} {names : List String}
    (checked : Checked grounds check cached es r names) : Tells es names := by
  cases checked with
  | refused => exact tells_beside (by simp)
  | unreadable => exact tells_beside (by simp)
  | unanswered known lookups => exact tells_question lookups
  | skipped known lookups => exact tells_question lookups
  | pulled known lookups parsed grounded rest => exact tells_pulled lookups parsed rest

end ImageBuild.Workflow
