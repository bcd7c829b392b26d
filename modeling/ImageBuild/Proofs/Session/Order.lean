import ImageBuild.Proofs.Session.InTurn
import ImageBuild.Proofs.Workflow.Dealings

namespace ImageBuild.Workflow

open Program Cache Config

section behaviours

variable {setting : Setting} {context : Context} {nocache : Option String} {i j : Inside}
variable {es : List Happening}

theorem dealt_buildEach {images : List Image} {r : Except Fault (List (Image × Except Fault (Option String)))}
    (measures : i.clock.Measures) (steady : ∀ e ∈ es, setting.Gives e)
    (h : Behaves ((buildEach context nocache images).interpret (Script.handle true)) i es r j) :
    (dealt es, j.ledger.store.get? cacheKey) =
        settleAll setting context (images.map (demand setting context)) (i.ledger.store.get? cacheKey) ∧
      ∃ results, r = .ok results ∧
        ∀ image ∈ images, Rejected setting context image → ∃ fault, (image, .error fault) ∈ results := by
  -- by induction on the images; the text that one leaves is where the next one starts
  induction images generalizing i es r with
  | nil =>
    obtain ⟨rfl, rfl, rfl⟩ := behaves_pure h
    exact ⟨rfl, [], rfl, by simp⟩
  | cons image images ih =>
    rw [buildEach_cons, interpret_bind] at h
    rcases behaves_bind h with ⟨fault, head, _⟩ | ⟨result, k, first, rest, head, tail, rfl⟩
    · obtain ⟨q, impossible, -⟩ := behaves_handled_outcome attends_script head
      cases impossible
    obtain ⟨q, same, built⟩ := behaves_handled_outcome attends_script head
    obtain rfl := Except.ok.inj same
    obtain ⟨steadyFirst, steadyRest⟩ := List.forall_mem_append.1 steady
    obtain ⟨settled, fails⟩ := dealt_buildOne measures steadyFirst built
    have measures' : k.clock.Measures := behaves_measures measures head
    rw [interpret_bind] at tail
    rcases behaves_bind tail with ⟨fault, early, rfl⟩ | ⟨later, l, middle, last, each, ending, rfl⟩
    · obtain ⟨-, results, impossible, -⟩ := ih measures' steadyRest early
      cases impossible
    obtain ⟨rfl, rfl, rfl⟩ := behaves_pure ending
    rw [List.append_nil] at steadyRest ⊢
    obtain ⟨settledRest, results, told, failsRest⟩ := ih measures' steadyRest each
    obtain rfl := Except.ok.inj told
    refine ⟨?_, _, rfl, ?_⟩
    · rw [List.map_cons, settleAll, ← settled, dealt_append, ← settledRest]
    · refine List.forall_mem_cons.2 ⟨fun rejected => ?_, fun other member rejected => ?_⟩
      · obtain ⟨fault, rfl⟩ := fails rejected
        exact ⟨fault, List.mem_cons_self ..⟩
      · obtain ⟨fault, inside⟩ := failsRest other member rejected
        exact ⟨fault, List.mem_cons_of_mem _ inside⟩

theorem quiet_report (results : List (Image × Except Fault (Option String))) : Quiet (report results) := by
  refine confined_bind (quiet_gather .empty results) fun ids => ?_
  cases firstFailure? results with
  | some fault => trivial
  | none => trivial

theorem report_fails {results : List (Image × Except Fault (Option String))} {image : Image} {fault : Fault}
    {r : Except Fault (Data.Table (Option String))} (failed : (image, .error fault) ∈ results)
    (h : Behaves ((report results).interpret (Script.handle true)) i es r j) : ∃ first, r = .error first := by
  unfold report at h
  rw [interpret_bind] at h
  rcases behaves_bind h with ⟨early, head, rfl⟩ | ⟨ids, k, front, rest, head, tail, rfl⟩
  · exact ⟨early, rfl⟩
  · cases first : firstFailure? results with
    | some one =>
      rw [first] at tail
      exact ⟨one, (behaves_failed tail).2.1⟩
    | none => cases List.findSome?_eq_none_iff.1 first _ failed

theorem dealt_buildAll {images : List Image} {r : Except Fault (Data.Table (Option String))}
    (measures : i.clock.Measures) (steady : ∀ e ∈ es, setting.Gives e)
    (h : Behaves ((buildAll images context nocache (some 1)).interpret (Script.handle true)) i es r j) :
    (dealt es, j.ledger.store.get? cacheKey) =
        settleAll setting context (images.map (demand setting context)) (i.ledger.store.get? cacheKey) ∧
      ∀ image ∈ images, Rejected setting context image → ∃ fault, r = .error fault := by
  cases images with
  | nil =>
    obtain ⟨rfl, rfl, rfl⟩ := behaves_pure h
    exact ⟨rfl, by simp⟩
  | cons image images =>
    rw [buildAll_cons] at h
    obtain ⟨k, kept, clock, building⟩ := behaves_note_bind h
    rw [interpret_bind] at building
    rw [← kept]
    have measures' : k.clock.Measures := clock ▸ measures
    rcases behaves_bind building with ⟨fault, head, rfl⟩ | ⟨results, l, front, rest, head, tail, rfl⟩
    · obtain ⟨-, results, impossible, -⟩ := dealt_buildEach measures' steady head
      cases impossible
    · obtain ⟨settled, told, same, fails⟩ :=
        dealt_buildEach measures' (List.forall_mem_append.1 steady).1 head
      obtain rfl := Except.ok.inj same
      obtain ⟨idle, kept'⟩ := dealt_quiet (quiet_report results) tail
      rw [dealt_append, idle, List.append_nil, kept']
      refine ⟨settled, fun other member rejected => ?_⟩
      obtain ⟨fault, inside⟩ := fails other member rejected
      exact report_fails inside tail

end behaviours

/-- One worker builds the images, and the policy decides about pulls. -/
def runDecided {W : Type} (answers : Answers surroundings W) (context : Context) (nocache : Option String)
    (s : State surroundings W) (images : List Image) :
    Except Fault (Data.Table (Option String)) × State surroundings W :=
  ((buildAll images context nocache (some 1)).interpret (Script.handle true)).run answers s

theorem runDecided_settles {W : Type} {setting : Setting} {answers : Answers surroundings W}
    (steady : ∀ call world, setting.Gives ⟨call, (answers call world).1⟩) (context : Context)
    (nocache : Option String) {s : State surroundings W} (measures : s.clock.Measures) (images : List Image) :
    let whole := runDecided answers context nocache s images
    let settled := settleAll setting context (images.map (demand setting context)) (s.ledger.store.get? cacheKey)
    whole.2.trace.filter Call.isDealing = s.trace.filter Call.isDealing ++ settled.1 ∧
      whole.2.ledger.store.get? cacheKey = settled.2 ∧
      ∀ image ∈ images, Rejected setting context image → ∃ fault, whole.1 = .error fault := by
  intro whole settled
  let p := (buildAll images context nocache (some 1)).interpret (Script.handle true)
  obtain ⟨told, fails⟩ := dealt_buildAll measures (Setting.gives_events steady p s) (run_behaves answers p s)
  refine ⟨?_, congrArg Prod.snd told, fails⟩
  have traced : whole.2.trace = s.trace ++ (p.events answers s).map Event.call := trace_run answers p s
  have calls : dealt (p.events answers s) = settled.1 := congrArg Prod.fst told
  rw [traced, List.filter_append, ← calls]
  rfl

/-- Two orders of the same images lead to the same pulls and tags, and leave the same text. An image
whose name, base image or policy is rejected fails whatever came before it. -/
theorem pulls_in_any_order {W : Type} (setting : Setting) (answers : Answers surroundings W)
    (steady : ∀ call world, setting.Gives ⟨call, (answers call world).1⟩) (context : Context)
    (nocache : Option String) {images others : List Image} (same : images.Perm others)
    (s : State surroundings W) (measures : s.clock.Measures) :
    let one := runDecided answers context nocache s images
    let two := runDecided answers context nocache s others
    (one.2.trace.filter Call.isDealing).Perm (two.2.trace.filter Call.isDealing) ∧
    one.2.ledger.store.get? cacheKey = two.2.ledger.store.get? cacheKey ∧
    ∀ image ∈ images, Rejected setting context image →
      (∃ fault, one.1 = .error fault) ∧ (∃ fault, two.1 = .error fault) ∧
      ∀ t : State surroundings W, t.clock.Measures → ∃ fault,
        (((buildOne image context nocache).interpret (Script.handle true)).run answers t).1 = .error fault := by
  intro one two
  obtain ⟨calls, text, fails⟩ := runDecided_settles steady context nocache measures images
  obtain ⟨calls', text', fails'⟩ := runDecided_settles steady context nocache measures others
  obtain ⟨perm, kept⟩ := settleAll_perm setting context (same.map (demand setting context))
    (s.ledger.store.get? cacheKey)
  refine ⟨?_, ?_, fun image member rejected => ⟨fails image member rejected, ?_, fun t ticks => ?_⟩⟩
  · rw [calls, calls']
    exact perm.append_left _
  · rw [text, text', kept]
  · exact fails' image (same.mem_iff.1 member) rejected
  · let p := (buildOne image context nocache).interpret (Script.handle true)
    exact (dealt_buildOne ticks (Setting.gives_events steady p t) (run_behaves answers p t)).2 rejected

def Setting.answers (setting : Setting) : Answers surroundings Unit
  | .requiresPull .., world => (.ok true, world)
  | .hasImage name, world => (.ok (setting.present name), world)
  | .resolveId _, world => (.ok none, world)
  | .resolveLogin image registry isPush auth, world => (.ok (setting.login image registry isPush auth), world)
  | .createArchive .., world => (.ok (Path.ofText "context.tar"), world)
  | .extract path, world => (setting.base path, world)
  | .pull .., world | .build .., world | .load .., world | .tag .., world | .remove .., world => (.ok (), world)

def bareSetting : Setting := ⟨fun _ => false, fun _ => .ok "debian", fun _ _ _ _ => none⟩

def onBase (name base : String) : Image := ⟨name, none, { Config.Build.default with base := some base }⟩

theorem steady_bare (call : Call) (world : Unit) : bareSetting.Gives ⟨call, (bareSetting.answers call world).1⟩ := by
  cases call <;> first | rfl | trivial

def mixed : List Image := [onBase "app" "alpine", bare "", onBase "lib" "debian", onBase "tool" "alpine"]

def mixedRun (images : List Image) : Except Fault (Data.Table (Option String)) × State surroundings Unit :=
  runDecided bareSetting.answers bareContext none (.start () .empty (.ofList [])) images

theorem pulls_in_any_order_mixed :
    ((mixedRun mixed).2.trace.filter Call.isDealing).Perm ((mixedRun mixed.reverse).2.trace.filter Call.isDealing) ∧
    (mixedRun mixed.reverse).2.ledger.store.get? cacheKey = some "\x7b\"images\": [\"alpine\", \"debian\"]\x7d" ∧
    ∃ fault, (mixedRun mixed.reverse).1 = .error fault := by
  have whole := pulls_in_any_order bareSetting bareSetting.answers steady_bare bareContext none
    (List.reverse_perm mixed).symm (.start () .empty (.ofList [])) measures_stopped
  have unnamed : Rejected bareSetting bareContext (bare "") := .name (show Reference.parse "" = .error .empty from rfl)
  have inside : bare "" ∈ mixed := by simp [mixed]
  have first : (mixedRun mixed).2.ledger.store.get? cacheKey =
      some "\x7b\"images\": [\"alpine\", \"debian\"]\x7d" := by
    decide +kernel
  dsimp only at whole
  unfold mixedRun at first ⊢
  obtain ⟨calls, text, fails⟩ := whole
  obtain ⟨-, later, -⟩ := fails (bare "") inside unnamed
  rw [text] at first
  exact ⟨calls, first, later⟩

end ImageBuild.Workflow
