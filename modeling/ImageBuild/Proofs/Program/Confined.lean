import ImageBuild.Proofs.Program.Behaviour

namespace ImageBuild.Program

open Cache

variable {I : Interface} {α β : Type} {allowed : I.Call → Prop}

/-- Every call that can be reached is allowed, and no step over the ledger changes the store. -/
def Confined (allowed : I.Call → Prop) : Program I α → Prop
  | done _ | failed _ => True
  | perform call next => allowed call ∧ ∀ answer, (next answer).Confined allowed
  | ledger change next =>
    (∀ before, (change before).store = before.store) ∧ ∀ before, (next before).Confined allowed
  | time next => ∀ now, (next now).Confined allowed

theorem confined_pure (value : α) : Confined allowed (pure value : Program I α) := trivial

theorem confined_bind {p : Program I α} {f : α → Program I β} (first : p.Confined allowed)
    (rest : ∀ value, (f value).Confined allowed) : (p >>= f).Confined allowed := by
  change (p.bind f).Confined allowed
  induction p with
  | done value => exact rest value
  | failed => trivial
  | perform call next ih => exact ⟨first.1, fun answer => ih answer (first.2 answer)⟩
  | ledger change next ih => exact ⟨first.1, fun before => ih before (first.2 before)⟩
  | time next ih => exact fun now => ih now (first now)

theorem confined_attempt {call : I.Call} (may : allowed call) : (attempt call).Confined allowed :=
  ⟨may, fun _ => trivial⟩

theorem confined_now : Confined allowed (now : Program I Float) := fun _ => trivial

theorem confined_note (record : Log.Record) : Confined allowed (note record : Program I Unit) :=
  ⟨fun _ => rfl, fun _ => trivial⟩

theorem confined_ofExcept {ε : Type} (fault : ε → Fault) (value : Except ε α) :
    Confined allowed (ofExcept fault value : Program I α) := by
  cases value <;> trivial

theorem confined_ite {c : Prop} [Decidable c] {p q : Program I α} (yes : c → p.Confined allowed)
    (no : ¬c → q.Confined allowed) : (if c then p else q).Confined allowed := by
  split
  · rename_i holds
    exact yes holds
  · rename_i fails
    exact no fails

/-- A behaviour of a confined program shows allowed calls only, and the store stays as it was. -/
theorem behaves_confined {p : Program I α} {i j : Inside} {es : List (Event I)} {r : Except Fault α}
    (confined : p.Confined allowed) (h : Behaves p i es r j) :
    (∀ e ∈ es, allowed e.call) ∧ j.ledger.store = i.ledger.store := by
  induction h with
  | done | failed => exact ⟨by simp, rfl⟩
  | perform _ ih =>
    obtain ⟨calls, kept⟩ := ih (confined.2 _)
    exact ⟨List.forall_mem_cons.2 ⟨confined.1, calls⟩, kept⟩
  | ledger _ ih =>
    obtain ⟨calls, kept⟩ := ih (confined.2 _)
    exact ⟨calls, kept.trans (confined.1 _)⟩
  | time _ ih => exact ih (confined _)

abbrev Silent (p : Program I α) : Prop := p.Confined fun _ => False

theorem behaves_silent {p : Program I α} {i j : Inside} {es : List (Event I)} {r : Except Fault α}
    (silent : p.Silent) (h : Behaves p i es r j) : es = [] :=
  List.eq_nil_iff_forall_not_mem.2 (behaves_confined silent h).1

theorem behaves_silent_either {p : Program I α} {f : α → Program I β} {i j : Inside} {es : List (Event I)}
    {r : Except Fault β} (silent : p.Silent) (h : Behaves (p >>= f) i es r j) :
    (∃ fault, es = [] ∧ r = .error fault) ∨ ∃ found k, Behaves (f found) k es r j := by
  rcases behaves_bind h with ⟨fault, early, rfl⟩ | ⟨found, k, first, rest, head, tail, rfl⟩
  · exact .inl ⟨fault, behaves_silent silent early, rfl⟩
  · obtain rfl := behaves_silent silent head
    exact .inr ⟨found, k, tail⟩

theorem behaves_silent_bind {p : Program I α} {f : α → Program I β} {i j : Inside} {es : List (Event I)}
    {value : β} (silent : p.Silent) (h : Behaves (p >>= f) i es (.ok value) j) :
    ∃ found k, k.ledger.store = i.ledger.store ∧ Behaves (f found) k es (.ok value) j := by
  obtain ⟨found, k, first, rest, head, tail, rfl⟩ := behaves_bind_ok h
  obtain rfl := behaves_silent silent head
  exact ⟨found, k, (behaves_confined silent head).2, tail⟩

theorem run_confined {W : Type} {p : Program I α} (confined : p.Confined allowed) (answers : Answers I W)
    (s : State I W) :
    (∃ calls, (p.run answers s).2.trace = s.trace ++ calls ∧ ∀ call ∈ calls, allowed call) ∧
      (p.run answers s).2.ledger.store = s.ledger.store := by
  obtain ⟨may, kept⟩ := behaves_confined confined (run_behaves answers p s)
  refine ⟨⟨_, trace_run answers p s, fun call member => ?_⟩, kept⟩
  obtain ⟨e, inside, rfl⟩ := List.mem_map.1 member
  exact may e inside

end ImageBuild.Program
