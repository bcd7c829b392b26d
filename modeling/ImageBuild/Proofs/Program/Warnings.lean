import ImageBuild.Proofs.Program.Confined

namespace ImageBuild

namespace Cache

def Ledger.warnings (ledger : Ledger) : List Log.Record := ledger.log.filter fun record => record.severity = .warning

theorem Ledger.warnings_note (ledger : Ledger) (record : Log.Record) :
    (ledger.note record.severity record.channel record.message).warnings =
      ledger.warnings ++ if record.severity = .warning then [record] else [] := by
  obtain ⟨severity, channel, message⟩ := record
  unfold Ledger.note warnings
  by_cases severe : severity = .warning <;> simp [severe]

end Cache

namespace Program

open Cache

variable {I : Interface} {α β : Type}

def Inside.warnings (i : Inside) : List Log.Record := i.ledger.warnings

/-- No step over the ledger adds a warning. -/
def Calm : Program I α → Prop
  | done _ | failed _ => True
  | perform _ next => ∀ answer, (next answer).Calm
  | ledger change next => ∀ before, (change before).warnings = before.warnings ∧ (next before).Calm
  | time next => ∀ now, (next now).Calm

theorem calm_bind {p : Program I α} {f : α → Program I β} (first : p.Calm) (rest : ∀ value, (f value).Calm) :
    (p >>= f).Calm := by
  change (p.bind f).Calm
  induction p with
  | done value => exact rest value
  | failed => trivial
  | perform call next ih => exact fun answer => ih answer (first answer)
  | ledger change next ih => exact fun before => ⟨(first before).1, ih before (first before).2⟩
  | time next ih => exact fun now => ih now (first now)

theorem calm_now : (now : Program I Float).Calm := fun _ => trivial

theorem calm_note {record : Log.Record} (mild : record.severity ≠ .warning) : (note record : Program I Unit).Calm := by
  intro before
  refine ⟨?_, trivial⟩
  rw [Ledger.warnings_note, if_neg mild, List.append_nil]

theorem calm_ofExcept {ε : Type} (fault : ε → Fault) (value : Except ε α) : (ofExcept fault value : Program I α).Calm := by
  cases value <;> trivial

section behaviours

variable {i j : Inside} {es : List (Event I)}

theorem behaves_calm {p : Program I α} {r : Except Fault α} (calm : p.Calm) (h : Behaves p i es r j) :
    j.warnings = i.warnings := by
  induction h with
  | done | failed => rfl
  | perform _ ih => exact ih (calm _)
  | @ledger _ _ i _ _ _ _ ih => exact (ih (calm i.ledger).2).trans (calm i.ledger).1
  | time _ ih => exact ih (calm _)

theorem warnings_note_bind {record : Log.Record} {f : Unit → Program I α} {r : Except Fault α}
    (h : Behaves (note record >>= f) i es r j) :
    ∃ k, k.warnings = i.warnings ++ (if record.severity = .warning then [record] else []) ∧ Behaves (f ()) k es r j := by
  cases h with
  | ledger rest =>
    let noted := i.ledger.note record.severity record.channel record.message
    exact ⟨⟨noted, i.clock⟩, Ledger.warnings_note i.ledger record, rest⟩

end behaviours

end Program

end ImageBuild
