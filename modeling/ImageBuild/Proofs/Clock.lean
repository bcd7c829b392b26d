import ImageBuild.Proofs.Program.Behaviour
import ImageBuild.Duration

namespace ImageBuild

open Decimal

/-! ### Durations -/

section exponents

open Float.Model Float.Model.UnpackedFloat

theorem isFinite_unpack {bits : BitVec Format.binary64.numBits} (ones : unpackExponent bits = -1#_) :
    (unpack .binary64 bits).isFinite = false := by
  delta Float.Model.UnpackedFloat.unpack
  dsimp only
  rw [if_pos ones]
  by_cases zero : unpackMantissa bits = 0#_
  · rw [if_pos zero]
    rfl
  · rw [if_neg zero]
    rfl

theorem exponent_of_isFinite {x : Float} (finite : x.isFinite = true) :
    (x.toBits.toNat >>> 52) % 0x800 ≠ 0x7FF := by
  intro full
  have ones : @unpackExponent .binary64 x.toModel.toBits.toBitVec = -1#_ := by
    apply BitVec.eq_of_toNat_eq
    change (x.toModel.toBits.toNat >>> 52) % 0x800 = 0x7FF at full
    simpa [unpackExponent] using full
  change (unpack .binary64 x.toModel.toBits.toBitVec).isFinite = true at finite
  rw [isFinite_unpack ones] at finite
  cases finite

end exponents

theorem Duration.exact_of_isFinite {x : Float} (finite : x.isFinite = true) :
    ∃ value, Duration.exact x = .ok value := by
  have exponent := exponent_of_isFinite finite
  unfold Duration.exact
  cases shown : Binary64.ofFloat? x with
  | some value => exact ⟨value, rfl⟩
  | none =>
    simp only [Binary64.ofFloat?, exponent, if_false] at shown
    split at shown <;> cases shown

theorem Duration.text_of_isFinite {x : Float} (millis : x.isFinite = true)
    (seconds : (x / 1000).isFinite = true) : ∃ text, (Duration.real x).text = .ok text := by
  obtain ⟨value, whole⟩ := Duration.exact_of_isFinite millis
  obtain ⟨parts, long⟩ := Duration.exact_of_isFinite seconds
  simp only [Duration.text, Duration.secondsText, whole, long]
  split
  · exact ⟨_, rfl⟩
  · change ∃ text, (if x / 1000 < 60 then _ else _ : Except _ _) = _
    split <;> exact ⟨_, rfl⟩

/-! ### Readings -/

namespace Clock

def readings : Clock → List Float
  | stopped reading => [reading * 1000]
  | running reading next => (reading * 1000) :: next.readings

/-- Any two readings are a finite time apart, told in milliseconds or in seconds. -/
def Measures (clock : Clock) : Prop :=
  ∀ first ∈ clock.readings, ∀ last ∈ clock.readings,
    (last - first).isFinite = true ∧ ((last - first) / 1000).isFinite = true

theorem millis_mem_readings (clock : Clock) : clock.millis.1 ∈ clock.readings := by
  cases clock <;> simp [millis, readings]

theorem readings_millis_subset (clock : Clock) : clock.millis.2.readings ⊆ clock.readings := by
  cases clock <;> simp [millis, readings]

theorem Measures.mono {clock later : Clock} (measures : clock.Measures)
    (subset : later.readings ⊆ clock.readings) : later.Measures :=
  fun first mem last mem' => measures first (subset mem) last (subset mem')

theorem Measures.text {clock : Clock} {first last : Float} (measures : clock.Measures)
    (start : first ∈ clock.readings) (finish : last ∈ clock.readings) :
    ∃ text, (Duration.real (last - first)).text = .ok text :=
  Duration.text_of_isFinite (measures first start last finish).1 (measures first start last finish).2

end Clock

namespace Program

variable {I : Interface} {α : Type}

theorem behaves_readings {p : Program I α} {i j : Inside} {es : List (Event I)} {r : Except Fault α}
    (h : Behaves p i es r j) : j.clock.readings ⊆ i.clock.readings := by
  induction h with
  | done | failed => exact List.Subset.refl _
  | perform _ ih => exact ih
  | ledger _ ih => exact ih
  | time _ ih => exact List.Subset.trans ih (Clock.readings_millis_subset _)

theorem behaves_measures {p : Program I α} {i j : Inside} {es : List (Event I)} {r : Except Fault α}
    (measures : i.clock.Measures) (h : Behaves p i es r j) : j.clock.Measures :=
  measures.mono (behaves_readings h)

end Program

end ImageBuild
