import ImageBuild.Proofs.Text.Words
import ImageBuild.Text.Upper

/-!
# Upper case

A text in upper case is its own upper case, and no blank comes into a text that had none: the characters to which the
tables lead are in none of the tables.
-/

namespace ImageBuild.Text

/-- A character that is its own upper case, and no blank. -/
structure Capital (c : Char) : Prop where
  own : upperChar c = [c]
  visible : isBlank c = false

instance (c : Char) : Decidable (Capital c) :=
  decidable_of_iff (upperChar c = [c] ∧ isBlank c = false) ⟨fun ⟨own, visible⟩ => ⟨own, visible⟩, fun h => ⟨h.own, h.visible⟩⟩

/-! ### Lower case -/

theorem toNat_toLower (c : Char) :
    c.toLower.toNat = if 65 ≤ c.toNat ∧ c.toNat ≤ 90 then c.toNat + 32 else c.toNat := by
  have capital : (c.val ≥ 'A'.val ∧ c.val ≤ 'Z'.val) ↔ (65 ≤ c.toNat ∧ c.toNat ≤ 90) := Iff.rfl
  unfold Char.toLower
  split <;> rename_i range
  · have below : c.val.toNat ≤ 90 := (capital.1 range).2
    rw [if_pos (capital.1 range)]
    show (c.val + 32).toNat = c.val.toNat + 32
    rw [UInt32.toNat_add, Nat.mod_eq_of_lt]
    · rfl
    · show c.val.toNat + 32 < 2 ^ 32
      omega
  · rw [if_neg (mt capital.2 range)]

/-- What is a small ASCII letter in lower case was that letter in either case. -/
theorem toLower_eq_iff {c lower upper : Char} (small : 97 ≤ lower.toNat ∧ lower.toNat ≤ 122)
    (capital : upper.toNat + 32 = lower.toNat) : c.toLower = lower ↔ c ∈ [lower, upper] := by
  rw [List.mem_pair, ← Char.toNat_inj, ← Char.toNat_inj, ← Char.toNat_inj, toNat_toLower]
  split <;> omega

/-! ### What is in no table -/

/-- All code points from one to another, or every second one of them. -/
structure Span where
  low : Nat
  high : Nat
  sparse : Bool

namespace Span

def Holds (span : Span) (n : Nat) : Prop :=
  span.low ≤ n ∧ n ≤ span.high ∧ (span.sparse = true → (n - span.low) % 2 = 0)

def single (n : Nat) : Span := ⟨n, n, true⟩

theorem holds_single (n : Nat) : (single n).Holds n := ⟨le_rfl, le_rfl, fun _ => by simp [single]⟩

def ofRun (run : CaseRun) : Span :=
  ⟨(run.first + run.shift).toNat, (run.last + run.shift).toNat, run.step.beq 2 || run.first.beq run.last⟩

def misses (span : Span) (run : CaseRun) : Bool :=
  span.high.blt run.first || run.last.blt span.low ||
    run.step.beq 2 && span.sparse && ((span.low + run.first) % 2).beq 1

/-- Characters beyond ASCII that are in no table, and no blanks. -/
def isClear (span : Span) : Bool :=
  Nat.ble 0x80 span.low && (span.high.blt 0xD800 || Nat.blt 0xDFFF span.low && span.high.blt 0x110000) &&
    upperRuns.all span.misses && upperExpansions.all (fun entry => span.high.blt entry.1 || entry.1.blt span.low) &&
    blankRanges.all fun range => span.high.blt range.1 || range.2.blt span.low

variable {span : Span} {n : Nat}

theorem not_mem_of_misses {run : CaseRun} (misses : span.misses run = true) (holds : span.Holds n) :
    ¬(run.first ≤ n ∧ n ≤ run.last ∧ (n - run.first) % run.step = 0) := by
  obtain ⟨above, below, even⟩ := holds
  simp only [Span.misses, Bool.or_eq_true, Bool.and_eq_true, Nat.blt_eq, Nat.beq_eq] at misses
  rintro ⟨above', below', stepped⟩
  rcases misses with (front | behind) | ⟨⟨two, sparse⟩, odd⟩
  · omega
  · omega
  · have even := even sparse
    rw [two] at stepped
    omega

theorem capital_of_clear (clear : span.isClear = true) (holds : span.Holds n) : Capital (Char.ofNat n) := by
  simp only [isClear, Bool.and_eq_true, Bool.or_eq_true, List.all_eq_true, Nat.blt_eq, Nat.ble_eq] at clear
  obtain ⟨⟨⟨⟨beyond, valid⟩, runs⟩, expansions⟩, blanks⟩ := clear
  obtain ⟨above, below, -⟩ := id holds
  have known : (Char.ofNat n).toNat = n := by
    have isChar : n.isValidChar := valid.imp (fun low => by omega) fun high => by omega
    rw [Char.ofNat, dif_pos isChar]
    rfl
  have unexpanded : upperExpansions.find? (·.1 == n) = none := by
    refine List.find?_eq_none.2 fun entry listed => ?_
    have apart := expansions entry listed
    simp only [beq_iff_eq]
    omega
  have unshifted : (upperRuns.find? fun run =>
      run.first ≤ n && n ≤ run.last && (n - run.first) % run.step == 0) = none := by
    refine List.find?_eq_none.2 fun run listed => ?_
    have apart := not_mem_of_misses (runs run listed) holds
    simpa only [Bool.and_eq_true, decide_eq_true_eq, beq_iff_eq, and_assoc] using apart
  constructor
  · rw [upperChar, known, if_neg (by omega), upperBeyondAscii, known, unexpanded, unshifted]
  · refine List.any_eq_false.2 fun range listed => ?_
    have apart := blanks range listed
    rw [known]
    simp only [Bool.and_eq_true, decide_eq_true_eq]
    omega

end Span

/-! ### The upper case of a character -/

theorem clear_or_capital : ∀ run ∈ upperRuns, (Span.ofRun run).isClear = true ∨
    run.first = run.last ∧ Capital (Char.ofNat (run.first + run.shift).toNat) := by
  decide +kernel

theorem expansions_capital : ∀ entry ∈ upperExpansions, entry.2 ≠ [] ∧
    ∀ n ∈ entry.2, (Span.single n).isClear = true ∨ Capital (Char.ofNat n) := by
  decide +kernel

theorem ascii_capital : ∀ n ∈ List.range 0x80, (Char.ofNat n).toUpper = Char.ofNat n ∨ Capital (Char.ofNat n).toUpper := by
  decide +kernel

theorem capital_of_run {run : CaseRun} (listed : run ∈ upperRuns) {n : Nat} (above : run.first ≤ n) (below : n ≤ run.last)
    (stepped : (n - run.first) % run.step = 0) : Capital (Char.ofNat (n + run.shift).toNat) := by
  rcases clear_or_capital run listed with clear | ⟨single, capital⟩
  · refine Span.capital_of_clear clear ⟨?_, ?_, ?_⟩
    · simp only [Span.ofRun]
      omega
    · simp only [Span.ofRun]
      omega
    · intro sparse
      have beyond : 0x80 ≤ (Span.ofRun run).low := by
        simp only [Span.isClear, Bool.and_eq_true, Nat.ble_eq] at clear
        exact clear.1.1.1.1
      simp only [Span.ofRun, Bool.or_eq_true, Nat.beq_eq] at sparse beyond ⊢
      rcases sparse with two | single
      · rw [two] at stepped
        omega
      · omega
  · obtain rfl : n = run.first := by omega
    exact capital

/-- Upper-casing gives capitals, or the character itself. -/
theorem upperChar_cases (c : Char) : upperChar c = [c] ∨ upperChar c ≠ [] ∧ ∀ d ∈ upperChar c, Capital d := by
  unfold upperChar
  split
  · rename_i ascii
    rcases ascii_capital c.toNat (List.mem_range.2 ascii) with same | capital
    · rw [Char.ofNat_toNat] at same
      exact .inl (by rw [same])
    · rw [Char.ofNat_toNat] at capital
      exact .inr ⟨List.cons_ne_nil _ _, List.forall_mem_singleton.2 capital⟩
  · unfold upperBeyondAscii
    split
    · rename_i points found
      obtain ⟨nonempty, capitals⟩ := expansions_capital _ (List.mem_of_find?_eq_some found)
      refine .inr ⟨by simpa using nonempty, ?_⟩
      intro d member
      obtain ⟨n, listed, rfl⟩ := List.mem_map.1 member
      exact (capitals n listed).elim (fun clear => Span.capital_of_clear clear (Span.holds_single n)) id
    · split
      · rename_i run found
        have inside := List.find?_some found
        simp only [Bool.and_eq_true, decide_eq_true_eq, beq_iff_eq] at inside
        refine .inr ⟨List.cons_ne_nil _ _, List.forall_mem_singleton.2 ?_⟩
        exact capital_of_run (List.mem_of_find?_eq_some found) inside.1.1 inside.1.2 inside.2
      · exact .inl rfl

/-! ### The upper case of a text -/

theorem own_of_mem_upper {text : String} {d : Char} (member : d ∈ (upper text).toList) : upperChar d = [d] := by
  rw [upper, String.toList_ofList] at member
  obtain ⟨c, -, from_⟩ := List.mem_flatMap.1 member
  rcases upperChar_cases c with same | ⟨-, capitals⟩
  · rw [same, List.mem_singleton] at from_
    rw [from_, same]
  · exact (capitals d from_).own

theorem upper_upper (text : String) : upper (upper text) = upper text := by
  show String.ofList ((upper text).toList.flatMap upperChar) = upper text
  rw [List.flatMap_congr fun _ member => own_of_mem_upper member, List.flatMap_singleton', String.ofList_toList]

theorem not_small_of_mem_upper {text : String} {d : Char} (member : d ∈ (upper text).toList) : ¬('a' ≤ d ∧ d ≤ 'z') := by
  rintro ⟨above, below⟩
  have own := own_of_mem_upper member
  have low : 97 ≤ d.toNat := above
  have high : d.toNat ≤ 122 := below
  rw [upperChar, if_pos (by omega)] at own
  have changed : ∀ n ∈ List.range' 97 26, (Char.ofNat n).toUpper ≠ Char.ofNat n := by decide
  have other := changed d.toNat (List.mem_range'_1.2 ⟨low, by omega⟩)
  rw [Char.ofNat_toNat] at other
  exact other (List.singleton_inj.1 own)

theorem visible_upper {word : List Char} (visible : Visible word) : Visible (upper (String.ofList word)).toList := by
  unfold upper
  rw [String.toList_ofList, String.toList_ofList]
  intro d member
  obtain ⟨c, inside, from_⟩ := List.mem_flatMap.1 member
  rcases upperChar_cases c with same | ⟨-, capitals⟩
  · rw [same, List.mem_singleton] at from_
    rw [from_]
    exact visible c inside
  · exact (capitals d from_).visible

theorem upper_eq_empty_iff {word : List Char} : upper (String.ofList word) = "" ↔ word = [] := by
  have filled (c : Char) : upperChar c ≠ [] := by
    rcases upperChar_cases c with same | ⟨nonempty, -⟩
    · rw [same]
      exact List.cons_ne_nil c []
    · exact nonempty
  cases word with
  | nil => exact iff_of_true (by decide) rfl
  | cons c rest =>
    refine iff_of_false ?_ (List.cons_ne_nil c rest)
    intro empty
    have nothing : (c :: rest).flatMap upperChar = [] := by simpa [upper] using empty
    exact filled c (List.append_eq_nil_iff.1 nothing).1

end ImageBuild.Text
