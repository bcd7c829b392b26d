import ImageBuild.Text.Quoted

/-!
# Texts with unpaired halves

A reader of escapes can meet half of a surrogate pair without the other half, and keeps it. Where the two
halves stand side by side they are one character.
-/

namespace ImageBuild.Text

/-- A character, or half of a surrogate pair on its own. -/
inductive Point where
  | char (c : Char)
  | half (place : Fin 0x800)
deriving DecidableEq

namespace Point

def number : Point → Nat
  | char c => c.toNat
  | half place => 0xD800 + place.val

def ofNumber (n : Nat) : Point :=
  if isHalf : 0xD800 ≤ n ∧ n < 0xE000 then .half ⟨n - 0xD800, by omega⟩ else .char (Char.ofNat n)

@[simp] theorem ofNumber_number (p : Point) : ofNumber p.number = p := by
  cases p with
  | char c =>
    have valid : c.toNat < 0xD800 ∨ 0xDFFF < c.toNat ∧ c.toNat < 0x110000 := c.valid
    rw [number, ofNumber, dif_neg (by omega), Char.ofNat_toNat]
  | half place =>
    rw [number, ofNumber, dif_pos (by omega)]
    exact congrArg _ (Fin.ext (Nat.add_sub_cancel_left ..))

theorem number_injective {p q : Point} (same : p.number = q.number) : p = q := by
  rw [← ofNumber_number p, same, ofNumber_number]

/-- The character whose halves the two are. -/
def pair? : Point → Point → Option Char
  | half high, half low =>
    if high.val < 0x400 ∧ 0x400 ≤ low.val then
      some (Char.ofNat (0x10000 + high.val * 0x400 + (low.val - 0x400)))
    else none
  | _, _ => none

def char? : Point → Option Char
  | char c => some c
  | half _ => none

def escape (quote : Char) : Point → List Char
  | char c => escapeChar quote c
  | p => '\\' :: 'u' :: hexDigits 4 p.number

@[simp] theorem pair?_char (c : Char) (p : Point) : pair? (char c) p = none := rfl

@[simp] theorem pair?_of_char (p : Point) (c : Char) : p.pair? (char c) = none := by cases p <;> rfl

end Point

/-- No two halves beside each other make a character. -/
def Joined : List Point → Prop
  | first :: second :: rest => first.pair? second = none ∧ Joined (second :: rest)
  | _ => True

def joinHalves : List Point → List Point
  | first :: second :: rest =>
    match first.pair? second with
    | some c => .char c :: joinHalves rest
    | none => first :: joinHalves (second :: rest)
  | rest => rest

theorem joined_char_cons {c : Char} {points : List Point} : Joined (.char c :: points) ↔ Joined points := by
  cases points with
  | nil => exact Iff.rfl
  | cons next rest => exact and_iff_right rfl

theorem joined_chars (text : List Char) : Joined (text.map .char) := by
  induction text with
  | nil => trivial
  | cons c rest ih => exact joined_char_cons.2 ih

theorem head_joinHalves (first : Point) (rest : List Point) :
    ∃ p tail, joinHalves (first :: rest) = p :: tail ∧ (p = first ∨ ∃ c, p = .char c) := by
  cases rest with
  | nil => exact ⟨first, [], rfl, .inl rfl⟩
  | cons second rest =>
    rw [joinHalves]
    cases first.pair? second with
    | some c => exact ⟨.char c, _, rfl, .inr ⟨c, rfl⟩⟩
    | none => exact ⟨first, _, rfl, .inl rfl⟩

theorem joined_joinHalves (points : List Point) : Joined (joinHalves points) := by
  induction points using joinHalves.induct with
  | case1 first second rest c paired ih =>
    rw [joinHalves, paired]
    exact joined_char_cons.2 ih
  | case2 first second rest apart ih =>
    rw [joinHalves, apart]
    obtain ⟨p, tail, joins, same⟩ := head_joinHalves second rest
    rw [joins] at ih ⊢
    refine ⟨?_, ih⟩
    rcases same with rfl | ⟨c, rfl⟩
    · exact apart
    · exact Point.pair?_of_char first c
  | case3 rest single =>
    rw [joinHalves]
    · match rest with
      | [] | [_] => trivial
      | first :: second :: rest => exact absurd rfl (single first second rest)
    · exact single

/-- A text as a reader of escapes tells it. -/
structure Points where
  points : List Point
  joined : Joined points
deriving DecidableEq

namespace Points

def ofString (text : String) : Points := ⟨text.toList.map .char, joined_chars _⟩

instance : Coe String Points := ⟨ofString⟩

@[simp] theorem ofString_inj {text other : String} : ofString text = ofString other ↔ text = other := by
  refine ⟨fun same => String.toList_inj.1 ?_, congrArg ofString⟩
  exact (List.map_inj_right fun _ _ same => Point.char.inj same).1 (congrArg points same)

def ofRead (points : List Point) : Points := ⟨joinHalves points, joined_joinHalves points⟩

def numbers (text : Points) : List Nat := text.points.map Point.number

instance : LT Points := ⟨fun text other => text.numbers < other.numbers⟩

instance (text other : Points) : Decidable (text < other) := inferInstanceAs (Decidable (text.numbers < other.numbers))

theorem numbers_injective {text other : Points} (same : text.numbers = other.numbers) : text = other := by
  obtain ⟨points, _⟩ := text
  obtain ⟨others, _⟩ := other
  obtain rfl : points = others := List.map_inj_right (fun _ _ => Point.number_injective) |>.1 same
  rfl

theorem lt_irrefl (text : Points) : ¬text < text := List.lt_irrefl text.numbers

theorem lt_trans {first second third : Points} (before : first < second) (behind : second < third) : first < third :=
  List.lt_trans (α := Nat) before behind

theorem lt_asymm {text other : Points} (before : text < other) : ¬other < text :=
  fun behind => lt_irrefl text (lt_trans before behind)

theorem lt_of_not_lt {text other : Points} (behind : ¬text < other) (different : text ≠ other) : other < text := by
  refine List.not_le.1 fun before => different (numbers_injective ?_)
  exact List.le_antisymm before behind

def quoted (text : Points) : String :=
  let quote := quoteFor (text.points.filterMap Point.char?)
  String.ofList (quote :: text.points.flatMap (Point.escape quote) ++ [quote])

end Points

end ImageBuild.Text
