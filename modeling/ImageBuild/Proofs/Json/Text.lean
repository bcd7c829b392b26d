import ImageBuild.Json.Reader
import ImageBuild.Json.Writer

namespace ImageBuild.Json

open Text

/-- What a point is written as: a character beyond the basic plane as its halves. -/
def halved : Point → List Point
  | .char c =>
    if c.toNat < 0x10000 then [.char c]
    else [.ofNumber (0xD800 + (c.toNat - 0x10000) / 0x400), .ofNumber (0xDC00 + (c.toNat - 0x10000) % 0x400)]
  | p => [p]

theorem toNat_lt (c : Char) : c.toNat < 0x110000 := by
  have valid : c.toNat < 0xD800 ∨ 0xDFFF < c.toNat ∧ c.toNat < 0x110000 := c.valid
  omega

/-! ### Hexadecimal digits -/

theorem hexValue?_hexDigit : ∀ d < 16, hexValue? (hexDigit d) = some d := by
  decide

theorem codeUnit?_hexDigits {n : Nat} (small : n < 0x10000) :
    ∃ a b c d, hexDigits 4 n = [a, b, c, d] ∧ codeUnit? a b c d = some n := by
  refine ⟨hexDigit (n / 16 / 16 / 16 % 16), hexDigit (n / 16 / 16 % 16), hexDigit (n / 16 % 16),
    hexDigit (n % 16), rfl, ?_⟩
  have first := hexValue?_hexDigit (n / 16 / 16 / 16 % 16) (by omega)
  have second := hexValue?_hexDigit (n / 16 / 16 % 16) (by omega)
  have third := hexValue?_hexDigit (n / 16 % 16) (by omega)
  have fourth := hexValue?_hexDigit (n % 16) (by omega)
  have whole : ((n / 16 / 16 / 16 % 16 * 16 + n / 16 / 16 % 16) * 16 + n / 16 % 16) * 16 + n % 16 = n := by
    omega
  simp only [codeUnit?, first, second, third, fourth, Option.bind_eq_bind, Option.bind_some,
    Option.pure_def, whole]

/-! ### Escapes -/

def prependAll (front : List Point) (read : Except Failure (List Point × List Char)) :
    Except Failure (List Point × List Char) :=
  front.foldr prepend read

theorem prependAll_ok (front points : List Point) (rest : List Char) :
    prependAll front (.ok (points, rest)) = .ok (front ++ points, rest) := by
  induction front with
  | nil => rfl
  | cons point front ih =>
    change prepend point (prependAll front _) = _
    rw [ih]
    rfl

theorem readPoints_codeEscape (start : Nat) {n : Nat} (small : n < 0x10000) {tail : List Char}
    (more : tail ≠ []) :
    readPoints start (codeEscape n ++ tail) = prepend (.ofNumber n) (readPoints start tail) := by
  obtain ⟨a, b, c, d, digits, value⟩ := codeUnit?_hexDigits small
  obtain ⟨next, rest, rfl⟩ := List.exists_cons_of_ne_nil more
  simp only [codeEscape, digits, List.cons_append, List.nil_append, readPoints, value]

theorem readPoints_plain (start : Nat) {c : Char} (tail : List Char) (quote : c ≠ '"')
    (backslash : c ≠ '\\') (control : ¬ c.toNat < 0x20) :
    readPoints start (c :: tail) = prepend (.char c) (readPoints start tail) := by
  rw [readPoints.eq_def start (c :: tail)]
  split
  · contradiction
  · rename_i same
    exact absurd (List.cons.inj same).1 quote
  · rename_i same
    exact absurd (List.cons.inj same).1 backslash
  · rename_i same
    exact absurd (List.cons.inj same).1 backslash
  · rename_i same
    exact absurd (List.cons.inj same).1 backslash
  · rename_i same
    exact absurd (List.cons.inj same).1 backslash
  · rename_i same
    obtain ⟨rfl, rfl⟩ := List.cons.inj same
    rw [if_neg control]

theorem readPoints_escapeChar (start : Nat) (c : Char) {tail : List Char} (more : tail ≠ []) :
    readPoints start (escapeChar c ++ tail) = prependAll (halved (.char c)) (readPoints start tail) := by
  obtain ⟨next, rest, rfl⟩ := List.exists_cons_of_ne_nil more
  unfold escapeChar
  split
  · subst_vars; rfl
  split
  · subst_vars; rfl
  split
  · subst_vars; rfl
  split
  · subst_vars; rfl
  split
  · subst_vars; rfl
  split
  · rename_i feed
    obtain rfl : c = Char.ofNat 12 := Char.toNat_inj.1 feed
    rfl
  split
  · rename_i back
    obtain rfl : c = Char.ofNat 8 := Char.toNat_inj.1 back
    rfl
  split
  · rename_i quote backslash _ _ _ _ _ printable
    rw [halved, if_pos (by omega), List.singleton_append, readPoints_plain start _ quote backslash (by omega)]
    rfl
  split
  · rename_i basic
    have own : Point.ofNumber c.toNat = .char c := Point.ofNumber_number (.char c)
    rw [halved, if_pos basic, readPoints_codeEscape start basic more, own]
    rfl
  · rename_i beyond
    have bound := toNat_lt c
    rw [halved, if_neg beyond, List.append_assoc,
      readPoints_codeEscape start (by omega) (by simp [codeEscape]),
      readPoints_codeEscape start (by omega) more]
    rfl

theorem readPoints_escapePoint (start : Nat) (p : Point) {tail : List Char} (more : tail ≠ []) :
    readPoints start (escapePoint p ++ tail) = prependAll (halved p) (readPoints start tail) := by
  cases p with
  | char c => exact readPoints_escapeChar start c more
  | half place =>
    have small : (Point.half place).number < 0x10000 := by
      have below := place.isLt
      rw [Point.number]
      omega
    rw [escapePoint, readPoints_codeEscape start small more, Point.ofNumber_number]
    · rfl
    · intro c same
      cases same

theorem readPoints_writeText (start : Nat) (points : List Point) (rest : List Char) :
    readPoints start (points.flatMap escapePoint ++ '"' :: rest) = .ok (points.flatMap halved, rest) := by
  induction points with
  | nil => rfl
  | cons p points ih =>
    rw [List.flatMap_cons, List.append_assoc, readPoints_escapePoint start p (by simp), ih,
      prependAll_ok, List.flatMap_cons]

/-! ### Halves -/

theorem joinHalves_char (c : Char) (rest : List Point) : joinHalves (.char c :: rest) = .char c :: joinHalves rest := by
  cases rest with
  | nil => rfl
  | cons next rest => rw [joinHalves, Point.pair?_char]

theorem ofNumber_half {k : Nat} (small : k < 0x800) : Point.ofNumber (0xD800 + k) = .half ⟨k, small⟩ :=
  Point.ofNumber_number (.half ⟨k, small⟩)

theorem joinHalves_halved_char (c : Char) (rest : List Point) :
    joinHalves (halved (.char c) ++ rest) = .char c :: joinHalves rest := by
  rw [halved]
  split
  · exact joinHalves_char c rest
  · have bound := toNat_lt c
    have high : (c.toNat - 0x10000) / 0x400 < 0x400 := by omega
    have low : 0xDC00 + (c.toNat - 0x10000) % 0x400 = 0xD800 + (0x400 + (c.toNat - 0x10000) % 0x400) := by omega
    have whole : 0x10000 + (c.toNat - 0x10000) / 0x400 * 0x400 +
        (0x400 + (c.toNat - 0x10000) % 0x400 - 0x400) = c.toNat := by
      omega
    rw [low, ofNumber_half (by omega), ofNumber_half (by omega), List.cons_append, List.cons_append,
      List.nil_append, joinHalves, Point.pair?]
    simp only [whole, Char.ofNat_toNat, high, Nat.le_add_right, and_self, if_true]

/-- What is written for a point stays apart from a half that did. -/
theorem apart_halved {place : Fin 0x800} {p : Point} (apart : (Point.half place).pair? p = none) :
    ∃ first tail, halved p = first :: tail ∧ (Point.half place).pair? first = none := by
  cases p with
  | half other => exact ⟨_, _, rfl, apart⟩
  | char c =>
    rw [halved]
    split
    · exact ⟨_, _, rfl, rfl⟩
    · have bound := toNat_lt c
      refine ⟨_, _, rfl, ?_⟩
      rw [ofNumber_half (by omega), Point.pair?, if_neg]
      dsimp only
      omega

theorem joinHalves_flatMap_halved {points : List Point} (joined : Joined points) :
    joinHalves (points.flatMap halved) = points := by
  induction points with
  | nil => rfl
  | cons p rest ih =>
    rw [List.flatMap_cons]
    cases p with
    | char c => rw [joinHalves_halved_char, ih (joined_char_cons.1 joined)]
    | half place =>
      cases rest with
      | nil => rfl
      | cons next rest =>
        have later := ih joined.2
        -- the half in front joins nothing that is written for what follows it
        obtain ⟨first, tail, written, apart⟩ := apart_halved joined.1
        rw [List.flatMap_cons, written] at later ⊢
        show joinHalves (.half place :: first :: (tail ++ rest.flatMap halved)) = _
        rw [joinHalves, apart]
        exact congrArg _ later

/-- A written text reads back, and reading stops behind its closing quote. -/
theorem readText_writeText (text : Points) (rest : List Char) :
    readText (text.points.flatMap escapePoint ++ '"' :: rest) = .ok (text, rest) := by
  have same : Points.ofRead (text.points.flatMap halved) = text := by
    obtain ⟨points, joined⟩ := text
    simp only [Points.ofRead, joinHalves_flatMap_halved joined]
  simp only [readText, readPoints_writeText, same]

end ImageBuild.Json
