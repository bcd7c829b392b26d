import ImageBuild.Text.Utf8
import Mathlib.Data.String.Basic

namespace ImageBuild.Text.Utf8

/-! ### Bytes of a text -/

theorem toList_loop (bytes : ByteArray) (n : Nat) (done : List UInt8) :
    ByteArray.toList.loop bytes n done = done.reverse ++ bytes.data.toList.drop n := by
  fun_induction ByteArray.toList.loop bytes n done with
  | case1 n done inside ih =>
    have short : n < bytes.data.toList.length := by simpa using inside
    have here : bytes.get! n = bytes.data.toList[n] := by
      rw [Array.getElem_toList, ← getElem!_pos bytes.data n inside]
      rfl
    rw [ih, List.drop_eq_getElem_cons short, here]
    simp
  | case2 n done outside =>
    rw [List.drop_eq_nil_of_le (by simpa using Nat.le_of_not_lt outside), List.append_nil]

theorem toList_toUTF8 (s : String) : s.toUTF8.toList = s.toList.flatMap String.utf8EncodeChar := by
  have encoded : s.toUTF8 = (s.toList.flatMap String.utf8EncodeChar).toByteArray := String.utf8Encode_toList.symm
  rw [encoded, ByteArray.toList, toList_loop, List.data_toByteArray]
  simp

/-! ### Single bytes -/

theorem expected_single : ∀ n < 0x80, expected (.ofNat n) = some (0, 0x80, 0xBF) := by decide +kernel

theorem expected_double : ∀ n < 0x20, 2 ≤ n →
    expected (.ofNat (n + 0xC0)) = some (1, 0x80, 0xBF) ∧ payload (.ofNat (n + 0xC0)) = n := by decide +kernel

/-- The first continuation byte of three keeps to characters that are neither shorter nor half of a pair. -/
theorem expected_triple : ∀ n < 0x10,
    expected (.ofNat (n + 0xE0)) = some (2, if n = 0 then 0xA0 else 0x80, if n = 0xD then 0x9F else 0xBF) ∧
      payload (.ofNat (n + 0xE0)) = n := by decide +kernel

theorem expected_quadruple : ∀ n < 5,
    expected (.ofNat (n + 0xF0)) = some (3, if n = 0 then 0x90 else 0x80, if n = 4 then 0x8F else 0xBF) ∧
      payload (.ofNat (n + 0xF0)) = n := by decide +kernel

section

variable (offset : Nat) (rest : List UInt8)

theorem decodeFrom_first {byte low high : UInt8} {left : Nat} (known : expected byte = some (left + 1, low, high)) :
    decodeFrom offset none (byte :: rest) =
      decodeFrom (offset + 1) (some ⟨byte, offset, 1, left + 1, low, high, payload byte⟩) rest := by
  rw [decodeFrom]
  simp only [known]

theorem decodeFrom_next {start low high : UInt8} {first length left value n : Nat} (small : n < 0x40)
    (above : low.toNat ≤ n + 0x80) (below : n + 0x80 ≤ high.toNat) :
    decodeFrom offset (some ⟨start, first, length, left, low, high, value⟩) (.ofNat (n + 0x80) :: rest) =
      if left ≤ 1 then (decodeFrom (offset + 1) none rest).map (Char.ofNat (value * 0x40 + n) :: ·)
      else decodeFrom (offset + 1) (some ⟨start, first, length + 1, left - 1, 0x80, 0xBF, value * 0x40 + n⟩) rest := by
  have byte : (UInt8.ofNat (n + 0x80)).toNat = n + 0x80 := by
    rw [UInt8.toNat_ofNat']
    omega
  have inside : low ≤ UInt8.ofNat (n + 0x80) ∧ UInt8.ofNat (n + 0x80) ≤ high := by
    rw [UInt8.le_iff_toNat_le, UInt8.le_iff_toNat_le, byte]
    exact ⟨above, below⟩
  have added : (n + 0x80) % 0x40 = n := by omega
  rw [decodeFrom]
  dsimp only
  rw [if_pos inside, byte, added]

end

/-! ### Characters -/

theorem decodeFrom_char (c : Char) (offset : Nat) (rest : List UInt8) :
    ∃ later, decodeFrom offset none (String.utf8EncodeChar c ++ rest) = (decodeFrom later none rest).map (c :: ·) := by
  have valid : c.toNat < 0xD800 ∨ 0xDFFF < c.toNat ∧ c.toNat < 0x110000 := c.valid
  have whole : Char.ofNat c.toNat = c := Char.ofNat_toNat c
  unfold String.utf8EncodeChar
  rw [Char.toNat_val]
  generalize c.toNat = n at valid whole ⊢
  dsimp only
  -- one case for each number of bytes
  split_ifs with single double triple
  · have byte : (UInt8.ofNat n).toNat = n := by
      rw [UInt8.toNat_ofNat']
      omega
    refine ⟨offset + 1, ?_⟩
    rw [List.singleton_append, decodeFrom]
    simp only [expected_single n (by omega), byte, whole]
  · have lead : n / 64 % 32 = n / 64 := by omega
    obtain ⟨known, value⟩ := expected_double (n / 64) (by omega) (by omega)
    have sum : n / 64 * 64 + n % 64 = n := by omega
    refine ⟨offset + 1 + 1, ?_⟩
    rw [lead, List.cons_append, decodeFrom_first _ _ known, value, List.cons_append,
      decodeFrom_next _ _ (by omega) (by simp) (by simp; omega), if_pos (by decide), sum, whole]
    rfl
  · have lead : n / 4096 % 16 = n / 4096 := by omega
    obtain ⟨known, value⟩ := expected_triple (n / 4096) (by omega)
    have low : (if n / 4096 = 0 then (0xA0 : UInt8) else 0x80).toNat ≤ n / 64 % 64 + 0x80 := by
      split <;> simp; omega
    have high : n / 64 % 64 + 0x80 ≤ (if n / 4096 = 0xD then (0x9F : UInt8) else 0xBF).toNat := by
      split <;> simp <;> omega
    refine ⟨offset + 1 + 1 + 1, ?_⟩
    have sum : (n / 4096 * 64 + n / 64 % 64) * 64 + n % 64 = n := by omega
    rw [lead, List.cons_append, decodeFrom_first _ _ known, value, List.cons_append,
      decodeFrom_next _ _ (by omega) low high, if_neg (by decide), List.cons_append,
      decodeFrom_next _ _ (by omega) (by simp) (by simp; omega), if_pos (by decide), sum, whole]
    rfl
  · have lead : n / 262144 % 8 = n / 262144 := by omega
    obtain ⟨known, value⟩ := expected_quadruple (n / 262144) (by omega)
    have low : (if n / 262144 = 0 then (0x90 : UInt8) else 0x80).toNat ≤ n / 4096 % 64 + 0x80 := by
      split <;> simp; omega
    have high : n / 4096 % 64 + 0x80 ≤ (if n / 262144 = 4 then (0x8F : UInt8) else 0xBF).toNat := by
      split <;> simp <;> omega
    refine ⟨offset + 1 + 1 + 1 + 1, ?_⟩
    have sum : ((n / 262144 * 64 + n / 4096 % 64) * 64 + n / 64 % 64) * 64 + n % 64 = n := by omega
    rw [lead, List.cons_append, decodeFrom_first _ _ known, value, List.cons_append,
      decodeFrom_next _ _ (by omega) low high, if_neg (by decide), List.cons_append,
      decodeFrom_next _ _ (by omega) (by simp) (by simp; omega), if_neg (by decide), List.cons_append,
      decodeFrom_next _ _ (by omega) (by simp) (by simp; omega), if_pos (by decide), sum, whole]
    rfl

theorem decodeFrom_text (s : List Char) (offset : Nat) : decodeFrom offset none (s.flatMap String.utf8EncodeChar) = .ok s := by
  induction s generalizing offset with
  | nil => rfl
  | cons c rest ih =>
    obtain ⟨later, decoded⟩ := decodeFrom_char c offset (rest.flatMap String.utf8EncodeChar)
    rw [List.flatMap_cons, decoded, ih]
    rfl

theorem decode_toUTF8 (s : String) : decode s.toUTF8 = .ok s.toList := by
  rw [decode, toList_toUTF8, decodeFrom_text]

end ImageBuild.Text.Utf8
