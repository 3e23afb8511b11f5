import AiopsSystem.Go.Json

/-! # Valid UTF-8 -/

namespace AiopsSystem.Go

/-- `utf8.Valid`: shortest forms only, no surrogates, nothing above U+10FFFF. -/
def utf8Valid : GoString → Bool
  | [] => true
  | b0 :: t0 =>
    if b0 < 0x80 then utf8Valid t0
    else match t0 with
      | [] => false
      | b1 :: t1 =>
        if 0xC2 ≤ b0 && b0 ≤ 0xDF && continues 0x80 0xBF b1 then utf8Valid t1
        else match t1 with
          | [] => false
          | b2 :: t2 =>
            if 0xE0 ≤ b0 && b0 ≤ 0xEF && continues (secondRange b0).1 (secondRange b0).2 b1 &&
                continues 0x80 0xBF b2 then utf8Valid t2
            else match t2 with
              | [] => false
              | b3 :: t3 =>
                0xF0 ≤ b0 && b0 ≤ 0xF4 && continues (secondRange b0).1 (secondRange b0).2 b1 &&
                  continues 0x80 0xBF b2 && continues 0x80 0xBF b3 && utf8Valid t3

/-- `utf8.DecodeRuneInString`: the first code point and its width; an invalid byte is a U+FFFD of width one. -/
def decodeRune : GoString → Nat × Nat
  | [] => (replacementRune, 0)
  | b0 :: t0 =>
    if b0 < 0x80 then (b0.toNat, 1)
    else match t0 with
      | [] => (replacementRune, 1)
      | b1 :: t1 =>
        if 0xC2 ≤ b0 && b0 ≤ 0xDF && continues 0x80 0xBF b1 then ((b0.toNat % 32) * 64 + b1.toNat % 64, 2)
        else match t1 with
          | [] => (replacementRune, 1)
          | b2 :: t2 =>
            if 0xE0 ≤ b0 && b0 ≤ 0xEF && continues (secondRange b0).1 (secondRange b0).2 b1 &&
                continues 0x80 0xBF b2 then
              ((b0.toNat % 16) * 4096 + (b1.toNat % 64) * 64 + b2.toNat % 64, 3)
            else match t2 with
              | [] => (replacementRune, 1)
              | b3 :: _ =>
                if 0xF0 ≤ b0 && b0 ≤ 0xF4 && continues (secondRange b0).1 (secondRange b0).2 b1 &&
                    continues 0x80 0xBF b2 && continues 0x80 0xBF b3 then
                  ((b0.toNat % 8) * 262144 + (b1.toNat % 64) * 4096 + (b2.toNat % 64) * 64 + b3.toNat % 64, 4)
                else (replacementRune, 1)

theorem encodeRune_length (rune : Nat) : (Json.encodeRune rune).length =
    if rune < 0x80 then 1 else if rune < 0x800 then 2 else if rune < 0x10000 then 3 else 4 := by
  unfold Json.encodeRune
  split_ifs <;> rfl

/-- The ranges of the second byte leave out the longer forms of shorter code points. -/
theorem continues_secondRange {b0 b1 : UInt8} (h : continues (secondRange b0).1 (secondRange b0).2 b1) :
    128 ≤ b1.toNat ∧ b1.toNat < 192 ∧ (b0.toNat = 0xE0 → 160 ≤ b1.toNat) ∧ (b0.toNat = 0xF0 → 144 ≤ b1.toNat) := by
  simp only [continues, secondRange, beq_iff_eq, ← UInt8.toNat_inj, UInt8.le_iff_toNat_le, Bool.and_eq_true,
    decide_eq_true_eq] at h
  split_ifs at h <;> simp only [UInt8.reduceToNat] at * <;> omega

/-- The first character of a valid string that does not start with an ASCII byte. -/
theorem decodeRune_spec {first : UInt8} {tail : GoString} (hFirst : ¬ first < 0x80) (h : utf8Valid (first :: tail)) :
    ∃ rune width, decodeRune (first :: tail) = (rune, width) ∧ 0x80 ≤ rune ∧ (Json.encodeRune rune).length = width ∧
      0 < width ∧ width ≤ tail.length + 1 ∧
      decodeRunes (first :: tail) = rune :: decodeRunes ((first :: tail).drop width) ∧
        utf8Valid ((first :: tail).drop width) := by
  rw [utf8Valid.eq_def] at h
  rw [decodeRune.eq_def, decodeRunes.eq_def]
  simp only [if_neg hFirst] at h ⊢
  cases tail with
  | nil => cases h
  | cons b1 t1 =>
    simp only at h ⊢
    split at h
    · rename_i hTwo
      rw [if_pos hTwo, if_pos hTwo]
      simp only [continues, Bool.and_eq_true, decide_eq_true_eq, UInt8.le_iff_toNat_le, UInt8.reduceToNat] at hTwo
      refine ⟨_, 2, rfl, by omega, ?_, by decide, by simp, rfl, h⟩
      rw [encodeRune_length, if_neg (by omega), if_pos (by omega)]
    · rename_i hTwo
      rw [if_neg hTwo, if_neg hTwo]
      cases t1 with
      | nil => cases h
      | cons b2 t2 =>
        simp only at h ⊢
        split at h
        · rename_i hThree
          rw [if_pos hThree, if_pos hThree]
          simp only [Bool.and_eq_true, decide_eq_true_eq, UInt8.le_iff_toNat_le, UInt8.reduceToNat] at hThree
          have hSecond := continues_secondRange hThree.1.2
          refine ⟨_, 3, rfl, by omega, ?_, by decide, by simp, rfl, h⟩
          rw [encodeRune_length, if_neg (by omega), if_neg (by omega), if_pos (by omega)]
        · rename_i hThree
          rw [if_neg hThree, if_neg hThree]
          cases t2 with
          | nil => cases h
          | cons b3 t3 =>
            simp only at h ⊢
            obtain ⟨hFour, h⟩ := (Bool.and_eq_true _ _).mp h
            rw [if_pos hFour, if_pos hFour]
            simp only [Bool.and_eq_true, decide_eq_true_eq, UInt8.le_iff_toNat_le, UInt8.reduceToNat] at hFour
            have hSecond := continues_secondRange hFour.1.1.2
            refine ⟨_, 4, rfl, by omega, ?_, by decide, by simp, rfl, h⟩
            rw [encodeRune_length, if_neg (by omega), if_neg (by omega), if_neg (by omega)]

def utf8BOM : GoString := [0xEF, 0xBB, 0xBF]

/-- `bytes.Contains` -/
def containsBytes (pattern : GoString) (value : GoString) : Bool :=
  value.tails.any pattern.isPrefixOf

/-- `bytes.TrimPrefix` -/
def trimBytes (pattern value : GoString) : GoString :=
  if pattern.isPrefixOf value then value.drop pattern.length else value

end AiopsSystem.Go
