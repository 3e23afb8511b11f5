import AiopsSystem.Go.Text

/-! # Framed tuples

A tuple is written field by field: one zero byte for an absent field, and for a
present one the byte one, the length in four bytes and the bytes themselves.
Fields shorter than the length counter can be read back, so a tuple of such
fields is determined by its bytes.
-/

namespace AiopsSystem.Go

open List

/-- A field of a tuple; `none` is an absent one. -/
abbrev Frame := Option GoString

/-- `binary.BigEndian.PutUint32(uint32(n))` -/
def bigEndian32 (n : Nat) : GoString :=
  [UInt8.ofNat (n / 16777216), UInt8.ofNat (n / 65536), UInt8.ofNat (n / 256), UInt8.ofNat n]

/-- `binary.BigEndian.PutUint64(uint64(n))` -/
def bigEndian64 (n : Nat) : GoString := bigEndian32 (n / 4294967296) ++ bigEndian32 (n % 4294967296)

def encodeFrame : Frame → GoString
  | none => [0]
  | some value => 1 :: (bigEndian32 value.length ++ value)

def encodeFrames (frames : List Frame) : GoString := frames.flatMap encodeFrame

theorem ofNat_eq_ofNat {x y : Nat} (h : UInt8.ofNat x = UInt8.ofNat y) : x % 256 = y % 256 := by
  simpa using congrArg UInt8.toNat h

theorem bigEndian32_inj {m n : Nat} (hm : m < 4294967296) (hn : n < 4294967296)
    (h : bigEndian32 m = bigEndian32 n) : m = n := by
  simp only [bigEndian32, List.cons.injEq, and_true] at h
  have h3 := ofNat_eq_ofNat h.1
  have h2 := ofNat_eq_ofNat h.2.1
  have h1 := ofNat_eq_ofNat h.2.2.1
  have h0 := ofNat_eq_ofNat h.2.2.2
  omega

theorem bigEndian64_inj {m n : Nat} (hm : m < 18446744073709551616) (hn : n < 18446744073709551616)
    (h : bigEndian64 m = bigEndian64 n) : m = n := by
  obtain ⟨hHigh, hLow⟩ := append_inj h rfl
  have hQuotient := bigEndian32_inj (by omega) (by omega) hHigh
  have hRemainder := bigEndian32_inj (by omega) (by omega) hLow
  omega

/-- A field behind its length ends where the length says. -/
theorem counted_inj {left right rest rest' : GoString} (hLeft : left.length < 4294967296)
    (hRight : right.length < 4294967296)
    (h : bigEndian32 left.length ++ (left ++ rest) = bigEndian32 right.length ++ (right ++ rest')) :
    left = right ∧ rest = rest' := by
  obtain ⟨hLength, hBody⟩ := append_inj h rfl
  exact append_inj hBody (bigEndian32_inj hLeft hRight hLength)

def Short (fields : List GoString) : Prop := ∀ field ∈ fields, field.length < 4294967296

theorem encodeFrames_inj {left right : List GoString} (hLeft : Short left) (hRight : Short right)
    (h : encodeFrames (left.map some) = encodeFrames (right.map some)) : left = right := by
  induction left generalizing right with
  | nil =>
    cases right with
    | nil => rfl
    | cons field rest => cases h
  | cons field rest ih =>
    cases right with
    | nil => cases h
    | cons other others =>
      have hBody : bigEndian32 field.length ++ (field ++ encodeFrames (rest.map some)) =
          bigEndian32 other.length ++ (other ++ encodeFrames (others.map some)) := by
        simpa [encodeFrames, encodeFrame] using h
      obtain ⟨rfl, hOthers⟩ := counted_inj (hLeft _ mem_cons_self) (hRight _ mem_cons_self) hBody
      rw [ih (fun f hf => hLeft f (mem_cons_of_mem _ hf)) (fun f hf => hRight f (mem_cons_of_mem _ hf)) hOthers]

theorem Short.insert {domain : GoString} {trailing middle : List GoString} (h : Short (domain :: trailing))
    (hMiddle : Short middle) : Short (domain :: middle ++ trailing) := by
  intro _ hField
  simp only [cons_append, mem_cons, mem_append] at hField
  rcases hField with rfl | hField | hField
  · exact h _ mem_cons_self
  · exact hMiddle _ hField
  · exact h _ (mem_cons_of_mem _ hField)

def hexValue (b : UInt8) : Option Nat :=
  if isDigit b then some (b.toNat - 48)
  else if 97 ≤ b && b ≤ 102 then some (b.toNat - 87)
  else if 65 ≤ b && b ≤ 70 then some (b.toNat - 55)
  else none

/-- `hex.DecodeString` -/
def hexDecode : GoString → Option GoString
  | [] => some []
  | [_] => none
  | high :: low :: rest =>
    match hexValue high, hexValue low, hexDecode rest with
    | some h, some l, some tail => some (UInt8.ofNat (16 * h + l) :: tail)
    | _, _, _ => none

end AiopsSystem.Go
