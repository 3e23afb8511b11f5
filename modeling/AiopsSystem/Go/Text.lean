import Mathlib.Data.List.Basic
import Mathlib.Data.Nat.Digits.Lemmas

/-! # Byte strings, byte classes and separated keys

A Go string is a sequence of bytes, valid UTF-8 or not. The anchored regular
expressions of the program only name ASCII classes, so each is a test on bytes.
Composite map keys join two parts by one separator byte; they identify the
parts as soon as the first part cannot contain the separator.
-/

namespace AiopsSystem.Go

open List

abbrev GoString := List UInt8

instance instLawfulBEqGoString : LawfulBEq GoString := inferInstance

def ascii (literal : String) : GoString := literal.toList.map (fun c => UInt8.ofNat c.toNat)

def isUpper (b : UInt8) : Bool := 65 ≤ b && b ≤ 90

def isLower (b : UInt8) : Bool := 97 ≤ b && b ≤ 122

def isDigit (b : UInt8) : Bool := 48 ≤ b && b ≤ 57

def isAlphanumeric (b : UInt8) : Bool := isUpper b || isLower b || isDigit b

/-- The class `[A-Za-z0-9._:/@-]`. -/
def isIdentifierByte (b : UInt8) : Bool :=
  isAlphanumeric b || b == 46 || b == 95 || b == 58 || b == 47 || b == 64 || b == 45

/-- The class `[a-f0-9]`. -/
def isHexByte (b : UInt8) : Bool := isDigit b || (97 ≤ b && b ≤ 102)

def hexDigit (n : Nat) : UInt8 := if n < 10 then UInt8.ofNat (48 + n) else UInt8.ofNat (87 + n)

/-- `hex.EncodeToString` -/
def hexEncode (bytes : GoString) : GoString :=
  bytes.flatMap fun b => [hexDigit (b.toNat / 16), hexDigit (b.toNat % 16)]

def matchesHeadTail (head tail : UInt8 → Bool) : GoString → Bool
  | [] => false
  | b :: rest => head b && rest.all tail

/-- `^[A-Za-z0-9][A-Za-z0-9._:/@-]*\z` -/
def matchesIdentifier (value : GoString) : Bool :=
  matchesHeadTail isAlphanumeric isIdentifierByte value

/-- `^[a-f0-9]{size}$` -/
def matchesHex (size : Nat) (value : GoString) : Bool :=
  value.length == size && value.all isHexByte

variable {value : GoString} {head tail : UInt8 → Bool}

theorem matchesHeadTail_all (hSub : ∀ b, head b → tail b) (h : matchesHeadTail head tail value) :
    ∀ b ∈ value, tail b := by
  cases value with
  | nil => cases h
  | cons =>
    simp only [matchesHeadTail, Bool.and_eq_true, all_eq_true] at h
    intro b hb
    rcases mem_cons.mp hb with rfl | hb
    · exact hSub b h.1
    · exact h.2 b hb

theorem matchesHeadTail_ne_nil (h : matchesHeadTail head tail value) : value ≠ [] := by
  rintro rfl
  cases h

theorem matchesIdentifier_all (h : matchesIdentifier value) : ∀ b ∈ value, isIdentifierByte b :=
  matchesHeadTail_all (fun b hb => by simp [isIdentifierByte, hb]) h

theorem isIdentifierByte_range {b : UInt8} (h : isIdentifierByte b) : 0 < b.toNat ∧ b.toNat < 128 := by
  simp only [isIdentifierByte, isAlphanumeric, isUpper, isLower, isDigit, Bool.or_eq_true,
    Bool.and_eq_true, decide_eq_true_eq, beq_iff_eq, UInt8.le_iff_toNat_le] at h
  rcases h with (((((((h | h) | h) | h) | h) | h) | h) | h) | h
  all_goals first
    | (obtain ⟨hLow, hHigh⟩ := h
       simp only [UInt8.toNat_ofNat] at hLow hHigh
       omega)
    | (subst h; decide)

/-- `left < right` on strings -/
def textLess : GoString → GoString → Bool
  | _, [] => false
  | [], _ :: _ => true
  | b :: left, c :: right => b < c || (b == c && textLess left right)

def joinZero (left right : GoString) : GoString := left ++ 0 :: right

theorem joinZero_inj {left right left' right' : GoString} (hLeft : (0 : UInt8) ∉ left)
    (hLeft' : (0 : UInt8) ∉ left') (h : joinZero left right = joinZero left' right') :
    left = left' ∧ right = right' := by
  induction left generalizing left' with
  | nil =>
    cases left' with
    | nil => exact ⟨rfl, (List.cons.inj h).2⟩
    | cons => exact absurd (by simp [(List.cons.inj h).1]) hLeft'
  | cons _ _ ih =>
    cases left' with
    | nil => exact absurd (by simp [(List.cons.inj h).1]) hLeft
    | cons =>
      obtain ⟨hHead, hTail⟩ := List.cons.inj h
      obtain ⟨hRest, hRight⟩ := ih (fun hb => hLeft (mem_cons_of_mem _ hb))
        (fun hb => hLeft' (mem_cons_of_mem _ hb)) hTail
      exact ⟨by rw [hHead, hRest], hRight⟩

/-- `strconv.FormatInt` in base ten of a number that is not negative. -/
def formatNat (n : Nat) : GoString :=
  if n = 0 then [48] else (Nat.digits 10 n).reverse.map (fun d => UInt8.ofNat (48 + d))

theorem formatNat_inj {m n : Nat} (hm : m ≠ 0) (hn : n ≠ 0) (h : formatNat m = formatNat n) : m = n := by
  have hDigits : ∀ {k : Nat}, k ≠ 0 → (formatNat k).map (fun b => b.toNat - 48) = (Nat.digits 10 k).reverse := by
    intro k hk
    rw [formatNat, if_neg hk, map_map]
    refine (map_congr_left fun d hd => ?_).trans (map_id _)
    have hLt := Nat.digits_lt_base (by decide) (mem_reverse.mp hd)
    simp only [Function.comp_apply, UInt8.toNat_ofNat', id]
    omega
  have hSame := (hDigits hm).symm.trans (h ▸ hDigits hn)
  exact Nat.digits_inj_iff.mp (reverse_injective hSame)

theorem formatNat_length {n k : Nat} (hk : 0 < k) (h : n < 10 ^ k) : (formatNat n).length ≤ k := by
  unfold formatNat
  split
  · exact hk
  · simpa using (Nat.digits_length_le_iff (by decide) n).mpr h

/-- `strconv.FormatInt(value, 10)` -/
def formatInt (value : Int) : GoString :=
  if value < 0 then 45 :: formatNat value.natAbs else formatNat value.natAbs

/-- `strings.Split` at one byte. -/
def splitByte (separator : UInt8) : GoString → List GoString
  | [] => [[]]
  | b :: rest =>
    if b = separator then [] :: splitByte separator rest
    else match splitByte separator rest with
      | [] => [[b]]
      | part :: parts => (b :: part) :: parts

theorem splitByte_length (separator : UInt8) (value : GoString) :
    ((splitByte separator value).map (fun part => part.length + 1)).sum = value.length + 1 := by
  induction value with
  | nil => rfl
  | cons b rest ih =>
    rw [splitByte]
    split
    · simp [ih, Nat.add_comm]
    · cases hParts : splitByte separator rest with
      | nil => simp [hParts] at ih
      | cons part parts =>
        rw [hParts] at ih
        simp only [map_cons, sum_cons, length_cons] at ih ⊢
        omega

def joinByte (separator : UInt8) : List GoString → GoString
  | [] => []
  | [part] => part
  | part :: parts => part ++ separator :: joinByte separator parts

def cleanElement (rooted : Bool) (kept : List GoString) (element : GoString) : List GoString :=
  if element = [] ∨ element = [46] then kept
  else if element = [46, 46] then
    match kept with
    | [] => if rooted then [] else [element]
    | top :: rest => if top = [46, 46] then element :: kept else rest
  else element :: kept

/-- `path.Clean` -/
def pathClean (value : GoString) : GoString :=
  let rooted := value.head? == some 47
  let joined := joinByte 47 ((splitByte 47 value).foldl (cleanElement rooted) []).reverse
  if rooted then 47 :: joined else if joined = [] then [46] else joined

def toLowerByte (b : UInt8) : UInt8 := if isUpper b then b + 32 else b

/-- `strings.EqualFold` against a text whose letters fold inside ASCII only. -/
def equalFold (value folded : GoString) : Bool := value.map toLowerByte == folded.map toLowerByte

def base64URLDigit (b : UInt8) : Option Nat :=
  if isUpper b then some (b.toNat - 65)
  else if isLower b then some (b.toNat - 71)
  else if isDigit b then some (b.toNat + 4)
  else if b = 45 then some 62
  else if b = 95 then some 63
  else none

def base64Quanta : List Nat → Option GoString
  | [] => some []
  | [_] => none
  | [a, b] => some [UInt8.ofNat (a * 4 + b / 16)]
  | [a, b, c] => some [UInt8.ofNat (a * 4 + b / 16), UInt8.ofNat (b % 16 * 16 + c / 4)]
  | a :: b :: c :: d :: rest =>
    (base64Quanta rest).map fun tail =>
      UInt8.ofNat (a * 4 + b / 16) :: UInt8.ofNat (b % 16 * 16 + c / 4) :: UInt8.ofNat (c % 4 * 64 + d) :: tail

/-- `base64.RawURLEncoding.DecodeString`, which skips line breaks. -/
def rawURLDecode (value : GoString) : Option GoString :=
  ((value.filter (fun b => b != 10 && b != 13)).mapM base64URLDigit).bind base64Quanta

end AiopsSystem.Go
