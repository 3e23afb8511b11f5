import AiopsSystem.Go.Clock
import AiopsSystem.Go.Text
import Mathlib.Data.List.Sort

/-! # JSON documents of marshalled structs

`json.Marshal` reads a Go string as UTF-8 and replaces every invalid byte by
U+FFFD, so the text of a document is a list of code points and not of bytes.
A document keeps its fields in the order the struct declares them. Arrays and
objects are chains of cells, which keeps the type a plain recursive one.
-/

namespace AiopsSystem.Go

/-- A continuation byte `10xxxxxx` in a range that the first byte may narrow. -/
def continues (low high b : UInt8) : Bool := low ≤ b && b ≤ high

def secondRange (b0 : UInt8) : UInt8 × UInt8 :=
  if b0 == 0xE0 then (0xA0, 0xBF)
  else if b0 == 0xED then (0x80, 0x9F)
  else if b0 == 0xF0 then (0x90, 0xBF)
  else if b0 == 0xF4 then (0x80, 0x8F)
  else (0x80, 0xBF)

def replacementRune : Nat := 0xFFFD

/-- The code points `range` yields on a string: an invalid byte is one U+FFFD. -/
def decodeRunes : GoString → List Nat
  | [] => []
  | b0 :: t0 =>
    if b0 < 0x80 then b0.toNat :: decodeRunes t0
    else match t0 with
      | [] => [replacementRune]
      | b1 :: t1 =>
        if 0xC2 ≤ b0 && b0 ≤ 0xDF && continues 0x80 0xBF b1 then
          ((b0.toNat % 32) * 64 + b1.toNat % 64) :: decodeRunes t1
        else match t1 with
          | [] => replacementRune :: decodeRunes (b1 :: [])
          | b2 :: t2 =>
            if 0xE0 ≤ b0 && b0 ≤ 0xEF && continues (secondRange b0).1 (secondRange b0).2 b1 &&
                continues 0x80 0xBF b2 then
              ((b0.toNat % 16) * 4096 + (b1.toNat % 64) * 64 + b2.toNat % 64) :: decodeRunes t2
            else match t2 with
              | [] => replacementRune :: decodeRunes (b1 :: b2 :: [])
              | b3 :: t3 =>
                if 0xF0 ≤ b0 && b0 ≤ 0xF4 && continues (secondRange b0).1 (secondRange b0).2 b1 &&
                    continues 0x80 0xBF b2 && continues 0x80 0xBF b3 then
                  ((b0.toNat % 8) * 262144 + (b1.toNat % 64) * 4096 + (b2.toNat % 64) * 64 +
                    b3.toNat % 64) :: decodeRunes t3
                else replacementRune :: decodeRunes (b1 :: b2 :: b3 :: t3)

theorem decodeRunes_ascii {value : GoString} (h : ∀ b ∈ value, b < 0x80) :
    decodeRunes value = value.map UInt8.toNat := by
  induction value with
  | nil => rfl
  | cons b _ ih =>
    rw [decodeRunes.eq_def]
    simp only [h b List.mem_cons_self, if_true, List.map_cons]
    rw [ih (fun c hc => h c (List.mem_cons_of_mem _ hc))]

theorem decodeRunes_inj_of_ascii {left right : GoString} (hLeft : ∀ b ∈ left, b < 0x80)
    (hRight : ∀ b ∈ right, b < 0x80) (h : decodeRunes left = decodeRunes right) : left = right := by
  rw [decodeRunes_ascii hLeft, decodeRunes_ascii hRight] at h
  exact List.map_injective_iff.mpr (fun _ _ => UInt8.toNat_inj.mp) h

/-- `unicode.IsSpace` -/
def isSpaceRune (rune : Nat) : Bool :=
  (9 ≤ rune && rune ≤ 13) || rune == 32 || rune == 0x85 || rune == 0xA0 || rune == 0x1680 ||
    (0x2000 ≤ rune && rune ≤ 0x200A) || rune == 0x2028 || rune == 0x2029 || rune == 0x202F ||
    rune == 0x205F || rune == 0x3000

/-- `strings.TrimSpace(value) == ""` -/
def isBlank (value : GoString) : Bool := (decodeRunes value).all isSpaceRune

inductive Json where
  | null
  | bool (value : Bool)
  | int (value : Int)
  | str (runes : List Nat)
  | instant (value : ZonedTime)
  | arrayEnd
  | arrayCell (head tail : Json)
  | objectEnd
  | objectCell (key : GoString) (value rest : Json)

namespace Json

def same : Json → Json → Bool
  | .null, .null => true
  | .bool a, .bool b => a == b
  | .int a, .int b => a == b
  | .str a, .str b => a == b
  | .instant a, .instant b => a == b
  | .arrayEnd, .arrayEnd => true
  | .arrayCell a as, .arrayCell b bs => same a b && same as bs
  | .objectEnd, .objectEnd => true
  | .objectCell key a as, .objectCell key' b bs => key == key' && same a b && same as bs
  | _, _ => false

theorem same_iff {a b : Json} : same a b ↔ a = b := by
  induction a generalizing b with
  | arrayCell _ _ ihHead ihTail => cases b <;> simp [same, ihHead, ihTail]
  | objectCell _ _ _ ihValue ihRest => cases b <;> simp [same, ihValue, ihRest, and_assoc]
  | _ => cases b <;> simp [same]

instance : DecidableEq Json := fun _ _ => decidable_of_iff _ same_iff

def text (value : GoString) : Json := .str (decodeRunes value)

def array (items : List Json) : Json := items.foldr .arrayCell .arrayEnd

def object (fields : List (String × Json)) : Json :=
  fields.foldr (fun field rest => .objectCell (ascii field.1) field.2 rest) .objectEnd

/-- `MarshalJSON` of a time: its local year must have four digits and its offset less than a day. -/
def ofTime (value : ZonedTime) : Option Json :=
  let wall := value.instant + value.offset * second
  if -31622400 * second ≤ wall ∧ wall < 315537897600 * second ∧ value.offset.natAbs < 86400 then
    some (.instant value)
  else none

/-- A field with `omitempty` that may be absent. -/
def optional (key : String) (value : Option Json) : List (String × Json) :=
  match value with
  | some document => [(key, document)]
  | none => []

/-- Year, month and day of a day counted from 1 January of year 1, by years that start in March. -/
def civilDate (day : Int) : Int × Int × Int :=
  let era := (day + 306) / 146097
  let dayOfEra := (day + 306) % 146097
  let yearOfEra := (dayOfEra - dayOfEra / 1460 + dayOfEra / 36524 - dayOfEra / 146096) / 365
  let dayOfYear := dayOfEra - (365 * yearOfEra + yearOfEra / 4 - yearOfEra / 100)
  let shifted := (5 * dayOfYear + 2) / 153
  let month := if shifted < 10 then shifted + 3 else shifted - 9
  (yearOfEra + era * 400 + if month ≤ 2 then 1 else 0, month, dayOfYear - (153 * shifted + 2) / 5 + 1)

def padded (width : Nat) (value : Int) : GoString :=
  let digits := formatNat value.natAbs
  List.replicate (width - digits.length) 48 ++ digits

def fraction (nanoseconds : Int) : GoString :=
  if nanoseconds = 0 then []
  else 46 :: ((padded 9 nanoseconds).reverse.dropWhile (· == 48)).reverse

/-- The sign is that of the whole minutes, so an offset of less than a minute to the west prints `+00:00`. -/
def zoneSuffix (offset : Int) : GoString :=
  let zone := offset.tdiv 60
  if offset = 0 then ascii "Z"
  else (if zone < 0 then ascii "-" else ascii "+") ++ padded 2 (zone.natAbs / 60) ++ ascii ":" ++
    padded 2 (zone.natAbs % 60)

/-- The text of a time in the layout `time.RFC3339Nano`. -/
def formatTime (value : ZonedTime) : GoString :=
  let wall := value.instant + value.offset * second
  let date := civilDate (wall / (24 * hour))
  let clock := wall % (24 * hour)
  padded 4 date.1 ++ ascii "-" ++ padded 2 date.2.1 ++ ascii "-" ++ padded 2 date.2.2 ++ ascii "T" ++
    padded 2 (clock / hour) ++ ascii ":" ++ padded 2 (clock % hour / minute) ++ ascii ":" ++
    padded 2 (clock % minute / second) ++ fraction (clock % second) ++ zoneSuffix value.offset

/-- The value a reader of the document sees: a time is its text. -/
def value : Json → Json
  | .instant time => .str (decodeRunes (formatTime time))
  | .arrayCell head tail => .arrayCell (value head) (value tail)
  | .objectCell key head rest => .objectCell key (value head) (value rest)
  | other => other

def unicodeEscape (rune : Nat) : GoString :=
  ascii "\\u" ++ [hexDigit (rune / 4096 % 16), hexDigit (rune / 256 % 16),
    hexDigit (rune / 16 % 16), hexDigit (rune % 16)]

def encodeRune (rune : Nat) : GoString :=
  if rune < 0x80 then [UInt8.ofNat rune]
  else if rune < 0x800 then [UInt8.ofNat (0xC0 + rune / 64), UInt8.ofNat (0x80 + rune % 64)]
  else if rune < 0x10000 then
    [UInt8.ofNat (0xE0 + rune / 4096), UInt8.ofNat (0x80 + rune / 64 % 64), UInt8.ofNat (0x80 + rune % 64)]
  else
    [UInt8.ofNat (0xF0 + rune / 262144), UInt8.ofNat (0x80 + rune / 4096 % 64),
      UInt8.ofNat (0x80 + rune / 64 % 64), UInt8.ofNat (0x80 + rune % 64)]

def escapeRune (rune : Nat) : GoString :=
  if rune = 34 then ascii "\\\""
  else if rune = 92 then ascii "\\\\"
  else if rune = 8 then ascii "\\b"
  else if rune = 12 then ascii "\\f"
  else if rune = 10 then ascii "\\n"
  else if rune = 13 then ascii "\\r"
  else if rune = 9 then ascii "\\t"
  else if rune < 32 ∨ rune = 60 ∨ rune = 62 ∨ rune = 38 ∨ rune = 0x2028 ∨ rune = 0x2029 then
    unicodeEscape rune
  else encodeRune rune

def quote (runes : List Nat) : GoString := 34 :: (runes.flatMap escapeRune ++ [34])

def encode : Json → GoString
  | .null => ascii "null"
  | .bool true => ascii "true"
  | .bool false => ascii "false"
  | .int value => formatInt value
  | .str runes => quote runes
  | .instant value => 34 :: (formatTime value ++ [34])
  | .arrayEnd => ascii "[]"
  | .arrayCell head tail =>
    match tail with
    | .arrayCell _ _ => 91 :: (encode head ++ 44 :: (encode tail).drop 1)
    | _ => 91 :: (encode head ++ [93])
  | .objectEnd => ascii "\x7b\x7d"
  | .objectCell key value rest =>
    match rest with
    | .objectCell _ _ _ =>
      123 :: (quote (decodeRunes key) ++ 58 :: (encode value ++ 44 :: (encode rest).drop 1))
    | _ => 123 :: (quote (decodeRunes key) ++ 58 :: (encode value ++ [125]))

def canonicalRune (rune : Nat) : GoString :=
  if rune = 60 ∨ rune = 62 ∨ rune = 38 ∨ rune = 0x2028 ∨ rune = 0x2029 then encodeRune rune else escapeRune rune

def canonicalParts : Json → GoString × List (GoString × GoString) × List GoString
  | .objectEnd => (ascii "\x7b\x7d", [], [])
  | .objectCell key value rest =>
    let fields := (canonicalParts rest).2.1.orderedInsert (fun field other => ¬ other.1 < field.1)
      (key, (canonicalParts value).1)
    let printed := fields.map (fun field => 34 :: ((decodeRunes field.1).flatMap canonicalRune ++ 34 :: 58 :: field.2))
    (123 :: (joinByte 44 printed ++ [125]), fields, [])
  | .arrayEnd => (ascii "[]", [], [])
  | .arrayCell head tail =>
    let items := (canonicalParts head).1 :: (canonicalParts tail).2.2
    (91 :: (joinByte 44 items ++ [93]), [], items)
  | .str runes => (34 :: (runes.flatMap canonicalRune ++ [34]), [], [])
  | other => (encode other, [], [])

/-- RFC 8785 on documents whose keys are ASCII and whose numbers are safe integers. -/
def canonicalForm (document : Json) : GoString := (canonicalParts document).1

end Json

structure Codec where
  /-- The lowercase hexadecimal text of the SHA-256 digest. -/
  sha256Hex : GoString → GoString
  /-- `jsoncanonicalizer.Transform` of the marshalled document. -/
  canonical : Json → Option GoString

end AiopsSystem.Go
