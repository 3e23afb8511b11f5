import AiopsSystem.Go.Frame

/-! # SHA-256

The hash function of FIPS 180-4 on byte strings, for the runs that need its
values. Words are numbers below 2³²; a round hands on the words it computed and
not the expressions for them, so that an evaluation stays small.
-/

namespace AiopsSystem.Go

namespace Sha256

/-- `f n`, with `n` evaluated first. -/
def strictly {α : Type} (n : Nat) (f : Nat → α) : α :=
  match n with
  | 0 => f 0
  | m + 1 => f (m + 1)

def add (x y : Nat) : Nat := Nat.mod (Nat.add x y) 4294967296

def rotateRight (x n : Nat) : Nat :=
  Nat.lor (Nat.shiftRight x n) (Nat.mod (Nat.shiftLeft x (Nat.sub 32 n)) 4294967296)

def bigSigma0 (x : Nat) : Nat := Nat.xor (Nat.xor (rotateRight x 2) (rotateRight x 13)) (rotateRight x 22)

def bigSigma1 (x : Nat) : Nat := Nat.xor (Nat.xor (rotateRight x 6) (rotateRight x 11)) (rotateRight x 25)

def smallSigma0 (x : Nat) : Nat := Nat.xor (Nat.xor (rotateRight x 7) (rotateRight x 18)) (Nat.shiftRight x 3)

def smallSigma1 (x : Nat) : Nat := Nat.xor (Nat.xor (rotateRight x 17) (rotateRight x 19)) (Nat.shiftRight x 10)

def choose (x y z : Nat) : Nat := Nat.xor (Nat.land x y) (Nat.land (Nat.xor x 4294967295) z)

def majority (x y z : Nat) : Nat := Nat.xor (Nat.xor (Nat.land x y) (Nat.land x z)) (Nat.land y z)

def roundConstants : List Nat :=
  [0x428a2f98, 0x71374491, 0xb5c0fbcf, 0xe9b5dba5, 0x3956c25b, 0x59f111f1, 0x923f82a4, 0xab1c5ed5,
    0xd807aa98, 0x12835b01, 0x243185be, 0x550c7dc3, 0x72be5d74, 0x80deb1fe, 0x9bdc06a7, 0xc19bf174,
    0xe49b69c1, 0xefbe4786, 0x0fc19dc6, 0x240ca1cc, 0x2de92c6f, 0x4a7484aa, 0x5cb0a9dc, 0x76f988da,
    0x983e5152, 0xa831c66d, 0xb00327c8, 0xbf597fc7, 0xc6e00bf3, 0xd5a79147, 0x06ca6351, 0x14292967,
    0x27b70a85, 0x2e1b2138, 0x4d2c6dfc, 0x53380d13, 0x650a7354, 0x766a0abb, 0x81c2c92e, 0x92722c85,
    0xa2bfe8a1, 0xa81a664b, 0xc24b8b70, 0xc76c51a3, 0xd192e819, 0xd6990624, 0xf40e3585, 0x106aa070,
    0x19a4c116, 0x1e376c08, 0x2748774c, 0x34b0bcb5, 0x391c0cb3, 0x4ed8aa4a, 0x5b9cca4f, 0x682e6ff3,
    0x748f82ee, 0x78a5636f, 0x84c87814, 0x8cc70208, 0x90befffa, 0xa4506ceb, 0xbef9a3f7, 0xc67178f2]

structure Registers where
  (a b c d e f g h : Nat)

structure Window where
  (w0 w1 w2 w3 w4 w5 w6 w7 w8 w9 w10 w11 w12 w13 w14 w15 : Nat)

def initial : Registers :=
  ⟨0x6a09e667, 0xbb67ae85, 0x3c6ef372, 0xa54ff53a, 0x510e527f, 0x9b05688c, 0x1f83d9ab, 0x5be0cd19⟩

def rounds : List Nat → Window → Registers → Registers
  | [], _, registers => registers
  | constant :: rest, ⟨w0, w1, w2, w3, w4, w5, w6, w7, w8, w9, w10, w11, w12, w13, w14, w15⟩, ⟨a, b, c, d, e, f, g, h⟩ =>
    strictly (add (add (add h (bigSigma1 e)) (add (choose e f g) constant)) w0) fun t1 =>
    strictly (add (bigSigma0 a) (majority a b c)) fun t2 =>
    strictly (add d t1) fun e' =>
    strictly (add t1 t2) fun a' =>
    strictly (add (add (smallSigma1 w14) w9) (add (smallSigma0 w1) w0)) fun w16 =>
    rounds rest ⟨w1, w2, w3, w4, w5, w6, w7, w8, w9, w10, w11, w12, w13, w14, w15, w16⟩ ⟨a', a, b, c, e', e, f, g⟩

def combine : Registers → Registers → Registers
  | ⟨a, b, c, d, e, f, g, h⟩, ⟨a', b', c', d', e', f', g', h'⟩ =>
    strictly (add a a') fun a => strictly (add b b') fun b => strictly (add c c') fun c =>
    strictly (add d d') fun d => strictly (add e e') fun e => strictly (add f f') fun f =>
    strictly (add g g') fun g => strictly (add h h') fun h => ⟨a, b, c, d, e, f, g, h⟩

def bigEndianWords : GoString → List Nat
  | b3 :: b2 :: b1 :: b0 :: rest =>
    strictly (Nat.add (Nat.mul (Nat.add (Nat.mul (Nat.add (Nat.mul b3.toNat 256) b2.toNat) 256) b1.toNat) 256) b0.toNat)
      fun word => word :: bigEndianWords rest
  | _ => []

def compress (registers : Registers) : List Nat → Registers
  | w0 :: w1 :: w2 :: w3 :: w4 :: w5 :: w6 :: w7 :: w8 :: w9 :: w10 :: w11 :: w12 :: w13 :: w14 :: w15 :: rest =>
    compress (combine registers
      (rounds roundConstants ⟨w0, w1, w2, w3, w4, w5, w6, w7, w8, w9, w10, w11, w12, w13, w14, w15⟩ registers)) rest
  | _ => registers

def padded (message : GoString) : GoString :=
  let length := message.length
  message ++ 128 :: List.replicate ((119 - length % 64) % 64) 0 ++
    (List.range 8).map fun i => UInt8.ofNat (8 * length / 256 ^ (7 - i))

end Sha256

def hexWord (word : Nat) : GoString :=
  [28, 24, 20, 16, 12, 8, 4, 0].map fun shift => hexDigit (Nat.shiftRight word shift % 16)

/-- `hex.EncodeToString(sha256.Sum256(message))` -/
def sha256Hex (message : GoString) : GoString :=
  match Sha256.compress Sha256.initial (Sha256.bigEndianWords (Sha256.padded message)) with
  | ⟨a, b, c, d, e, f, g, h⟩ => [a, b, c, d, e, f, g, h].flatMap hexWord

theorem isHexByte_hexDigit {n : Nat} (h : n < 16) : isHexByte (hexDigit n) := by
  have hAll : ∀ digit : Fin 16, isHexByte (hexDigit digit) := by decide
  exact hAll ⟨n, h⟩

theorem hexValue_hexDigit {b : UInt8} (h : isHexByte b) :
    ∃ digit < 16, hexValue b = some digit ∧ hexDigit digit = b := by
  have hAll : ∀ n : Fin 256, isHexByte (UInt8.ofNat n) →
      ∃ digit < 16, hexValue (UInt8.ofNat n) = some digit ∧ hexDigit digit = UInt8.ofNat n := by
    decide +kernel
  simpa using hAll ⟨b.toNat, b.toNat_lt⟩ (by simpa using h)

theorem hexDecode_hex {size : Nat} {text : GoString} (hLength : text.length = 2 * size)
    (hHex : ∀ b ∈ text, isHexByte b) :
    ∃ bytes, hexDecode text = some bytes ∧ bytes.length = size ∧ hexEncode bytes = text := by
  induction size generalizing text with
  | zero =>
    obtain rfl := List.eq_nil_of_length_eq_zero hLength
    exact ⟨[], rfl, rfl, rfl⟩
  | succ size ih =>
    match text, hLength with
    | high :: low :: rest, hLength =>
      obtain ⟨h, hh, hHigh, hHighByte⟩ := hexValue_hexDigit (hHex high List.mem_cons_self)
      obtain ⟨l, hl, hLow, hLowByte⟩ := hexValue_hexDigit (hHex low (by simp))
      obtain ⟨tail, hTail, hSize, hEncode⟩ := @ih rest (by simpa [Nat.mul_add] using hLength)
        (fun b hb => hHex b (by simp [hb]))
      refine ⟨UInt8.ofNat (16 * h + l) :: tail, by simp [hexDecode, hHigh, hLow, hTail], by simp [hSize], ?_⟩
      have hDiv : (16 * h + l) % 256 / 16 = h := by omega
      have hMod : (16 * h + l) % 256 % 16 = l := by omega
      rw [← hEncode, ← hHighByte, ← hLowByte]
      simp [hexEncode, hDiv, hMod]

theorem matchesHex_sha256Hex (message : GoString) : matchesHex 64 (sha256Hex message) := by
  have hWord : ∀ word, (hexWord word).length = 8 ∧ (hexWord word).all isHexByte := by
    intro word
    refine ⟨rfl, List.all_eq_true.mpr ?_⟩
    intro b hb
    obtain ⟨_, _, rfl⟩ := List.mem_map.mp hb
    exact isHexByte_hexDigit (Nat.mod_lt _ (by decide))
  unfold sha256Hex
  split
  simp [matchesHex, hWord]

example : sha256Hex (ascii "abc") =
    ascii "ba7816bf8f01cfea414140de5dae2223b00361a396177a9cb410ff61f20015ad" := by decide +kernel

end AiopsSystem.Go
