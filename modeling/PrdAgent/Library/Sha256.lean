import PrdAgent.Library.GoText

/-!
# SHA-256

The hash function of FIPS 180-4 on lists of bytes, as an executable function whose values the
kernel computes quickly: words are natural numbers below `2 ^ 32`, a rotation is read off the word
written twice, and sums are reduced once per round. `hmacBase64` and `hmacHex` are the message
authentication code of RFC 2104.
-/

namespace Sha256

open GoText

def roundConstants : List Nat :=
  [0x428a2f98, 0x71374491, 0xb5c0fbcf, 0xe9b5dba5, 0x3956c25b, 0x59f111f1, 0x923f82a4, 0xab1c5ed5,
   0xd807aa98, 0x12835b01, 0x243185be, 0x550c7dc3, 0x72be5d74, 0x80deb1fe, 0x9bdc06a7, 0xc19bf174,
   0xe49b69c1, 0xefbe4786, 0x0fc19dc6, 0x240ca1cc, 0x2de92c6f, 0x4a7484aa, 0x5cb0a9dc, 0x76f988da,
   0x983e5152, 0xa831c66d, 0xb00327c8, 0xbf597fc7, 0xc6e00bf3, 0xd5a79147, 0x06ca6351, 0x14292967,
   0x27b70a85, 0x2e1b2138, 0x4d2c6dfc, 0x53380d13, 0x650a7354, 0x766a0abb, 0x81c2c92e, 0x92722c85,
   0xa2bfe8a1, 0xa81a664b, 0xc24b8b70, 0xc76c51a3, 0xd192e819, 0xd6990624, 0xf40e3585, 0x106aa070,
   0x19a4c116, 0x1e376c08, 0x2748774c, 0x34b0bcb5, 0x391c0cb3, 0x4ed8aa4a, 0x5b9cca4f, 0x682e6ff3,
   0x748f82ee, 0x78a5636f, 0x84c87814, 0x8cc70208, 0x90befffa, 0xa4506ceb, 0xbef9a3f7, 0xc67178f2]

/-- The eight words of the chaining value. -/
structure Words where
  a : Nat
  b : Nat
  c : Nat
  d : Nat
  e : Nat
  f : Nat
  g : Nat
  h : Nat

def initialWords : Words :=
  ⟨0x6a09e667, 0xbb67ae85, 0x3c6ef372, 0xa54ff53a, 0x510e527f, 0x9b05688c, 0x1f83d9ab, 0x5be0cd19⟩

def low (x : Nat) : Nat := Nat.mod x 0x100000000

/-- A word written twice: the low 32 bits of its right shift by `n` are the word rotated by `n`. -/
def twice (x : Nat) : Nat := Nat.mul x 0x100000001

def xor3 (x y z : Nat) : Nat := Nat.xor (Nat.xor x y) z

/-- The functions `Σ₀` and `Σ₁`, on a word written twice and up to its high bits. -/
def bigSigma (x i j k : Nat) : Nat :=
  xor3 (Nat.shiftRight x i) (Nat.shiftRight x j) (Nat.shiftRight x k)

/-- The functions `σ₀` and `σ₁`. -/
def smallSigma (x i j k : Nat) : Nat :=
  xor3 (low (Nat.shiftRight (twice x) i)) (low (Nat.shiftRight (twice x) j)) (Nat.shiftRight x k)

def scheduled (w0 w1 w9 w14 : Nat) : Nat :=
  low (Nat.add (Nat.add w0 (smallSigma w1 7 18 3)) (Nat.add w9 (smallSigma w14 17 19 10)))

def temp1 (e f g h kw : Nat) : Nat :=
  Nat.add (Nat.add h (bigSigma (twice e) 6 11 25))
    (Nat.add (Nat.xor g (Nat.land e (Nat.xor f g))) kw)

def temp2 (a b c : Nat) : Nat :=
  Nat.add (bigSigma (twice a) 2 13 22) (Nat.xor (Nat.land a b) (Nat.land c (Nat.xor a b)))

/-- The rounds for the remaining constants; `w0` to `w15` is the window of the schedule. -/
def rounds : List Nat → (w0 w1 w2 w3 w4 w5 w6 w7 w8 w9 w10 w11 w12 w13 w14 w15
    a b c d e f g h : Nat) → Words
  | [], _, _, _, _, _, _, _, _, _, _, _, _, _, _, _, _, a, b, c, d, e, f, g, h =>
    ⟨a, b, c, d, e, f, g, h⟩
  | k :: ks, w0, w1, w2, w3, w4, w5, w6, w7, w8, w9, w10, w11, w12, w13, w14, w15,
      a, b, c, d, e, f, g, h =>
      rounds ks w1 w2 w3 w4 w5 w6 w7 w8 w9 w10 w11 w12 w13 w14 w15 (scheduled w0 w1 w9 w14)
        (low (Nat.add (temp1 e f g h (Nat.add k w0)) (temp2 a b c))) a b c
        (low (Nat.add d (temp1 e f g h (Nat.add k w0)))) e f g

def addWords : Words → Words → Words
  | ⟨a, b, c, d, e, f, g, h⟩, ⟨a', b', c', d', e', f', g', h'⟩ =>
    ⟨low (Nat.add a a'), low (Nat.add b b'), low (Nat.add c c'), low (Nat.add d d'),
      low (Nat.add e e'), low (Nat.add f f'), low (Nat.add g g'), low (Nat.add h h')⟩

/-- Absorb the message, given as words, block by block. -/
def absorb : List Nat → Words → Words
  | w0 :: w1 :: w2 :: w3 :: w4 :: w5 :: w6 :: w7 :: w8 :: w9 :: w10 :: w11 :: w12 :: w13 :: w14 ::
      w15 :: rest, ⟨a, b, c, d, e, f, g, h⟩ =>
      absorb rest (addWords ⟨a, b, c, d, e, f, g, h⟩
        (rounds roundConstants w0 w1 w2 w3 w4 w5 w6 w7 w8 w9 w10 w11 w12 w13 w14 w15
          a b c d e f g h))
  | _, chained => chained

def wordsOf : List UInt8 → List Nat
  | b0 :: b1 :: b2 :: b3 :: rest =>
    (((b0.toNat * 256 + b1.toNat) * 256 + b2.toNat) * 256 + b3.toNat) :: wordsOf rest
  | _ => []

/-- The message padded to whole blocks: a one bit, zeros, and the length in bits. -/
def pad (bytes : List UInt8) : List UInt8 :=
  let bits := bytes.length * 8
  bytes ++ 0x80 :: List.replicate ((119 - bytes.length % 64) % 64) 0 ++
    [56, 48, 40, 32, 24, 16, 8, 0].map fun shift => UInt8.ofNat (Nat.shiftRight bits shift)

def digest (bytes : List UInt8) : Words := absorb (wordsOf (pad bytes)) initialWords

/-! ## Hexadecimal output -/

def hexAlphabet : List Char :=
  ['0', '1', '2', '3', '4', '5', '6', '7', '8', '9', 'a', 'b', 'c', 'd', 'e', 'f']

def nibble (n : Nat) : Char := hexAlphabet.getD n '0'

def wordDigits (w : Nat) : List Char :=
  [28, 24, 20, 16, 12, 8, 4, 0].map fun shift =>
    nibble (Nat.mod (Nat.shiftRight w shift) 16)

def hexDigits : Words → List Char
  | ⟨a, b, c, d, e, f, g, h⟩ => [a, b, c, d, e, f, g, h].flatMap wordDigits

/-- `hex.EncodeToString` of `sha256.Sum256`. -/
def hex (bytes : ByteArray) : String := ofChars (hexDigits (digest bytes.data.toList))

example : hex "abc".toUTF8 =
    "ba7816bf8f01cfea414140de5dae2223b00361a396177a9cb410ff61f20015ad" := by
  decide +kernel

theorem hex_length (bytes : ByteArray) : (hex bytes).toList.length = 64 := by
  unfold hex
  rw [ofChars_eq, String.toList_ofList]
  rcases digest bytes.data.toList with ⟨a, b, c, d, e, f, g, h⟩
  rfl

theorem nibble_isLowerHexDigit (n : Nat) : isLowerHexDigit (nibble n) = true := by
  have all : ∀ ch ∈ hexAlphabet, isLowerHexDigit ch = true := List.all_eq_true.mp rfl
  unfold nibble
  rw [List.getD_eq_getElem?_getD]
  cases found : hexAlphabet[n]? with
  | none => rfl
  | some ch => exact all ch (List.mem_of_getElem? found)

theorem hex_digits (bytes : ByteArray) :
    ∀ ch ∈ (hex bytes).toList, isLowerHexDigit ch = true := by
  intro ch mem
  unfold hex at mem
  rw [ofChars_eq, String.toList_ofList] at mem
  rcases digest bytes.data.toList with ⟨a, b, c, d, e, f, g, h⟩
  obtain ⟨word, -, mem⟩ := List.mem_flatMap.mp mem
  obtain ⟨i, -, rfl⟩ := List.mem_map.mp mem
  exact nibble_isLowerHexDigit _

/-! ## Message authentication -/

def wordBytes (w : Nat) : List UInt8 :=
  [24, 16, 8, 0].map fun shift => UInt8.ofNat (Nat.shiftRight w shift)

def digestBytes : Words → List UInt8
  | ⟨a, b, c, d, e, f, g, h⟩ => [a, b, c, d, e, f, g, h].flatMap wordBytes

/-- The key as one block, hashed first when it is longer. -/
def hmacKey (key : List UInt8) : List UInt8 :=
  let short := if key.length > 64 then digestBytes (digest key) else key
  short ++ List.replicate (64 - short.length) 0

def hmac (key message : List UInt8) : List UInt8 :=
  let block := hmacKey key
  digestBytes (digest (block.map (· ^^^ 0x5c) ++
    digestBytes (digest (block.map (· ^^^ 0x36) ++ message))))

def hmacHex (key message : List UInt8) : String :=
  ofChars ((hmac key message).flatMap fun byte => [nibble (byte.toNat / 16), nibble (byte.toNat % 16)])

def base64Char (n : Nat) : Char :=
  if n < 26 then Char.ofNat (65 + n)
  else if n < 52 then Char.ofNat (71 + n)
  else if n < 62 then Char.ofNat (n - 4)
  else if n = 62 then '-' else '_'

/-- Unpadded URL-safe base64. -/
def base64 : List UInt8 → List Char
  | x :: y :: z :: rest =>
    let n := (x.toNat * 256 + y.toNat) * 256 + z.toNat
    base64Char (n / 262144) :: base64Char (n / 4096 % 64) :: base64Char (n / 64 % 64) ::
      base64Char (n % 64) :: base64 rest
  | [x, y] =>
    let n := (x.toNat * 256 + y.toNat) * 4
    [base64Char (n / 4096), base64Char (n / 64 % 64), base64Char (n % 64)]
  | [x] => [base64Char (x.toNat / 4), base64Char (x.toNat % 4 * 16)]
  | [] => []

def hmacBase64 (key message : String) : String :=
  ofChars (base64 (hmac (bytesOf key) (bytesOf message)))

example : hmacBase64 "key" "The quick brown fox jumps over the lazy dog" =
    "97yD9DBThCSxMpjmqm-xQ-9NWaFJRhdZl0edvC0aPNg" := by
  decide +kernel

end Sha256
