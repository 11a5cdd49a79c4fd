import Mathlib.Data.List.Basic
import Mathlib.Tactic.IntervalCases

/-!
Contract: the SHA-256 digest in hexadecimal, as `crypto/sha256` and
`encoding/hex` compute it.

Owns: padding, message schedule, compression and the printed digest.

Does not own: any claim about collisions.
-/

set_option autoImplicit false

namespace KubeLB.Library.Sha256

def roundConstants : List UInt32 :=
  [0x428a2f98, 0x71374491, 0xb5c0fbcf, 0xe9b5dba5, 0x3956c25b, 0x59f111f1, 0x923f82a4,
    0xab1c5ed5, 0xd807aa98, 0x12835b01, 0x243185be, 0x550c7dc3, 0x72be5d74, 0x80deb1fe,
    0x9bdc06a7, 0xc19bf174, 0xe49b69c1, 0xefbe4786, 0x0fc19dc6, 0x240ca1cc, 0x2de92c6f,
    0x4a7484aa, 0x5cb0a9dc, 0x76f988da, 0x983e5152, 0xa831c66d, 0xb00327c8, 0xbf597fc7,
    0xc6e00bf3, 0xd5a79147, 0x06ca6351, 0x14292967, 0x27b70a85, 0x2e1b2138, 0x4d2c6dfc,
    0x53380d13, 0x650a7354, 0x766a0abb, 0x81c2c92e, 0x92722c85, 0xa2bfe8a1, 0xa81a664b,
    0xc24b8b70, 0xc76c51a3, 0xd192e819, 0xd6990624, 0xf40e3585, 0x106aa070, 0x19a4c116,
    0x1e376c08, 0x2748774c, 0x34b0bcb5, 0x391c0cb3, 0x4ed8aa4a, 0x5b9cca4f, 0x682e6ff3,
    0x748f82ee, 0x78a5636f, 0x84c87814, 0x8cc70208, 0x90befffa, 0xa4506ceb, 0xbef9a3f7,
    0xc67178f2]

/-- The eight working words. -/
structure Words where
  a : UInt32
  b : UInt32
  c : UInt32
  d : UInt32
  e : UInt32
  f : UInt32
  g : UInt32
  h : UInt32
  deriving DecidableEq, Repr

def initial : Words :=
  ⟨0x6a09e667, 0xbb67ae85, 0x3c6ef372, 0xa54ff53a, 0x510e527f, 0x9b05688c, 0x1f83d9ab,
    0x5be0cd19⟩

def rotateRight (word : UInt32) (count : UInt32) : UInt32 :=
  (word >>> count) ||| (word <<< (32 - count))

def wordsOf : List UInt8 → List UInt32
  | b₀ :: b₁ :: b₂ :: b₃ :: rest =>
      (b₀.toUInt32 <<< 24 ||| b₁.toUInt32 <<< 16 ||| b₂.toUInt32 <<< 8 ||| b₃.toUInt32) ::
        wordsOf rest
  | _ => []

/-- A one bit, zero bytes, and the bit length in the last eight bytes. -/
def padding (length : Nat) : List UInt8 :=
  0x80 :: List.replicate ((119 - length % 64) % 64) 0 ++
    (List.range 8).map (fun index => UInt8.ofNat (8 * length / 256 ^ (7 - index)))

/-- Extend the schedule; the newest word is the head. -/
def extendSchedule : Nat → List UInt32 → List UInt32
  | 0, schedule => schedule
  | count + 1, schedule =>
      let word (back : Nat) : UInt32 := schedule.getD (back - 1) 0
      let s₀ := rotateRight (word 15) 7 ^^^ rotateRight (word 15) 18 ^^^ (word 15 >>> 3)
      let s₁ := rotateRight (word 2) 17 ^^^ rotateRight (word 2) 19 ^^^ (word 2 >>> 10)
      extendSchedule count ((word 16 + s₀ + word 7 + s₁) :: schedule)

def round (words : Words) (constant : UInt32) (word : UInt32) : Words :=
  let s₁ := rotateRight words.e 6 ^^^ rotateRight words.e 11 ^^^ rotateRight words.e 25
  let ch := (words.e &&& words.f) ^^^ (~~~ words.e &&& words.g)
  let t₁ := words.h + s₁ + ch + constant + word
  let s₀ := rotateRight words.a 2 ^^^ rotateRight words.a 13 ^^^ rotateRight words.a 22
  let maj := (words.a &&& words.b) ^^^ (words.a &&& words.c) ^^^ (words.b &&& words.c)
  ⟨t₁ + s₀ + maj, words.a, words.b, words.c, words.d + t₁, words.e, words.f, words.g⟩

/-- The compression of one block of sixteen words. -/
def compress (words : Words) (block : List UInt32) : Words :=
  let schedule := (extendSchedule 48 block.reverse).reverse
  let last := (roundConstants.zip schedule).foldl
    (fun current step => round current step.1 step.2) words
  ⟨words.a + last.a, words.b + last.b, words.c + last.c, words.d + last.d,
    words.e + last.e, words.f + last.f, words.g + last.g, words.h + last.h⟩

def compressAll : Nat → Words → List UInt32 → Words
  | 0, words, _ => words
  | count + 1, words, message =>
      compressAll count (compress words (message.take 16)) (message.drop 16)

def hexDigit (value : Nat) : Char :=
  if value < 10 then Char.ofNat (48 + value) else Char.ofNat (87 + value)

def hexWord (word : UInt32) : List Char :=
  (List.range 8).map (fun index => hexDigit (word.toNat / 16 ^ (7 - index) % 16))

/-- `hex.EncodeToString(sha256.Sum256(message))`. -/
def hexDigest (message : List UInt8) : String :=
  let padded := message ++ padding message.length
  let words := compressAll (padded.length / 64) initial (wordsOf padded)
  String.ofList ([words.a, words.b, words.c, words.d, words.e, words.f, words.g,
    words.h].flatMap hexWord)

/-! ## Digits are never separators -/

theorem hexDigit_ne_dash {value : Nat} (small : value < 16) : hexDigit value ≠ '-' := by
  interval_cases value <;> decide

theorem dash_notMem_hexWord (word : UInt32) : '-' ∉ hexWord word := by
  intro member
  simp only [hexWord, List.mem_map] at member
  obtain ⟨index, _, isDash⟩ := member
  exact hexDigit_ne_dash (Nat.mod_lt _ (by decide)) isDash

theorem dash_notMem_hexDigest (message : List UInt8) : '-' ∉ (hexDigest message).toList := by
  intro member
  simp only [hexDigest, String.toList_ofList, List.mem_flatMap] at member
  obtain ⟨word, _, member⟩ := member
  exact dash_notMem_hexWord word member

end KubeLB.Library.Sha256
