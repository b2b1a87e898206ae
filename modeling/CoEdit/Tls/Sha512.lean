import CoEdit.Tls.Der

/-!
# The digest of 512 bits

The digest SHA-512. Its constants are the first sixty-four bits of the fractional parts of the square roots of the first eight
primes, and of the cube roots of the first eighty.
-/

namespace CoEdit

namespace Sha512

/-- Whether a number is prime. -/
def isPrime (n : Nat) : Bool := 2 ≤ n && (List.range n).all (fun d => d < 2 || n % d ≠ 0)

/-- The first eighty primes. -/
def primes : List Nat := (List.range 410).filter isPrime

/-- The greatest number below `low` and a power of two more whose power is at most `n`. -/
def rootFrom (power n : Nat) : (bits low : Nat) → Nat
  | 0, low => low
  | bits + 1, low =>
    let next := low + Nat.pow 2 bits
    rootFrom power n bits (if Nat.pow next power ≤ n then next else low)

/-- The first sixty-four bits of the fractional part of a root of a number. -/
def rootFraction (power n : Nat) : UInt64 := UInt64.ofNat (rootFrom power (n * Nat.pow 2 (64 * power)) 80 0)

/-- The state before the first block. -/
def start : List UInt64 := (primes.take 8).map (rootFraction 2)

/-- The constants of the rounds. -/
def constants : List UInt64 := primes.map (rootFraction 3)

/-- A word turned to the right. -/
def turned (w : UInt64) (n : UInt64) : UInt64 := (w >>> n) ||| (w <<< (64 - n))

/-- The words of a block; `words` are those so far, the last one first. -/
def schedule : (more : Nat) → (words : List UInt64) → List UInt64
  | 0, words => words.reverse
  | more + 1, words =>
    let a := words.getD 14 0
    let b := words.getD 1 0
    let s := turned a 1 ^^^ turned a 8 ^^^ (a >>> 7)
    let t := turned b 19 ^^^ turned b 61 ^^^ (b >>> 6)
    schedule more ((words.getD 15 0 + s + words.getD 6 0 + t) :: words)

/-- One round with a constant and a word. -/
def round (state : List UInt64) (kw : UInt64 × UInt64) : List UInt64 :=
  match state with
  | [a, b, c, d, e, f, g, h] =>
    let s := turned e 14 ^^^ turned e 18 ^^^ turned e 41
    let t := h + s + ((e &&& f) ^^^ ((~~~ e) &&& g)) + kw.1 + kw.2
    let u := turned a 28 ^^^ turned a 34 ^^^ turned a 39
    [t + u + ((a &&& b) ^^^ (a &&& c) ^^^ (b &&& c)), a, b, c, d + t, e, f, g]
  | _ => state

/-- The state after a block of sixteen words. -/
def block (state words : List UInt64) : List UInt64 :=
  let rounds := constants.zip (schedule 64 words.reverse)
  (state.zip (rounds.foldl round state)).map fun (a, b) => a + b

/-- The words of bytes. -/
def wordsOf : (count : Nat) → List UInt8 → List UInt64
  | 0, _ => []
  | count + 1, bytes => UInt64.ofNat (Der.natural (bytes.take 8)) :: wordsOf count (bytes.drop 8)

/-- The state after blocks. -/
def blocks : (count : Nat) → (state : List UInt64) → List UInt8 → List UInt64
  | 0, state, _ => state
  | count + 1, state, bytes => blocks count (block state (wordsOf 16 bytes)) (bytes.drop 128)

/-- A message filled up to whole blocks. -/
def padded (message : List UInt8) : List UInt8 :=
  let n := message.length
  message ++ [0x80] ++ List.replicate ((239 - n % 128) % 128) 0 ++ Der.bytesOf 16 (8 * n)

/-- The digest of a message. -/
def digest (message : List UInt8) : List UInt8 :=
  let bytes := padded message
  (blocks (bytes.length / 128) start bytes).flatMap fun w => Der.bytesOf 8 w.toNat

end Sha512

end CoEdit
