import Screensaver.Fault
import Screensaver.Random.Table

/-!
The random source: an additive lagged Fibonacci generator.

The state is a ring of 607 words. A step adds the words at two places that are 273 apart, stores
the sum at one of them and moves both places back by one; the sum is the number drawn. The ring is
filled from a seed by a multiplicative generator modulo the prime `2^31 - 1`, mixed with the fixed
starting words.

`Source.below` draws a number below a bound, each with the same chance: numbers from the incomplete
last stretch of multiples of the bound are drawn again.
-/

namespace Screensaver.Random

/-- The generator's ring of words and the two places in it. -/
structure Source where
  words : Vector UInt64 607
  tap : Fin 607
  feed : Fin 607

/-- The modulus of the seeding generator, a prime. -/
def seedModulus : Nat := 2147483647

/-- One step of the seeding generator. -/
def seedStep (x : Nat) : Nat :=
  48271 * x % seedModulus

/-- The seeding generator's start: the seed modulo the prime, and a fixed number instead of zero. -/
def seedStart (seed : Int64) : Nat :=
  let x := (seed.toInt % (seedModulus : Int)).toNat
  if x = 0 then 89482311 else x

/-- The seeding generator after a number of steps. -/
def seedSteps : Nat → Nat → Nat
  | 0, x => x
  | n + 1, x => seedSteps n (seedStep x)

/-- The words of a ring, in order: three numbers of the seeding generator and a starting word go
into each. -/
def seedWords : List UInt64 → Nat → List UInt64
  | [], _ => []
  | start :: rest, x =>
    let a := seedStep x
    let b := seedStep a
    let c := seedStep b
    let word := (a.toUInt64 <<< 40) ^^^ (b.toUInt64 <<< 20) ^^^ c.toUInt64 ^^^ start
    word :: seedWords rest c

/-- The source that belongs to a seed. The seeding generator makes twenty steps before the first
word is taken from it. -/
def Source.ofSeed (seed : Int64) : Source :=
  let words := (seedWords startingWords.toList (seedSteps 20 (seedStart seed))).toArray
  { words := .ofFn fun i => words.getD i 0, tap := 0, feed := 334 }

namespace Source

/-- Draws 64 bits. -/
def next (s : Source) : UInt64 × Source :=
  let tap := s.tap - 1
  let feed := s.feed - 1
  let sum := s.words[feed] + s.words[tap]
  (sum, { words := s.words.set feed sum, tap, feed })

/-- Draws a number of the given number of bits, at most 63: the upper ones of the low 63. -/
def bits (width : Nat) (s : Source) : Nat × Source :=
  let (word, s) := s.next
  ((word.toNat % 1 <<< 63) >>> (63 - width), s)

/-- Draws numbers of the given number of bits until one is at most `top`, and gives its remainder
by `n`. After `tries` rejections the next number is taken as it comes. -/
def accepted (width n top : Nat) : Nat → Source → Nat × Source
  | 0, s =>
    let (v, s) := s.bits width
    (v % n, s)
  | tries + 1, s =>
    let (v, s) := s.bits width
    if v ≤ top then (v % n, s) else accepted width n top tries s

/-- The greatest number of bits that is not drawn again for a number below `n`. -/
def top (width n : Nat) : Nat :=
  (1 <<< width) - 1 - (1 <<< width) % n

/-- As many numbers as are never rejected in a row, whatever the words of the ring are. -/
def patience : Nat := 63 * 607

/-- Draws a number below `n` from numbers of the given number of bits. A power of two takes the low
bits of a single number. -/
def uniform (width n : Nat) (s : Source) : Nat × Source :=
  accepted width n (top width n) patience s

/-- The number of bits that are drawn for a number below a bound. -/
def width (n : Int64) : Nat :=
  if n.toInt < 0x80000000 then 31 else 63

/-- Draws a number from zero to below `n`, each with the same chance. -/
def below (n : Int64) : EStateM Fault Source Int64 := fun s =>
  if n ≤ 0 then .error .emptyRange s
  else
    let (v, s) := s.uniform (width n) n.toNatClampNeg
    .ok (.ofNat v) s

end Source

end Screensaver.Random
