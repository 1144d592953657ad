import TelemetryFabric.Library.Numerals
import Mathlib.Data.BitVec
import Mathlib.Data.Nat.Nth
import Mathlib.Data.Nat.NthRoot.Defs
import Mathlib.Data.Nat.Prime.Defs
import Mathlib.Tactic.Ring

/-! SHA-256 as FIPS 180-4 defines it and HMAC as RFC 2104 does, over strings of bits. The
constants are what the standard says they are: bits of the roots of the first primes. A message
of 2 ^ 64 bits or more, which the standard excludes, is padded with the low 64 bits of its
length. -/

namespace TelemetryFabric.Library.Sha256

abbrev Bits := List Bool

abbrev Word := BitVec 32

/-! ### Strings of bits -/

/-- The low bits of a number, the most significant first. -/
def bitsOf (width value : Nat) : Bits := (List.range width).map fun index => value.testBit (width - 1 - index)

def valueOf (bits : Bits) : Nat := bits.foldl (fun value bit => 2 * value + bit.toNat) 0

def bytesToBits (bytes : List UInt8) : Bits := bytes.flatMap fun byte => bitsOf 8 byte.toNat

/-- Two lower-case digits for eight bits. -/
def hexOfBits : Bits → List Char
  | b7 :: b6 :: b5 :: b4 :: b3 :: b2 :: b1 :: b0 :: rest =>
      hexDigit (valueOf [b7, b6, b5, b4]) :: hexDigit (valueOf [b3, b2, b1, b0]) :: hexOfBits rest
  | _ => []

@[simp] theorem length_bitsOf (width value : Nat) : (bitsOf width value).length = width := by simp [bitsOf]

theorem bitsOf_add (high low value : Nat) : bitsOf (high + low) value = bitsOf high (value / 2 ^ low) ++ bitsOf low value := by
  unfold bitsOf
  rw [List.range_add, List.map_append, List.map_map]
  congr 1
  · apply List.map_congr_left
    intro index member
    have inside := List.mem_range.mp member
    rw [Nat.testBit_div_two_pow]
    congr 1
    omega
  · apply List.map_congr_left
    intro index _
    show value.testBit (high + low - 1 - (high + index)) = value.testBit (low - 1 - index)
    congr 1
    omega

@[simp] theorem bitsOf_mod (width value : Nat) : bitsOf width (value % 2 ^ width) = bitsOf width value := by
  unfold bitsOf
  apply List.map_congr_left
  intro index member
  have inside := List.mem_range.mp member
  rw [Nat.testBit_mod_two_pow, decide_eq_true (by omega), Bool.true_and]

theorem bitsOf_zero (width : Nat) : bitsOf width 0 = List.replicate width false := by
  rw [List.eq_replicate_iff]
  constructor
  · exact length_bitsOf width 0
  · intro bit member
    obtain ⟨index, -, rfl⟩ := List.mem_map.mp member
    exact Nat.zero_testBit _

theorem bitsOf_xor (width first second : Nat) :
    (bitsOf width first).zipWith xor (bitsOf width second) = bitsOf width (first ^^^ second) := by
  unfold bitsOf
  rw [List.zipWith_map, List.zipWith_self]
  apply List.map_congr_left
  intro index _
  exact (Nat.testBit_xor ..).symm

@[simp] theorem valueOf_append (first second : Bits) :
    valueOf (first ++ second) = valueOf first * 2 ^ second.length + valueOf second := by
  have accumulated : ∀ (bits : Bits) (start : Nat), bits.foldl (fun value bit => 2 * value + bit.toNat) start =
      start * 2 ^ bits.length + valueOf bits := by
    intro bits
    induction bits with
    | nil => intro start; simp [valueOf]
    | cons bit rest ih =>
      intro start
      unfold valueOf
      rw [List.foldl_cons, List.foldl_cons, ih, ih, List.length_cons, pow_succ]
      ring
  unfold valueOf
  rw [List.foldl_append, accumulated]
  rfl

theorem valueOf_bitsOf (width value : Nat) : valueOf (bitsOf width value) = value % 2 ^ width := by
  induction width generalizing value with
  | zero => simp [bitsOf, valueOf, Nat.mod_one]
  | succ width ih =>
    have last : valueOf (bitsOf 1 value) = value % 2 := by
      have bit := Nat.toNat_testBit value 0
      simpa [bitsOf, valueOf] using bit
    rw [bitsOf_add, valueOf_append, ih, last, length_bitsOf, pow_one, pow_succ, Nat.mul_comm (2 ^ width) 2, Nat.mod_mul]
    ring

/-! ### Bytes -/

@[simp] theorem bytesToBits_nil : bytesToBits [] = [] := rfl

@[simp] theorem bytesToBits_cons (byte : UInt8) (rest : List UInt8) :
    bytesToBits (byte :: rest) = bitsOf 8 byte.toNat ++ bytesToBits rest := rfl

@[simp] theorem bytesToBits_append (first second : List UInt8) :
    bytesToBits (first ++ second) = bytesToBits first ++ bytesToBits second := List.flatMap_append

@[simp] theorem length_bytesToBits (bytes : List UInt8) : (bytesToBits bytes).length = 8 * bytes.length := by
  induction bytes with
  | nil => rfl
  | cons byte rest ih =>
    rw [bytesToBits_cons, List.length_append, length_bitsOf, ih, List.length_cons]
    omega

theorem bytesToBits_replicate_zero (count : Nat) : bytesToBits (List.replicate count 0) = List.replicate (8 * count) false := by
  induction count with
  | zero => rfl
  | succ count ih =>
    rw [List.replicate_succ, bytesToBits_cons, ih, Nat.mul_succ, Nat.add_comm (8 * count) 8, List.replicate_add]
    exact congrArg (· ++ _) (bitsOf_zero 8)

theorem bytesToBits_drop (count : Nat) (bytes : List UInt8) :
    bytesToBits (bytes.drop count) = (bytesToBits bytes).drop (8 * count) := by
  rcases Nat.le_total count bytes.length with within | beyond
  · have size : 8 * count = (bytesToBits (bytes.take count)).length := by simp [Nat.min_eq_left within]
    calc bytesToBits (bytes.drop count)
        = (bytesToBits (bytes.take count) ++ bytesToBits (bytes.drop count)).drop (8 * count) := by
          rw [size, List.drop_left]
      _ = (bytesToBits bytes).drop (8 * count) := by rw [← bytesToBits_append, List.take_append_drop]
  · rw [List.drop_of_length_le beyond, List.drop_of_length_le (by rw [length_bytesToBits]; omega)]
    rfl

theorem bytesToBits_take (count : Nat) (bytes : List UInt8) :
    bytesToBits (bytes.take count) = (bytesToBits bytes).take (8 * count) := by
  rcases Nat.le_total count bytes.length with within | beyond
  · have size : 8 * count = (bytesToBits (bytes.take count)).length := by simp [Nat.min_eq_left within]
    calc bytesToBits (bytes.take count)
        = (bytesToBits (bytes.take count) ++ bytesToBits (bytes.drop count)).take (8 * count) := by
          rw [size, List.take_left]
      _ = (bytesToBits bytes).take (8 * count) := by rw [← bytesToBits_append, List.take_append_drop]
  · rw [List.take_of_length_le beyond, List.take_of_length_le (by rw [length_bytesToBits]; omega)]

theorem bytesToBits_xor (first second : List UInt8) :
    (bytesToBits first).zipWith xor (bytesToBits second) = bytesToBits (first.zipWith (· ^^^ ·) second) := by
  induction first generalizing second with
  | nil => rfl
  | cons byte rest ih =>
    cases second with
    | nil => simp
    | cons other others =>
      rw [bytesToBits_cons, bytesToBits_cons, List.zipWith_append (by simp), ih, bitsOf_xor, List.zipWith_cons_cons,
        bytesToBits_cons, UInt8.toNat_xor]

theorem hexOfBits_append_of_length {bits : Bits} (eight : bits.length = 8) (rest : Bits) :
    hexOfBits (bits ++ rest) =
      hexDigit (valueOf (bits.take 4)) :: hexDigit (valueOf (bits.drop 4)) :: hexOfBits rest := by
  match bits, eight with
  | [_, _, _, _, _, _, _, _], _ => rfl

theorem hexOfBits_bytes (bytes : List UInt8) : String.ofList (hexOfBits (bytesToBits bytes)) = hexEncode bytes := by
  unfold hexEncode
  congr 1
  induction bytes with
  | nil => rfl
  | cons byte rest ih =>
    have halves : bitsOf 8 byte.toNat = bitsOf 4 (byte.toNat / 16) ++ bitsOf 4 byte.toNat := bitsOf_add 4 4 byte.toNat
    have high : byte.toNat / 16 % 2 ^ 4 = byte.toNat / 16 := by
      have bound := byte.toNat_lt
      omega
    rw [bytesToBits_cons, hexOfBits_append_of_length (length_bitsOf ..), ih, halves, List.take_left' (length_bitsOf ..),
      List.drop_left' (length_bitsOf ..), valueOf_bitsOf, valueOf_bitsOf, high]
    rfl

/-! ### Functions and constants -/

def ch (x y z : Word) : Word := (x &&& y) ^^^ (~~~x &&& z)

def maj (x y z : Word) : Word := (x &&& y) ^^^ (x &&& z) ^^^ (y &&& z)

def bigSigma0 (x : Word) : Word := x.rotateRight 2 ^^^ x.rotateRight 13 ^^^ x.rotateRight 22

def bigSigma1 (x : Word) : Word := x.rotateRight 6 ^^^ x.rotateRight 11 ^^^ x.rotateRight 25

def smallSigma0 (x : Word) : Word := x.rotateRight 7 ^^^ x.rotateRight 18 ^^^ (x >>> 3)

def smallSigma1 (x : Word) : Word := x.rotateRight 17 ^^^ x.rotateRight 19 ^^^ (x >>> 10)

noncomputable def prime (index : Nat) : Nat := Nat.nth Nat.Prime index

/-- The first thirty-two bits of the fractional part of a root. -/
def rootFraction (degree value : Nat) : Word := BitVec.ofNat 32 (Nat.nthRoot degree (value * 2 ^ (32 * degree)))

noncomputable def roundConstant (index : Nat) : Word := rootFraction 3 (prime index)

/-! ### Padding and parsing -/

/-- The least number of zero bits that leaves room for the length at the end of a block. -/
def zeroBits (length : Nat) : Nat := (447 + (512 - length % 512)) % 512

def pad (message : Bits) : Bits :=
  message ++ true :: (List.replicate (zeroBits message.length) false ++ bitsOf 64 message.length)

def blocks (message : Bits) : List Bits :=
  (List.range (message.length / 512)).map fun index => (message.drop (512 * index)).take 512

def blockWord (block : Bits) (index : Nat) : Word := BitVec.ofNat 32 (valueOf ((block.drop (32 * index)).take 32))

/-! ### The hash -/

/-- The eight working variables, or the eight words of a hash value. -/
structure Registers where
  a : Word
  b : Word
  c : Word
  d : Word
  e : Word
  f : Word
  g : Word
  h : Word
  deriving DecidableEq

noncomputable def initialHash : Registers :=
  ⟨rootFraction 2 (prime 0), rootFraction 2 (prime 1), rootFraction 2 (prime 2), rootFraction 2 (prime 3),
    rootFraction 2 (prime 4), rootFraction 2 (prime 5), rootFraction 2 (prime 6), rootFraction 2 (prime 7)⟩

def schedule (word : Nat → Word) (index : Nat) : Word :=
  if index < 16 then word index
  else smallSigma1 (schedule word (index - 2)) + schedule word (index - 7) +
    smallSigma0 (schedule word (index - 15)) + schedule word (index - 16)

def round (constant word : Word) (r : Registers) : Registers :=
  let t1 := r.h + bigSigma1 r.e + ch r.e r.f r.g + constant + word
  let t2 := bigSigma0 r.a + maj r.a r.b r.c
  ⟨t1 + t2, r.a, r.b, r.c, r.d + t1, r.e, r.f, r.g⟩

/-- The working variables after the first `count` rounds. -/
def rounds (constant word : Nat → Word) (start : Registers) : Nat → Registers
  | 0 => start
  | count + 1 => round (constant count) (word count) (rounds constant word start count)

def Registers.add (first second : Registers) : Registers :=
  ⟨first.a + second.a, first.b + second.b, first.c + second.c, first.d + second.d,
    first.e + second.e, first.f + second.f, first.g + second.g, first.h + second.h⟩

noncomputable def compress (hash : Registers) (block : Bits) : Registers :=
  (rounds roundConstant (schedule (blockWord block)) hash 64).add hash

def Registers.words (r : Registers) : List Word := [r.a, r.b, r.c, r.d, r.e, r.f, r.g, r.h]

noncomputable def sha256 (message : Bits) : Bits :=
  ((blocks (pad message)).foldl compress initialHash).words.flatMap fun word => bitsOf 32 word.toNat

/-! ### The keyed hash -/

section Hmac

variable (hash : Bits → Bits)

/-- A key as long as a block of 64 bytes. -/
def blockKey (key : Bits) : Bits :=
  let key := if 512 < key.length then hash key else key
  key ++ List.replicate (512 - key.length) false

def ipad : Bits := bytesToBits (List.replicate 64 0x36)

def opad : Bits := bytesToBits (List.replicate 64 0x5c)

def hmac (key text : Bits) : Bits :=
  hash ((blockKey hash key).zipWith xor opad ++ hash ((blockKey hash key).zipWith xor ipad ++ text))

end Hmac

/-! ### The first primes -/

theorem countP_lt_getElem {items : List Nat} (sorted : items.Pairwise (· < ·)) {index : Nat}
    (inside : index < items.length) : items.countP (· < items[index]) = index := by
  induction items generalizing index with
  | nil => exact absurd inside (Nat.not_lt_zero _)
  | cons head rest ih =>
    obtain ⟨first, tail⟩ := List.pairwise_cons.mp sorted
    cases index with
    | zero =>
      rw [List.countP_eq_zero]
      intro item member
      rcases List.mem_cons.mp member with rfl | later
      · simp
      · simpa using (first item later).le
    | succ index =>
      have within : index < rest.length := Nat.lt_of_succ_lt_succ inside
      have less : head < rest[index] := first _ (List.getElem_mem within)
      rw [List.getElem_cons_succ, List.countP_cons_of_pos (by simpa using less), ih tail within]

/-- What is found below a limit comes first among all there are. -/
theorem nth_of_filter_range {p : Nat → Prop} [DecidablePred p] {limit : Nat} {found : List Nat}
    (listed : (List.range limit).filter p = found) {index : Nat} (inside : index < found.length) :
    Nat.nth p index = found[index] := by
  have sorted : found.Pairwise (· < ·) := by
    rw [← listed]
    exact List.pairwise_lt_range.filter _
  have member : found[index] ∈ (List.range limit).filter p := by
    rw [listed]
    exact List.getElem_mem inside
  obtain ⟨below, holds⟩ := List.mem_filter.mp member
  have counted : Nat.count p found[index] = index := by
    obtain ⟨more, split⟩ := Nat.exists_eq_add_of_le (List.mem_range.mp below).le
    have parts : found.countP (· < found[index]) =
        ((List.range found[index]).filter p).countP (· < found[index]) +
          (((List.range more).map (found[index] + ·)).filter p).countP (· < found[index]) := by
      rw [← List.countP_append, ← List.filter_append, ← List.range_add, ← split, listed]
    have early : ((List.range found[index]).filter p).countP (· < found[index]) = Nat.count p found[index] := by
      have whole : ((List.range found[index]).filter p).countP (· < found[index]) =
          ((List.range found[index]).filter p).length := by
        apply List.countP_eq_length.mpr
        intro item inRange
        simpa using List.mem_range.mp (List.mem_of_mem_filter inRange)
      rw [whole, ← List.countP_eq_length_filter, Nat.count]
    have late : (((List.range more).map (found[index] + ·)).filter p).countP (· < found[index]) = 0 := by
      rw [List.countP_eq_zero]
      intro item inRange
      obtain ⟨offset, -, rfl⟩ := List.mem_map.mp (List.mem_of_mem_filter inRange)
      simp
    rw [countP_lt_getElem sorted inside, early, late] at parts
    omega
  have nth := Nat.nth_count (of_decide_eq_true holds)
  rw [counted] at nth
  exact nth

/-- Division by the numbers up to seventeen settles what is prime below 324. -/
def primeBelow324 (value : Nat) : Bool :=
  Nat.ble 2 value && (List.range 18).all fun divisor =>
    Nat.blt divisor 2 || Nat.blt value (divisor * divisor) || value % divisor != 0

theorem primeBelow324_iff {value : Nat} (small : value < 324) : primeBelow324 value = true ↔ value.Prime := by
  rw [Nat.prime_def_le_sqrt, primeBelow324, Bool.and_eq_true, List.all_eq_true]
  apply and_congr (by simp)
  constructor
  · intro tried divisor atLeast atMost divides
    have square : divisor * divisor ≤ value := Nat.le_sqrt.mp atMost
    have least : divisor < 18 := by
      by_contra large
      have product := Nat.mul_le_mul (not_lt.mp large) (not_lt.mp large)
      omega
    have tested := tried divisor (List.mem_range.mpr least)
    have rest := Nat.mod_eq_zero_of_dvd divides
    simp only [Bool.or_eq_true, bne_iff_ne, ne_eq, rest, not_true_eq_false, or_false, Nat.blt_eq] at tested
    omega
  · intro prime divisor _
    by_cases tiny : divisor < 2
    · simp [tiny]
    · by_cases large : value < divisor * divisor
      · simp [large]
      · have root : divisor ≤ Nat.sqrt value := Nat.le_sqrt.mpr (not_lt.mp large)
        have undivided := prime divisor (not_lt.mp tiny) root
        have rest : value % divisor ≠ 0 := fun zero => undivided (Nat.dvd_of_mod_eq_zero zero)
        simp [rest]

def firstPrimes : List Nat :=
  [2, 3, 5, 7, 11, 13, 17, 19, 23, 29, 31, 37, 41, 43, 47, 53, 59, 61, 67, 71, 73, 79, 83, 89, 97, 101, 103,
    107, 109, 113, 127, 131, 137, 139, 149, 151, 157, 163, 167, 173, 179, 181, 191, 193, 197, 199, 211, 223,
    227, 229, 233, 239, 241, 251, 257, 263, 269, 271, 277, 281, 283, 293, 307, 311]

theorem filter_prime : (List.range 312).filter (fun value => value.Prime) = firstPrimes := by
  have tried : (List.range 312).filter primeBelow324 = firstPrimes := by decide +kernel
  rw [← tried]
  apply List.filter_congr
  intro value member
  have small : value < 324 := (List.mem_range.mp member).trans (by decide)
  rw [Bool.eq_iff_iff, decide_eq_true_iff]
  exact (primeBelow324_iff small).symm

theorem prime_eq {index : Nat} (inside : index < firstPrimes.length) : prime index = firstPrimes[index] :=
  nth_of_filter_range filter_prime inside

end TelemetryFabric.Library.Sha256
