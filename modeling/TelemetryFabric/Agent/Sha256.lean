import TelemetryFabric.Library.Sha256

/-!
The agent's own SHA-256 and HMAC, and what they compute. Arrays are lists, and an index is read
with a default that no loop reaches. The state and the eight variables of the rounds are records
of eight words. The length in bits wraps, as it does in a release build.
-/

namespace TelemetryFabric.Agent
open Library Library.Sha256

/-! ### The digest -/

def sha256K : List Word :=
  [0x428a2f98, 0x71374491, 0xb5c0fbcf, 0xe9b5dba5, 0x3956c25b, 0x59f111f1, 0x923f82a4, 0xab1c5ed5,
    0xd807aa98, 0x12835b01, 0x243185be, 0x550c7dc3, 0x72be5d74, 0x80deb1fe, 0x9bdc06a7, 0xc19bf174,
    0xe49b69c1, 0xefbe4786, 0x0fc19dc6, 0x240ca1cc, 0x2de92c6f, 0x4a7484aa, 0x5cb0a9dc, 0x76f988da,
    0x983e5152, 0xa831c66d, 0xb00327c8, 0xbf597fc7, 0xc6e00bf3, 0xd5a79147, 0x06ca6351, 0x14292967,
    0x27b70a85, 0x2e1b2138, 0x4d2c6dfc, 0x53380d13, 0x650a7354, 0x766a0abb, 0x81c2c92e, 0x92722c85,
    0xa2bfe8a1, 0xa81a664b, 0xc24b8b70, 0xc76c51a3, 0xd192e819, 0xd6990624, 0xf40e3585, 0x106aa070,
    0x19a4c116, 0x1e376c08, 0x2748774c, 0x34b0bcb5, 0x391c0cb3, 0x4ed8aa4a, 0x5b9cca4f, 0x682e6ff3,
    0x748f82ee, 0x78a5636f, 0x84c87814, 0x8cc70208, 0x90befffa, 0xa4506ceb, 0xbef9a3f7, 0xc67178f2]

def initialState : Registers :=
  ⟨0x6a09e667, 0xbb67ae85, 0x3c6ef372, 0xa54ff53a, 0x510e527f, 0x9b05688c, 0x1f83d9ab, 0x5be0cd19⟩

/-- `u32::from_be_bytes`. -/
def fromBeBytes (b0 b1 b2 b3 : UInt8) : Word :=
  BitVec.ofNat 32 (((b0.toNat * 256 + b1.toNat) * 256 + b2.toNat) * 256 + b3.toNat)

/-- `to_be_bytes` of an integer of so many bytes. -/
def toBeBytes (count value : Nat) : List UInt8 :=
  (List.range count).map fun index => UInt8.ofNat (value / 256 ^ (count - 1 - index))

/-- The loop that pushes zeros. It ends within a block. -/
def pushZeros : Nat → List UInt8 → List UInt8
  | 0, message => message
  | fuel + 1, message => if message.length % 64 ≠ 56 then pushZeros fuel (message ++ [0]) else message

def padMessage (input : List UInt8) : List UInt8 :=
  let bitLen : BitVec 64 := BitVec.ofNat 64 input.length * 8
  pushZeros 64 (input ++ [0x80]) ++ toBeBytes 8 bitLen.toNat

/-- `chunks_exact`. -/
def chunksExact (size : Nat) (bytes : List UInt8) : List (List UInt8) :=
  (List.range (bytes.length / size)).map fun index => (bytes.drop (size * index)).take size

def loadWords (chunk : List UInt8) : List Word :=
  (List.range 16).foldl (fun words index =>
    let offset := index * 4
    words.set index (fromBeBytes (chunk.getD offset 0) (chunk.getD (offset + 1) 0) (chunk.getD (offset + 2) 0)
      (chunk.getD (offset + 3) 0))) (List.replicate 64 0)

def extendWord (words : List Word) (index : Nat) : List Word :=
  let word (index : Nat) : Word := words.getD index 0
  let s0 := (word (index - 15)).rotateRight 7 ^^^ (word (index - 15)).rotateRight 18 ^^^ (word (index - 15) >>> 3)
  let s1 := (word (index - 2)).rotateRight 17 ^^^ (word (index - 2)).rotateRight 19 ^^^ (word (index - 2) >>> 10)
  words.set index (word (index - 16) + s0 + word (index - 7) + s1)

def extendWords (words : List Word) : List Word := (List.range' 16 48).foldl extendWord words

def roundStep (words : List Word) (r : Registers) (index : Nat) : Registers :=
  let s1 := r.e.rotateRight 6 ^^^ r.e.rotateRight 11 ^^^ r.e.rotateRight 25
  let ch := (r.e &&& r.f) ^^^ (~~~r.e &&& r.g)
  let temp1 := r.h + s1 + ch + sha256K.getD index 0 + words.getD index 0
  let s0 := r.a.rotateRight 2 ^^^ r.a.rotateRight 13 ^^^ r.a.rotateRight 22
  let maj := (r.a &&& r.b) ^^^ (r.a &&& r.c) ^^^ (r.b &&& r.c)
  let temp2 := s0 + maj
  ⟨temp1 + temp2, r.a, r.b, r.c, r.d + temp1, r.e, r.f, r.g⟩

/-- One chunk of the message. -/
def chunkStep (state : Registers) (chunk : List UInt8) : Registers :=
  let words := extendWords (loadWords chunk)
  let r := (List.range 64).foldl (roundStep words) state
  ⟨state.a + r.a, state.b + r.b, state.c + r.c, state.d + r.d,
    state.e + r.e, state.f + r.f, state.g + r.g, state.h + r.h⟩

def sha256Digest (input : List UInt8) : List UInt8 :=
  let state := (chunksExact 64 (padMessage input)).foldl chunkStep initialState
  [state.a, state.b, state.c, state.d, state.e, state.f, state.g, state.h].flatMap fun word => toBeBytes 4 word.toNat

/-! ### Texts -/

def hexLower (bytes : List UInt8) : String :=
  let hex := "0123456789abcdef".toList
  String.ofList (bytes.flatMap fun (byte : UInt8) => [hex.getD (byte >>> 4).toNat '0', hex.getD (byte &&& 0x0f).toNat '0'])

def sha256Hex (input : List UInt8) : String := hexLower (sha256Digest input)

/-- The block that a key is copied into: the digest of a key that does not fit. -/
def hmacKeyBlock (key : List UInt8) : List UInt8 :=
  let keyBlock := List.replicate 64 0
  if key.length > keyBlock.length then sha256Digest key ++ keyBlock.drop 32 else key ++ keyBlock.drop key.length

def hmacSha256Hex (key message : List UInt8) : String :=
  let keyBlock := hmacKeyBlock key
  let innerPad := (List.replicate 64 0x36).zipWith (· ^^^ ·) keyBlock
  let outerPad := (List.replicate 64 0x5c).zipWith (· ^^^ ·) keyBlock
  let innerHash := sha256Digest (innerPad ++ message)
  hexLower (sha256Digest (outerPad ++ innerHash))

/-! ### The constants -/

theorem sha256K_eq : sha256K = firstPrimes.map (rootFraction 3) := by decide +kernel

theorem sha256K_getD {index : Nat} (inside : index < 64) : sha256K.getD index 0 = roundConstant index := by
  have listed : index < firstPrimes.length := inside
  unfold roundConstant
  rw [sha256K_eq, prime_eq listed, List.getD_eq_getElem _ _ (by simpa using listed), List.getElem_map]

theorem initialState_eq : initialState = initialHash := by
  unfold initialHash
  rw [@prime_eq 0 (by decide), @prime_eq 1 (by decide), @prime_eq 2 (by decide), @prime_eq 3 (by decide),
    @prime_eq 4 (by decide), @prime_eq 5 (by decide), @prime_eq 6 (by decide), @prime_eq 7 (by decide)]
  decide +kernel

/-! ### The padding -/

theorem toBeBytes_succ (count value : Nat) :
    toBeBytes (count + 1) value = UInt8.ofNat (value / 256 ^ count) :: toBeBytes count value := by
  unfold toBeBytes
  rw [List.range_succ_eq_map, List.map_cons, List.map_map]
  congr 1
  apply List.map_congr_left
  intro index _
  show UInt8.ofNat (value / 256 ^ (count + 1 - 1 - (index + 1))) = UInt8.ofNat (value / 256 ^ (count - 1 - index))
  congr 3
  omega

theorem toBeBytes_bits (count value : Nat) : bytesToBits (toBeBytes count value) = bitsOf (8 * count) value := by
  induction count with
  | zero => rfl
  | succ count ih =>
    have power : 256 ^ count = 2 ^ (8 * count) := by rw [Nat.pow_mul]
    have byte : (UInt8.ofNat (value / 256 ^ count)).toNat = value / 2 ^ (8 * count) % 2 ^ 8 := by
      rw [UInt8.toNat_ofNat', power]
    rw [toBeBytes_succ, bytesToBits_cons, byte, bitsOf_mod, ih, Nat.mul_succ, Nat.add_comm (8 * count) 8, bitsOf_add]

/-- The zeros that are missing, modulo a block. -/
theorem pushZeros_eq {fuel : Nat} {message : List UInt8} (enough : (120 - message.length % 64) % 64 ≤ fuel) :
    pushZeros fuel message = message ++ List.replicate ((120 - message.length % 64) % 64) 0 := by
  induction fuel generalizing message with
  | zero =>
    have done : (120 - message.length % 64) % 64 = 0 := Nat.le_zero.mp enough
    rw [done, List.replicate_zero, List.append_nil, pushZeros]
  | succ fuel ih =>
    rw [pushZeros]
    by_cases full : message.length % 64 = 56
    · have done : (120 - message.length % 64) % 64 = 0 := by omega
      rw [if_neg (not_not.mpr full), done, List.replicate_zero, List.append_nil]
    · have fewer : (120 - message.length % 64) % 64 = (120 - (message ++ [0]).length % 64) % 64 + 1 := by
        rw [List.length_append, List.length_singleton]
        omega
      rw [if_pos full, ih (by omega), fewer, List.replicate_succ, List.append_assoc, List.singleton_append]

theorem padMessage_bits (input : List UInt8) : bytesToBits (padMessage input) = pad (bytesToBits input) := by
  have bitLen : (BitVec.ofNat 64 input.length * 8 : BitVec 64).toNat = 8 * input.length % 2 ^ 64 := by
    rw [BitVec.toNat_mul, BitVec.toNat_ofNat, Nat.mod_mul_mod, Nat.mul_comm]
    rfl
  have mark : bitsOf 8 (0x80 : UInt8).toNat = true :: List.replicate 7 false := by decide
  have zeros : 7 + 8 * ((120 - (input ++ [0x80]).length % 64) % 64) = zeroBits (8 * input.length) := by
    unfold zeroBits
    rw [List.length_append, List.length_singleton]
    omega
  show bytesToBits (pushZeros 64 (input ++ [0x80]) ++ toBeBytes 8 (BitVec.ofNat 64 input.length * 8 : BitVec 64).toNat) = _
  rw [bytesToBits_append, toBeBytes_bits, bitLen, bitsOf_mod, pushZeros_eq (by omega), bytesToBits_append,
    bytesToBits_append, bytesToBits_replicate_zero, bytesToBits_cons, bytesToBits_nil, mark]
  unfold pad
  rw [length_bytesToBits, ← zeros, List.replicate_add]
  simp

/-! ### The chunks -/

theorem chunksExact_bits (bytes : List UInt8) : (chunksExact 64 bytes).map bytesToBits = blocks (bytesToBits bytes) := by
  have count : (bytesToBits bytes).length / 512 = bytes.length / 64 := by
    rw [length_bytesToBits]
    omega
  unfold chunksExact blocks
  rw [count, List.map_map]
  apply List.map_congr_left
  intro index _
  show bytesToBits ((bytes.drop (64 * index)).take 64) = ((bytesToBits bytes).drop (512 * index)).take 512
  rw [bytesToBits_take, bytesToBits_drop, ← Nat.mul_assoc]

theorem mem_chunksExact {size : Nat} {bytes chunk : List UInt8} (member : chunk ∈ chunksExact size bytes) :
    chunk.length = size := by
  obtain ⟨index, inside, rfl⟩ := List.mem_map.mp member
  have bound : size * (index + 1) ≤ bytes.length :=
    (Nat.mul_le_mul_left size (List.mem_range.mp inside)).trans (Nat.mul_div_le bytes.length size)
  rw [Nat.mul_succ] at bound
  rw [List.length_take, List.length_drop]
  omega

theorem fromBeBytes_bits (b0 b1 b2 b3 : UInt8) :
    fromBeBytes b0 b1 b2 b3 = BitVec.ofNat 32 (valueOf (bytesToBits [b0, b1, b2, b3])) := by
  have value : ∀ byte : UInt8, valueOf (bitsOf 8 byte.toNat) = byte.toNat := fun byte =>
    (valueOf_bitsOf 8 byte.toNat).trans (Nat.mod_eq_of_lt byte.toNat_lt)
  unfold fromBeBytes
  congr 1
  simp only [bytesToBits_cons, bytesToBits_nil, List.append_nil, valueOf_append, List.length_append, length_bitsOf, value]
  ring

theorem blockWord_bits {chunk : List UInt8} (whole : chunk.length = 64) {index : Nat} (inside : index < 16) :
    fromBeBytes (chunk.getD (index * 4) 0) (chunk.getD (index * 4 + 1) 0) (chunk.getD (index * 4 + 2) 0)
      (chunk.getD (index * 4 + 3) 0) = blockWord (bytesToBits chunk) index := by
  have four : (chunk.drop (4 * index)).take 4 = [chunk.getD (index * 4) 0, chunk.getD (index * 4 + 1) 0,
      chunk.getD (index * 4 + 2) 0, chunk.getD (index * 4 + 3) 0] := by
    apply List.ext_getElem
    · simp only [List.length_take, List.length_drop, List.length_cons, List.length_nil]
      omega
    · intro position _ below
      have small : position < 4 := below
      rw [List.getElem_take, List.getElem_drop]
      match position, small with
      | 0, _ | 1, _ | 2, _ | 3, _ => simp [whole, Nat.mul_comm 4 index, show index * 4 < 64 by omega,
          show index * 4 + 1 < 64 by omega, show index * 4 + 2 < 64 by omega, show index * 4 + 3 < 64 by omega]
  rw [fromBeBytes_bits, ← four, bytesToBits_take, bytesToBits_drop, ← Nat.mul_assoc]
  rfl

/-! ### The words and the rounds -/

/-- The first words are those of the schedule. -/
structure Scheduled (word : Nat → Word) (count : Nat) (words : List Word) : Prop where
  length : words.length = 64
  known : ∀ index < count, words.getD index 0 = schedule word index

theorem Scheduled.set {word : Nat → Word} {count : Nat} {words : List Word} (scheduled : Scheduled word count words)
    (inside : count < 64) {value : Word} (next : value = schedule word count) :
    Scheduled word (count + 1) (words.set count value) := by
  constructor
  · rw [List.length_set, scheduled.length]
  · intro index below
    rcases Nat.lt_succ_iff_lt_or_eq.mp below with earlier | rfl
    · rw [List.getD_eq_getElem?_getD, List.getElem?_set_ne (by omega), ← List.getD_eq_getElem?_getD,
        scheduled.known index earlier]
    · rw [List.getD_eq_getElem?_getD, List.getElem?_set_self (by rw [scheduled.length]; exact inside), next]
      rfl

theorem loadWords_scheduled {chunk : List UInt8} (whole : chunk.length = 64) :
    Scheduled (blockWord (bytesToBits chunk)) 16 (loadWords chunk) := by
  have loaded : ∀ count ≤ 16, Scheduled (blockWord (bytesToBits chunk)) count ((List.range count).foldl
      (fun words index => words.set index (fromBeBytes (chunk.getD (index * 4) 0) (chunk.getD (index * 4 + 1) 0)
        (chunk.getD (index * 4 + 2) 0) (chunk.getD (index * 4 + 3) 0))) (List.replicate 64 0)) := by
    intro count
    induction count with
    | zero =>
      intro _
      exact ⟨rfl, fun index below => absurd below (Nat.not_lt_zero index)⟩
    | succ count ih =>
      intro bound
      rw [List.range_succ, List.foldl_append, List.foldl_cons, List.foldl_nil]
      apply (ih (by omega)).set (by omega)
      rw [blockWord_bits whole (by omega), schedule, if_pos (by omega)]
  exact loaded 16 (Nat.le_refl 16)

theorem extendWord_scheduled {word : Nat → Word} {count : Nat} {words : List Word}
    (scheduled : Scheduled word count words) (later : 16 ≤ count) (inside : count < 64) :
    Scheduled word (count + 1) (extendWord words count) := by
  apply scheduled.set inside
  rw [schedule, if_neg (by omega), ← scheduled.known (count - 2) (by omega), ← scheduled.known (count - 7) (by omega),
    ← scheduled.known (count - 15) (by omega), ← scheduled.known (count - 16) (by omega)]
  dsimp only [smallSigma0, smallSigma1]
  ac_rfl

theorem extendWords_scheduled {word : Nat → Word} {words : List Word} (scheduled : Scheduled word 16 words) :
    Scheduled word 64 (extendWords words) := by
  have extended : ∀ count ≤ 48, Scheduled word (16 + count) ((List.range' 16 count).foldl extendWord words) := by
    intro count
    induction count with
    | zero => exact fun _ => scheduled
    | succ count ih =>
      intro bound
      rw [List.range'_concat, List.foldl_append, List.foldl_cons, List.foldl_nil, Nat.one_mul]
      have next : 16 ≤ 16 + count ∧ 16 + count < 64 := by omega
      exact extendWord_scheduled (ih (by omega)) next.1 next.2
  exact extended 48 (Nat.le_refl 48)

theorem roundStep_eq {word : Nat → Word} {words : List Word} (scheduled : Scheduled word 64 words) (r : Registers)
    {index : Nat} (inside : index < 64) :
    roundStep words r index = Sha256.round (roundConstant index) (schedule word index) r := by
  unfold roundStep Sha256.round bigSigma0 bigSigma1 ch maj
  rw [sha256K_getD inside, scheduled.known index inside]

theorem foldl_roundStep {word : Nat → Word} {words : List Word} (scheduled : Scheduled word 64 words)
    (state : Registers) {count : Nat} (bound : count ≤ 64) :
    (List.range count).foldl (roundStep words) state = rounds roundConstant (schedule word) state count := by
  induction count with
  | zero => rfl
  | succ count ih =>
    rw [List.range_succ, List.foldl_append, List.foldl_cons, List.foldl_nil, ih (by omega), roundStep_eq scheduled _ bound]
    rfl

theorem chunkStep_eq (state : Registers) {chunk : List UInt8} (whole : chunk.length = 64) :
    chunkStep state chunk = compress state (bytesToBits chunk) := by
  have ran := foldl_roundStep (extendWords_scheduled (loadWords_scheduled whole)) state (Nat.le_refl 64)
  simp only [chunkStep, ran, compress, Registers.add, BitVec.add_comm]

theorem foldl_chunkStep {chunks : List (List UInt8)} (whole : ∀ chunk ∈ chunks, chunk.length = 64) (state : Registers) :
    chunks.foldl chunkStep state = (chunks.map bytesToBits).foldl compress state := by
  rw [List.foldl_map]
  apply List.foldl_ext
  intro reached chunk member
  exact chunkStep_eq reached (whole chunk member)

/-! ### What is computed -/

/-- For every message, whatever its length is modulo a block. -/
theorem sha256Digest_bits (input : List UInt8) : bytesToBits (sha256Digest input) = sha256 (bytesToBits input) := by
  have state : (chunksExact 64 (padMessage input)).foldl chunkStep initialState =
      (blocks (pad (bytesToBits input))).foldl compress initialHash := by
    rw [foldl_chunkStep (fun _ member => mem_chunksExact member), chunksExact_bits, padMessage_bits, initialState_eq]
  unfold sha256Digest sha256
  rw [state]
  simp only [Registers.words, List.flatMap_cons, List.flatMap_nil, bytesToBits_append, toBeBytes_bits, List.append_nil]

theorem length_sha256Digest (input : List UInt8) : (sha256Digest input).length = 32 := rfl

theorem hexLower_eq (bytes : List UInt8) : hexLower bytes = hexEncode bytes := by
  have digits : ∀ value < 16, "0123456789abcdef".toList.getD value '0' = hexDigit value := by decide
  have high : ∀ byte : UInt8, (byte >>> 4).toNat = byte.toNat / 16 := by
    intro byte
    rw [UInt8.toNat_shiftRight]
    exact Nat.shiftRight_eq_div_pow byte.toNat 4
  have low : ∀ byte : UInt8, (byte &&& 0x0f).toNat = byte.toNat % 16 := by
    intro byte
    rw [UInt8.toNat_and]
    exact Nat.and_two_pow_sub_one_eq_mod byte.toNat 4
  show String.ofList (bytes.flatMap fun (byte : UInt8) => ["0123456789abcdef".toList.getD (byte >>> 4).toNat '0',
    "0123456789abcdef".toList.getD (byte &&& 0x0f).toNat '0']) = hexEncode bytes
  unfold hexEncode
  congr 2
  funext byte
  have bound := byte.toNat_lt
  rw [high, low, digits _ (by omega), digits _ (by omega)]

theorem sha256Hex_eq (input : List UInt8) : sha256Hex input = String.ofList (hexOfBits (sha256 (bytesToBits input))) := by
  rw [sha256Hex, hexLower_eq, ← hexOfBits_bytes, sha256Digest_bits]

/-- The known vector of the tests. -/
example : sha256Hex (utf8 "abc") = "ba7816bf8f01cfea414140de5dae2223b00361a396177a9cb410ff61f20015ad" := by
  decide +kernel

theorem hmacKeyBlock_eq (key : List UInt8) : hmacKeyBlock key =
    if 64 < key.length then sha256Digest key ++ List.replicate 32 0 else key ++ List.replicate (64 - key.length) 0 := by
  show (if key.length > (List.replicate 64 (0 : UInt8)).length then sha256Digest key ++ (List.replicate 64 0).drop 32
    else key ++ (List.replicate 64 0).drop key.length) = _
  rw [List.length_replicate, List.drop_replicate, List.drop_replicate]

/-- The rule for keys, on both sides of the length of a block. -/
theorem hmacKeyBlock_bits (key : List UInt8) : bytesToBits (hmacKeyBlock key) = blockKey sha256 (bytesToBits key) := by
  rw [hmacKeyBlock_eq, blockKey, length_bytesToBits]
  by_cases long : 64 < key.length
  · have digest : (sha256 (bytesToBits key)).length = 256 := by
      rw [← sha256Digest_bits, length_bytesToBits, length_sha256Digest]
    have large : 512 < 8 * key.length := by omega
    simp only [if_pos long, if_pos large]
    rw [bytesToBits_append, sha256Digest_bits, digest, bytesToBits_replicate_zero]
  · have small : ¬512 < 8 * key.length := by omega
    have missing : 8 * (64 - key.length) = 512 - 8 * key.length := by omega
    simp only [if_neg long, if_neg small]
    rw [bytesToBits_append, bytesToBits_replicate_zero, length_bytesToBits, missing]

theorem hmacSha256Hex_eq (key message : List UInt8) :
    hmacSha256Hex key message = String.ofList (hexOfBits (hmac sha256 (bytesToBits key) (bytesToBits message))) := by
  have mask : ∀ mask : List UInt8, bytesToBits (mask.zipWith (· ^^^ ·) (hmacKeyBlock key)) =
      (blockKey sha256 (bytesToBits key)).zipWith xor (bytesToBits mask) := by
    intro mask
    rw [← bytesToBits_xor, hmacKeyBlock_bits, List.zipWith_comm_of_comm Bool.xor_comm]
  unfold hmacSha256Hex hmac ipad opad
  rw [hexLower_eq, ← hexOfBits_bytes, sha256Digest_bits, bytesToBits_append, sha256Digest_bits, bytesToBits_append,
    mask, mask]

end TelemetryFabric.Agent
