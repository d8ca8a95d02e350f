namespace ContractSuite.Digest.Sha256

/-- The first 32 bits of the fractional parts of the cube roots of the first 64 primes. -/
def roundConstants : Array UInt32 := #[
  0x428A2F98, 0x71374491, 0xB5C0FBCF, 0xE9B5DBA5, 0x3956C25B, 0x59F111F1, 0x923F82A4, 0xAB1C5ED5,
  0xD807AA98, 0x12835B01, 0x243185BE, 0x550C7DC3, 0x72BE5D74, 0x80DEB1FE, 0x9BDC06A7, 0xC19BF174,
  0xE49B69C1, 0xEFBE4786, 0x0FC19DC6, 0x240CA1CC, 0x2DE92C6F, 0x4A7484AA, 0x5CB0A9DC, 0x76F988DA,
  0x983E5152, 0xA831C66D, 0xB00327C8, 0xBF597FC7, 0xC6E00BF3, 0xD5A79147, 0x06CA6351, 0x14292967,
  0x27B70A85, 0x2E1B2138, 0x4D2C6DFC, 0x53380D13, 0x650A7354, 0x766A0ABB, 0x81C2C92E, 0x92722C85,
  0xA2BFE8A1, 0xA81A664B, 0xC24B8B70, 0xC76C51A3, 0xD192E819, 0xD6990624, 0xF40E3585, 0x106AA070,
  0x19A4C116, 0x1E376C08, 0x2748774C, 0x34B0BCB5, 0x391C0CB3, 0x4ED8AA4A, 0x5B9CCA4F, 0x682E6FF3,
  0x748F82EE, 0x78A5636F, 0x84C87814, 0x8CC70208, 0x90BEFFFA, 0xA4506CEB, 0xBEF9A3F7, 0xC67178F2]

/-- The eight words that a block is mixed into. -/
abbrev State := Vector UInt32 8

/-- The first 32 bits of the fractional parts of the square roots of the first eight primes. -/
def initialState : State := #v[
  0x6A09E667, 0xBB67AE85, 0x3C6EF372, 0xA54FF53A,
  0x510E527F, 0x9B05688C, 0x1F83D9AB, 0x5BE0CD19]

/-- Moves the bits of a word to the right and the bits that fall out back in on the left. -/
def rotateRight (x n : UInt32) : UInt32 :=
  (x >>> n) ||| (x <<< (32 - n))

def bigSigma0 (x : UInt32) : UInt32 := rotateRight x 2 ^^^ rotateRight x 13 ^^^ rotateRight x 22
def bigSigma1 (x : UInt32) : UInt32 := rotateRight x 6 ^^^ rotateRight x 11 ^^^ rotateRight x 25
def smallSigma0 (x : UInt32) : UInt32 := rotateRight x 7 ^^^ rotateRight x 18 ^^^ (x >>> 3)
def smallSigma1 (x : UInt32) : UInt32 := rotateRight x 17 ^^^ rotateRight x 19 ^^^ (x >>> 10)

/-- Takes each bit from `y` or `z` as the bit of `x` says. -/
def choose (x y z : UInt32) : UInt32 := (x &&& y) ^^^ ((~~~ x) &&& z)

/-- Takes each bit as most of the three words have it. -/
def majority (x y z : UInt32) : UInt32 := (x &&& y) ^^^ (x &&& z) ^^^ (y &&& z)

/-- The number of zero bytes that fill the last block. -/
def zeroCount (size : Nat) : Nat := (119 - size % 64) % 64

/-- The length of a message in bits, as eight bytes with the most significant one first. -/
def lengthBytes (size : Nat) : List UInt8 :=
  (List.range 8).map fun i => UInt8.ofNat (size * 8 / Nat.pow 256 (7 - i))

/-- A message followed by a one bit, zeros and its length. -/
def padded (message : ByteArray) : Array UInt8 :=
  message.data ++
    (0x80 :: (List.replicate (zeroCount message.size) 0 ++ lengthBytes message.size)).toArray

/-- The word at a position of the padded message. -/
def wordAt (bytes : Array UInt8) (i : Nat) : UInt32 :=
  let byte (k : Nat) : UInt32 := (bytes.getD (i + k) 0).toUInt32
  (byte 0 <<< 24) ||| (byte 1 <<< 16) ||| (byte 2 <<< 8) ||| byte 3

/-- Adds the next word of the schedule: a word of the block, or a mixture of earlier words. -/
def extendSchedule (bytes : Array UInt8) (start : Nat) (words : Array UInt32) (i : Nat) :
    Array UInt32 :=
  let earlier (back : Nat) : UInt32 := words.getD (i - back) 0
  words.push (if i < 16 then wordAt bytes (start + 4 * i)
    else earlier 16 + smallSigma0 (earlier 15) + earlier 7 + smallSigma1 (earlier 2))

/-- The 64 words of a block. -/
def schedule (bytes : Array UInt8) (start : Nat) : Array UInt32 :=
  (List.range 64).foldl (extendSchedule bytes start) #[]

/-- Mixes one word of the schedule into the state. -/
def round (words : Array UInt32) (s : State) (i : Nat) : State :=
  let mixed := s[7] + bigSigma1 s[4] + choose s[4] s[5] s[6] + roundConstants.getD i 0 +
    words.getD i 0
  #v[mixed + bigSigma0 s[0] + majority s[0] s[1] s[2], s[0], s[1], s[2], s[3] + mixed, s[4], s[5],
    s[6]]

/-- Mixes one block into the state. -/
def block (bytes : Array UInt8) (s : State) (index : Nat) : State :=
  let words := schedule bytes (64 * index)
  let mixed := (List.range 64).foldl (round words) s
  Vector.zipWith (· + ·) s mixed

/-- The digest of a message, 32 bytes. -/
def digest (message : ByteArray) : Vector UInt8 32 :=
  let bytes := padded message
  let final := (List.range (bytes.size / 64)).foldl (block bytes) initialState
  Vector.ofFn fun i : Fin 32 =>
    (final.get ⟨i.val / 4, by omega⟩ >>> UInt32.ofNat (8 * (3 - i.val % 4))).toUInt8

end ContractSuite.Digest.Sha256
