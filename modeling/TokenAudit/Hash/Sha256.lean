import TokenAudit.Hash.Hex

/-!
# SHA-256

Content is identified by the SHA-256 digest of its bytes.
-/

namespace TokenAudit.Hash

namespace Sha256

/-- The chaining state: eight words. -/
abbrev State := Vector UInt32 8

/-- The word rotated right by `n` places, for `n` between 1 and 31. -/
def rotateRight (word : UInt32) (n : UInt32) : UInt32 :=
  (word >>> n) ||| (word <<< (32 - n))

/-- The constant of each of the 64 rounds. -/
def roundConstants : Array UInt32 :=
  #[0x428a2f98, 0x71374491, 0xb5c0fbcf, 0xe9b5dba5, 0x3956c25b, 0x59f111f1, 0x923f82a4, 0xab1c5ed5,
    0xd807aa98, 0x12835b01, 0x243185be, 0x550c7dc3, 0x72be5d74, 0x80deb1fe, 0x9bdc06a7, 0xc19bf174,
    0xe49b69c1, 0xefbe4786, 0x0fc19dc6, 0x240ca1cc, 0x2de92c6f, 0x4a7484aa, 0x5cb0a9dc, 0x76f988da,
    0x983e5152, 0xa831c66d, 0xb00327c8, 0xbf597fc7, 0xc6e00bf3, 0xd5a79147, 0x06ca6351, 0x14292967,
    0x27b70a85, 0x2e1b2138, 0x4d2c6dfc, 0x53380d13, 0x650a7354, 0x766a0abb, 0x81c2c92e, 0x92722c85,
    0xa2bfe8a1, 0xa81a664b, 0xc24b8b70, 0xc76c51a3, 0xd192e819, 0xd6990624, 0xf40e3585, 0x106aa070,
    0x19a4c116, 0x1e376c08, 0x2748774c, 0x34b0bcb5, 0x391c0cb3, 0x4ed8aa4a, 0x5b9cca4f, 0x682e6ff3,
    0x748f82ee, 0x78a5636f, 0x84c87814, 0x8cc70208, 0x90befffa, 0xa4506ceb, 0xbef9a3f7, 0xc67178f2]

/-- The state before the first block. -/
def initial : State :=
  #v[0x6a09e667, 0xbb67ae85, 0x3c6ef372, 0xa54ff53a, 0x510e527f, 0x9b05688c, 0x1f83d9ab, 0x5be0cd19]

/-- The big-endian word made of four bytes. -/
def wordOfBytes (bytes : List UInt8) : UInt32 :=
  bytes.foldl (fun word byte => (word <<< 8) ||| byte.toUInt32) 0

/-- The big-endian bytes of a word. -/
def bytesOfWord (word : UInt32) : List UInt8 :=
  [(word >>> 24).toUInt8, (word >>> 16).toUInt8, (word >>> 8).toUInt8, word.toUInt8]

/-- The sixteen words of a block. -/
def blockWords (block : List UInt8) : Array UInt32 :=
  Array.ofFn fun i : Fin 16 => wordOfBytes ((block.drop (4 * i.val)).take 4)

/-- The word that the message schedule appends. -/
def scheduleNext (words : Array UInt32) : UInt32 :=
  let at' (back : Nat) := words.getD (words.size - back) 0
  let a := at' 15
  let b := at' 2
  let s0 := rotateRight a 7 ^^^ rotateRight a 18 ^^^ (a >>> 3)
  let s1 := rotateRight b 17 ^^^ rotateRight b 19 ^^^ (b >>> 10)
  at' 16 + s0 + at' 7 + s1

/-- The message schedule: the block's words and 48 more. -/
def schedule (block : List UInt8) : Array UInt32 :=
  (List.range 48).foldl (fun words _ => words.push (scheduleNext words)) (blockWords block)

/-- One round with the given constant and schedule word. -/
def round (s : State) (constant word : UInt32) : State :=
  let s1 := rotateRight s[4] 6 ^^^ rotateRight s[4] 11 ^^^ rotateRight s[4] 25
  let choice := (s[4] &&& s[5]) ^^^ (~~~s[4] &&& s[6])
  let t1 := s[7] + s1 + choice + constant + word
  let s0 := rotateRight s[0] 2 ^^^ rotateRight s[0] 13 ^^^ rotateRight s[0] 22
  let majority := (s[0] &&& s[1]) ^^^ (s[0] &&& s[2]) ^^^ (s[1] &&& s[2])
  #v[t1 + s0 + majority, s[0], s[1], s[2], s[3] + t1, s[4], s[5], s[6]]

/-- The state after one block. -/
def compress (state : State) (block : List UInt8) : State :=
  let words := schedule block
  let mixed := (List.range 64).foldl
    (fun s i => round s (roundConstants.getD i 0) (words.getD i 0)) state
  Vector.zipWith (· + ·) state mixed

/-- The message, a one bit, zeros, and the length in bits as eight bytes, in whole blocks. -/
def pad (message : List UInt8) : List UInt8 :=
  let zeros := (119 - message.length % 64) % 64
  let bits := UInt64.ofNat (8 * message.length)
  let lengthBytes := (List.range 8).map fun i => (bits >>> UInt64.ofNat (56 - 8 * i)).toUInt8
  message ++ 0x80 :: List.replicate zeros 0 ++ lengthBytes

/-- The state after every block of a padded message, given the number of blocks. -/
def compressAll : Nat → State → List UInt8 → State
  | 0, state, _ => state
  | count + 1, state, bytes => compressAll count (compress state (bytes.take 64)) (bytes.drop 64)

/-- The 32-byte digest of a message. -/
def digest (message : List UInt8) : List UInt8 :=
  let padded := pad message
  (compressAll (padded.length / 64) initial padded).toList.flatMap bytesOfWord

end Sha256

/-- The digest of some bytes as 64 hexadecimal digits. -/
def sha256Hex (bytes : List UInt8) : String :=
  hex (Sha256.digest bytes)

/-- The digest of a text's UTF-8 bytes as 64 hexadecimal digits. -/
def contentHash (text : String) : String :=
  sha256Hex text.toUTF8.toList

end TokenAudit.Hash
