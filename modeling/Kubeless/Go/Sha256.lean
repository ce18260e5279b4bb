import Kubeless.Go.Encoding

/-!
# SHA-256

`getFileSha256` hashes a function file with `crypto/sha256` and renders the digest with
`hex.EncodeToString`; the result, prefixed with `sha256:`, is the checksum that the prepare
container later hands to `sha256sum -c`. This module gives the hash as the FIPS 180-4
algorithm on byte lists: padding to whole 64-byte blocks, the message schedule, and 64
rounds of compression per block.

None of the results about kubeless depend on the values of the hash, only on the shape of
the checksum (`hexEncodeToString` output is lower-case hexadecimal, with no `:`), which is
why this module states no theorems of its own.
-/

namespace Kubeless.Go

/-- The round constants. -/
def sha256K : List UInt32 :=
  [0x428a2f98, 0x71374491, 0xb5c0fbcf, 0xe9b5dba5, 0x3956c25b, 0x59f111f1, 0x923f82a4, 0xab1c5ed5,
   0xd807aa98, 0x12835b01, 0x243185be, 0x550c7dc3, 0x72be5d74, 0x80deb1fe, 0x9bdc06a7, 0xc19bf174,
   0xe49b69c1, 0xefbe4786, 0x0fc19dc6, 0x240ca1cc, 0x2de92c6f, 0x4a7484aa, 0x5cb0a9dc, 0x76f988da,
   0x983e5152, 0xa831c66d, 0xb00327c8, 0xbf597fc7, 0xc6e00bf3, 0xd5a79147, 0x06ca6351, 0x14292967,
   0x27b70a85, 0x2e1b2138, 0x4d2c6dfc, 0x53380d13, 0x650a7354, 0x766a0abb, 0x81c2c92e, 0x92722c85,
   0xa2bfe8a1, 0xa81a664b, 0xc24b8b70, 0xc76c51a3, 0xd192e819, 0xd6990624, 0xf40e3585, 0x106aa070,
   0x19a4c116, 0x1e376c08, 0x2748774c, 0x34b0bcb5, 0x391c0cb3, 0x4ed8aa4a, 0x5b9cca4f, 0x682e6ff3,
   0x748f82ee, 0x78a5636f, 0x84c87814, 0x8cc70208, 0x90befffa, 0xa4506ceb, 0xbef9a3f7, 0xc67178f2]

/-- The initial hash value. -/
def sha256H0 : List UInt32 :=
  [0x6a09e667, 0xbb67ae85, 0x3c6ef372, 0xa54ff53a, 0x510e527f, 0x9b05688c, 0x1f83d9ab, 0x5be0cd19]

/-- Right rotation of a 32-bit word. -/
def rotr (x : UInt32) (n : UInt32) : UInt32 := (x >>> n) ||| (x <<< (32 - n))

/-- One round of compression on the working variables `a … h`, with round constant `k` and
schedule word `w`. -/
def sha256Round (v : List UInt32) (kw : UInt32 × UInt32) : List UInt32 :=
  match v with
  | [a, b, c, d, e, f, g, h] =>
      let s1 := rotr e 6 ^^^ rotr e 11 ^^^ rotr e 25
      let ch := (e &&& f) ^^^ (~~~e &&& g)
      let t1 := h + s1 + ch + kw.1 + kw.2
      let s0 := rotr a 2 ^^^ rotr a 13 ^^^ rotr a 22
      let maj := (a &&& b) ^^^ (a &&& c) ^^^ (b &&& c)
      [t1 + s0 + maj, a, b, c, d + t1, e, f, g]
  | _ => v

/-- The 64-word message schedule of a block given as sixteen words, extended one word at a
time. -/
def sha256Schedule (w : List UInt32) : List UInt32 :=
  (List.range 48).foldl
    (fun ws t =>
      let x := ws.getD (t + 1) 0
      let y := ws.getD (t + 14) 0
      let s0 := rotr x 7 ^^^ rotr x 18 ^^^ (x >>> 3)
      let s1 := rotr y 17 ^^^ rotr y 19 ^^^ (y >>> 10)
      ws ++ [s1 + ws.getD (t + 9) 0 + s0 + ws.getD t 0])
    w

/-- The big-endian words of a block. -/
def wordsOf : Bytes → List UInt32
  | a :: b :: c :: d :: rest =>
      (a.toUInt32 <<< 24 ||| b.toUInt32 <<< 16 ||| c.toUInt32 <<< 8 ||| d.toUInt32) :: wordsOf rest
  | _ => []

/-- The big-endian bytes of a word. -/
def bytesOfWord (x : UInt32) : Bytes :=
  [(x >>> 24).toUInt8, (x >>> 16).toUInt8, (x >>> 8).toUInt8, x.toUInt8]

/-- Compression of one block into the hash value. -/
def sha256Block (h : List UInt32) (block : Bytes) : List UInt32 :=
  let v := (sha256K.zip (sha256Schedule (wordsOf block))).foldl sha256Round h
  List.zipWith (· + ·) h v

/-- The padded message cut into 64-byte blocks; `fuel` bounds the number of blocks. -/
def blocksOf : Nat → Bytes → List Bytes
  | 0, _ => []
  | _, [] => []
  | fuel + 1, m => m.take 64 :: blocksOf fuel (m.drop 64)

/-- The message followed by `0x80`, zeros up to 56 modulo 64, and its bit length as a
big-endian 64-bit number. -/
def sha256Pad (m : Bytes) : Bytes :=
  let zeros := (119 - m.length % 64) % 64
  m ++ [0x80] ++ List.replicate zeros 0 ++
    (List.range 8).reverse.map fun i => UInt8.ofNat ((8 * m.length) / 2 ^ (8 * i))

/-- `sha256.Sum256(m)`: the 32-byte digest. -/
def sha256 (m : Bytes) : Bytes :=
  let padded := sha256Pad m
  ((blocksOf padded.length padded).foldl sha256Block sha256H0).flatMap bytesOfWord

end Kubeless.Go
