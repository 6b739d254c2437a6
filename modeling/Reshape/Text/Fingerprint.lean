/-!
# Fingerprints

The 64-bit XXH3 hash of a byte string, with seed zero and the default secret: a stable short name for
a text.  Equal fingerprints do not mean equal texts, so nothing is decided by them.
-/

namespace Reshape
namespace Text
namespace Fingerprint

/-- The default secret. -/
def secret : Array UInt8 := #[
  0xb8, 0xfe, 0x6c, 0x39, 0x23, 0xa4, 0x4b, 0xbe, 0x7c, 0x01, 0x81, 0x2c, 0xf7, 0x21, 0xad, 0x1c,
  0xde, 0xd4, 0x6d, 0xe9, 0x83, 0x90, 0x97, 0xdb, 0x72, 0x40, 0xa4, 0xa4, 0xb7, 0xb3, 0x67, 0x1f,
  0xcb, 0x79, 0xe6, 0x4e, 0xcc, 0xc0, 0xe5, 0x78, 0x82, 0x5a, 0xd0, 0x7d, 0xcc, 0xff, 0x72, 0x21,
  0xb8, 0x08, 0x46, 0x74, 0xf7, 0x43, 0x24, 0x8e, 0xe0, 0x35, 0x90, 0xe6, 0x81, 0x3a, 0x26, 0x4c,
  0x3c, 0x28, 0x52, 0xbb, 0x91, 0xc3, 0x00, 0xcb, 0x88, 0xd0, 0x65, 0x8b, 0x1b, 0x53, 0x2e, 0xa3,
  0x71, 0x64, 0x48, 0x97, 0xa2, 0x0d, 0xf9, 0x4e, 0x38, 0x19, 0xef, 0x46, 0xa9, 0xde, 0xac, 0xd8,
  0xa8, 0xfa, 0x76, 0x3f, 0xe3, 0x9c, 0x34, 0x3f, 0xf9, 0xdc, 0xbb, 0xc7, 0xc7, 0x0b, 0x4f, 0x1d,
  0x8a, 0x51, 0xe0, 0x4b, 0xcd, 0xb4, 0x59, 0x31, 0xc8, 0x9f, 0x7e, 0xc9, 0xd9, 0x78, 0x73, 0x64,
  0xea, 0xc5, 0xac, 0x83, 0x34, 0xd3, 0xeb, 0xc3, 0xc5, 0x81, 0xa0, 0xff, 0xfa, 0x13, 0x63, 0xeb,
  0x17, 0x0d, 0xdd, 0x51, 0xb7, 0xf0, 0xda, 0x49, 0xd3, 0x16, 0x55, 0x26, 0x29, 0xd4, 0x68, 0x9e,
  0x2b, 0x16, 0xbe, 0x58, 0x7d, 0x47, 0xa1, 0xfc, 0x8f, 0xf8, 0xb8, 0xd1, 0x7a, 0xd0, 0x31, 0xce,
  0x45, 0xcb, 0x3a, 0x8f, 0x95, 0x16, 0x04, 0x28, 0xaf, 0xd7, 0xfb, 0xca, 0xbb, 0x4b, 0x40, 0x7e]

/-- The first three 32-bit multipliers. -/
def prime32 : Nat → UInt64
  | 1 => 0x9E3779B1
  | 2 => 0x85EBCA77
  | _ => 0xC2B2AE3D

/-- The five 64-bit multipliers. -/
def prime64 : Nat → UInt64
  | 1 => 0x9E3779B185EBCA87
  | 2 => 0xC2B2AE3D27D4EB4F
  | 3 => 0x165667B19E3779F9
  | 4 => 0x85EBCA77C2B2AE63
  | _ => 0x27D4EB2F165667C5

/-- The number in `width` bytes from a place on, the first byte lowest. -/
def readLow (bytes : Array UInt8) (place width : Nat) : UInt64 :=
  (List.range width).foldl
    (fun n i => n + ((bytes[place + i]?.getD 0).toUInt64 <<< (8 * i).toUInt64)) 0

/-- Eight bytes as a number. -/
def read64 (bytes : Array UInt8) (place : Nat) : UInt64 := readLow bytes place 8

/-- Four bytes as a number. -/
def read32 (bytes : Array UInt8) (place : Nat) : UInt64 := readLow bytes place 4

/-- The bytes of a number in reverse order. -/
def swapBytes (n : UInt64) : UInt64 :=
  (List.range 8).foldl
    (fun r i => (r <<< 8) ||| ((n >>> (8 * i).toUInt64) &&& 0xFF)) 0

/-- Rotate to the left. -/
def rotate (n places : UInt64) : UInt64 :=
  (n <<< places) ||| (n >>> (64 - places))

/-- The two halves of a 128-bit product, folded into one. -/
def foldedProduct (a b : UInt64) : UInt64 :=
  let product := a.toNat * b.toNat
  product.toUInt64 ^^^ (product >>> 64).toUInt64

/-- Final mixing. -/
def avalanche (h : UInt64) : UInt64 :=
  let h := (h ^^^ (h >>> 37)) * 0x165667919E3779F9
  h ^^^ (h >>> 32)

/-- Final mixing of very short inputs. -/
def avalancheShort (h : UInt64) : UInt64 :=
  let h := (h ^^^ (h >>> 33)) * prime64 2
  let h := (h ^^^ (h >>> 29)) * prime64 3
  h ^^^ (h >>> 32)

/-- Mixing of four to eight bytes. -/
def mixWord (h length : UInt64) : UInt64 :=
  let h := h ^^^ rotate h 49 ^^^ rotate h 24
  let h := h * 0x9FB21C651E98DF25
  let h := h ^^^ ((h >>> 35) + length)
  let h := h * 0x9FB21C651E98DF25
  h ^^^ (h >>> 28)

/-- Sixteen bytes of input mixed with sixteen of the secret. -/
def mix16 (bytes : Array UInt8) (place key : Nat) : UInt64 :=
  foldedProduct (read64 bytes place ^^^ read64 secret key)
    (read64 bytes (place + 8) ^^^ read64 secret (key + 8))

/-- The hash of at most sixteen bytes. -/
def short (bytes : Array UInt8) : UInt64 :=
  let n := bytes.size
  let length := n.toUInt64
  if 8 < n then
    let low := read64 bytes 0 ^^^ (read64 secret 24 ^^^ read64 secret 32)
    let high := read64 bytes (n - 8) ^^^ (read64 secret 40 ^^^ read64 secret 48)
    avalanche (length + swapBytes low + high + foldedProduct low high)
  else if 4 ≤ n then
    let word := read32 bytes (n - 4) + (read32 bytes 0 <<< 32)
    mixWord (word ^^^ (read64 secret 8 ^^^ read64 secret 16)) length
  else if 0 < n then
    let first := readLow bytes 0 1
    let middle := readLow bytes (n / 2) 1
    let last := readLow bytes (n - 1) 1
    let word := (first <<< 16) ||| (middle <<< 24) ||| last ||| (length <<< 8)
    avalancheShort (word ^^^ (read32 secret 0 ^^^ read32 secret 4))
  else avalancheShort (read64 secret 56 ^^^ read64 secret 64)

/-- The hash of 17 to 128 bytes: pairs of blocks from both ends. -/
def medium (bytes : Array UInt8) : UInt64 :=
  let n := bytes.size
  let pairs := (n - 1) / 32 + 1
  avalanche <| (List.range pairs).foldl
    (fun acc i =>
      acc + mix16 bytes (16 * i) (32 * i) + mix16 bytes (n - 16 * (i + 1)) (32 * i + 16))
    (n.toUInt64 * prime64 1)

/-- The hash of 129 to 240 bytes. -/
def long (bytes : Array UInt8) : UInt64 :=
  let n := bytes.size
  let front := (List.range 8).foldl (fun acc i => acc + mix16 bytes (16 * i) (16 * i))
    (n.toUInt64 * prime64 1)
  let rest := (List.range (n / 16 - 8)).foldl
    (fun acc i => acc + mix16 bytes (16 * (i + 8)) (16 * i + 3)) (avalanche front)
  avalanche (rest + mix16 bytes (n - 16) 119)

/-- One lane of an accumulator, as sixty-four bytes are added. -/
def lane (acc : List UInt64) (bytes : Array UInt8) (place key i : Nat) : UInt64 :=
  let keyed := read64 bytes (place + 8 * i) ^^^ read64 secret (key + 8 * i)
  let other := if i % 2 = 0 then i + 1 else i - 1
  let low := keyed % 0x100000000
  let high := keyed / 0x100000000
  (acc[i]?.getD 0) + read64 bytes (place + 8 * other) + low * high

/-- Add sixty-four bytes to the eight lanes of an accumulator. -/
def accumulate (bytes : Array UInt8) (acc : List UInt64) (place key : Nat) : List UInt64 :=
  (List.range 8).map (lane acc bytes place key)

/-- Mix the lanes of an accumulator after a block. -/
def scramble (acc : List UInt64) : List UInt64 :=
  acc.zipIdx.map fun (a, i) => (a ^^^ (a >>> 47) ^^^ read64 secret (128 + 8 * i)) * prime32 1

/-- Add a number of stripes of sixty-four bytes, from a place on. -/
def stripes (bytes : Array UInt8) (place n : Nat) (acc : List UInt64) : List UInt64 :=
  (List.range n).foldl (fun acc i => accumulate bytes acc (place + 64 * i) (8 * i)) acc

/-- Fold the lanes of an accumulator into one number. -/
def merge (acc : List UInt64) (start : UInt64) : UInt64 :=
  avalanche <| (List.range 4).foldl
    (fun h i =>
      h + foldedProduct ((acc[2 * i]?.getD 0) ^^^ read64 secret (11 + 16 * i))
        ((acc[2 * i + 1]?.getD 0) ^^^ read64 secret (19 + 16 * i)))
    start

/-- The hash of more than 240 bytes. -/
def huge (bytes : Array UInt8) : UInt64 :=
  let n := bytes.size
  let blocks := (n - 1) / 1024
  let start := [prime32 3, prime64 1, prime64 2, prime64 3, prime64 4, prime32 2, prime64 5,
    prime32 1]
  let full := (List.range blocks).foldl
    (fun acc i => scramble (stripes bytes (1024 * i) 16 acc)) start
  let rest := stripes bytes (1024 * blocks) ((n - 1 - 1024 * blocks) / 64) full
  merge (accumulate bytes rest (n - 64) 121) (n.toUInt64 * prime64 1)

end Fingerprint

/-- The fingerprint of a text: the hash of its bytes. -/
def fingerprint (s : String) : UInt64 :=
  let bytes := s.toUTF8.data
  if bytes.size ≤ 16 then Fingerprint.short bytes
  else if bytes.size ≤ 128 then Fingerprint.medium bytes
  else if bytes.size ≤ 240 then Fingerprint.long bytes
  else Fingerprint.huge bytes

end Text
end Reshape
