namespace RenderCore.Xxh3

def prime32a : UInt64 := 0x9E3779B1
def prime32b : UInt64 := 0x85EBCA77
def prime32c : UInt64 := 0xC2B2AE3D
def prime64a : UInt64 := 0x9E3779B185EBCA87
def prime64b : UInt64 := 0xC2B2AE3D27D4EB4F
def prime64c : UInt64 := 0x165667B19E3779F9
def prime64d : UInt64 := 0x85EBCA77C2B2AE63
def prime64e : UInt64 := 0x27D4EB2F165667C5
def primeMx1 : UInt64 := 0x165667919E3779F9
def primeMx2 : UInt64 := 0x9FB21C651E98DF25

def secret : ByteArray := ByteArray.mk #[
  0xb8, 0xfe, 0x6c, 0x39, 0x23, 0xa4, 0x4b, 0xbe, 0x7c, 0x01, 0x81, 0x2c, 0xf7, 0x21, 0xad, 0x1c,
  0xde, 0xd4, 0x6d, 0xe9, 0x83, 0x90, 0x97, 0xdb, 0x72, 0x40, 0xa4, 0xa4, 0xb7, 0xb3, 0x67, 0x1f,
  0xcb, 0x79, 0xe6, 0x4e, 0xcc, 0xc0, 0xe5, 0x78, 0x82, 0x5a, 0xd0, 0x7d, 0xcc, 0xff, 0x72, 0x21,
  0xb8, 0x08, 0x46, 0x74, 0xf7, 0x43, 0x24, 0x8e, 0xe0, 0x35, 0x90, 0xe6, 0x81, 0x3a, 0x26, 0x4c,
  0x3c, 0x28, 0x52, 0xbb, 0x91, 0xc3, 0x00, 0xcb, 0x88, 0xd0, 0x65, 0x8b, 0x1b, 0x53, 0x2e, 0xa3,
  0x71, 0x64, 0x48, 0x97, 0xa2, 0x0d, 0xf9, 0x4e, 0x38, 0x19, 0xef, 0x46, 0xa9, 0xde, 0xac, 0xd8,
  0xa8, 0xfa, 0x76, 0x3f, 0xe3, 0x9c, 0x34, 0x3f, 0xf9, 0xdc, 0xbb, 0xc7, 0xc7, 0x0b, 0x4f, 0x1d,
  0x8a, 0x51, 0xe0, 0x4b, 0xcd, 0xb4, 0x59, 0x31, 0xc8, 0x9f, 0x7e, 0xc9, 0xd9, 0x78, 0x73, 0x64,
  0xea, 0xc5, 0xac, 0x83, 0x34, 0xd3, 0xeb, 0xc3, 0xc5, 0x81, 0xa0, 0xff, 0xfa, 0x13, 0x63, 0xeb,
  0x17, 0x0d, 0xdd, 0x51, 0xb7, 0xf0, 0xda, 0x49, 0xd3, 0x16, 0x55, 0x26, 0x29, 0xd4, 0x68, 0x9e,
  0x2b, 0x16, 0xbe, 0x58, 0x7d, 0x47, 0xa1, 0xfc, 0x8f, 0xf8, 0xb8, 0xd1, 0x7a, 0xd0, 0x31, 0xce,
  0x45, 0xcb, 0x3a, 0x8f, 0x95, 0x16, 0x04, 0x28, 0xaf, 0xd7, 0xfb, 0xca, 0xbb, 0x4b, 0x40, 0x7e]

def byteAt (b : ByteArray) (i : Nat) : UInt64 :=
  (b[i]?.getD 0).toUInt64

def readLE (b : ByteArray) (i n : Nat) : UInt64 :=
  (List.range n).foldr (fun k acc => (acc <<< 8) ||| byteAt b (i + k)) 0

def read64 (b : ByteArray) (i : Nat) : UInt64 := readLE b i 8
def read32 (b : ByteArray) (i : Nat) : UInt64 := readLE b i 4

def rotl (x : UInt64) (r : UInt64) : UInt64 := (x <<< r) ||| (x >>> (64 - r))

def swap64 (x : UInt64) : UInt64 :=
  (List.range 8).foldl (fun (acc : UInt64) (k : Nat) => (acc <<< 8) ||| ((x >>> (8 * k.toUInt64)) &&& 0xFF)) 0

def mulFold (a b : UInt64) : UInt64 :=
  let p := a.toNat * b.toNat
  UInt64.ofNat p ^^^ UInt64.ofNat (p / UInt64.size)

def avalanche (h : UInt64) : UInt64 :=
  let h := h ^^^ (h >>> 37)
  let h := h * primeMx1
  h ^^^ (h >>> 32)

def avalanche64 (h : UInt64) : UInt64 :=
  let h := h ^^^ (h >>> 33)
  let h := h * prime64b
  let h := h ^^^ (h >>> 29)
  let h := h * prime64c
  h ^^^ (h >>> 32)

def rrmxmx (h : UInt64) (len : UInt64) : UInt64 :=
  let h := h ^^^ rotl h 49 ^^^ rotl h 24
  let h := h * primeMx2
  let h := h ^^^ ((h >>> 35) + len)
  let h := h * primeMx2
  h ^^^ (h >>> 28)

def mix16 (input : ByteArray) (i s : Nat) : UInt64 :=
  mulFold (read64 input i ^^^ read64 secret s) (read64 input (i + 8) ^^^ read64 secret (s + 8))

def hashTo3 (input : ByteArray) : UInt64 :=
  let len := input.size
  let c1 := byteAt input 0
  let c2 := byteAt input (len / 2)
  let c3 := byteAt input (len - 1)
  let combined := (c1 <<< 16) ||| (c2 <<< 24) ||| c3 ||| (len.toUInt64 <<< 8)
  let flip := (read32 secret 0 ^^^ read32 secret 4) &&& 0xFFFFFFFF
  avalanche64 (combined ^^^ flip)

def hashTo8 (input : ByteArray) : UInt64 :=
  let len := input.size
  let lo := read32 input 0
  let hi := read32 input (len - 4)
  let flip := read64 secret 8 ^^^ read64 secret 16
  rrmxmx ((hi + (lo <<< 32)) ^^^ flip) len.toUInt64

def hashTo16 (input : ByteArray) : UInt64 :=
  let len := input.size
  let flip1 := read64 secret 24 ^^^ read64 secret 32
  let flip2 := read64 secret 40 ^^^ read64 secret 48
  let lo := read64 input 0 ^^^ flip1
  let hi := read64 input (len - 8) ^^^ flip2
  avalanche (len.toUInt64 + swap64 lo + hi + mulFold lo hi)

def hashTo128 (input : ByteArray) : UInt64 :=
  let len := input.size
  let pairs : List Nat :=
    (if len > 96 then [48] else []) ++ (if len > 64 then [32] else []) ++
    (if len > 32 then [16] else []) ++ [0]
  let acc := pairs.foldl (fun acc k =>
    acc + mix16 input k (2 * k) + mix16 input (len - k - 16) (2 * k + 16)) (len.toUInt64 * prime64a)
  avalanche acc

def hashTo240 (input : ByteArray) : UInt64 :=
  let len := input.size
  let acc := (List.range 8).foldl (fun acc i => acc + mix16 input (16 * i) (16 * i))
    (len.toUInt64 * prime64a)
  let last := mix16 input (len - 16) (136 - 17)
  let tail := ((List.range (len / 16)).drop 8).foldl
    (fun acc i => acc + mix16 input (16 * i) (16 * (i - 8) + 3)) last
  avalanche (avalanche acc + tail)

abbrev Lanes := Array UInt64

def initLanes : Lanes :=
  #[prime32c, prime64a, prime64b, prime64c, prime64d, prime32b, prime64e, prime32a]

def lane (acc : Lanes) (i : Nat) : UInt64 := acc[i]?.getD 0

def accumulateStripe (input : ByteArray) (i s : Nat) (acc : Lanes) : Lanes :=
  (List.range 8).foldl (fun (acc : Lanes) (k : Nat) =>
    let value := read64 input (i + 8 * k)
    let keyed := value ^^^ read64 secret (s + 8 * k)
    let low : UInt64 := keyed &&& 0xFFFFFFFF
    let high : UInt64 := keyed >>> 32
    let product := low * high
    let acc := acc.modify (k ^^^ 1) (· + value)
    acc.modify k (· + product)) acc

def scramble (acc : Lanes) : Lanes :=
  (List.range 8).foldl (fun (acc : Lanes) (k : Nat) =>
    acc.modify k (fun a => ((a ^^^ (a >>> 47)) ^^^ read64 secret (128 + 8 * k)) * prime32a)) acc

def accumulate (input : ByteArray) (start stripes : Nat) (acc : Lanes) : Lanes :=
  (List.range stripes).foldl (fun acc s => accumulateStripe input (start + 64 * s) (8 * s) acc) acc

def hashLong (input : ByteArray) : UInt64 :=
  let len := input.size
  let blockLen := 1024
  let blocks := (len - 1) / blockLen
  let acc := (List.range blocks).foldl
    (fun acc n => scramble (accumulate input (n * blockLen) 16 acc)) initLanes
  let acc := accumulate input (blocks * blockLen) (((len - 1) - blocks * blockLen) / 64) acc
  let acc := accumulateStripe input (len - 64) (192 - 64 - 7) acc
  let merged := (List.range 4).foldl (fun r i =>
    r + mulFold (lane acc (2 * i) ^^^ read64 secret (11 + 16 * i))
      (lane acc (2 * i + 1) ^^^ read64 secret (11 + 16 * i + 8))) (len.toUInt64 * prime64a)
  avalanche merged

def digest (input : ByteArray) : UInt64 :=
  let len := input.size
  if len = 0 then avalanche64 (read64 secret 56 ^^^ read64 secret 64)
  else if len ≤ 3 then hashTo3 input
  else if len ≤ 8 then hashTo8 input
  else if len ≤ 16 then hashTo16 input
  else if len ≤ 128 then hashTo128 input
  else if len ≤ 240 then hashTo240 input
  else hashLong input

end RenderCore.Xxh3
