import Mathlib.Data.Int.Bitwise

/-! The 32-bit fingerprint of `generate_sql_speedup_hash_cache.py` (`rot`, `mix`, `final`, `hash_bytes`),
    computed on Python's unbounded integers with `& 0xFFFFFFFF` masks, and the function it ports:
    PostgreSQL's `hash_bytes` on `uint32`, as a second model in `Pg`. -/

namespace TeeSelector.Hash

/-- `x & 0xFFFFFFFF` on a Python int of either sign. --/
def mask (x : Int) : Int := Int.land x 0xFFFFFFFF

/-- `rot(x, k)`: `((x << k) | (x >> (32 - k))) & 0xFFFFFFFF`, where `x << k` is `x * 2 ** k`. --/
def rot (x : Int) (k : Nat) : Int := mask (Int.lor (x * 2 ^ k) (x >>> (32 - k)))

/-- One line of `mix`: `x = (x - z) & M; x ^= rot(z, k); z = (z + y) & M`. --/
def mixRound (x y z : Int) (k : Nat) : Int × Int :=
  let x := Int.xor (mask (x - z)) (rot z k)
  (x, mask (z + y))

/-- `mix(a, b, c)`. --/
def mix (a b c : Int) : Int × Int × Int :=
  let (a, c) := mixRound a b c 4
  let (b, a) := mixRound b c a 6
  let (c, b) := mixRound c a b 8
  let (a, c) := mixRound a b c 16
  let (b, a) := mixRound b c a 19
  let (c, b) := mixRound c a b 4
  (a, b, c)

/-- One line of `final`: `x ^= y; x = (x - rot(y, k)) & M`. --/
def finalRound (x y : Int) (k : Nat) : Int := mask (Int.xor x y - rot y k)

/-- `final(a, b, c)`. --/
def final (a b c : Int) : Int × Int × Int :=
  let c := finalRound c b 14
  let a := finalRound a c 11
  let b := finalRound b a 25
  let c := finalRound c b 16
  let a := finalRound a c 4
  let b := finalRound b a 14
  let c := finalRound c b 24
  (a, b, c)

/-- `k0 | (k1 << 8) | (k2 << 16) | (k3 << 24)`. --/
def word (k0 k1 k2 k3 : UInt8) : Int :=
  Int.lor (Int.lor (Int.lor k0.toNat (k1.toNat * 2 ^ 8)) (k2.toNat * 2 ^ 16)) (k3.toNat * 2 ^ 24)

/-- The loop `while length - i >= 12`, run on the bytes `data[i:]` not yet read; it returns the state
    and `tail = data[i:]`. --/
def blocks : Int × Int × Int → List UInt8 → (Int × Int × Int) × List UInt8
  | (a, b, c), k0 :: k1 :: k2 :: k3 :: k4 :: k5 :: k6 :: k7 :: k8 :: k9 :: k10 :: k11 :: rest =>
    blocks (mix (mask (a + word k0 k1 k2 k3)) (mask (b + word k4 k5 k6 k7)) (mask (c + word k8 k9 k10 k11)))
      rest
  | abc, tail => (abc, tail)

/-- `tail[j]` as an int, read only under the guard `tlen >= j + 1`. --/
def byte (tail : List UInt8) (j : Nat) : Int := (tail.getD j 0).toNat

/-- The tail step: `if tlen:` then, for each `j < tlen`, byte `j` added into `a` (bytes 0–3), `b` (4–7)
    or `c` (8–10, from shift 8). --/
def addTail : Int × Int × Int → List UInt8 → Int × Int × Int
  | (a, b, c), tail =>
    let tlen := tail.length
    if tlen != 0 then
      let a := if tlen ≥ 1 then mask (a + byte tail 0) else a
      let a := if tlen ≥ 2 then mask (a + byte tail 1 * 2 ^ 8) else a
      let a := if tlen ≥ 3 then mask (a + byte tail 2 * 2 ^ 16) else a
      let a := if tlen ≥ 4 then mask (a + byte tail 3 * 2 ^ 24) else a
      let b := if tlen ≥ 5 then mask (b + byte tail 4) else b
      let b := if tlen ≥ 6 then mask (b + byte tail 5 * 2 ^ 8) else b
      let b := if tlen ≥ 7 then mask (b + byte tail 6 * 2 ^ 16) else b
      let b := if tlen ≥ 8 then mask (b + byte tail 7 * 2 ^ 24) else b
      let c := if tlen ≥ 9 then mask (c + byte tail 8 * 2 ^ 8) else c
      let c := if tlen ≥ 10 then mask (c + byte tail 9 * 2 ^ 16) else c
      let c := if tlen ≥ 11 then mask (c + byte tail 10 * 2 ^ 24) else c
      (a, b, c)
    else (a, b, c)

/-- `hash_bytes(data)`. --/
def hashBytes (data : List UInt8) : Int :=
  let length := data.length
  let init := mask (0x9E3779B9 + length + 3923095)
  let (abc, tail) := blocks (init, init, init) data
  let (a, b, c) := addTail abc tail
  let (_, _, c) := final a b c
  mask c

/-! ### PostgreSQL's `hash_bytes` -/

namespace Pg

/-- `rot(x, k)`: a 32-bit rotation. --/
def rot (x : BitVec 32) (k : Nat) : BitVec 32 := x.rotateLeft k

/-- One line of `mix`: `x -= z; x ^= rot(z, k); z += y`. --/
def mixRound (x y z : BitVec 32) (k : Nat) : BitVec 32 × BitVec 32 :=
  ((x - z) ^^^ rot z k, z + y)

/-- `mix(a, b, c)`. --/
def mix (a b c : BitVec 32) : BitVec 32 × BitVec 32 × BitVec 32 :=
  let (a, c) := mixRound a b c 4
  let (b, a) := mixRound b c a 6
  let (c, b) := mixRound c a b 8
  let (a, c) := mixRound a b c 16
  let (b, a) := mixRound b c a 19
  let (c, b) := mixRound c a b 4
  (a, b, c)

/-- One line of `final`: `x ^= y; x -= rot(y, k)`. --/
def finalRound (x y : BitVec 32) (k : Nat) : BitVec 32 := (x ^^^ y) - rot y k

/-- `final(a, b, c)`. --/
def final (a b c : BitVec 32) : BitVec 32 × BitVec 32 × BitVec 32 :=
  let c := finalRound c b 14
  let a := finalRound a c 11
  let b := finalRound b a 25
  let c := finalRound c b 16
  let a := finalRound a c 4
  let b := finalRound b a 14
  let c := finalRound c b 24
  (a, b, c)

/-- The little-endian number of up to four bytes. --/
def le (ks : List UInt8) : Nat := ks.foldr (fun k acc => k.toNat + 2 ^ 8 * acc) 0

/-- The whole 12-byte blocks, each added to `a`, `b`, `c` as three little-endian words and mixed. --/
def blocks : BitVec 32 × BitVec 32 × BitVec 32 → List UInt8 → (BitVec 32 × BitVec 32 × BitVec 32) × List UInt8
  | (a, b, c), k0 :: k1 :: k2 :: k3 :: k4 :: k5 :: k6 :: k7 :: k8 :: k9 :: k10 :: k11 :: rest =>
    blocks (mix (a + .ofNat 32 (le [k0, k1, k2, k3])) (b + .ofNat 32 (le [k4, k5, k6, k7]))
      (c + .ofNat 32 (le [k8, k9, k10, k11]))) rest
  | abc, tail => (abc, tail)

/-- The last 0–11 bytes: bytes 0–3 into `a`, 4–7 into `b` and 8–10 into `c` from shift 8, the low byte of
    `c` being left for the length. --/
def addTail : BitVec 32 × BitVec 32 × BitVec 32 → List UInt8 → BitVec 32 × BitVec 32 × BitVec 32
  | (a, b, c), tail =>
    (a + .ofNat 32 (le (tail.take 4)), b + .ofNat 32 (le ((tail.drop 4).take 4)),
      c + .ofNat 32 (le ((tail.drop 8).take 3) * 2 ^ 8))

/-- `hash_bytes(k, keylen)` on `uint32`. --/
def hashBytes (data : List UInt8) : BitVec 32 :=
  let init : BitVec 32 := .ofNat 32 (0x9E3779B9 + data.length + 3923095)
  let (abc, tail) := blocks (init, init, init) data
  let (a, b, c) := addTail abc tail
  (final a b c).2.2

end Pg

end TeeSelector.Hash
