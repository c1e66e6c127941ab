import TeeSelector.Hash
import Mathlib.Data.Nat.Bitwise

/-! The Python port of `hash_bytes` computes PostgreSQL's `uint32` function bit for bit. Each int it holds
    between two statements is the `toNat` of the matching `uint32`, so below `2 ^ 32`: `rot` is then a
    true rotation, the unmasked `^=` stays in range, and the `|` of the shifted bytes of a word is their
    sum. -/

namespace TeeSelector.Hash

/-! ### Bits -/

theorem mask_eq_emod (x : Int) : mask x = x % 2 ^ 32 := by
  cases x with
  | ofNat n =>
    show ((n &&& (2 ^ 32 - 1) : Nat) : Int) = _
    rw [Nat.and_pow_two_sub_one_eq_mod, Int.ofNat_eq_coe]
    omega
  | negSucc m =>
    show ((Nat.ldiff (2 ^ 32 - 1) m : Nat) : Int) = _
    have bits : Nat.ldiff (2 ^ 32 - 1) m = 2 ^ 32 - (m % 2 ^ 32 + 1) := by
      apply Nat.eq_of_testBit_eq
      intro i
      rw [Nat.testBit_ldiff, Nat.testBit_two_pow_sub_one,
        Nat.testBit_two_pow_sub_succ (Nat.mod_lt _ (by decide)), Nat.testBit_mod_two_pow]
      cases decide (i < 32) <;> rfl
    rw [bits, Int.negSucc_eq]
    omega

theorem or_mod_two_pow {a b w : Nat} (hb : b < 2 ^ w) : (a ||| b) % 2 ^ w = a % 2 ^ w ||| b := by
  apply Nat.eq_of_testBit_eq
  intro i
  simp only [Nat.testBit_mod_two_pow, Nat.testBit_or]
  by_cases hi : i < w
  · simp [hi]
  · have : b < 2 ^ i := lt_of_lt_of_le hb (Nat.pow_le_pow_right (by decide) (Nat.le_of_not_lt hi))
    simp [hi, Nat.testBit_lt_two_pow this]

/-- Or-ing a number with a multiple of a power of two above it adds them. --/
theorem or_mul_two_pow {a b j : Nat} (ha : a < 2 ^ j) : a ||| b * 2 ^ j = a + b * 2 ^ j := by
  rw [Nat.lor_comm, Nat.mul_comm, ← Nat.mul_add_lt_is_or ha, Nat.add_comm]

/-! ### One statement at a time -/

section Statements
variable (x y : BitVec 32)

theorem mask_toNat : mask x.toNat = x.toNat := by
  rw [mask_eq_emod]
  have := x.isLt
  omega

theorem mask_add : mask (x.toNat + y.toNat) = (x + y).toNat := by
  rw [mask_eq_emod, BitVec.toNat_add]
  omega

theorem mask_sub : mask (x.toNat - y.toNat) = (x - y).toNat := by
  rw [mask_eq_emod, BitVec.toNat_sub]
  have := y.isLt
  omega

theorem xor_toNat : Int.xor x.toNat y.toNat = (x ^^^ y).toNat := by
  rw [BitVec.toNat_xor]
  rfl

theorem rot_toNat {k : Nat} (hk : k < 32) : rot x.toNat k = (Pg.rot x k).toNat := by
  have low : x.toNat >>> (32 - k) < 2 ^ 32 := by
    rw [Nat.shiftRight_eq_div_pow]
    exact lt_of_le_of_lt (Nat.div_le_self _ _) x.isLt
  have cast : Int.lor ((x.toNat : Int) * 2 ^ k) ((x.toNat : Int) >>> (32 - k)) =
      ((x.toNat * 2 ^ k ||| x.toNat >>> (32 - k) : Nat) : Int) := by
    rw [Int.natCast_shiftRight, show ((x.toNat : Int) * 2 ^ k) = ((x.toNat * 2 ^ k : Nat) : Int) by simp]
    rfl
  rw [rot, cast, mask_eq_emod, Pg.rot, BitVec.rotateLeft_eq_rotateLeftAux_of_lt hk, BitVec.rotateLeftAux,
    BitVec.toNat_or, BitVec.toNat_shiftLeft, BitVec.toNat_ushiftRight, Nat.shiftLeft_eq, ← or_mod_two_pow low]
  omega

end Statements

/-! ### `mix`, `final` and the words -/

/-- The Python value of a state of three `uint32`s. --/
def lift (abc : BitVec 32 × BitVec 32 × BitVec 32) : Int × Int × Int :=
  (abc.1.toNat, abc.2.1.toNat, abc.2.2.toNat)

theorem mixRound_toNat (x y z : BitVec 32) (k : Nat) (hk : k < 32) :
    mixRound x.toNat y.toNat z.toNat k =
      (((Pg.mixRound x y z k).1.toNat : Int), ((Pg.mixRound x y z k).2.toNat : Int)) := by
  simp only [mixRound, Pg.mixRound, mask_sub, rot_toNat _ hk, xor_toNat, mask_add]

theorem mix_toNat (a b c : BitVec 32) : mix a.toNat b.toNat c.toNat = lift (Pg.mix a b c) := by
  simp only [mix, Pg.mix, mixRound_toNat _ _ _ _ (by decide : (4 : Nat) < 32),
    mixRound_toNat _ _ _ _ (by decide : (6 : Nat) < 32), mixRound_toNat _ _ _ _ (by decide : (8 : Nat) < 32),
    mixRound_toNat _ _ _ _ (by decide : (16 : Nat) < 32), mixRound_toNat _ _ _ _ (by decide : (19 : Nat) < 32),
    lift]

theorem finalRound_toNat (x y : BitVec 32) (k : Nat) (hk : k < 32) :
    finalRound x.toNat y.toNat k = (Pg.finalRound x y k).toNat := by
  rw [finalRound, Pg.finalRound, xor_toNat, rot_toNat _ hk, mask_sub]

theorem final_toNat (a b c : BitVec 32) : final a.toNat b.toNat c.toNat = lift (Pg.final a b c) := by
  simp only [final, Pg.final, finalRound_toNat _ _ _ (by decide : (14 : Nat) < 32),
    finalRound_toNat _ _ _ (by decide : (11 : Nat) < 32), finalRound_toNat _ _ _ (by decide : (25 : Nat) < 32),
    finalRound_toNat _ _ _ (by decide : (16 : Nat) < 32), finalRound_toNat _ _ _ (by decide : (4 : Nat) < 32),
    finalRound_toNat _ _ _ (by decide : (24 : Nat) < 32), lift]

/-- The `|` of the four shifted bytes of a word is their little-endian sum. --/
theorem word_eq (k0 k1 k2 k3 : UInt8) : word k0 k1 k2 k3 = (Pg.le [k0, k1, k2, k3] : Nat) := by
  have h0 : k0.toNat < 2 ^ 8 := k0.toNat_lt_size
  have h1 : k1.toNat < 2 ^ 8 := k1.toNat_lt_size
  have h2 : k2.toNat < 2 ^ 8 := k2.toNat_lt_size
  have cast : ∀ (k : UInt8) (s : Nat), (k.toNat : Int) * 2 ^ s = ((k.toNat * 2 ^ s : Nat) : Int) := by simp
  rw [word, cast, cast, cast]
  show (((k0.toNat ||| k1.toNat * 2 ^ 8 ||| k2.toNat * 2 ^ 16 ||| k3.toNat * 2 ^ 24 : Nat)) : Int) = _
  rw [or_mul_two_pow (a := k0.toNat) h0, or_mul_two_pow (a := k0.toNat + _) (by omega),
    or_mul_two_pow (a := k0.toNat + _ + _) (by omega)]
  simp only [Pg.le, List.foldr]
  omega

theorem mask_add_word (a : BitVec 32) (k0 k1 k2 k3 : UInt8) :
    mask (a.toNat + word k0 k1 k2 k3) = (a + .ofNat 32 (Pg.le [k0, k1, k2, k3])).toNat := by
  rw [word_eq, mask_eq_emod, BitVec.toNat_add, BitVec.toNat_ofNat]
  omega

/-! ### The loops -/

theorem blocks_toNat (abc : BitVec 32 × BitVec 32 × BitVec 32) (data : List UInt8) :
    blocks (lift abc) data = (lift (Pg.blocks abc data).1, (Pg.blocks abc data).2) := by
  induction abc, data using Pg.blocks.induct with
  | case1 a b c k0 k1 k2 k3 k4 k5 k6 k7 k8 k9 k10 k11 rest ih =>
    simp only [lift, blocks, Pg.blocks, mask_add_word, mix_toNat]
    exact ih
  | case2 abc tail short =>
    rw [Pg.blocks.eq_2 _ _ short, blocks.eq_2 _ _ fun _ _ _ k0 k1 k2 k3 k4 k5 k6 k7 k8 k9 k10 k11 rest _ =>
      short abc.1 abc.2.1 abc.2.2 k0 k1 k2 k3 k4 k5 k6 k7 k8 k9 k10 k11 rest rfl]

/-! ### The tail -/

/-- A guarded tail statement adds its byte, and does nothing past the end, where the byte reads as 0. --/
theorem tailAdd (x : BitVec 32) (tail : List UInt8) (j s : Nat) :
    (if tail.length ≥ j + 1 then mask (x.toNat + byte tail j * 2 ^ s) else (x.toNat : Int)) =
      (x + .ofNat 32 ((tail.getD j 0).toNat * 2 ^ s)).toNat := by
  split
  · rw [byte, mask_eq_emod, BitVec.toNat_add, BitVec.toNat_ofNat]
    push_cast
    omega
  · simp [List.getElem?_eq_none (by omega : tail.length ≤ j)]

theorem tailAdd_byte (x : BitVec 32) (tail : List UInt8) (j : Nat) :
    (if tail.length ≥ j + 1 then mask (x.toNat + byte tail j) else (x.toNat : Int)) =
      (x + .ofNat 32 (tail.getD j 0).toNat).toNat := by
  simpa using tailAdd x tail j 0

theorem le_take_four (l : List UInt8) : Pg.le (l.take 4) =
    (l.getD 0 0).toNat + (l.getD 1 0).toNat * 2 ^ 8 + (l.getD 2 0).toNat * 2 ^ 16 + (l.getD 3 0).toNat * 2 ^ 24 := by
  obtain _ | ⟨k0, _ | ⟨k1, _ | ⟨k2, _ | ⟨k3, l⟩⟩⟩⟩ := l <;> simp [Pg.le] <;> omega

theorem le_take_three (l : List UInt8) : Pg.le (l.take 3) =
    (l.getD 0 0).toNat + (l.getD 1 0).toNat * 2 ^ 8 + (l.getD 2 0).toNat * 2 ^ 16 := by
  obtain _ | ⟨k0, _ | ⟨k1, _ | ⟨k2, l⟩⟩⟩ := l <;> simp [Pg.le] <;> omega

theorem getD_drop (l : List UInt8) (n j : Nat) : (l.drop n).getD j 0 = l.getD (n + j) 0 := by
  simp [List.getElem?_drop]

theorem add_shifted_three (c : BitVec 32) (n0 n1 n2 : Nat) :
    c + (.ofNat 32 (n0 * 2 ^ 8) + (.ofNat 32 (n1 * 2 ^ 16) + .ofNat 32 (n2 * 2 ^ 24))) =
      c + .ofNat 32 ((n0 + n1 * 2 ^ 8 + n2 * 2 ^ 16) * 2 ^ 8) := by
  rw [← BitVec.ofNat_add, ← BitVec.ofNat_add, Nat.add_mul, Nat.add_mul, Nat.mul_assoc, Nat.mul_assoc,
    ← Nat.pow_add, ← Nat.pow_add, Nat.add_assoc]

theorem addTail_toNat (abc : BitVec 32 × BitVec 32 × BitVec 32) (tail : List UInt8) :
    addTail (lift abc) tail = lift (Pg.addTail abc tail) := by
  obtain ⟨a, b, c⟩ := abc
  simp only [addTail, lift, tailAdd, tailAdd_byte]
  split
  · simp only [Pg.addTail, lift, le_take_four, le_take_three, getD_drop, BitVec.ofNat_add, BitVec.add_assoc,
      Nat.reduceAdd, add_shifted_three]
  · simp_all [Pg.addTail, Pg.le, lift]

/-! ### The whole function -/

/-- The start value `0x9E3779B9 + length + 3923095`, masked, is PostgreSQL's. --/
theorem init_toNat (n : Nat) :
    mask (0x9E3779B9 + n + 3923095) = (BitVec.ofNat 32 (0x9E3779B9 + n + 3923095)).toNat := by
  rw [mask_eq_emod, BitVec.toNat_ofNat]
  omega

theorem lift_diag (x : BitVec 32) : ((x.toNat : Int), (x.toNat : Int), (x.toNat : Int)) = lift (x, x, x) := rfl

/-- `hash_bytes` on Python ints returns PostgreSQL's `uint32` `hash_bytes`, for every byte string. --/
theorem hashBytes_eq_pg (data : List UInt8) : hashBytes data = (Pg.hashBytes data).toNat := by
  simp only [hashBytes, Pg.hashBytes, init_toNat, lift_diag, blocks_toNat, addTail_toNat]
  simp only [lift, final_toNat, mask_toNat]

/-- The sign test `h & 0x80000000` of a `uint32` value is its top bit. --/
theorem land_sign {n : Nat} (h : n < 4294967296) :
    n &&& 2147483648 = if 2147483648 ≤ n then 2147483648 else 0 := by
  apply Nat.eq_of_testBit_eq
  intro i
  rw [Nat.testBit_and, show (2147483648 : Nat) = 2 ^ 31 from rfl, Nat.testBit_two_pow]
  by_cases top : 31 = i
  · subst top
    split_ifs <;> simp [Nat.testBit_to_div_mod] <;> omega
  · split_ifs
    · rw [Nat.testBit_two_pow]; simp [top]
    · rw [Nat.zero_testBit]; simp [top]

/-- The signed reading of the hash, `h - 0x100000000` when `h & 0x80000000`, is PostgreSQL's `int4`. --/
theorem signed_hashBytes (data : List UInt8) :
    (if Int.land (hashBytes data) 0x80000000 != 0 then hashBytes data - 0x100000000 else hashBytes data) =
      (Pg.hashBytes data).toInt := by
  have unsigned : hashBytes data = (Pg.hashBytes data).toNat := by
    simp only [hashBytes, Pg.hashBytes, init_toNat, lift_diag, blocks_toNat, addTail_toNat]
    simp only [lift, final_toNat, mask_toNat]
  have land : Int.land ((Pg.hashBytes data).toNat : Int) 2147483648 =
      (((Pg.hashBytes data).toNat &&& 2147483648 : Nat) : Int) := rfl
  have bound := (Pg.hashBytes data).isLt
  rw [unsigned, BitVec.toInt_eq_toNat_cond, land, land_sign bound]
  split_ifs <;> simp_all <;> omega

end TeeSelector.Hash
