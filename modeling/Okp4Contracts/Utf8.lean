import Okp4Contracts.CosmWasm

/-!
# `str::as_bytes` is injective

A string's bytes are the UTF-8 encodings of its characters, one after another. The first byte of
a character's encoding tells its width (below `0x80`, `0xc0`–`0xdf`, `0xe0`–`0xef`, from `0xf0`),
and within one width the bytes spell the code point, so an encoding followed by anything can be
read back. Hence `asBytes` is injective, and the bytes of a concatenation are the concatenation of
the bytes.
-/

namespace Okp4Contracts

/-- The bytes `String.utf8EncodeChar` produces for the code point `n`, as numbers. -/
def utf8Nat (n : Nat) : List Nat :=
  if n ≤ 0x7f then [n]
  else if n ≤ 0x7ff then [n / 64 % 32 + 192, n % 64 + 128]
  else if n ≤ 0xffff then [n / 4096 % 16 + 224, n / 64 % 64 + 128, n % 64 + 128]
  else [n / 262144 % 8 + 240, n / 4096 % 64 + 128, n / 64 % 64 + 128, n % 64 + 128]

section Bits

theorem toNat_toUInt8 (v : UInt32) : v.toUInt8.toNat = v.toNat % 256 := rfl

theorem toNat_shiftRight (v k : UInt32) : (v >>> k).toNat = v.toNat / 2 ^ (k.toNat % 32) := by
  show (v.toBitVec >>> (k % 32).toBitVec.toNat).toNat = _
  rw [BitVec.toNat_ushiftRight, Nat.shiftRight_eq_div_pow]
  exact congrArg (v.toNat / 2 ^ ·) (UInt32.toNat_mod k 32)

theorem or_toNat (a b : UInt8) : (a ||| b).toNat = a.toNat ||| b.toNat := BitVec.toNat_or ..

/-- Masking a byte to its low `k` bits and setting high bits above them adds. -/
theorem mask_or (y : Nat) {m k o : Nat} (hm : m + 1 = 2 ^ k) (hk : k ≤ 8) (ho : 2 ^ k ∣ o) :
    (y % 256 &&& m ||| o) = y % 2 ^ k + o := by
  obtain ⟨a, rfl⟩ := ho
  rw [show m = 2 ^ k - 1 by omega, Nat.and_pow_two_sub_one_eq_mod,
    Nat.mod_mod_of_dvd _ (Nat.pow_dvd_pow 2 hk : 2 ^ k ∣ 2 ^ 8),
    Nat.or_comm, ← Nat.mul_add_lt_is_or (Nat.mod_lt _ (by positivity)), Nat.add_comm]

/-- A byte made by masking the low byte of `u` to its low `k` bits and setting the bits of `o`
above them. -/
theorem toNat_and_or (u : UInt32) {m o : UInt8} {k : Nat} (hm : m.toNat + 1 = 2 ^ k)
    (hk : k ≤ 8) (ho : 2 ^ k ∣ o.toNat) :
    (u.toUInt8 &&& m ||| o).toNat = u.toNat % 2 ^ k + o.toNat := by
  rw [or_toNat, UInt8.and_toNat, toNat_toUInt8]
  exact mask_or _ hm hk ho

end Bits

theorem map_toNat_utf8EncodeChar (c : Char) :
    (String.utf8EncodeChar c).map UInt8.toNat = utf8Nat c.val.toNat := by
  have h1 : c.val ≤ 0x7f ↔ c.val.toNat ≤ 0x7f := Iff.rfl
  have h2 : c.val ≤ 0x7ff ↔ c.val.toNat ≤ 0x7ff := Iff.rfl
  have h3 : c.val ≤ 0xffff ↔ c.val.toNat ≤ 0xffff := Iff.rfl
  -- the leading byte of a two-, three- or four-byte encoding, and a continuation byte
  have lead2 (u : UInt32) : (u.toUInt8 &&& 0x1f ||| 0xc0).toNat = u.toNat % 32 + 192 :=
    toNat_and_or u (k := 5) rfl (by omega) ⟨6, rfl⟩
  have lead3 (u : UInt32) : (u.toUInt8 &&& 0x0f ||| 0xe0).toNat = u.toNat % 16 + 224 :=
    toNat_and_or u (k := 4) rfl (by omega) ⟨14, rfl⟩
  have lead4 (u : UInt32) : (u.toUInt8 &&& 0x07 ||| 0xf0).toNat = u.toNat % 8 + 240 :=
    toNat_and_or u (k := 3) rfl (by omega) ⟨30, rfl⟩
  have cont (u : UInt32) : (u.toUInt8 &&& 0x3f ||| 0x80).toNat = u.toNat % 64 + 128 :=
    toNat_and_or u (k := 6) rfl (by omega) ⟨2, rfl⟩
  have shr6 : (c.val >>> 6).toNat = c.val.toNat / 64 := toNat_shiftRight _ 6
  have shr12 : (c.val >>> 12).toNat = c.val.toNat / 4096 := toNat_shiftRight _ 12
  have shr18 : (c.val >>> 18).toNat = c.val.toNat / 262144 := toNat_shiftRight _ 18
  simp only [String.utf8EncodeChar, utf8Nat, h1, h2, h3]
  split_ifs <;> simp only [List.map, toNat_toUInt8, lead2, lead3, lead4, cont, shr6, shr12, shr18]
  rw [Nat.mod_eq_of_lt (by omega)]

/-- An encoding followed by anything determines its code point and what follows. -/
theorem utf8Nat_append_inj {n m : Nat} (hn : n < 0x110000) (hm : m < 0x110000) {r r' : List Nat}
    (h : utf8Nat n ++ r = utf8Nat m ++ r') : n = m ∧ r = r' := by
  have hnm : n = m := by
    unfold utf8Nat at h
    split_ifs at h <;> simp only [List.cons_append, List.nil_append, List.cons.injEq] at h <;>
      omega
  subst hnm
  exact ⟨rfl, List.append_cancel_left h⟩

theorem toNat_val_lt (c : Char) : c.val.toNat < 0x110000 := by
  have := c.valid
  simp only [UInt32.isValidChar, Nat.isValidChar] at this
  omega

theorem utf8EncodeChar_append_inj {c d : Char} {r r' : List UInt8}
    (h : String.utf8EncodeChar c ++ r = String.utf8EncodeChar d ++ r') : c = d ∧ r = r' := by
  have h' := congrArg (List.map UInt8.toNat) h
  simp only [List.map_append, map_toNat_utf8EncodeChar] at h'
  obtain rfl : c = d :=
    Char.ext (UInt32.toNat.inj (utf8Nat_append_inj (toNat_val_lt c) (toNat_val_lt d) h').1)
  exact ⟨rfl, List.append_cancel_left h⟩

theorem utf8EncodeChar_ne_nil (c : Char) : String.utf8EncodeChar c ≠ [] := by
  rw [← List.length_pos, String.length_utf8EncodeChar]
  exact c.utf8Size_pos

theorem flatMap_utf8EncodeChar_inj {cs ds : List Char}
    (h : cs.flatMap String.utf8EncodeChar = ds.flatMap String.utf8EncodeChar) : cs = ds := by
  induction cs generalizing ds with
  | nil =>
      cases ds with
      | nil => rfl
      | cons d ds => simp [utf8EncodeChar_ne_nil] at h
  | cons c cs ih =>
      cases ds with
      | nil => simp [utf8EncodeChar_ne_nil] at h
      | cons d ds =>
          rw [List.flatMap_cons, List.flatMap_cons] at h
          obtain ⟨rfl, hrest⟩ := utf8EncodeChar_append_inj h
          rw [ih hrest]

theorem asBytes_injective : Function.Injective asBytes := fun s t h => by
  rw [asBytes_eq, asBytes_eq] at h
  exact String.ext (flatMap_utf8EncodeChar_inj h)

@[simp] theorem asBytes_inj {s t : String} : asBytes s = asBytes t ↔ s = t :=
  asBytes_injective.eq_iff

theorem asBytes_append (s t : String) : asBytes (s ++ t) = asBytes s ++ asBytes t := by
  simp only [asBytes_eq, String.data_append, List.flatMap_append]

end Okp4Contracts
