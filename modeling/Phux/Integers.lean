import Phux.ByteReader

/-! Big-endian integers of any width and base-128 varints, with the readers
that take them back. -/

namespace ByteReader

open List Nat UInt8

variable {ε : Type} {limit : Nat}

def beBytes : Nat → Nat → Bytes
  | 0, _ => []
  | k + 1, n => beBytes k (n / 256) ++ [UInt8.ofNat (n % 256)]

def ofBeBytes (bs : Bytes) : Nat := bs.foldl (fun acc b => acc * 256 + b.toNat) 0

@[simp] theorem length_beBytes {k n : Nat} : (beBytes k n).length = k := by
  induction k generalizing n with
  | zero => rfl
  | succ k ih => simp [beBytes, ih]

theorem ofBeBytes_beBytes {k n : Nat} (h : n < 256 ^ k) : ofBeBytes (beBytes k n) = n := by
  induction k generalizing n with
  | zero =>
    have : n = 0 := by simpa using h
    simp [beBytes, ofBeBytes, this]
  | succ k ih =>
    have hd : n / 256 < 256 ^ k := Nat.div_lt_of_lt_mul (by rw [Nat.pow_succ] at h; omega)
    have hh := ih hd
    simp only [ofBeBytes] at hh
    have hb : (ofNat (n % 256)).toNat = n % 256 := by
      simp only [toNat_ofNat']
      omega
    simp only [beBytes, ofBeBytes, foldl_append, hh, foldl_cons, foldl_nil, hb]
    omega

theorem ofBeBytes_lt (bs : Bytes) : ofBeBytes bs < 256 ^ bs.length := by
  suffices hfold : ∀ acc, bs.foldl (fun acc b => acc * 256 + b.toNat) acc <
      (acc + 1) * 256 ^ bs.length by
    simpa [ofBeBytes] using hfold 0
  induction bs with
  | nil =>
    intro acc
    simp
  | cons b bs ih =>
    intro acc
    have hb := b.toNat_lt
    have hle : (acc * 256 + b.toNat + 1) * 256 ^ bs.length ≤ (acc + 1) * 256 * 256 ^ bs.length :=
      mul_le_mul_right _ (by omega)
    rw [foldl_cons, length_cons, pow_succ, mul_comm (256 ^ bs.length), ← mul_assoc]
    exact Nat.lt_of_lt_of_le (ih _) hle

def readBe (eof : ε) (k : Nat) : Reader ε Nat := do
  let bs ← take eof k
  pure (ofBeBytes bs)

theorem reads_be (eof : ε) {k n : Nat} (h : n < 256 ^ k) :
    Reads limit (readBe eof k) (beBytes k n) n := by
  have ht : Reads limit _ _ _ := reads_take eof (beBytes k n)
  rw [length_beBytes] at ht
  have hm := ht.map ofBeBytes
  rwa [ofBeBytes_beBytes h] at hm

/-- Seven value bits to a byte, least significant group first; the high bit
marks that more groups follow. A `u64` needs at most ten groups. -/
def varintGroups : Nat → Nat → Bytes
  | 0, _ => []
  | k + 1, v =>
    if v / 128 = 0 then [UInt8.ofNat (v % 128)]
    else UInt8.ofNat (v % 128 + 128) :: varintGroups k (v / 128)

def writeVarint (v : Nat) : Bytes := varintGroups 10 v

theorem length_varintGroups_le (k v : Nat) : (varintGroups k v).length ≤ k := by
  induction k generalizing v with
  | zero => simp [varintGroups]
  | succ k ih =>
    have hrest := ih (v / 128)
    rw [varintGroups]
    split
    · simp
    · rw [length_cons]
      omega

/-- The loop of `readVarint`, with the groups read so far in `result` and
`10 - fuel` groups consumed. -/
def varintLoop (eof overflow : ε) : Nat → UInt64 → Nat → Reader ε UInt64
  | 0, _, _ => throw overflow
  | k + 1, result, shift => do
    let bs ← take eof 1
    let byte := bs.headD 0
    let result := result ||| ((byte &&& 0x7f).toUInt64 <<< UInt64.ofNat shift)
    if byte &&& 0x80 = 0 then pure result else varintLoop eof overflow k result (shift + 7)

def readVarint (eof overflow : ε) : Reader ε UInt64 := varintLoop eof overflow 10 0 0

theorem low_bits_add {a b s : Nat} (h : a < 2 ^ s) : a ||| b * 2 ^ s = a + b * 2 ^ s := by
  rw [Nat.or_comm, Nat.mul_comm, ← Nat.two_pow_add_eq_or_of_lt h, Nat.add_comm]

/-- Bits that a group would put past the top of the word are lost. -/
theorem group_or {result : UInt64} {g s : Nat} (hr : result.toNat < 2 ^ s) (hg : g < 128)
    (hs : s < 64) : result ||| ((ofNat g).toUInt64 <<< UInt64.ofNat s) =
      UInt64.ofNat (result.toNat + g * 2 ^ s) := by
  apply UInt64.toNat_inj.mp
  have hword : 2 ^ 64 = 2 ^ (64 - s) * 2 ^ s := by rw [← pow_add, Nat.sub_add_cancel (by omega)]
  have hshift : ((ofNat g).toUInt64 <<< .ofNat s).toNat = g % 2 ^ (64 - s) * 2 ^ s := by
    simp only [UInt64.toNat_shiftLeft, toNat_toUInt64, toNat_ofNat',
      UInt64.toNat_ofNat', shiftLeft_eq]
    rw [mod_eq_of_lt (by omega : g < 2 ^ 8), mod_eq_of_lt (by omega : s < 2 ^ 64),
      mod_eq_of_lt hs, hword, mul_mod_mul_right]
  have hkept : result.toNat + g % 2 ^ (64 - s) * 2 ^ s < 2 ^ 64 := by
    rw [← low_bits_add hr, ← hshift, ← UInt64.toNat_or]
    exact UInt64.toNat_lt _
  rw [UInt64.toNat_or, hshift, low_bits_add hr, UInt64.toNat_ofNat', ← add_mod_mod, hword,
    mul_mod_mul_right, ← hword, mod_eq_of_lt hkept]

theorem last_group : ∀ g < 128, ofNat g &&& 0x7f = ofNat g ∧ ofNat g &&& 0x80 = 0 := by decide

theorem inner_group : ∀ g < 128, ofNat (g + 128) &&& 0x7f = ofNat g ∧
    ofNat (g + 128) &&& 0x80 ≠ 0 := by
  decide

/-- The groups still to be read carry `v` at weight `2 ^ s`; what was read lies
below that weight. -/
theorem reads_varintLoop (eof overflow : ε) {k v s : Nat} {r : UInt64}
    (hk : v < 128 ^ k) (h0 : 0 < k) (hs : s + 7 * (k - 1) < 64) (hr : r.toNat < 2 ^ s)
    (hfit : r.toNat + v * 2 ^ s < 2 ^ 64) :
    Reads limit (varintLoop eof overflow k r s) (varintGroups k v)
      (UInt64.ofNat (r.toNat + v * 2 ^ s)) := by
  induction k generalizing v s r with
  | zero => omega
  | succ k ih =>
    have hdm : v = v / 128 * 128 + v % 128 := by omega
    have hg : v % 128 < 128 := by omega
    have hle : v % 128 * 2 ^ s ≤ v * 2 ^ s := mul_le_mul_right _ (by omega)
    have hor := group_or (g := v % 128) hr hg (by omega)
    by_cases hv : v / 128 = 0
    · have hvm : v % 128 = v := by omega
      have hgr : varintGroups (k + 1) v = [ofNat v] := by simp [varintGroups, hv, hvm]
      have hb := last_group v (by omega)
      rw [hvm] at hor
      rw [hgr]
      rw [← append_nil [ofNat v]]
      refine (reads_take eof [ofNat v]).bind ?_
      simp only [headD_cons, hb.1, hb.2, if_true, hor]
      exact reads_pure _
    · have hgr : varintGroups (k + 1) v = [ofNat (v % 128 + 128)] ++ varintGroups k (v / 128) := by
        simp [varintGroups, hv]
      have ht : Reads limit _ _ _ := reads_take eof [ofNat (v % 128 + 128)]
      have hb := inner_group (v % 128) hg
      have hk0 : 0 < k := by
        rcases Nat.eq_zero_or_pos k with rfl | h
        · simp at hk
          omega
        · exact h
      have hpow : 2 ^ (s + 7) = 128 * 2 ^ s := by rw [pow_add]; omega
      have hlt : r.toNat + v % 128 * 2 ^ s < 2 ^ (s + 7) := by
        have : v % 128 * 2 ^ s ≤ 127 * 2 ^ s := mul_le_mul_right _ (by omega)
        omega
      have hsum : r.toNat + v % 128 * 2 ^ s + v / 128 * 2 ^ (s + 7) = r.toNat + v * 2 ^ s := by
        have : v * 2 ^ s = v / 128 * 128 * 2 ^ s + v % 128 * 2 ^ s := by rw [← Nat.add_mul, ← hdm]
        rw [this, hpow, mul_assoc]
        omega
      have hn : (UInt64.ofNat (r.toNat + v % 128 * 2 ^ s)).toNat = r.toNat + v % 128 * 2 ^ s := by
        rw [UInt64.toNat_ofNat']
        omega
      have hh := ih (v := v / 128) (s := s + 7) (r := .ofNat (r.toNat + v % 128 * 2 ^ s))
        (Nat.div_lt_of_lt_mul (by rw [Nat.pow_succ] at hk; omega)) hk0 (by omega)
        (by rw [hn]; exact hlt) (by rw [hn, hsum]; exact hfit)
      rw [hn, hsum] at hh
      rw [hgr]
      refine ht.bind ?_
      simp only [headD_cons, hb.1, hb.2, if_false, hor]
      exact hh

theorem reads_varint {eof overflow : ε} {v : Nat} (h : v < 2 ^ 64) :
    Reads limit (readVarint eof overflow) (writeVarint v) (UInt64.ofNat v) := by
  have hh : Reads limit _ _ _ := reads_varintLoop eof overflow (k := 10) (v := v) (s := 0) (r := 0)
    (by omega) (by omega) (by omega) (by decide) (by simpa using h)
  simpa [readVarint, writeVarint] using hh

end ByteReader
