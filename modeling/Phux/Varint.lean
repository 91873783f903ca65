import Phux.FieldList
import Phux.WirePrimitives

/-! The varints of the wire. A successful read takes a base-128 number and keeps
what of its value fits the word. -/

namespace Phux

open ByteReader List

def readVarint : Decode UInt64 := ByteReader.readVarint .unexpectedEof .lengthOverflow

def writeVarint (value : UInt64) : Bytes := ByteReader.writeVarint value.toNat

/-- The number the bytes are in base 128, least significant group first, when the
continuation bit is set on every group but the last. -/
def varintValue : Bytes → Option Nat
  | [] => none
  | b :: bs =>
    if b.toNat < 128 then if bs = [] then some b.toNat else none
    else (varintValue bs).map (b.toNat - 128 + 128 * ·)

variable {bs : Bytes} {v : Nat}

theorem varintValue_lt (h : varintValue bs = some v) : v < 128 ^ bs.length := by
  induction bs generalizing v with
  | nil => simp [varintValue] at h
  | cons b bs ih =>
    have hlt := b.toNat_lt
    rw [length_cons, pow_succ]
    rw [varintValue] at h
    split at h
    · obtain ⟨rfl, rfl⟩ : bs = [] ∧ b.toNat = v := by simpa using h
      simpa
    · obtain ⟨w, hw, rfl⟩ := Option.map_eq_some_iff.mp h
      have := ih hw
      omega

/-- The groups still to be read carry their value at weight `2 ^ s`. -/
theorem varintLoop_value {ε : Type} {eof overflow : ε} {k s : Nat} {r n : UInt64} {c d : Cursor}
    (hr : r.toNat < 2 ^ s) (hs : s + 7 * k = 70) (h : varintLoop eof overflow k r s c = .ok (n, d)) :
    ∃ bs rest v, c.rest = bs ++ rest ∧ d = c.advance bs.length ∧ bs.length ≤ k ∧
      varintValue bs = some v ∧ n = UInt64.ofNat (r.toNat + v * 2 ^ s) := by
  induction k generalizing s r c with
  | zero => cases h
  | succ k ih =>
    rw [varintLoop, bind_eq_ok] at h
    obtain ⟨read, c', htake, hnext⟩ := h
    obtain ⟨hlen, rfl, rfl⟩ := take_eq_ok.mp htake
    obtain ⟨b, more, hrest⟩ := exists_cons_of_length_pos hlen
    simp only [hrest, take_succ_cons, take_zero, headD_cons] at hnext
    by_cases hb : b.toNat < 128
    · have hgroup := last_group b.toNat hb
      rw [UInt8.ofNat_toNat] at hgroup
      have hor := group_or hr hb (by omega)
      rw [UInt8.ofNat_toNat] at hor
      rw [hgroup.1, hgroup.2, if_pos rfl, hor] at hnext
      obtain ⟨rfl, rfl⟩ := pure_eq_ok.mp hnext
      exact ⟨[b], more, b.toNat, hrest, rfl, by simp, by simp [varintValue, hb], rfl⟩
    · have hg : b.toNat - 128 < 128 := by have := b.toNat_lt; omega
      have hgroup := inner_group _ hg
      rw [Nat.sub_add_cancel (by omega), UInt8.ofNat_toNat] at hgroup
      have hpow : 2 ^ (s + 7) = 128 * 2 ^ s := by rw [pow_add]; omega
      have hbelow : r.toNat + (b.toNat - 128) * 2 ^ s < 2 ^ (s + 7) := by
        have : (b.toNat - 128) * 2 ^ s ≤ 127 * 2 ^ s := Nat.mul_le_mul_right _ (by omega)
        omega
      rw [hgroup.1, if_neg hgroup.2, group_or hr hg (by omega)] at hnext
      obtain ⟨bs, rest, w, hsplit, rfl, hle, hw, rfl⟩ :=
        ih (Nat.lt_of_le_of_lt (by rw [UInt64.toNat_ofNat']; exact Nat.mod_le _ _) hbelow)
          (by omega) hnext
      have hmore : more = bs ++ rest := by simpa [Cursor.advance, hrest] using hsplit
      refine ⟨b :: bs, rest, b.toNat - 128 + 128 * w, by rw [hrest, hmore, cons_append], ?_,
        by simpa, by simp [varintValue, hb, hw], ?_⟩
      · rw [Cursor.advance_advance, length_cons, Nat.add_comm]
      · rw [UInt64.ofNat_add, UInt64.ofNat_toNat, ← UInt64.ofNat_add, hpow]
        rw [Nat.add_mul, Nat.mul_comm 128 w, Nat.mul_assoc, Nat.add_assoc]

end Phux
