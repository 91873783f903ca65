import Mathlib.Logic.Basic

/-! Fixed-width counters as the standard library steps them. -/

namespace Phux

def checkedNext64 (n : UInt64) : Option UInt64 :=
  if n = 18446744073709551615 then none else some (n + 1)

def checkedNext32 (n : UInt32) : Option UInt32 :=
  if n = 4294967295 then none else some (n + 1)

def saturatingNext32 (n : UInt32) : UInt32 := (checkedNext32 n).getD 4294967295

def saturatingNext64 (n : UInt64) : UInt64 := (checkedNext64 n).getD 18446744073709551615

def checkedAdd64 (n : UInt64) (m : Nat) : Option UInt64 :=
  if n.toNat + m < 18446744073709551616 then some (n + UInt64.ofNat m) else none

theorem checkedNext64_eq_some {n m : UInt64} (h : checkedNext64 n = some m) :
    m.toNat = n.toNat + 1 := by
  unfold checkedNext64 at h
  by_cases hn : n = 18446744073709551615
  · simp [hn] at h
  · simp only [hn, ↓reduceIte, Option.some.injEq] at h
    have hlt : n.toNat ≠ 18446744073709551615 := fun hc => hn (UInt64.toNat_inj.mp hc)
    have hbound := n.toNat_lt
    rw [← h, UInt64.toNat_add]
    have hone : (1 : UInt64).toNat = 1 := rfl
    rw [hone]
    omega

theorem exists_checkedNext64 {n : UInt64} (h : n.toNat + 1 < 18446744073709551616) :
    ∃ m, checkedNext64 n = some m := by
  have hne : n ≠ 18446744073709551615 := by
    rintro rfl
    exact absurd h (by decide)
  exact ⟨n + 1, if_neg hne⟩

theorem checkedAdd64_eq_some {n m : UInt64} {k : Nat} (h : checkedAdd64 n k = some m) :
    m.toNat = n.toNat + k := by
  unfold checkedAdd64 at h
  by_cases hlt : n.toNat + k < 18446744073709551616
  · rw [if_pos hlt, Option.some.injEq] at h
    rw [← h, UInt64.toNat_add, UInt64.toNat_ofNat']
    omega
  · rw [if_neg hlt] at h
    cases h

theorem checkedNext32_eq_some {n m : UInt32} (h : checkedNext32 n = some m) :
    m.toNat = n.toNat + 1 := by
  unfold checkedNext32 at h
  by_cases hn : n = 4294967295
  · simp [hn] at h
  · simp only [hn, ↓reduceIte, Option.some.injEq] at h
    have hlt : n.toNat ≠ 4294967295 := fun hc => hn (UInt32.toNat_inj.mp hc)
    have hbound := n.toNat_lt
    rw [← h, UInt32.toNat_add]
    have hone : (1 : UInt32).toNat = 1 := rfl
    rw [hone]
    omega

theorem checkedNext32_of_lt {n : UInt32} (h : n.toNat < 4294967295) :
    checkedNext32 n = some (saturatingNext32 n) ∧ (saturatingNext32 n).toNat = n.toNat + 1 := by
  have hne : n ≠ 4294967295 := by
    rintro rfl
    exact absurd h (by decide)
  have hnext : checkedNext32 n = some (n + 1) := if_neg hne
  have hone : (1 : UInt32).toNat = 1 := rfl
  refine ⟨by rw [saturatingNext32, hnext]; rfl, ?_⟩
  rw [saturatingNext32, hnext, Option.getD_some, UInt32.toNat_add, hone]
  omega

def chunkSeqAfter (n : Nat) : Option UInt32 :=
  if n < 4294967296 then some (UInt32.ofNat n) else none

theorem checkedNext32_ofNat {n : Nat} (h : n < 4294967296) :
    checkedNext32 (UInt32.ofNat n) = chunkSeqAfter (n + 1) := by
  have hmax : UInt32.ofNat n = 4294967295 ↔ n = 4294967295 := by
    rw [← UInt32.toNat_inj, UInt32.toNat_ofNat_of_lt' h]
    rfl
  unfold checkedNext32 chunkSeqAfter
  by_cases hn : n = 4294967295
  · rw [if_pos (hmax.mpr hn), if_neg (by omega)]
  · rw [if_neg fun h => hn (hmax.mp h), if_pos (by omega), UInt32.ofNat_add]
    rfl

end Phux
