import Mathlib.Logic.Function.Basic

/-! Tables from keys to values, as the partial functions they denote. -/

abbrev Table (κ ν : Type) := κ → Option ν

namespace Table

variable {κ ν : Type} [DecidableEq κ]

def insert (t : Table κ ν) (k : κ) (v : ν) : Table κ ν := Function.update t k (some v)

def erase (t : Table κ ν) (k : κ) : Table κ ν := Function.update t k none

variable {t : Table κ ν} {v : ν} {k : κ}

@[simp] theorem insert_self : t.insert k v k = some v := by simp [insert]

@[simp] theorem insert_of_ne {k' : κ} (h : k' ≠ k) : t.insert k v k' = t k' := by simp [insert, h]

theorem insert_known (h : t k = some v) : t.insert k v = t := by
  rw [insert, ← h, Function.update_eq_self]

@[simp] theorem erase_self (t : Table κ ν) (k : κ) : t.erase k k = none := by simp [erase]

@[simp] theorem erase_of_ne {k' : κ} (h : k' ≠ k) (t : Table κ ν) : t.erase k k' = t k' := by
  simp [erase, h]

theorem erase_eq_some {k' : κ} : t.erase k k' = some v ↔ t k' = some v ∧ k' ≠ k := by
  by_cases h : k' = k
  · simp [h]
  · simp [h]

end Table
