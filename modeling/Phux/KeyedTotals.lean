import Mathlib.Data.List.AList
import Mathlib.Algebra.Order.BigOperators.Group.List
import Mathlib.Algebra.Order.Ring.Nat

/-! Totals over the entries of an association list, and what each update does to them. -/

namespace KeyedTotals

open List

variable {κ ν : Type}

def total (f : κ → ν → Nat) (m : AList fun _ : κ => ν) : Nat :=
  (m.entries.map fun e => f e.1 e.2).sum

@[simp] theorem total_empty (f : κ → ν → Nat) : total f (∅ : AList fun _ : κ => ν) = 0 := rfl

theorem total_indicator (p : ν → Bool) (m : AList fun _ : κ => ν) :
    total (fun _ v => if p v = true then 1 else 0) m =
      (m.entries.filter fun e => p e.2).length := by
  unfold total
  induction m.entries with
  | nil => rfl
  | cons e l ih =>
    simp only [map_cons, sum_cons, ih]
    by_cases hp : p e.2 = true
    · simp [hp, Nat.add_comm]
    · simp [hp]

variable [DecidableEq κ]

variable {k : κ}

theorem dlookup_cons_of_ne {k' : κ} (h : k ≠ k') (v : ν) (l : List (Sigma fun _ : κ => ν)) :
    dlookup k (⟨k', v⟩ :: l) = l.dlookup k :=
  dlookup_cons_ne l (⟨k', v⟩ : Sigma fun _ : κ => ν) h

variable {l : List (Sigma fun _ : κ => ν)}

theorem sum_kerase (f : κ → ν → Nat) {v : ν} (h : l.dlookup k = some v) :
    f k v + ((l.kerase k).map fun e => f e.1 e.2).sum = (l.map fun e => f e.1 e.2).sum := by
  induction l with
  | nil => cases h
  | cons e l ih =>
    obtain ⟨k', v'⟩ := e
    by_cases hk : k = k'
    · subst hk
      rw [dlookup_cons_eq] at h
      cases h
      simp
    · rw [dlookup_cons_of_ne hk] at h
      have hl := ih h
      have hcons : kerase k (⟨k', v'⟩ :: l) = ⟨k', v'⟩ :: l.kerase k := kerase_cons_ne hk
      simp only [hcons, map_cons, sum_cons]
      omega

theorem sum_kreplace (f : κ → ν → Nat) {v : ν}
    (h : l.dlookup k = some v) (w : ν) : ((l.kreplace k w).map fun e => f e.1 e.2).sum + f k v =
      (l.map fun e => f e.1 e.2).sum + f k w := by
  induction l with
  | nil => cases h
  | cons e l ih =>
    obtain ⟨k', v'⟩ := e
    by_cases hk : k = k'
    · subst hk
      rw [dlookup_cons_eq] at h
      cases h
      simp [kreplace, lookmap_cons_some]
      omega
    · rw [dlookup_cons_of_ne hk] at h
      have hl := ih h
      have hcons : kreplace k w (⟨k', v'⟩ :: l) = ⟨k', v'⟩ :: l.kreplace k w := by
        simp [kreplace, lookmap_cons_none, hk]
      simp only [hcons, map_cons, sum_cons]
      omega

theorem dlookup_kreplace {k' : κ} {w : ν} : (l.kreplace k w).dlookup k' =
      if k' = k then (l.dlookup k).map (fun _ => w) else l.dlookup k' := by
  induction l with
  | nil => simp [kreplace]
  | cons e l ih =>
    obtain ⟨j, v⟩ := e
    by_cases hj : k = j
    · subst hj
      have hcons : kreplace k w (⟨k, v⟩ :: l) = ⟨k, w⟩ :: l := by simp [kreplace, lookmap_cons_some]
      by_cases hk : k' = k
      · subst hk
        simp [hcons]
      · rw [hcons, if_neg hk, dlookup_cons_of_ne hk, dlookup_cons_of_ne hk]
    · have hcons : kreplace k w (⟨j, v⟩ :: l) = ⟨j, v⟩ :: l.kreplace k w := by
        simp [kreplace, lookmap_cons_none, hj]
      rw [hcons]
      by_cases hk : k' = j
      · subst hk
        rw [if_neg (Ne.symm hj), dlookup_cons_eq, dlookup_cons_eq]
      · rw [dlookup_cons_of_ne hk, dlookup_cons_of_ne hk, ih, dlookup_cons_of_ne hj]

variable {f : κ → ν → Nat} {m : AList fun _ : κ => ν} {v : ν}

theorem total_erase (f : κ → ν → Nat) (h : m.lookup k = some v) :
    f k v + total f (m.erase k) = total f m := sum_kerase f h

theorem total_replace (f : κ → ν → Nat) (h : m.lookup k = some v) (w : ν) :
    total f (m.replace k w) + f k v = total f m + f k w := sum_kreplace f h w

theorem total_insert (f : κ → ν → Nat) (h : m.lookup k = none) (v : ν) :
    total f (m.insert k v) = f k v + total f m := by
  unfold total
  rw [AList.entries_insert_of_notMem (AList.lookup_eq_none.mp h)]
  simp

theorem lookup_replace (m : AList fun _ : κ => ν) (k k' : κ) (w : ν) : (m.replace k w).lookup k' =
      if k' = k then (m.lookup k).map (fun _ => w) else m.lookup k' :=
  dlookup_kreplace

theorem le_total (f : κ → ν → Nat) (h : m.lookup k = some v) : f k v ≤ total f m := by
  have herase := total_erase f h
  omega

variable {g : κ → ν → Nat}

theorem total_mono (h : ∀ k v, m.lookup k = some v → f k v ≤ g k v) : total f m ≤ total g m := by
  unfold total
  refine sum_le_sum fun e he => h e.1 e.2 ?_
  exact mem_dlookup m.nodupKeys he

theorem total_congr (h : ∀ k v, m.lookup k = some v → f k v = g k v) : total f m = total g m :=
  Nat.le_antisymm (total_mono fun k v hv => Nat.le_of_eq (h k v hv))
    (total_mono fun k v hv => Nat.le_of_eq (h k v hv).symm)

end KeyedTotals
