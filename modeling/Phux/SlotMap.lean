import Mathlib.Data.List.Nodup

/-! Slot maps: values under keys that name a slot and the version it was filled in.
Freed slots are filled again, the last freed first. -/

structure SlotKey (τ : Type) where
  idx : Nat
  version : Nat

instance (τ : Type) : DecidableEq (SlotKey τ) := fun a b =>
  decidable_of_iff (a.idx = b.idx ∧ a.version = b.version) (by cases a; cases b; simp)

structure Slot (ν : Type) where
  version : Nat
  value : Option ν

structure SlotMap (τ ν : Type) where
  slots : List (Slot ν)
  free : List Nat
  vacant : ∀ i ∈ free, ∃ version, slots[i]? = some ⟨version, none⟩
  nodup : free.Nodup

namespace SlotMap

open List

variable {τ ν : Type}

variable {m : SlotMap τ ν} {k : SlotKey τ} {v : ν} {slot : Slot ν}

def empty : SlotMap τ ν := ⟨[], [], by simp, by simp⟩

def get (m : SlotMap τ ν) (k : SlotKey τ) : Option ν :=
  match m.slots[k.idx]? with
  | none => none
  | some slot => if slot.version = k.version then slot.value else none

def contains (m : SlotMap τ ν) (k : SlotKey τ) : Bool := (m.get k).isSome

def nextKey (m : SlotMap τ ν) : SlotKey τ :=
  match m.free with
  | [] => ⟨m.slots.length, 1⟩
  | i :: _ => ⟨i, (m.slots[i]?.elim 0 Slot.version) + 1⟩

variable {slots : List (Slot ν)} {i : Nat}

theorem vacant_set {j : Nat} (hne : j ≠ i) (h : ∃ version, slots[j]? = some ⟨version, none⟩) :
    ∃ version, (slots.set i slot)[j]? = some ⟨version, none⟩ := by
  obtain ⟨version, hj⟩ := h
  exact ⟨version, by rw [getElem?_set_ne (Ne.symm hne), hj]⟩

def insert (m : SlotMap τ ν) (v : ν) : SlotMap τ ν :=
  match hfree : m.free with
  | [] => ⟨m.slots ++ [⟨1, some v⟩], [], by simp, by simp⟩
  | i :: rest =>
    ⟨m.slots.set i ⟨m.nextKey.version, some v⟩, rest,
      fun j hj => vacant_set (fun he => (List.nodup_cons.mp (hfree ▸ m.nodup)).1 (he ▸ hj))
        (m.vacant j (hfree ▸ List.mem_cons_of_mem i hj)),
      (List.nodup_cons.mp (hfree ▸ m.nodup)).2⟩

theorem get_eq_some : m.get k = some v ↔ m.slots[k.idx]? = some ⟨k.version, some v⟩ := by
  unfold get
  cases hslot : m.slots[k.idx]? with
  | none => simp
  | some slot =>
    obtain ⟨version, value⟩ := slot
    by_cases hv : version = k.version
    · simp [hv]
    · simp [hv]

theorem idx_not_mem_free (h : m.get k = some v) : k.idx ∉ m.free := by
  intro hmem
  obtain ⟨version, hvacant⟩ := m.vacant k.idx hmem
  rw [get_eq_some, hvacant] at h
  cases h

def modify (m : SlotMap τ ν) (k : SlotKey τ) (f : ν → ν) : SlotMap τ ν :=
  match hget : m.get k with
  | none => m
  | some v =>
    ⟨m.slots.set k.idx ⟨k.version, some (f v)⟩, m.free,
      fun j hj => vacant_set (fun he => idx_not_mem_free hget (he ▸ hj)) (m.vacant j hj), m.nodup⟩

theorem vacant_freed {version : Nat} (h : slots[i]? = some slot) :
    ∃ version', (slots.set i ⟨version, none⟩)[i]? = some ⟨version', none⟩ := by
  have hlt : i < slots.length := (List.getElem?_eq_some_iff.mp h).1
  exact ⟨version, by simp [hlt]⟩

def remove (m : SlotMap τ ν) (k : SlotKey τ) : SlotMap τ ν :=
  match hget : m.get k with
  | none => m
  | some _ =>
    ⟨m.slots.set k.idx ⟨k.version + 1, none⟩, k.idx :: m.free, fun j hj => by
        by_cases he : j = k.idx
        · subst he
          exact vacant_freed (get_eq_some.mp hget)
        · exact vacant_set he (m.vacant j ((List.mem_cons.mp hj).resolve_left he)),
      List.nodup_cons.mpr ⟨idx_not_mem_free hget, m.nodup⟩⟩

def entries (m : SlotMap τ ν) : List (SlotKey τ × ν) :=
  m.slots.zipIdx.filterMap fun (slot, i) => slot.value.map fun v => (⟨i, slot.version⟩, v)

@[simp] theorem get_empty (k : SlotKey τ) : (empty : SlotMap τ ν).get k = none := rfl

theorem get_nextKey (m : SlotMap τ ν) : m.get m.nextKey = none := by
  unfold nextKey
  split
  · simp [get]
  · rename_i i rest hfree
    obtain ⟨version, hvacant⟩ := m.vacant i (by simp [hfree])
    simp [get, hvacant]

theorem get_of_set {m' : SlotMap τ ν} (hlt : i < m.slots.length)
    (h : m'.slots = m.slots.set i slot) (k : SlotKey τ) :
    m'.get k = if k.idx = i then (if slot.version = k.version then slot.value else none)
      else m.get k := by
  unfold get
  rw [h]
  by_cases hi : k.idx = i
  · subst hi
    simp [hlt]
  · rw [getElem?_set_ne (Ne.symm hi), if_neg hi]

theorem key_ext_iff {k' : SlotKey τ} : k = k' ↔ k.idx = k'.idx ∧ k.version = k'.version := by
  cases k
  cases k'
  simp

theorem insert_slots_of_nil (h : m.free = []) (v : ν) :
    (m.insert v).slots = m.slots ++ [⟨1, some v⟩] ∧ (m.insert v).free = [] := by
  unfold insert
  split
  · exact ⟨rfl, rfl⟩
  · rename_i hcons
    rw [h] at hcons
    cases hcons

theorem insert_slots_of_cons {rest : List Nat} (h : m.free = i :: rest) (v : ν) :
    (m.insert v).slots = m.slots.set i ⟨m.nextKey.version, some v⟩ := by
  unfold insert
  split
  · rename_i hnil
    rw [h] at hnil
    cases hnil
  · rename_i hcons
    rw [h] at hcons
    cases hcons
    rfl

theorem get_insert (m : SlotMap τ ν) (v : ν) (k : SlotKey τ) :
    (m.insert v).get k = if k = m.nextKey then some v else m.get k := by
  cases hfree : m.free with
  | nil =>
    have hkey : m.nextKey = ⟨m.slots.length, 1⟩ := by simp [nextKey, hfree]
    obtain ⟨hslots, -⟩ := insert_slots_of_nil hfree v
    simp only [hkey, key_ext_iff]
    unfold get
    rw [hslots]
    rcases Nat.lt_trichotomy k.idx m.slots.length with hlt | heq | hgt
    · rw [getElem?_append_left hlt, if_neg (by omega)]
    · by_cases hv : k.version = 1
      · simp [heq, hv]
      · simp [heq, hv, Ne.symm hv]
    · have hout : m.slots[k.idx]? = none := getElem?_eq_none (by omega)
      have hout' : (m.slots ++ [⟨1, some v⟩])[k.idx]? = none := getElem?_eq_none (by simp; omega)
      rw [hout, hout', if_neg (by omega)]
  | cons i rest =>
    obtain ⟨version, hvacant⟩ := m.vacant i (by simp [hfree])
    have hlt : i < m.slots.length := (List.getElem?_eq_some_iff.mp hvacant).1
    have hidx : m.nextKey.idx = i := by simp [nextKey, hfree]
    rw [get_of_set hlt (insert_slots_of_cons hfree v) k]
    simp only [key_ext_iff, hidx]
    by_cases hi : k.idx = i
    · by_cases hv : k.version = m.nextKey.version
      · simp [hi, hv]
      · have hnone : m.get k = none := by simp [get, hi, hvacant]
        simp [hi, hv, Ne.symm hv, hnone]
    · simp [hi]

theorem get_of_set_held {m' : SlotMap τ ν} (hget : m.get k = some v)
    (h : m'.slots = m.slots.set k.idx slot) (hslot : slot.value = none ∨ slot.version = k.version)
    (k' : SlotKey τ) : m'.get k' = if k' = k then slot.value else m.get k' := by
  have hheld := get_eq_some.mp hget
  rw [get_of_set (List.getElem?_eq_some_iff.mp hheld).1 h k']
  simp only [key_ext_iff]
  by_cases hi : k'.idx = k.idx
  · by_cases hv : k'.version = k.version
    · rcases hslot with hs | hs <;> simp [hi, hv, hs]
    · have hnone : m.get k' = none := by simp [get, hi, hheld, Ne.symm hv]
      rcases hslot with hs | hs <;> simp [hi, hv, hnone, hs, Ne.symm hv]
  · simp [hi]

theorem get_modify (m : SlotMap τ ν) (k : SlotKey τ) (f : ν → ν) (k' : SlotKey τ) :
    (m.modify k f).get k' = if k' = k then (m.get k).map f else m.get k' := by
  unfold modify
  split
  · rename_i hget
    by_cases hk : k' = k
    · rw [if_pos hk, hk, hget]
      rfl
    · rw [if_neg hk]
  · rename_i v hget
    rw [get_of_set_held hget rfl (.inr rfl), hget]
    rfl

variable {f : ν → ν}

theorem map_get_modify {α : Type} {g : ν → α} (hg : ∀ v, g (f v) = g v)
    (m : SlotMap τ ν) (k k' : SlotKey τ) : ((m.modify k f).get k').map g = (m.get k').map g := by
  rw [get_modify]
  by_cases hk : k' = k
  · subst hk
    cases m.get k' with
    | none => simp
    | some v => simp [hg]
  · rw [if_neg hk]

theorem get_remove (m : SlotMap τ ν) (k k' : SlotKey τ) :
    (m.remove k).get k' = if k' = k then none else m.get k' := by
  unfold remove
  split
  · rename_i hget
    by_cases hk : k' = k
    · rw [if_pos hk, hk, hget]
    · rw [if_neg hk]
  · rename_i v hget
    rw [get_of_set_held hget rfl (.inl rfl)]

theorem get_insert_of_get (h : m.get k = some v) {v' : ν} : (m.insert v').get k = some v := by
  rw [get_insert, if_neg, h]
  intro he
  rw [he, get_nextKey] at h
  cases h

section

/-! What holds of an entry, by where the entry comes from. -/

variable {P : SlotKey τ → ν → Prop} {k' : SlotKey τ} {v' : ν}

@[elab_as_elim]
theorem of_get_insert (h : (m.insert v).get k = some v') (hnew : P m.nextKey v)
    (hold : m.get k = some v' → P k v') : P k v' := by
  rw [get_insert] at h
  split at h
  · rename_i hk
    cases h
    exact hk ▸ hnew
  · exact hold h

@[elab_as_elim]
theorem of_get_modify (h : (m.modify k f).get k' = some v') (hk : ∀ v, m.get k = some v → P k (f v))
    (hold : k' ≠ k → m.get k' = some v' → P k' v') : P k' v' := by
  rw [get_modify] at h
  split at h
  · rename_i he
    obtain ⟨v, hv, rfl⟩ := Option.map_eq_some_iff.mp h
    exact he ▸ hk v hv
  · exact hold ‹_› h

end

theorem get_foldl_remove (ks : List (SlotKey τ)) (m : SlotMap τ ν) (k : SlotKey τ) :
    (ks.foldl remove m).get k = if k ∈ ks then none else m.get k := by
  induction ks generalizing m with
  | nil => simp
  | cons k' ks ih =>
    rw [foldl_cons, ih, get_remove]
    by_cases hmem : k ∈ ks
    · simp [hmem]
    · by_cases hk : k = k'
      · simp [hk]
      · simp [hk, hmem]

theorem modify_eq_self (h : m.get k = some v) (hf : f v = v) : m.modify k f = m := by
  obtain ⟨slots, free, vacant, nodup⟩ := m
  unfold modify
  split
  · rfl
  · rename_i v' hget
    rw [h] at hget
    cases hget
    obtain ⟨hlt, hslot⟩ := List.getElem?_eq_some_iff.mp (get_eq_some.mp h)
    have hset : slots.set k.idx ⟨k.version, some v⟩ = slots := by
      rw [← hslot]
      exact set_getElem_self hlt
    simp [hf, hset]

theorem modify_slots (h : m.get k = some v) (f : ν → ν) :
    (m.modify k f).slots = m.slots.set k.idx ⟨k.version, some (f v)⟩ := by
  unfold modify
  split
  · rename_i hget
    rw [h] at hget
    cases hget
  · rename_i hget
    rw [h] at hget
    cases hget
    rfl

theorem modify_free (m : SlotMap τ ν) (k : SlotKey τ) (f : ν → ν) :
    (m.modify k f).free = m.free := by
  unfold modify
  split
  all_goals rfl

theorem insert_free (m : SlotMap τ ν) (v : ν) : (m.insert v).free = m.free.tail := by
  unfold insert
  split
  · rename_i hfree
    simp [hfree]
  · rename_i hfree
    simp [hfree]

theorem modify_insert (m : SlotMap τ ν) (v : ν) (f : ν → ν) :
    (m.insert v).modify m.nextKey f = m.insert (f v) := by
  have hget : (m.insert v).get m.nextKey = some v := by simp [get_insert]
  have hslots : ((m.insert v).modify m.nextKey f).slots = (m.insert (f v)).slots := by
    rw [modify_slots hget]
    cases hfree : m.free with
    | nil => simp [(insert_slots_of_nil hfree _).1, nextKey, hfree]
    | cons i rest =>
      rw [insert_slots_of_cons hfree, insert_slots_of_cons hfree]
      simp [nextKey, hfree]
  have hfree : ((m.insert v).modify m.nextKey f).free = (m.insert (f v)).free := by
    rw [modify_free, insert_free, insert_free]
  generalize (m.insert v).modify m.nextKey f = m₁ at hslots hfree
  generalize m.insert (f v) = m₂ at hslots hfree
  obtain ⟨slots₁, free₁, _, _⟩ := m₁
  obtain ⟨slots₂, free₂, _, _⟩ := m₂
  cases hslots
  cases hfree
  rfl

theorem mem_entries : (k, v) ∈ m.entries ↔ m.get k = some v := by
  rw [get_eq_some]
  simp only [entries, mem_filterMap, Option.map_eq_some_iff, Prod.mk.injEq, Prod.exists,
    mem_zipIdx_iff_getElem?]
  constructor
  · rintro ⟨slot, i, hslot, v', hvalue, rfl, rfl⟩
    rw [hslot, ← hvalue]
  · intro h
    exact ⟨_, k.idx, h, v, rfl, rfl, rfl⟩

end SlotMap
