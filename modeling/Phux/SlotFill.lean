import Phux.Loop
import Phux.SlotMap
import Phux.Table

/-! Slot maps filled in order from a list of records, each entry under the id its record
names. -/

namespace SlotMap

open List

variable {τ ν ι β : Type}

theorem entries_insert {m : SlotMap τ ν} (h : m.free = []) (v : ν) :
    (m.insert v).entries = m.entries ++ [(m.nextKey, v)] := by
  simp [entries, (insert_slots_of_nil h v).1, zipIdx_append, nextKey, h]

variable (m : SlotMap τ ν)

theorem entries_nodup : (m.entries.map Prod.fst).Nodup := by
  have hidx : (m.slots.zipIdx.map Prod.snd).Nodup := by
    rw [zipIdx_map_snd]
    exact nodup_range'
  refine Nodup.of_map SlotKey.idx ?_
  refine Sublist.nodup ?_ hidx
  rw [map_map]
  unfold entries
  induction m.slots.zipIdx with
  | nil => exact .slnil
  | cons x xs ih =>
    obtain ⟨⟨version, value⟩, i⟩ := x
    cases value with
    | none => simpa using ih.cons i
    | some v => simpa using ih.cons_cons i

def entriesFrom (n : Nat) (slots : List (Slot ν)) : List (SlotKey τ × ν) :=
  (slots.zipIdx n).filterMap fun (slot, i) => slot.value.map fun v => (⟨i, slot.version⟩, v)

theorem entriesFrom_cons (n : Nat) (slot : Slot ν) (slots : List (Slot ν)) :
    (entriesFrom n (slot :: slots) : List (SlotKey τ × ν)) =
      (slot.value.map fun v => (⟨n, slot.version⟩, v)).toList ++ entriesFrom (n + 1) slots := by
  cases hv : slot.value with
  | none | some v => simp [entriesFrom, hv]

theorem le_idx_of_mem_entriesFrom {n : Nat} {slots : List (Slot ν)} {e : SlotKey τ × ν}
    (h : e ∈ entriesFrom n slots) : n ≤ e.1.idx := by
  obtain ⟨⟨slot, i⟩, hmem, he⟩ := mem_filterMap.mp h
  obtain ⟨v, -, rfl⟩ := Option.map_eq_some_iff.mp he
  exact (mem_zipIdx hmem).1

theorem entriesFrom_set {version : Nat} {v w : ν} (slots : List (Slot ν)) {n i : Nat}
    (h : slots[i]? = some ⟨version, some v⟩) :
    (entriesFrom n (slots.set i ⟨version, some w⟩) : List (SlotKey τ × ν)) =
      (entriesFrom n slots).map fun e => (e.1, if e.1 = ⟨n + i, version⟩ then w else e.2) := by
  induction slots generalizing n i with
  | nil => simp at h
  | cons slot slots ih =>
    cases i with
    | zero =>
      have hslot : slot = ⟨version, some v⟩ := by simpa using h
      subst hslot
      have hrest : (entriesFrom (n + 1) slots).map
          (fun e : SlotKey τ × ν => (e.1, if e.1 = ⟨n, version⟩ then w else e.2)) =
            entriesFrom (n + 1) slots := by
        refine (map_congr_left fun e he => ?_).trans (map_id _)
        have hidx := le_idx_of_mem_entriesFrom he
        have hne : e.1 ≠ ⟨n, version⟩ := by
          intro heq
          rw [heq] at hidx
          exact Nat.not_succ_le_self n hidx
        simp [hne]
      simp [entriesFrom_cons, hrest]
    | succ i =>
      have hrest := ih (n := n + 1) (i := i) (by simpa using h)
      have hkey : n + 1 + i = n + (i + 1) := by omega
      rw [hkey] at hrest
      cases hv : slot.value with
      | none | some u => simp [entriesFrom_cons, hv, hrest]

theorem entries_modify (k : SlotKey τ) (f : ν → ν) :
    (m.modify k f).entries = m.entries.map fun e => (e.1, if e.1 = k then f e.2 else e.2) := by
  have hsame : ∀ e ∈ m.entries, ∀ v, m.get k = some v → e.1 = k → e.2 = v := by
    intro e he v hv hk
    have hget := mem_entries.mp he
    rw [hk, hv] at hget
    exact (Option.some.inj hget).symm
  unfold modify
  split
  · rename_i hget
    refine (map_id _).symm.trans (map_congr_left fun e he => ?_)
    have hne : e.1 ≠ k := by
      rintro rfl
      rw [mem_entries.mp he] at hget
      cases hget
    simp [hne]
  · rename_i v hget
    refine (entriesFrom_set (n := 0) m.slots (get_eq_some.mp hget)).trans
      (map_congr_left fun e he => ?_)
    by_cases hk : e.1 = k
    · have hv := hsame e he v hget hk
      simp [hk, hv]
    · have hk' : e.1 ≠ ⟨0 + k.idx, k.version⟩ := by
        rw [Nat.zero_add]
        exact hk
      simp only [hk, hk', ↓reduceIte]

/-- The entries of `m` stand for `bs`, in order: `keys` has the key of each record's id,
`names` the id of each key, and `R` holds of every entry and its record. -/
structure Filled (R : SlotKey τ → ν → β → Prop) (id : β → ι) (m : SlotMap τ ν)
    (keys : Table ι (SlotKey τ)) (names : Table (SlotKey τ) ι) (bs : List β) : Prop where
  free : m.free = []
  entries : List.Forall₂ (fun e b => keys (id b) = some e.1 ∧ R e.1 e.2 b) m.entries bs
  named : ∀ {w k}, keys w = some k → ∃ b ∈ bs, id b = w
  inverse : ∀ {w k}, keys w = some k ↔ names k = some w

namespace Filled

variable {R R' : SlotKey τ → ν → β → Prop} {id : β → ι} {m : SlotMap τ ν}
  {keys : Table ι (SlotKey τ)} {names : Table (SlotKey τ) ι} {bs : List β} {b : β}

protected theorem empty : Filled R id empty (fun _ => none) (fun _ => none) [] :=
  ⟨rfl, .nil, by simp, by simp⟩

variable (h : Filled R id m keys names bs)
include h

theorem lookup (hb : b ∈ bs) :
    ∃ k v, keys (id b) = some k ∧ names k = some (id b) ∧ m.get k = some v ∧ R k v b := by
  obtain ⟨i, hi, rfl⟩ := mem_iff_getElem.mp hb
  obtain ⟨hlen, hget⟩ := forall₂_iff_get.mp h.entries
  have hi' : i < m.entries.length := by omega
  obtain ⟨hkey, hR⟩ := hget i hi' hi
  exact ⟨_, _, hkey, h.inverse.mp hkey, mem_entries.mp (getElem_mem hi'), hR⟩

variable {k : SlotKey τ}

theorem only {v : ν} (hv : m.get k = some v) : ∃ b ∈ bs, keys (id b) = some k ∧ R k v b := by
  obtain ⟨i, hi, he⟩ := mem_iff_getElem.mp (mem_entries.mpr hv)
  obtain ⟨hlen, hget⟩ := forall₂_iff_get.mp h.entries
  have hi' : i < bs.length := by omega
  have hrel := hget i hi hi'
  simp only [get_eq_getElem, he] at hrel
  exact ⟨bs[i], getElem_mem hi', hrel⟩

theorem key_of_named {w : ι} (hk : names k = some w) : m.get k ≠ none := by
  have hkey := h.inverse.mpr hk
  obtain ⟨b, hb, rfl⟩ := h.named hkey
  obtain ⟨k', v, hk', -, hv, -⟩ := h.lookup hb
  rw [hkey] at hk'
  cases hk'
  simp [hv]

theorem unnamed : names m.nextKey = none := by
  by_contra hne
  obtain ⟨w, hw⟩ := Option.ne_none_iff_exists'.mp hne
  exact h.key_of_named hw (get_nextKey m)

theorem imp (hR : ∀ k v b, b ∈ bs → m.get k = some v → R k v b → R' k v b) :
    Filled R' id m keys names bs := by
  refine ⟨h.free, ?_, h.named, h.inverse⟩
  refine forall₂_iff_get.mpr ⟨h.entries.length_eq, fun i hi hi' => ?_⟩
  obtain ⟨hkey, hr⟩ := (forall₂_iff_get.mp h.entries).2 i hi hi'
  exact ⟨hkey, hR _ _ _ (get_mem _ _) (mem_entries.mp (get_mem _ _)) hr⟩

theorem modify {f : ν → ν} (hR : ∀ k' v b, keys (id b) = some k' → b ∈ bs → R k' v b →
      R' k' (if k' = k then f v else v) b) : Filled R' id (m.modify k f) keys names bs := by
  refine ⟨(modify_free m k f).trans h.free, ?_, h.named, h.inverse⟩
  rw [entries_modify, forall₂_map_left_iff]
  refine forall₂_iff_get.mpr ⟨h.entries.length_eq, fun i hi hi' => ?_⟩
  obtain ⟨hkey, hr⟩ := (forall₂_iff_get.mp h.entries).2 i hi hi'
  exact ⟨hkey, hR _ _ _ hkey (get_mem _ _) hr⟩

theorem relink (hnodup : (bs.map id).Nodup) {f : β → ν → ν}
    (hR : ∀ k v b, b ∈ bs → R k v b → R' k (f b v) b) :
    Filled R' id (bs.foldl (fun m b => (keys (id b)).elim m fun k => m.modify k (f b)) m)
      keys names bs := by
  have hdone := Loop.foldl_prefix (l := bs) (s := m)
    (f := fun m b => (keys (id b)).elim m fun k => m.modify k (f b))
    (P := fun done m => Filled
      (fun k v b => (b ∈ done → R' k v b) ∧ (b ∉ done → R k v b)) id m keys names bs)
    (h.imp fun k v b _ _ hr => ⟨by simp, fun _ => hr⟩) ?_
  · exact hdone.imp fun k v b hb _ hr => hr.1 hb
  · intro done a rest m hbs hfill
    obtain ⟨k, v, hk, -, -, -⟩ := hfill.lookup (b := a) (by simp [hbs])
    simp only [hk, Option.elim_some]
    have ha : a ∉ done := by
      intro hmem
      rw [hbs, map_append, map_cons] at hnodup
      exact (nodup_append.mp hnodup).2.2 (id a) (mem_map.mpr ⟨a, hmem, rfl⟩) (id a) (by simp) rfl
    refine hfill.modify fun k' v b hb hmem hr => ?_
    by_cases hkk : k' = k
    · -- the key is this record's own
      have hid : id b = id a := by
        have hb' := h.inverse.mp hb
        rw [hkk, h.inverse.mp hk] at hb'
        exact (Option.some.inj hb').symm
      have hba : b = a := inj_on_of_nodup_map hnodup hmem (by simp [hbs]) hid
      subst hba
      simp only [hkk, ↓reduceIte, mem_append, mem_singleton, or_true, forall_const,
        not_true_eq_false, false_implies, and_true]
      exact hR _ _ _ hmem (hkk ▸ hr.2 ha)
    · have hba : b ≠ a := by
        rintro rfl
        rw [hk] at hb
        exact hkk (Option.some.inj hb).symm
      simpa [hkk, hba] using hr

variable [DecidableEq ι]

theorem push (hb : id b ∉ bs.map id) {v : ν}
    (hv : R' m.nextKey v b) (hR : ∀ k v b, m.get k = some v → R k v b → R' k v b) :
    Filled R' id (m.insert v) (keys.insert (id b) m.nextKey) (names.insert m.nextKey (id b))
      (bs ++ [b]) := by
  have hfresh := h.unnamed
  have hkeys : keys (id b) = none := by
    by_contra hne
    obtain ⟨k, hk⟩ := Option.ne_none_iff_exists'.mp hne
    obtain ⟨b', hb', he⟩ := h.named hk
    exact hb (mem_map.mpr ⟨b', hb', he⟩)
  refine ⟨(insert_slots_of_nil h.free v).2, ?_, ?_, ?_⟩
  · rw [entries_insert h.free]
    refine rel_append ?_ (.cons ⟨by simp, hv⟩ .nil)
    refine forall₂_iff_get.mpr ⟨h.entries.length_eq, fun i hi hi' => ?_⟩
    obtain ⟨hkey, hr⟩ := (forall₂_iff_get.mp h.entries).2 i hi hi'
    have hne : id (bs.get ⟨i, hi'⟩) ≠ id b := fun he => hb (mem_map.mpr ⟨_, get_mem _ _, he⟩)
    refine ⟨(Table.insert_of_ne hne).trans hkey, ?_⟩
    exact hR _ _ _ (mem_entries.mp (get_mem _ _)) hr
  · intro w k hk
    by_cases hw : w = id b
    · exact ⟨b, by simp, hw.symm⟩
    · obtain ⟨b', hb', he⟩ := h.named (by simpa [hw] using hk)
      exact ⟨b', by simp [hb'], he⟩
  · intro w k
    by_cases hw : w = id b
    · by_cases hk : k = m.nextKey
      · simp [hw, hk]
      · simp only [hw, Table.insert_self, Option.some.injEq, Ne.symm hk, false_iff, ne_eq, hk,
          not_false_eq_true, Table.insert_of_ne]
        rw [← h.inverse, hkeys]
        simp
    · by_cases hk : k = m.nextKey
      · simp only [ne_eq, hw, not_false_eq_true, Table.insert_of_ne, hk, Table.insert_self,
          Option.some.injEq, Ne.symm hw, iff_false]
        rw [h.inverse, hfresh]
        simp
      · simp [hw, hk, h.inverse]

end Filled

end SlotMap
