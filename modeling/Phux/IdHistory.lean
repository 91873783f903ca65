import Mathlib.Data.List.Induction
import Mathlib.Data.List.Nodup
import Phux.IdBridge

/-! The calls a server makes on a table of wire ids, from its first image through every
image that resumed from it, and what they hand out. -/

namespace Phux.IdBridge

open List

variable {κ : Type} [DecidableEq κ]

variable {b : IdBridge κ} {minted ids : List UInt32}

/-- The table of an image that takes over entries of an earlier one. -/
def rebound (entries : List (κ × UInt32)) : IdBridge κ :=
  entries.foldl (fun b e => b.bind e.1 e.2) new

/-- The tables a server's calls lead to. `minted` holds the ids given to keys that had none,
by this image and the ones before; `told` holds the keys and ids that this image has been
told or has answered with. -/
inductive Served : List UInt32 → List (κ × UInt32) → IdBridge κ → Prop
  | boot : Served [] [] new
  | intern {minted : List UInt32} {told : List (κ × UInt32)} {b b' : IdBridge κ} {core : κ}
      {wire : UInt32} (h : Served minted told b) (hintern : b.intern core = some (b', wire)) :
    Served (if b.wire core = none then wire :: minted else minted) ((core, wire) :: told) b'
  | forget {minted : List UInt32} {told : List (κ × UInt32)} {b : IdBridge κ}
      (h : Served minted told b) (core : κ) : Served minted told (b.forget core).1
  /-- The next image binds ids that the last one held and restores its counter. -/
  | resume {minted : List UInt32} {told : List (κ × UInt32)} {b : IdBridge κ}
      (h : Served minted told b) {entries : List (κ × UInt32)}
      (hcores : (entries.map Prod.fst).Nodup) (hwires : (entries.map Prod.snd).Nodup)
      (hheld : ∀ e ∈ entries, ∃ core, b.wire core = some e.2) :
    Served minted entries ((rebound entries).setNext b.next)

/-- `b'` is a later table of the same server: however the calls before `b` went, calls lead on
to `b'`, and what was minted stays minted. -/
def Succeeds (b b' : IdBridge κ) : Prop :=
  ∀ minted told, Served minted told b → ∃ minted' told', Served minted' told' b' ∧ minted <:+ minted'

theorem Succeeds.refl (b : IdBridge κ) : Succeeds b b :=
  fun minted told h => ⟨minted, told, h, suffix_refl minted⟩

theorem Succeeds.trans {b' b'' : IdBridge κ} (h : Succeeds b b') (h' : Succeeds b' b'') :
    Succeeds b b'' := by
  intro minted told hserved
  obtain ⟨minted₁, told₁, hserved₁, hmore₁⟩ := h minted told hserved
  obtain ⟨minted₂, told₂, hserved₂, hmore₂⟩ := h' minted₁ told₁ hserved₁
  exact ⟨minted₂, told₂, hserved₂, hmore₁.trans hmore₂⟩

theorem Called.succeeds {b' : IdBridge κ} (h : Called b b') : Succeeds b b' := by
  intro minted told hserved
  cases h with
  | @intern _ core wire hintern =>
    refine ⟨_, _, hserved.intern hintern, ?_⟩
    split
    · exact suffix_cons wire minted
    · exact suffix_refl minted
  | forget core => exact ⟨minted, told, hserved.forget core, suffix_refl minted⟩

theorem Worked.succeeds {b' : IdBridge κ} (h : Worked b b') : Succeeds b b' := by
  induction h with
  | refl => exact .refl b
  | tail _ hcall ih => exact ih.trans hcall.succeeds

/-- Keys and wire ids pair up one to one, no id is 0, no id is minted twice, and within an
image an id is only ever told of one key. -/
structure Stable (minted : List UInt32) (told : List (κ × UInt32)) (b : IdBridge κ) : Prop where
  inverse : ∀ core wire, b.wire core = some wire ↔ b.resolve wire = some core
  nonzero : ∀ wire ∈ minted, wire ≠ 0
  once : minted.Nodup
  known : ∀ core wire, (core, wire) ∈ told → wire ∈ minted
  held : ∀ core wire, b.wire core = some wire → (core, wire) ∈ told
  same : ∀ core core' wire, (core, wire) ∈ told → (core', wire) ∈ told → core = core'

variable (es : List (κ × UInt32))

theorem rebound_append (e : κ × UInt32) : rebound (es ++ [e]) = (rebound es).bind e.1 e.2 := by
  simp [rebound]

theorem rebound_next : (rebound es).next = 1 := by
  induction es using reverseRecOn with
  | nil => rfl
  | append_singleton es e ih =>
    rw [rebound_append]
    exact ih

/-- Binding keys and ids that are each listed once leaves exactly the listed pairs, both ways. -/
theorem rebound_spec {es : List (κ × UInt32)} (hcores : (es.map Prod.fst).Nodup)
    (hwires : (es.map Prod.snd).Nodup) (core : κ) (wire : UInt32) :
    ((rebound es).forward core = some wire ↔ (core, wire) ∈ es) ∧
      ((rebound es).reverse wire = some core ↔ (core, wire) ∈ es) := by
  induction es using reverseRecOn with
  | nil => simp [rebound, new]
  | append_singleton es e ih =>
    obtain ⟨k, w⟩ := e
    rw [map_append, nodup_append] at hcores hwires
    obtain ⟨hforward, hreverse⟩ := ih hcores.1 hwires.1
    have hk : ∀ w', (k, w') ∉ es := fun w' hmem =>
      hcores.2.2 k (mem_map.mpr ⟨_, hmem, rfl⟩) k (by simp) rfl
    have hw : ∀ k', (k', w) ∉ es := fun k' hmem =>
      hwires.2.2 w (mem_map.mpr ⟨_, hmem, rfl⟩) w (by simp) rfl
    rw [rebound_append]
    simp only [bind, mem_append, mem_singleton, Prod.mk.injEq]
    constructor
    · by_cases hcore : core = k
      · simp [hcore, hk, eq_comm]
      · simp [hcore, hforward]
    · by_cases hwire : wire = w
      · simp [hwire, hw, eq_comm]
      · simp [hwire, hreverse]

variable {wire : UInt32}

theorem intern_next {b' : IdBridge κ} {core : κ} (hnone : b.forward core = none)
    (h : b.intern core = some (b', wire)) : b'.next.toNat = b.next.toNat + 1 := by
  simp only [intern, hnone] at h
  cases hnext : checkedNext32 b.next with
  | none => simp [hnext] at h
  | some next =>
    simp only [hnext] at h
    cases h
    exact checkedNext32_eq_some hnext

theorem Served.starts {told : List (κ × UInt32)} (h : Served minted told b) : 1 ≤ b.next.toNat := by
  induction h with
  | boot => exact Nat.le_refl 1
  | intern h hintern ih =>
    have hle := UInt32.le_iff_toNat_le.mp (Called.intern hintern).next_le
    omega
  | forget h core ih => rwa [forget_next]
  | resume h hcores hwires hheld ih => exact ih

theorem Served.mem_minted {told : List (κ × UInt32)} (h : Served minted told b) :
    wire ∈ minted ↔ 1 ≤ wire.toNat ∧ wire.toNat < b.next.toNat := by
  induction h with
  | boot =>
    have hone : (new : IdBridge κ).next.toNat = 1 := rfl
    simp only [not_mem_nil, hone, false_iff]
    omega
  | @intern minted told b b' core w h hintern ih =>
    have hstarts := h.starts
    rcases intern_eq_some hintern with ⟨rfl, hsome⟩ | ⟨hnone, rfl, -, -, -⟩
    · rw [if_neg (by simp [IdBridge.wire, hsome]), ih]
    · have hnext := intern_next hnone hintern
      have hwire : b.wire core = none := hnone
      rw [if_pos hwire, mem_cons, ih, ← UInt32.toNat_inj]
      omega
  | forget h core ih => rwa [forget_next]
  | resume h hcores hwires hheld ih => exact ih

theorem Served.once {told : List (κ × UInt32)} (h : Served minted told b) : minted.Nodup := by
  induction h with
  | boot => exact nodup_nil
  | @intern minted told b b' core w h hintern ih =>
    rcases intern_eq_some hintern with ⟨rfl, hsome⟩ | ⟨hnone, rfl, -, -, -⟩
    · rwa [if_neg (by simp [wire, hsome])]
    · have hwire : b.wire core = none := hnone
      rw [if_pos hwire, nodup_cons, h.mem_minted]
      exact ⟨by omega, ih⟩
  | forget h core ih => exact ih
  | resume h hcores hwires hheld ih => exact ih

theorem Served.sound {told : List (κ × UInt32)} (h : Served minted told b) : b.Sound := by
  induction h with
  | boot => exact .new
  | intern h hintern ih => exact ih.intern hintern
  | forget h core ih => exact ih.forget core
  | @resume minted told b h es hcores hwires hheld ih =>
    refine ⟨fun core wire => ?_, fun core wire hwire => ?_⟩
    · have hspec := rebound_spec hcores hwires core wire
      exact hspec.1.trans hspec.2.symm
    · have hmem := (rebound_spec hcores hwires core wire).1.mp hwire
      obtain ⟨k, hk⟩ := hheld _ hmem
      exact ih.below k wire hk

theorem Served.told {told : List (κ × UInt32)} (h : Served minted told b) :
    (∀ core wire, b.wire core = some wire → (core, wire) ∈ told) ∧
      (∀ core wire, (core, wire) ∈ told → wire ∈ minted) ∧
      ∀ core core' wire, (core, wire) ∈ told → (core', wire) ∈ told → core = core' := by
  induction h with
  | boot => simp [new, wire]
  | @intern minted told b b' core w h hintern ih =>
    obtain ⟨hheld, hknown, hsame⟩ := ih
    rcases intern_eq_some hintern with ⟨rfl, hsome⟩ | ⟨hnone, rfl, -, -, -⟩
    · have hagain := hheld core w hsome
      have hmem : ∀ e, e ∈ (core, w) :: told ↔ e ∈ told := by
        intro e
        simp only [mem_cons, or_iff_right_iff_imp]
        rintro rfl
        exact hagain
      rw [if_neg (by simp [wire, hsome])]
      simpa only [hmem] using ⟨hheld, hknown, hsame⟩
    · have hwire : b.wire core = none := hnone
      have hfresh : ∀ k, (k, b.next) ∉ told := by
        intro k hk
        have hlt := h.mem_minted.mp (hknown k _ hk)
        omega
      rw [if_pos hwire]
      refine ⟨fun k v hk => ?_, fun k v hk => ?_, fun k k' v hk hk' => ?_⟩
      · rw [wire, intern_forward hintern] at hk
        split at hk
        · rename_i hcore
          cases hk
          exact hcore ▸ mem_cons_self
        · exact mem_cons_of_mem _ (hheld k v hk)
      · rcases mem_cons.mp hk with hk | hk
        · cases hk
          exact mem_cons_self
        · exact mem_cons_of_mem _ (hknown k v hk)
      · rcases mem_cons.mp hk with he | hk
        · cases he
          rcases mem_cons.mp hk' with he' | hk'
          · cases he'
            rfl
          · exact absurd hk' (hfresh k')
        · rcases mem_cons.mp hk' with he' | hk'
          · cases he'
            exact absurd hk (hfresh k)
          · exact hsame k k' v hk hk'
  | @forget minted told b h core ih =>
    refine ⟨fun k v hk => ?_, ih.2⟩
    rw [wire, forget_forward] at hk
    split at hk
    · cases hk
    · exact ih.1 k v hk
  | @resume minted told b h es hcores hwires hheld ih =>
    obtain ⟨hold, hknown, -⟩ := ih
    refine ⟨fun k v hk => (rebound_spec hcores hwires k v).1.mp hk, fun k v hk => ?_,
      fun k k' v hk hk' => ?_⟩
    · obtain ⟨core, hcore⟩ := hheld _ hk
      exact hknown core v (hold core v hcore)
    · have h₁ := (rebound_spec hcores hwires k v).2.mpr hk
      have h₂ := (rebound_spec hcores hwires k' v).2.mpr hk'
      rw [h₁] at h₂
      exact Option.some.inj h₂

def Bound (b : IdBridge κ) (ids : List UInt32) : Prop :=
  ∃ entries : List (κ × UInt32), b = rebound entries ∧ entries.map Prod.snd = ids ∧
    ∀ e ∈ entries, b.forward e.1 = some e.2

theorem bound_new : (new : IdBridge κ).Bound [] := ⟨[], rfl, rfl, by simp⟩

theorem Bound.bind (h : b.Bound ids) {core : κ} (hfree : b.forward core = none) (wire : UInt32) :
    (b.bind core wire).Bound (ids ++ [wire]) := by
  obtain ⟨es, rfl, rfl, hforward⟩ := h
  refine ⟨es ++ [(core, wire)], (rebound_append es (core, wire)).symm, by simp, ?_⟩
  intro e he
  rcases mem_append.mp he with he | he
  · have hne : e.1 ≠ core := by
      intro hcore
      have hbound := hforward e he
      rw [hcore, hfree] at hbound
      cases hbound
    exact (Table.insert_of_ne hne).trans (hforward e he)
  · cases mem_singleton.mp he
    exact Table.insert_self

theorem Bound.next (h : b.Bound ids) : b.next = 1 := by
  obtain ⟨es, rfl, -, -⟩ := h
  exact rebound_next es

theorem Bound.succeeds {b' : IdBridge κ} (hbound : b'.Bound ids) (hnodup : ids.Nodup)
    (hheld : ∀ wire ∈ ids, ∃ core, b.wire core = some wire) : Succeeds b (b'.setNext b.next) := by
  intro minted told h
  obtain ⟨es, rfl, rfl, hforward⟩ := hbound
  refine ⟨minted, es, h.resume ?_ hnodup fun e he => hheld e.2 (mem_map.mpr ⟨e, he, rfl⟩),
    suffix_refl minted⟩
  -- a key listed twice would have two ids
  refine .map_on (fun e he e' he' hcore => ?_) hnodup.of_map
  have hid : e.2 = e'.2 := by
    have hwire := hforward e he
    rw [hcore, hforward e' he'] at hwire
    exact (Option.some.inj hwire).symm
  exact inj_on_of_nodup_map hnodup he he' hid

theorem Served.stable {told : List (κ × UInt32)} (h : Served minted told b) :
    Stable minted told b where
  inverse := h.sound.inverse
  nonzero wire hwire := by
    rintro rfl
    have hpos := (h.mem_minted.mp hwire).1
    exact absurd hpos (by decide)
  once := h.once
  known := h.told.2.1
  held := h.told.1
  same := h.told.2.2

end Phux.IdBridge
