import Mathlib.Logic.Relation
import Phux.Counters
import Phux.Table

/-! The two-way table between a server's own keys and the wire ids it hands out. -/

namespace Phux
open Table Option

structure IdBridge (κ : Type) where
  forward : Table κ UInt32
  reverse : Table UInt32 κ
  next : UInt32

namespace IdBridge

variable {κ : Type} [DecidableEq κ]

def new : IdBridge κ := ⟨fun _ => none, fun _ => none, 1⟩

/-- The wire id of `core`, a fresh one if it has none. Running out of ids stops the
server, here `none`. -/
def intern (b : IdBridge κ) (core : κ) : Option (IdBridge κ × UInt32) :=
  match b.forward core with
  | some wire => some (b, wire)
  | none =>
    match checkedNext32 b.next with
    | none => none
    | some next =>
      some (⟨b.forward.insert core b.next, b.reverse.insert b.next core, next⟩, b.next)

def wire (b : IdBridge κ) (core : κ) : Option UInt32 := b.forward core

def bind (b : IdBridge κ) (core : κ) (wire : UInt32) : IdBridge κ :=
  { b with forward := b.forward.insert core wire, reverse := b.reverse.insert wire core }

def setNext (b : IdBridge κ) (next : UInt32) : IdBridge κ := { b with next }

def resolve (b : IdBridge κ) (wire : UInt32) : Option κ := b.reverse wire

def forget (b : IdBridge κ) (core : κ) : IdBridge κ × Option UInt32 :=
  match b.forward core with
  | none => (b, none)
  | some wire => ({ b with forward := b.forward.erase core, reverse := b.reverse.erase wire }, some wire)

/-- The two directions agree, and every id handed out lies below the next one. -/
structure Sound (b : IdBridge κ) : Prop where
  inverse : ∀ core wire, b.forward core = some wire ↔ b.reverse wire = some core
  below : ∀ core wire, b.forward core = some wire → wire < b.next

variable {b b' : IdBridge κ} {core core' : κ} {wire : UInt32}

omit [DecidableEq κ] in
theorem Sound.new : (new : IdBridge κ).Sound := ⟨by simp [IdBridge.new], by simp [IdBridge.new]⟩

omit [DecidableEq κ] in
theorem Sound.injective (h : b.Sound) (h₁ : b.forward core = some wire)
    (h₂ : b.forward core' = some wire) : core = core' := by
  have h₁ := (h.inverse core wire).mp h₁
  have h₂ := (h.inverse core' wire).mp h₂
  rw [h₁] at h₂
  exact some.inj h₂

omit [DecidableEq κ] in
theorem Sound.reverse_next (h : b.Sound) (hle : b.next ≤ wire) : b.reverse wire = none := by
  cases hr : b.reverse wire with
  | none => rfl
  | some core =>
    have hlt := h.below core wire ((h.inverse core wire).mpr hr)
    exact absurd hlt (UInt32.not_lt.mpr hle)

theorem intern_eq_some (h : b.intern core = some (b', wire)) :
    (b' = b ∧ b.forward core = some wire) ∨
      (b.forward core = none ∧ wire = b.next ∧ b.next < b'.next ∧
        b'.forward = b.forward.insert core b.next ∧ b'.reverse = b.reverse.insert b.next core) := by
  unfold intern at h
  cases hcore : b.forward core with
  | some w =>
    simp only [hcore] at h
    cases h
    exact .inl ⟨rfl, rfl⟩
  | none =>
    simp only [hcore] at h
    cases hnext : checkedNext32 b.next with
    | none => simp [hnext] at h
    | some next =>
      simp only [hnext] at h
      cases h
      refine .inr ⟨rfl, rfl, ?_, rfl, rfl⟩
      rw [UInt32.lt_iff_toNat_lt, checkedNext32_eq_some hnext]
      omega

theorem intern_forward (h : b.intern core = some (b', wire)) (k : κ) :
    b'.forward k = if k = core then some wire else b.forward k := by
  rcases intern_eq_some h with ⟨rfl, hcore⟩ | ⟨-, rfl, -, hforward, -⟩
  · by_cases hk : k = core
    · rw [if_pos hk, hk, hcore]
    · rw [if_neg hk]
  · rw [hforward]
    by_cases hk : k = core
    · simp [hk]
    · simp [hk]

theorem Sound.intern (h : b.Sound) (hi : b.intern core = some (b', wire)) : b'.Sound := by
  rcases intern_eq_some hi with ⟨rfl, -⟩ | ⟨hnone, rfl, hlt, hforward, hreverse⟩
  · exact h
  · have hfree := h.reverse_next (UInt32.le_refl b.next)
    refine ⟨fun k w => ?_, fun k w hw => ?_⟩
    · rw [hforward, hreverse]
      by_cases hk : k = core
      · by_cases hw : w = b.next
        · simp [hk, hw]
        · simp only [hk, insert_self, some.injEq, hw, ne_eq, not_false_eq_true,
            insert_of_ne, Ne.symm hw, false_iff]
          rw [← h.inverse, hnone]
          simp
      · by_cases hw : w = b.next
        · simp only [ne_eq, hk, not_false_eq_true, insert_of_ne, hw, insert_self,
            some.injEq, Ne.symm hk, iff_false]
          rw [h.inverse, hfree]
          simp
        · simp [hk, hw, h.inverse]
    · rw [hforward] at hw
      by_cases hk : k = core
      · have hw : b.next = w := by simpa [hk] using hw
        exact hw ▸ hlt
      · rw [insert_of_ne hk] at hw
        exact UInt32.lt_trans (h.below k w hw) hlt

theorem forget_forward (b : IdBridge κ) (core k : κ) :
    (b.forget core).1.forward k = if k = core then none else b.forward k := by
  unfold forget
  cases hcore : b.forward core with
  | none =>
    by_cases hk : k = core
    · rw [if_pos hk, hk, hcore]
    · rw [if_neg hk]
  | some w =>
    by_cases hk : k = core
    · simp [hk]
    · simp [hk]

theorem forget_next (b : IdBridge κ) (core : κ) : (b.forget core).1.next = b.next := by
  unfold forget
  cases b.forward core with
  | none => rfl
  | some w => rfl

inductive Called : IdBridge κ → IdBridge κ → Prop
  | intern {b b' : IdBridge κ} {core : κ} {wire : UInt32} (h : b.intern core = some (b', wire)) :
    Called b b'
  | forget (b : IdBridge κ) (core : κ) : Called b (b.forget core).1

abbrev Worked : IdBridge κ → IdBridge κ → Prop := Relation.ReflTransGen Called

theorem Called.next_le (h : Called b b') : b.next ≤ b'.next := by
  cases h with
  | intern h =>
    rcases intern_eq_some h with ⟨rfl, -⟩ | ⟨-, -, hlt, -, -⟩
    · exact UInt32.le_refl _
    · exact UInt32.le_of_lt hlt
  | forget core => exact UInt32.le_of_eq (forget_next b core).symm

theorem Worked.next_le (h : Worked b b') : b.next ≤ b'.next := by
  induction h with
  | refl => exact UInt32.le_refl _
  | tail _ hcall ih => exact UInt32.le_trans ih hcall.next_le

structure Extends (b b' : IdBridge κ) : Prop where
  sound : b.Sound → b'.Sound
  kept : ∀ k w, b.forward k = some w → b'.forward k = some w
  worked : Worked b b'

theorem Extends.refl (b : IdBridge κ) : Extends b b := ⟨fun h => h, fun _ _ h => h, .refl⟩

theorem Extends.trans {b'' : IdBridge κ} (h : Extends b b') (h' : Extends b' b'') : Extends b b'' :=
  ⟨fun hs => h'.sound (h.sound hs), fun k w hk => h'.kept k w (h.kept k w hk),
    h.worked.trans h'.worked⟩

theorem Extends.intern (h : b.intern core = some (b', wire)) : Extends b b' := by
  rcases intern_eq_some h with ⟨rfl, -⟩ | ⟨hnone, rfl, -, hforward, -⟩
  · exact .refl _
  · refine ⟨fun hs => hs.intern h, fun k w hk => ?_, .single (.intern h)⟩
    rw [hforward, insert_of_ne, hk]
    rintro rfl
    rw [hnone] at hk
    cases hk

theorem Sound.forget (h : b.Sound) (core : κ) : (b.forget core).1.Sound := by
  refine ⟨fun k w => ?_, fun k w hw => ?_⟩
  · unfold IdBridge.forget
    cases hcore : b.forward core with
    | none => exact h.inverse k w
    | some v =>
      by_cases hk : k = core
      · subst hk
        by_cases hw : w = v
        · simp [hw]
        · simp only [erase_self, reduceCtorEq, ne_eq, hw, not_false_eq_true, erase_of_ne, false_iff]
          rw [← h.inverse, hcore, some.injEq]
          exact Ne.symm hw
      · by_cases hw : w = v
        · subst hw
          simp only [ne_eq, hk, not_false_eq_true, erase_of_ne, erase_self, reduceCtorEq, iff_false]
          exact fun hkw => hk (h.injective hkw hcore)
        · simp [hk, hw, h.inverse]
  · rw [forget_forward] at hw
    rw [forget_next]
    split at hw
    · cases hw
    · exact h.below k w hw

end IdBridge

end Phux
