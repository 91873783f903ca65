import Phux.FieldList

/-! Field loops whose fields do not interfere: what such a loop makes of a body is settled by the
values each known field has in it, in their order. -/

namespace ByteReader

open List

variable {ε α β σ : Type}

def Agree (x y : Except ε α) : Prop := ∀ a, x = .ok a ↔ y = .ok a

variable (x : Except ε α)

theorem Agree.refl : Agree x x := fun _ => Iff.rfl

theorem Agree.symm {x y : Except ε α} (h : Agree x y) : Agree y x := fun a => (h a).symm

theorem Agree.trans {x y z : Except ε α} (h : Agree x y) (h' : Agree y z) : Agree x z :=
  fun a => (h a).trans (h' a)

theorem Agree.bind_right {f g : α → Except ε β} (h : ∀ a, Agree (f a) (g a)) :
    Agree (x >>= f) (x >>= g) := by
  intro b
  rw [Fallible.bind_eq_ok, Fallible.bind_eq_ok]
  exact exists_congr fun a => and_congr_right fun _ => h a b

theorem Agree.bind_left {x y : Except ε α} (f : α → Except ε β) (h : Agree x y) :
    Agree (x >>= f) (y >>= f) := by
  intro b
  rw [Fallible.bind_eq_ok, Fallible.bind_eq_ok]
  exact exists_congr fun a => and_congr_left fun _ => h a

def Independent (step : σ → UInt32 → Bytes → Except ε σ) : Prop :=
  ∀ acc i v j w, i ≠ j →
    Agree (step acc i v >>= fun s => step s j w) (step acc j w >>= fun s => step s i v)

def Ignores (known : List UInt32) (step : σ → UInt32 → Bytes → Except ε σ) : Prop :=
  ∀ acc id value, id ∉ known → step acc id value = .ok acc

def foldEntries (step : σ → UInt32 → Bytes → Except ε σ) (acc : σ)
    (entries : List (UInt32 × Bytes)) : Except ε σ :=
  entries.foldlM (fun acc entry => step acc entry.1 entry.2) acc

/-- The same values under every known id, each id's in the same order. -/
def SameKnown (known : List UInt32) (entries entries' : List (UInt32 × Bytes)) : Prop :=
  ∀ id ∈ known, entries.filter (·.1 = id) = entries'.filter (·.1 = id)

variable {step : σ → UInt32 → Bytes → Except ε σ} {known : List UInt32} {acc : σ}
  {entries entries' : List (UInt32 × Bytes)}

theorem foldEntries_cons (entry : UInt32 × Bytes) (entries : List (UInt32 × Bytes)) :
    foldEntries step acc (entry :: entries) =
      (step acc entry.1 entry.2 >>= fun acc => foldEntries step acc entries) := foldlM_cons

theorem foldEntries_unknown (hign : Ignores known step)
    (h : ∀ entry ∈ entries, entry.1 ∉ known) : foldEntries step acc entries = .ok acc := by
  induction entries with
  | nil => rfl
  | cons entry entries ih =>
    have hskip := hign acc entry.1 entry.2 (h entry mem_cons_self)
    rw [foldEntries_cons, hskip]
    exact ih fun e he => h e (mem_cons_of_mem _ he)

theorem foldEntries_move (hind : Independent step) {entry : UInt32 × Bytes}
    {before : List (UInt32 × Bytes)} (h : ∀ e ∈ before, e.1 ≠ entry.1)
    (behind : List (UInt32 × Bytes)) : Agree (foldEntries step acc (before ++ entry :: behind))
      (foldEntries step acc (entry :: (before ++ behind))) := by
  induction before generalizing acc with
  | nil => exact .refl _
  | cons e before ih =>
    have hmove : ∀ s, Agree (foldEntries step s (before ++ entry :: behind))
        (step s entry.1 entry.2 >>= fun s => foldEntries step s (before ++ behind)) := by
      intro s
      rw [← foldEntries_cons]
      exact ih fun e' he' => h e' (mem_cons_of_mem _ he')
    have hswap := hind acc e.1 e.2 entry.1 entry.2 (h e mem_cons_self)
    have hrest := hswap.bind_left fun s => foldEntries step s (before ++ behind)
    rw [bind_assoc, bind_assoc] at hrest
    rw [cons_append, foldEntries_cons, foldEntries_cons]
    refine (Agree.bind_right _ hmove).trans (hrest.trans (Agree.bind_right _ fun s => ?_))
    rw [cons_append, foldEntries_cons]
    exact .refl _

theorem foldEntries_sameKnown (hind : Independent step) (hign : Ignores known step)
    (h : SameKnown known entries entries') :
    Agree (foldEntries step acc entries) (foldEntries step acc entries') := by
  induction entries generalizing entries' acc with
  | nil =>
    have hunknown : ∀ entry ∈ entries', entry.1 ∉ known := by
      intro entry hm hknown
      have hnone := h _ hknown
      rw [filter_nil, eq_comm, filter_eq_nil_iff] at hnone
      exact hnone entry hm (by simp)
    rw [foldEntries_unknown hign hunknown]
    exact .refl _
  | cons entry entries ih =>
    by_cases hknown : entry.1 ∈ known
    · have hhead := h _ hknown
      rw [filter_cons_of_pos (by simp), eq_comm, filter_eq_cons_iff] at hhead
      obtain ⟨before, behind, rfl, hbefore, -, hbehind⟩ := hhead
      have hapart : ∀ e ∈ before, e.1 ≠ entry.1 := fun e he => by simpa using hbefore e he
      have hrest : SameKnown known entries (before ++ behind) := by
        intro id hid
        have hsame := h id hid
        by_cases heq : entry.1 = id
        · subst heq
          rw [filter_append, filter_eq_nil_iff.mpr hbefore, nil_append, hbehind]
        · rw [filter_cons_of_neg (by simpa using heq), filter_append,
            filter_cons_of_neg (by simpa using heq), ← filter_append] at hsame
          exact hsame
      refine .trans ?_ (foldEntries_move hind hapart behind).symm
      rw [foldEntries_cons, foldEntries_cons]
      exact .bind_right _ fun s => ih hrest
    · have hrest : SameKnown known entries entries' := by
        intro id hid
        have hne : ¬ entry.1 = id := fun heq => hknown (heq ▸ hid)
        have hsame := h id hid
        rwa [filter_cons_of_neg (by simpa using hne)] at hsame
      rw [foldEntries_cons, hign acc entry.1 entry.2 hknown]
      exact ih hrest

variable {eof overflow : ε} {limit : Nat}

def WireField.entry (f : WireField eof overflow limit) : UInt32 × Bytes := (f.id, f.value)

end ByteReader
