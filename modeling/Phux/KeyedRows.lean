import Phux.ByteReader

/-! Rows that patch a list by key. A list is sent with some columns stripped and
the stripped columns follow as rows, only for the entries that need them. -/

namespace KeyedRows

open List

variable {α κ ρ : Type} [DecidableEq κ]

def updateFirst (key : α → κ) (k : κ) (f : α → α) : List α → List α
  | [] => []
  | a :: as => if key a = k then f a :: as else a :: updateFirst key k f as

variable {f : α → α}

theorem updateFirst_append {key : α → κ} {k : κ} {done : List α} {a : α}
    (more : List α) (hd : ∀ x ∈ done, key x ≠ k) (ha : key a = k) :
    updateFirst key k f (done ++ a :: more) = done ++ f a :: more := by
  induction done with
  | nil => simp [updateFirst, ha]
  | cons x xs ih =>
    have hx : key x ≠ k := hd x mem_cons_self
    have hxs := ih fun y hy => hd y (mem_cons_of_mem x hy)
    simp [updateFirst, hx, hxs]

structure Columns (key : α → κ) (rowKey : ρ → κ) (marked : α → Bool) (strip : α → α)
    (row : α → ρ) (patch : ρ → α → α) : Prop where
  strip_key : ∀ a, key (strip a) = key a
  row_key : ∀ a, rowKey (row a) = key a
  strip_unmarked : ∀ a, marked a = false → strip a = a
  patch_row : ∀ a, marked a = true → patch (row a) (strip a) = a

variable {key : α → κ} {rowKey : ρ → κ} {marked : α → Bool} {strip : α → α} {row : α → ρ}
  {patch : ρ → α → α}

def applyRow (key : α → κ) (rowKey : ρ → κ) (patch : ρ → α → α) (as : List α) (r : ρ) : List α :=
  updateFirst key (rowKey r) (patch r) as

/-- Every marked entry is the first one with its key, so that a row finds it. -/
def Leading (key : α → κ) (marked : α → Bool) (as : List α) : Prop :=
  as.Pairwise fun a b => marked b = true → key a ≠ key b

omit [DecidableEq κ] in
theorem leading_of_nodup {as : List α} (h : (as.map key).Nodup) : Leading key marked as := by
  have hpairs := pairwise_map.mp h
  refine hpairs.imp ?_
  intro a b hne _
  exact hne

omit [DecidableEq κ] in
theorem leading_of_unmarked {as : List α} (h : ∀ a ∈ as, marked a = false) :
    Leading key marked as := by
  induction as with
  | nil => exact .nil
  | cons a as ih =>
    refine .cons (fun b hb hm => ?_) (ih fun b hb => h b (mem_cons_of_mem a hb))
    rw [h b (mem_cons_of_mem a hb)] at hm
    cases hm

theorem mem_updateFirst {k : κ} {as : List α} {b : α} (h : b ∈ updateFirst key k f as) :
    b ∈ as ∨ ∃ a ∈ as, key a = k ∧ b = f a := by
  induction as with
  | nil => exact .inl h
  | cons a as ih =>
    rw [updateFirst] at h
    split at h
    · rename_i ha
      rcases mem_cons.mp h with rfl | h
      · exact .inr ⟨a, mem_cons_self, ha, rfl⟩
      · exact .inl (mem_cons_of_mem a h)
    · rcases mem_cons.mp h with rfl | h
      · exact .inl mem_cons_self
      · rcases ih h with h | ⟨x, hx, hk, rfl⟩
        · exact .inl (mem_cons_of_mem a h)
        · exact .inr ⟨x, mem_cons_of_mem a hx, hk, rfl⟩

theorem Leading.applyRow {as : List α} (h : Leading key marked as)
    (hkey : ∀ r a, key (patch r a) = key a) (r : ρ) :
    Leading key marked (applyRow key rowKey patch as r) := by
  unfold KeyedRows.applyRow
  induction as with
  | nil => exact h
  | cons a as ih =>
    obtain ⟨hhead, htail⟩ := pairwise_cons.mp h
    rw [updateFirst]
    split
    · refine pairwise_cons.mpr ⟨fun b hb hm => ?_, htail⟩
      rw [hkey]
      exact hhead b hb hm
    · rename_i hne
      refine pairwise_cons.mpr ⟨fun b hb hm => ?_, ih htail⟩
      rcases mem_updateFirst hb with hb | ⟨x, -, hx, rfl⟩
      · exact hhead b hb hm
      · rw [hkey, hx]
        exact hne

/-- Patching the stripped entries, one row per marked entry, gives the list back. The entries in
`done` are already whole. -/
theorem foldl_applyRow_append (h : Columns key rowKey marked strip row patch) (done : List α)
    {todo : List α} (hlead : Leading key marked (done ++ todo)) :
    ((todo.filter marked).map row).foldl (applyRow key rowKey patch) (done ++ todo.map strip) =
      done ++ todo := by
  induction todo generalizing done with
  | nil => simp
  | cons a todo ih =>
    have hmove : done ++ a :: todo = (done ++ [a]) ++ todo := by simp
    have hi := ih (done ++ [a]) (by rw [← hmove]; exact hlead)
    by_cases hm : marked a = true
    · have hfresh : ∀ x ∈ done, key x ≠ rowKey (row a) := by
        intro x hx
        rw [h.row_key a]
        exact (pairwise_append.mp hlead).2.2 x hx a mem_cons_self hm
      have hstep : applyRow key rowKey patch (done ++ strip a :: todo.map strip) (row a) =
          done ++ a :: todo.map strip := by
        rw [applyRow, updateFirst_append _ hfresh ((h.strip_key a).trans (h.row_key a).symm),
          h.patch_row a hm]
      rw [filter_cons_of_pos hm, map_cons, map_cons, foldl_cons, hstep]
      simpa using hi
    · rw [filter_cons_of_neg hm, map_cons, h.strip_unmarked a (by simpa using hm)]
      simpa using hi

theorem foldl_applyRow (h : Columns key rowKey marked strip row patch) {as : List α}
    (hlead : Leading key marked as) :
    ((as.filter marked).map row).foldl (applyRow key rowKey patch) (as.map strip) = as :=
  foldl_applyRow_append h [] hlead

end KeyedRows

namespace ByteReader

variable {ε α σ : Type} {limit : Nat}

def foldRows (p : Reader ε α) (f : σ → α → σ) : Nat → σ → Reader ε σ
  | 0, s => pure s
  | n + 1, s => do
    let x ← p
    foldRows p f n (f s x)

variable {p : Reader ε α} {bs : Bytes}

theorem reads_foldRows {enc : α → Bytes} {f : σ → α → σ} {xs : List α} (s : σ)
    (h : ∀ x ∈ xs, Reads limit p (enc x) x) :
    Reads limit (foldRows p f xs.length s) (xs.flatMap enc) (xs.foldl f s) := by
  induction xs generalizing s with
  | nil => exact reads_pure s
  | cons x xs ih =>
    exact (h x List.mem_cons_self).bind (ih (f s x) fun y hy => h y (List.mem_cons_of_mem x hy))

variable {β : Type}

def trailing (absent : α) (p : Reader ε α) : Reader ε α := fun c =>
  if c.atBodyEnd then .ok (absent, c) else p c

variable {f : α → Reader ε β} {a : α} {b : β}

theorem ReadsToEnd.trailing_absent
    (h : ReadsToEnd limit (f a) [] b) : ReadsToEnd limit (trailing a p >>= f) [] b := by
  intro hb c r hr hl
  have hend : trailing a p c = .ok (a, c) := by
    rw [trailing, if_pos ((Cursor.atBodyEnd_iff c).mpr hl)]
  rw [bind_ok hend]
  exact h hb c r hr hl

theorem ReadsToEnd.trailing_present {absent : α} {bs' : Bytes}
    (hne : bs ≠ []) (h : Reads limit p bs a) (h' : ReadsToEnd limit (f a) bs' b) :
    ReadsToEnd limit (trailing absent p >>= f) (bs ++ bs') b := by
  intro hb c r hr hl
  have hpos : 0 < bs.length := List.length_pos_iff.mpr hne
  have hend : ¬ c.atBodyEnd = true := fun he => by
    have := (Cursor.atBodyEnd_iff c).mp he
    rw [List.length_append] at hl
    omega
  have hp : (trailing absent p >>= f) c = (p >>= f) c := by
    show (trailing absent p c >>= fun x => f x.1 x.2) = (p c >>= fun x => f x.1 x.2)
    rw [trailing, if_neg hend]
  rw [hp]
  exact h.bindToEnd h' hb c r hr hl

def remaining : Reader ε Nat := fun c => .ok (c.left, c)

theorem ReadsToEnd.remaining {f : Nat → Reader ε β} (h : ReadsToEnd limit (f bs.length) bs b) :
    ReadsToEnd limit (remaining >>= f) bs b := by
  intro hb c r hr hl
  have hc : (ByteReader.remaining >>= f) c = f c.left c := rfl
  rw [hc, hl]
  exact h hb c r hr hl

def firstSome (unrecognised : Reader ε α) : List (Reader ε (Option α)) → Reader ε α
  | [] => unrecognised
  | p :: ps => do
    match ← p with
    | some a => pure a
    | none => firstSome unrecognised ps

variable {ps : List (Reader ε (Option α))} {unrecognised : Reader ε α} {p : Reader ε (Option α)}

theorem ReadsToEnd.skip (hp : p = pure none)
    (h : ReadsToEnd limit (firstSome unrecognised ps) bs a) :
    ReadsToEnd limit (firstSome unrecognised (p :: ps)) bs a := by
  rw [hp, firstSome, pure_bind]
  exact h

theorem ReadsToEnd.firstSome (h : ReadsToEnd limit p bs (some a)) :
    ReadsToEnd limit (firstSome unrecognised (p :: ps)) bs a :=
  h.bind fun _ => rfl

end ByteReader
