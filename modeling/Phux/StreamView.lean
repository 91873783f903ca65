import Phux.Pump
import Mathlib.Data.Nat.ModEq

/-! What a consumer of one stream relies on: a generation at a time, each with its own
bootstrap id, its output numbered on from the bootstrap's cut. -/

namespace Phux

open List

/-- What a consumer that follows one stream expects: the generation, the next sequence of its
output, and whether a tombstone ended it. -/
structure StreamView where
  terminalId : ResourceId
  streamId : StreamId
  current : BootstrapId
  expected : Nat
  retired : Bool

namespace StreamView

def Names (v : StreamView) (t : ResourceId) (s : StreamId) (b : BootstrapId) : Prop :=
  t = v.terminalId ∧ s = v.streamId ∧ b = v.current

instance (v : StreamView) (t : ResourceId) (s : StreamId) (b : BootstrapId) :
    Decidable (v.Names t s b) :=
  inferInstanceAs (Decidable (_ ∧ _ ∧ _))

def observe (v : StreamView) : FrameKind → Option StreamView
  | .bootstrapBegin t s b _ _ _ baseSeq =>
    if t = v.terminalId ∧ s = v.streamId ∧ b = nextBootstrapId v.current then
      some { v with current := b, expected := baseSeq.toNat + 1, retired := false }
    else none
  | .bootstrapChunk t s b _ _ => if v.Names t s b ∧ v.retired = false then some v else none
  | .bootstrapReady t s b _ => if v.Names t s b ∧ v.retired = false then some v else none
  | .resourceOutput t s b seq _ =>
    if v.Names t s b ∧ v.retired = false ∧ seq.toNat = v.expected then
      some { v with expected := v.expected + 1 }
    else none
  | .bootstrapTombstone t s b _ _ => if v.Names t s b then some { v with retired := true } else none
  | .historyTombstone t s b _ _ => if v.Names t s b then some v else none
  | .error _ _ _ => some v
  | _ => none

def follow (v : StreamView) (frames : List FrameKind) : Option StreamView :=
  frames.foldlM observe v

variable (v : StreamView)

@[simp] theorem follow_nil : v.follow [] = some v := rfl

theorem follow_cons (f : FrameKind) (fs : List FrameKind) :
    v.follow (f :: fs) = (v.observe f).bind fun v' => v'.follow fs := rfl

theorem follow_append (fs gs : List FrameKind) :
    v.follow (fs ++ gs) = (v.follow fs).bind fun v' => v'.follow gs := by
  simp [follow, foldlM_append]

end StreamView

/-- The bootstrap ids published in a run of frames, each with its cut. -/
def publications : List FrameKind → List (BootstrapId × Nat)
  | [] => []
  | .bootstrapBegin _ _ b _ _ _ baseSeq :: fs => (b, baseSeq.toNat) :: publications fs
  | _ :: fs => publications fs

def outputsOf (b : BootstrapId) : List FrameKind → List Nat
  | [] => []
  | .resourceOutput _ _ b' seq _ :: fs =>
    if b' = b then seq.toNat :: outputsOf b fs else outputsOf b fs
  | _ :: fs => outputsOf b fs

def FrameKind.extendsGeneration (frame : FrameKind) (b : BootstrapId) : Bool :=
  match frame with
  | .bootstrapBegin _ _ b' _ _ _ _ => b' == b
  | .bootstrapChunk _ _ b' _ _ => b' == b
  | .bootstrapReady _ _ b' _ => b' == b
  | .resourceOutput _ _ b' _ _ => b' == b
  | _ => false

/-- What holds of the frames of one stream whose first generation was published at a cut. -/
structure SequencedStream (initial : BootstrapId) (cut : Nat) (frames : List FrameKind) : Prop where
  /-- A bootstrap id is published once. -/
  once : (initial :: (publications frames).map Prod.fst).Nodup
  /-- The output under an id is the cut's successor and on, without gap or repeat. -/
  sequenced : ∀ p ∈ (initial, cut) :: publications frames,
    ∃ n, outputsOf p.1 frames = List.range' (p.2 + 1) n
  /-- After its tombstone a generation is not extended. -/
  ended : ∀ {before after : List FrameKind} {t : ResourceId} {s : StreamId} {b : BootstrapId}
    {reason : TombstoneReason} {last : UInt64},
    frames = before ++ .bootstrapTombstone t s b reason last :: after →
    ∀ f ∈ after, f.extendsGeneration b = false

/-- What following a frame did: it began a generation, it carried output, or neither. -/
inductive Observed (v : StreamView) (f : FrameKind) (v' : StreamView) : Prop
  | began (base : Nat) (hcurrent : v'.current = nextBootstrapId v.current)
      (hexpected : v'.expected = base + 1)
      (hpub : ∀ fs, publications (f :: fs) = (v'.current, base) :: publications fs)
      (hout : ∀ b fs, outputsOf b (f :: fs) = outputsOf b fs)
      (hext : ∀ b, f.extendsGeneration b = true → b = v'.current)
  | carried (hlive : v.retired = false) (hcurrent : v'.current = v.current)
      (hexpected : v'.expected = v.expected + 1)
      (hpub : ∀ fs, publications (f :: fs) = publications fs)
      (hout : ∀ b fs, outputsOf b (f :: fs) =
        if v.current = b then v.expected :: outputsOf b fs else outputsOf b fs)
      (hext : ∀ b, f.extendsGeneration b = true → b = v.current)
  | kept (hcurrent : v'.current = v.current) (hexpected : v'.expected = v.expected)
      (hretired : v.retired = true → v'.retired = true)
      (hpub : ∀ fs, publications (f :: fs) = publications fs)
      (hout : ∀ b fs, outputsOf b (f :: fs) = outputsOf b fs)
      (hext : ∀ b, f.extendsGeneration b = true → b = v.current ∧ v.retired = false)

theorem StreamView.observed {v v' : StreamView} {f : FrameKind} (h : v.observe f = some v') :
    Observed v f v' := by
  cases f
  all_goals simp only [observe, Option.ite_none_right_eq_some, Option.some.injEq, reduceCtorEq] at h
  case bootstrapBegin t s b profile cols rows baseSeq =>
    obtain ⟨⟨-, -, hb⟩, rfl⟩ := h
    refine .began baseSeq.toNat hb rfl (fun _ => rfl) (fun _ _ => rfl) fun b' hb' => ?_
    exact (eq_of_beq hb').symm
  case resourceOutput t s b seq bytes =>
    obtain ⟨⟨⟨-, -, rfl⟩, hlive, hseq⟩, rfl⟩ := h
    refine .carried hlive rfl rfl (fun _ => rfl) (fun b fs => ?_) fun b' hb' => ?_
    · rw [outputsOf, hseq]
    · exact (eq_of_beq hb').symm
  case bootstrapChunk t s b chunkSeq payload | bootstrapReady t s b historyCursor =>
    obtain ⟨⟨⟨-, -, rfl⟩, hlive⟩, rfl⟩ := h
    refine .kept rfl rfl id (fun _ => rfl) (fun _ _ => rfl) fun b' hb' => ⟨?_, hlive⟩
    exact (eq_of_beq hb').symm
  case bootstrapTombstone t s b reason last =>
    obtain ⟨-, rfl⟩ := h
    exact .kept rfl rfl (fun _ => rfl) (fun _ => rfl) (fun _ _ => rfl) fun b' hb' => by cases hb'
  case historyTombstone t s b cursor reason =>
    obtain ⟨-, rfl⟩ := h
    exact .kept rfl rfl id (fun _ => rfl) (fun _ _ => rfl) fun b' hb' => by cases hb'
  case error requestId code message =>
    subst h
    exact .kept rfl rfl id (fun _ => rfl) (fun _ _ => rfl) fun b' hb' => by cases hb'

section

variable {v v' : StreamView} {f : FrameKind} {frames : List FrameKind} {b : BootstrapId}

theorem StreamView.follow_cons_some (h : v.follow (f :: frames) = some v') :
    ∃ w, Observed v f w ∧ w.follow frames = some v' := by
  rw [follow_cons, Option.bind_eq_some_iff] at h
  obtain ⟨w, hw, hrest⟩ := h
  exact ⟨w, observed hw, hrest⟩

variable (h : v.follow frames = some v')

include h

theorem publications_follow : v.current :: (publications frames).map Prod.fst =
      (range ((publications frames).length + 1)).map fun n => nextBootstrapId^[n] v.current := by
  induction frames generalizing v with
  | nil => simp [publications]
  | cons f frames ih =>
    obtain ⟨w, hw, hrest⟩ := v.follow_cons_some h
    have hih := ih hrest
    cases hw with
    | began base hcurrent _ hpub =>
      rw [range_succ_eq_map, map_cons, map_map, hpub, map_cons, hih]
      simp [hcurrent, Function.comp_def]
    | carried _ hcurrent _ hpub | kept hcurrent _ _ hpub => rw [hpub, ← hcurrent, hih]

/-- The generation a followed stream ends in is the one it started with or one it published. -/
theorem current_mem_of_follow : v'.current ∈ v.current :: (publications frames).map Prod.fst := by
  induction frames generalizing v with
  | nil =>
    obtain rfl : v = v' := by simpa using h
    simp
  | cons f frames ih =>
    obtain ⟨w, hw, hrest⟩ := v.follow_cons_some h
    have hih := ih hrest
    cases hw with
    | began base _ _ hpub =>
      rw [hpub, map_cons]
      exact mem_cons_of_mem _ hih
    | carried _ hcurrent _ hpub | kept hcurrent _ _ hpub => rwa [hpub, ← hcurrent]

theorem extends_mem_of_follow (hf : f ∈ frames) (hb : f.extendsGeneration b = true) :
    (b = v.current ∧ v.retired = false) ∨ b ∈ (publications frames).map Prod.fst := by
  induction frames generalizing v with
  | nil => simp at hf
  | cons g frames ih =>
    obtain ⟨w, hw, hrest⟩ := v.follow_cons_some h
    rcases mem_cons.mp hf with rfl | hf
    · cases hw with
      | began base _ _ hpub _ hext => exact .inr (by simp [hpub, hext b hb])
      | carried hlive _ _ _ _ hext => exact .inl ⟨hext b hb, hlive⟩
      | kept _ _ _ _ _ hext => exact .inl (hext b hb)
    · have hih := ih hrest hf
      cases hw with
      | began base _ _ hpub =>
        refine .inr ?_
        rw [hpub, map_cons]
        rcases hih with ⟨rfl, -⟩ | hmem
        · exact mem_cons_self
        · exact mem_cons_of_mem _ hmem
      | carried hlive hcurrent _ hpub =>
        rw [hpub]
        exact hih.imp_left fun hc => ⟨hc.1.trans hcurrent, hlive⟩
      | kept hcurrent _ hretired hpub =>
        rw [hpub]
        refine hih.imp_left fun hc => ⟨hc.1.trans hcurrent, ?_⟩
        by_contra hr
        simp [hretired (by simpa using hr)] at hc

theorem outputsOf_eq_nil (hb : b ∉ v.current :: (publications frames).map Prod.fst) :
    outputsOf b frames = [] := by
  induction frames generalizing v with
  | nil => rfl
  | cons f frames ih =>
    obtain ⟨w, hw, hrest⟩ := v.follow_cons_some h
    cases hw with
    | began base _ _ hpub hout =>
      rw [hpub, map_cons] at hb
      rw [hout]
      exact ih hrest (not_mem_of_not_mem_cons hb)
    | carried _ hcurrent _ hpub hout =>
      have hne : v.current ≠ b := fun heq => hb (heq ▸ mem_cons_self)
      rw [hpub, ← hcurrent] at hb
      rw [hout, if_neg hne]
      exact ih hrest hb
    | kept hcurrent _ _ hpub hout =>
      rw [hpub, ← hcurrent] at hb
      rw [hout]
      exact ih hrest hb

variable (hnodup : (v.current :: (publications frames).map Prod.fst).Nodup)

include hnodup

theorem outputsOf_current : ∃ n, outputsOf v.current frames = range' v.expected n := by
  induction frames generalizing v with
  | nil => exact ⟨0, rfl⟩
  | cons f frames ih =>
    obtain ⟨w, hw, hrest⟩ := v.follow_cons_some h
    cases hw with
    | began base _ _ hpub hout =>
      -- a later generation has begun, so nothing is sent under this one any more
      rw [hpub, map_cons] at hnodup
      exact ⟨0, by rw [hout, outputsOf_eq_nil hrest (nodup_cons.mp hnodup).1]; rfl⟩
    | carried _ hcurrent hexpected hpub hout =>
      rw [hpub, ← hcurrent] at hnodup
      obtain ⟨n, hn⟩ := ih hrest hnodup
      refine ⟨n + 1, ?_⟩
      rw [hout, if_pos rfl, ← hcurrent, hn, hexpected, range'_succ]
    | kept hcurrent hexpected _ hpub hout =>
      rw [hpub, ← hcurrent] at hnodup
      obtain ⟨n, hn⟩ := ih hrest hnodup
      exact ⟨n, by rw [hout, ← hcurrent, hn, hexpected]⟩

theorem outputsOf_published {p : BootstrapId × Nat}
    (hp : p ∈ publications frames) : ∃ n, outputsOf p.1 frames = range' (p.2 + 1) n := by
  induction frames generalizing v with
  | nil => simp [publications] at hp
  | cons f frames ih =>
    obtain ⟨w, hw, hrest⟩ := v.follow_cons_some h
    cases hw with
    | began base _ hexpected hpub hout =>
      rw [hpub] at hp hnodup
      have htail := (nodup_cons.mp hnodup).2
      rw [hout]
      rcases mem_cons.mp hp with rfl | hp
      · obtain ⟨n, hn⟩ := outputsOf_current hrest htail
        exact ⟨n, by rw [hn, hexpected]⟩
      · exact ih hrest htail hp
    | carried _ hcurrent _ hpub hout =>
      rw [hpub] at hp
      rw [hpub, ← hcurrent] at hnodup
      have hne : v.current ≠ p.1 := by
        rintro heq
        refine (nodup_cons.mp hnodup).1 ?_
        rw [hcurrent, heq]
        exact mem_map_of_mem hp
      rw [hout, if_neg hne]
      exact ih hrest hnodup hp
    | kept hcurrent _ _ hpub hout =>
      rw [hpub] at hp
      rw [hpub, ← hcurrent] at hnodup
      rw [hout]
      exact ih hrest hnodup hp

omit hnodup

omit h

theorem publications_append (fs gs : List FrameKind) :
    publications (fs ++ gs) = publications fs ++ publications gs := by
  induction fs with
  | nil => rfl
  | cons f fs ih => cases f <;> simp [publications, ih]

theorem sequencedStream_of_follow {cut : Nat} (h : v.follow frames = some v')
    (hcut : v.expected = cut + 1)
    (hnodup : (v.current :: (publications frames).map Prod.fst).Nodup) :
    SequencedStream v.current cut frames where
  once := hnodup
  sequenced := by
    intro p hp
    rcases mem_cons.mp hp with rfl | hp
    · exact hcut ▸ outputsOf_current h hnodup
    · exact outputsOf_published h hnodup hp
  ended := by
    intro before after t s b reason last hframes f hf
    subst hframes
    rw [StreamView.follow_append, Option.bind_eq_some_iff] at h
    obtain ⟨w, hbefore, htomb⟩ := h
    rw [StreamView.follow_cons, Option.bind_eq_some_iff] at htomb
    obtain ⟨r, hr, hafter⟩ := htomb
    simp only [StreamView.observe, Option.ite_none_right_eq_some, Option.some.injEq] at hr
    obtain ⟨⟨-, -, rfl⟩, rfl⟩ := hr
    -- its id was published before the tombstone, so not after it
    have hmem := current_mem_of_follow hbefore
    rw [publications_append, map_append, ← cons_append] at hnodup
    have hdisjoint := disjoint_of_nodup_append hnodup hmem
    by_contra hext
    rcases extends_mem_of_follow hafter hf (by simpa using hext) with ⟨-, hlive⟩ | hlater
    · simp at hlive
    · exact hdisjoint hlater

end

def bootstrapIdCount : Nat := 0xFFFFFFFFFFFFFFFF

variable (b : BootstrapId)

theorem BootstrapId.raw_pos : 0 < b.raw.toNat := by
  refine Nat.pos_of_ne_zero fun h => b.nonzero ?_
  exact UInt64.toNat_inj.mp (by simpa using h)

theorem nextBootstrapId_raw :
    (nextBootstrapId b).raw.toNat - 1 = b.raw.toNat % bootstrapIdCount := by
  have hlt := b.raw.toNat_lt
  have hadd : (b.raw + 1).toNat = (b.raw.toNat + 1) % 18446744073709551616 := by
    simp [UInt64.toNat_add]
  by_cases h : b.raw + 1 = 0
  · have hmax : b.raw.toNat = bootstrapIdCount := by
      rw [h] at hadd
      simp only [bootstrapIdCount]
      simp only [UInt64.toNat_zero] at hadd
      omega
    simp [nextBootstrapId, h, hmax]
  · have hne : b.raw.toNat + 1 ≠ 18446744073709551616 := by
      intro heq
      refine h (UInt64.toNat_inj.mp ?_)
      rw [hadd, heq]
      rfl
    have hmod : b.raw.toNat % bootstrapIdCount = b.raw.toNat :=
      Nat.mod_eq_of_lt (by simp only [bootstrapIdCount]; omega)
    simp only [nextBootstrapId, h, dif_neg, not_false_eq_true, hadd, hmod]
    omega

theorem iterate_nextBootstrapId_raw (n : Nat) :
    (nextBootstrapId^[n] b).raw.toNat - 1 = (b.raw.toNat - 1 + n) % bootstrapIdCount := by
  induction n with
  | zero =>
    have hlt := b.raw.toNat_lt
    have hpos := b.raw_pos
    have hmod : (b.raw.toNat - 1) % bootstrapIdCount = b.raw.toNat - 1 :=
      Nat.mod_eq_of_lt (by simp only [bootstrapIdCount]; omega)
    simp [hmod]
  | succ n ih =>
    have hpos := (nextBootstrapId^[n] b).raw_pos
    have hraw : (nextBootstrapId^[n] b).raw.toNat = (b.raw.toNat - 1 + n) % bootstrapIdCount + 1 := by
      omega
    rw [Function.iterate_succ_apply', nextBootstrapId_raw, hraw, Nat.mod_add_mod, Nat.add_assoc]

theorem nodup_iterate_nextBootstrapId {n : Nat} (hn : n ≤ bootstrapIdCount) :
    ((range n).map fun i => nextBootstrapId^[i] b).Nodup := by
  refine nodup_range.map_on fun i hi j hj heq => ?_
  rw [mem_range] at hi hj
  have hmod : (b.raw.toNat - 1 + i) % bootstrapIdCount = (b.raw.toNat - 1 + j) % bootstrapIdCount := by
    rw [← iterate_nextBootstrapId_raw, heq, iterate_nextBootstrapId_raw]
  exact (Nat.ModEq.add_left_cancel' _ hmod).eq_of_lt_of_lt (by omega) (by omega)

end Phux
