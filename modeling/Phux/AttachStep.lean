import Phux.AttachSeats

/-! What a call does to the attach: it keeps it, begins one, opens its barrier, drops it or
takes a participant out of it. -/

namespace Phux

open List

variable {R ε : Type}

def AttachState.fresh (attachId : UInt32) (ts : List ResourceId) : AttachState :=
  ⟨attachId, false, ts.map fun t => ⟨t, false, false⟩⟩

namespace SessionKernel

variable {host : KernelHost R ε} {t : ResourceId} {call : KernelCall} {k k' : SessionKernel R}
  {p : AttachParticipant}

def starts (host : KernelHost R ε) (k : SessionKernel R) : KernelCall → Bool
  | .update (.attachStarted attachId ts) =>
    (k.update host (.attachStarted attachId ts)).result.isOk
  | _ => false

def opens (host : KernelHost R ε) (k : SessionKernel R) : KernelCall → Bool
  | .update (.attachReady attachId) => (k.update host (.attachReady attachId)).result.isOk
  | _ => false

inductive AttachStep (host : KernelHost R ε) (k k' : SessionKernel R) (call : KernelCall) : Prop
  | keep (hstarts : k.starts host call = false) (hopens : k.opens host call = false)
      (hcall : call ≠ .releaseActiveAttach) (hseated : Seated k k')
  | start (attachId : UInt32) (ts : List ResourceId)
      (hcall : call = .update (.attachStarted attachId ts)) (hstarts : k.starts host call = true)
      (hattach : k'.attach = some (.fresh attachId ts)) (hnodup : ts.Nodup)
      (hkinds : ∀ t ∈ ts, k'.kinds t = some .terminal)
  | open (attach : AttachState) (hcall : call = .update (.attachReady attach.attachId))
      (hopens : k.opens host call = true) (hattach : k.attach = some attach)
      (hreleased : attach.released = false) (hready : ∀ p ∈ attach.terminals, p.resolved = true)
      (hafter : k' = { k with attach := some { attach with released := true } })
  | abandon (hcall : call = .releaseActiveAttach) (hattach : k'.attach = none)
  | leave (t : ResourceId) (attach : AttachState) (hcall : call = .detachTerminal t)
      (hattach : k.attach = some attach) (hreleased : attach.released = true)
      (hafter : k'.attach = some { attach with
        terminals := attach.terminals.filter fun p => p.terminalId ≠ t })
      (hothers : ∀ u, u ≠ t → Undisturbed k k' u)

variable {ts : List ResourceId}

theorem expectTerminals_kinds
    (h : (k.expectTerminals ts : _ × Except (KernelError ε) Unit) = (k', .ok ())) :
    ∀ t ∈ ts, k'.kinds t = some .terminal := by
  induction ts generalizing k with
  | nil => exact fun _ ht => absurd ht not_mem_nil
  | cons t ts ih =>
    cases hkind : (k.expectKind t .terminal : Except (KernelError ε) _) with
    | error error =>
      simp only [expectTerminals, hkind] at h
      cases h
    | ok k₁ =>
      simp only [expectTerminals, hkind] at h
      have hinforms := @expectTerminals_informs R ε ts k₁
      rw [h] at hinforms
      exact forall_mem_cons.mpr
        ⟨Informed.kept (hinforms.kinds t) (expectKind_learns hkind).now, ih h⟩

theorem expectTerminals_attach (ts : List ResourceId) (k : SessionKernel R) :
    (k.expectTerminals ts : _ × Except (KernelError ε) Unit).1.attach = k.attach := by
  induction ts generalizing k with
  | nil => rfl
  | cons t ts ih =>
    cases hkind : (k.expectKind t .terminal : Except (KernelError ε) _) with
    | error error => simp only [expectTerminals, hkind]
    | ok k₁ =>
      simp only [expectTerminals, hkind]
      exact (ih k₁).trans (expectKind_learns hkind).attach

theorem attachStarted_cases {aid : UInt32} {o : Outcome R ε}
    (ho : k.attachStarted aid ts = o) : o.effects = [] ∧
      ((o.result.isOk = false ∧ KeepsAttach k o) ∨
        (o.result.isOk = true ∧ o.kernel.attach = some (.fresh aid ts) ∧ ts.Nodup ∧
          ∀ t ∈ ts, o.kernel.kinds t = some .terminal)) := by
  unfold attachStarted at ho
  cases hbusy : k.attach.filter fun attach => !attach.released with
  | some attach =>
    simp only [hbusy] at ho
    subst ho
    exact ⟨rfl, .inl ⟨rfl, rfl⟩⟩
  | none =>
    simp only [hbusy] at ho
    cases hcheck : (k.checkInventory [] ts : Except (KernelError ε) Unit) with
    | error error =>
      simp only [hcheck, require] at ho
      subst ho
      exact ⟨rfl, .inl ⟨rfl, rfl⟩⟩
    | ok _ =>
      simp only [hcheck, require] at ho
      have hattach := @expectTerminals_attach R ε ts k
      rcases hexpect : (k.expectTerminals ts : _ × Except (KernelError ε) Unit) with ⟨k₁, _ | _⟩
      · simp only [hexpect] at ho hattach
        subst ho
        exact ⟨rfl, .inl ⟨rfl, hattach⟩⟩
      · simp only [hexpect] at ho
        subst ho
        refine ⟨rfl, .inr ⟨rfl, rfl, (checkInventory_ok hcheck).2, fun t ht => ?_⟩⟩
        exact Informed.kept ((openTerminals_informs ts k₁).kinds t)
          (expectTerminals_kinds hexpect t ht)

theorem attachReady_cases (k : SessionKernel R) (aid : UInt32) :
    (∃ error, (k.attachReady aid : Outcome R ε) = k.reject error) ∨
      ∃ attach, k.attach = some attach ∧ attach.attachId = aid ∧ attach.released = false ∧
        (∀ p ∈ attach.terminals, p.resolved = true) ∧ (k.attachReady aid : Outcome R ε) =
          { k with attach := some { attach with released := true } : SessionKernel R }.accept
            (attach.terminals.flatMap k.participantDamage) := by
  unfold attachReady
  cases hattach : k.attach with
  | none => exact .inl ⟨.attachIdMismatch none aid, rfl⟩
  | some attach =>
    by_cases hid : attach.attachId = aid
    · by_cases hready : (attach.terminals.countP fun p => !p.resolved) = 0
      · cases hreleased : attach.released with
        | true => exact .inl ⟨.attachIdMismatch none aid, by simp [hid, hready, hreleased]⟩
        | false =>
          refine .inr ⟨attach, rfl, hid, hreleased, ?_, by simp [hid, hready, hreleased]⟩
          simpa [countP_eq_zero] using hready
      · exact .inl ⟨.attachNotReady (attach.terminals.countP fun p => !p.resolved), by
          simp [hid, hready]⟩
    · exact .inl ⟨.attachIdMismatch (some attach.attachId) aid, by simp [hid]⟩

theorem releaseTerminal_attach (k : SessionKernel R) (t : ResourceId) :
    (k.releaseTerminal t).1.attach = k.attach := by
  unfold releaseTerminal
  split <;> rfl

theorem detachTerminal_attach (host : KernelHost R ε) (hkept : k.Kept) (hbarrier : k.Barrier)
    (t : ResourceId) : AttachStep host k (k.after host (.detachTerminal t)) (.detachTerminal t) := by
  have hstep := after_step host k (.detachTerminal t)
  cases hattach : k.attach with
  | none =>
    refine .keep rfl rfl (by simp) (hbarrier.seated_of_same ?_ fun attach ha => ?_)
    · have hdetach : k.detachTerminal t = k.releaseTerminal t := by simp [detachTerminal, hattach]
      change (k.detachTerminal t).1.attach = k.attach
      rw [hdetach, releaseTerminal_attach]
    · rw [hattach] at ha
      cases ha
  | some attach =>
    cases hreleased : attach.released with
    | false =>
      have hsame : k.after host (.detachTerminal t) = k := by
        simp [after, detachTerminal, hattach, hreleased]
      rw [hsame]
      exact .keep rfl rfl (by simp) (hbarrier.seated_of_same rfl fun _ _ _ _ => .refl k _)
    | true =>
      refine .leave t attach rfl hattach hreleased ?_ fun u hu => ?_
      · have hdetach : k.detachTerminal t = { k with attach := some { attach with
            terminals := attach.terminals.filter fun p => p.terminalId ≠ t } :
            SessionKernel R }.releaseTerminal t := by
          simp [detachTerminal, hattach, hreleased]
        change (k.detachTerminal t).1.attach = _
        rw [hdetach, releaseTerminal_attach]
      · refine hkept.undisturbed hstep ?_ rfl
        simp [drops, hu.symm]

theorem mem_attachContains {attach : AttachState} (hattach : k.attach = some attach)
    (hp : p ∈ attach.terminals) : k.attachContains p.terminalId = true := by
  simp only [attachContains, hattach, any_eq_true]
  exact ⟨p, hp, decide_eq_true rfl⟩

theorem after_attachStep (host : KernelHost R ε) (hkept : k.Kept) (hbarrier : k.Barrier)
    (call : KernelCall) : AttachStep host k (k.after host call) call := by
  cases call with
  | update input =>
    cases input with
    | attachStarted aid ts =>
      rcases (attachStarted_cases (o := k.update host (.attachStarted aid ts)) rfl).2 with
        ⟨hrefused, hsame⟩ | ⟨hok, hattach, hnodup, hkinds⟩
      · exact .keep hrefused rfl (by simp) (KeepsAttach.seated hsame hkept hbarrier rfl)
      · exact .start aid ts rfl hok hattach hnodup hkinds
    | attachReady aid =>
      rcases @attachReady_cases R ε k aid with
        ⟨error, hrefused⟩ | ⟨attach, hattach, rfl, hreleased, hready, haccepted⟩
      · have hupdate : k.update host (.attachReady aid) = k.reject error := hrefused
        refine .keep rfl ?_ (by simp) (hbarrier.seated_of_same ?_ fun _ _ _ _ => ?_)
        · simp only [opens, hupdate]
          rfl
        · change (k.update host (.attachReady aid)).kernel.attach = k.attach
          rw [hupdate]
          rfl
        · exact hkept.undisturbed_by (by simp [KernelInput.target])
      · have hupdate : k.update host (.attachReady attach.attachId) = _ := haccepted
        refine .open attach rfl ?_ hattach hreleased hready ?_
        · simp only [opens, hupdate]
          rfl
        · change (k.update host (.attachReady attach.attachId)).kernel = _
          rw [hupdate]
          rfl
    | _ => exact .keep rfl rfl (by simp) (hkept.update_seated hbarrier host rfl)
  | releaseActiveAttach => exact .abandon rfl rfl
  | detachTerminal t => exact detachTerminal_attach host hkept hbarrier t
  | releaseTerminal t =>
    refine .keep rfl rfl (by simp) (hbarrier.seated_of_same (releaseTerminal_attach k t) ?_)
    intro attach ha p hp
    refine hkept.undisturbed (after_step host k (.releaseTerminal t)) ?_ rfl
    by_cases ht : t = p.terminalId
    · simp [drops, ht, releaseTerminal, mem_attachContains ha hp]
    · simp [drops, ht]
  | _ =>
    exact .keep rfl rfl (by simp) (hbarrier.seated_of_same ((after_step host k _).attach rfl)
      fun _ _ _ _ => hkept.undisturbed (after_step host k _) rfl rfl)

theorem Seated.barrier (h : Seated k k') (hbarrier : k.Barrier) : k'.Barrier := by
  obtain ⟨f, hattach, hseats⟩ := h
  intro attach' ha'
  rw [hattach, Option.map_eq_some_iff] at ha'
  obtain ⟨attach, ha, rfl⟩ := ha'
  have hids : (attach.terminals.map f).map AttachParticipant.terminalId =
      attach.terminals.map AttachParticipant.terminalId := by
    rw [map_map]
    exact map_congr_left fun p hp => (hseats attach ha p hp).id
  refine ⟨hids ▸ (hbarrier attach ha).1, fun p hp => ?_⟩
  obtain ⟨q, hq, rfl⟩ := mem_map.mp hp
  exact (hseats attach ha q hq).sound

theorem AttachStep.barrier (h : AttachStep host k k' call) (hbarrier : k.Barrier) : k'.Barrier := by
  cases h with
  | keep hstarts hopens hcall hseated => exact hseated.barrier hbarrier
  | start aid ts hcall hstarts hattach hnodup hkinds =>
    intro attach ha
    rw [hattach] at ha
    cases ha
    refine ⟨by simpa [AttachState.fresh, Function.comp_def] using hnodup, fun p hp => ?_⟩
    obtain ⟨t, ht, rfl⟩ := mem_map.mp hp
    exact ⟨hkinds t ht, fun h => absurd h Bool.false_ne_true, fun h => absurd h Bool.false_ne_true⟩
  | «open» attach hcall hopens hattach hreleased hready hafter =>
    subst hafter
    intro attach' ha
    cases ha
    obtain ⟨hnodup, hsound⟩ := hbarrier attach hattach
    exact ⟨hnodup, fun p hp => ⟨(hsound p hp).kind, (hsound p hp).resolved, (hsound p hp).removal⟩⟩
  | abandon hcall hattach =>
    intro attach ha
    rw [hattach] at ha
    cases ha
  | leave t attach hcall hattach hreleased hafter hothers =>
    intro attach' ha
    rw [hafter] at ha
    cases ha
    obtain ⟨hnodup, hsound⟩ := hbarrier attach hattach
    refine ⟨hnodup.sublist (filter_sublist.map _), fun p hp => ?_⟩
    obtain ⟨hp, ht⟩ := mem_filter.mp hp
    exact ((hothers _ (of_decide_eq_true ht)).seat (hsound p hp)).sound

end SessionKernel

end Phux
