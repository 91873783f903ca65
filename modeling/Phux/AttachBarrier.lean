import Phux.AttachDamage

/-! The attach barrier: when it opens, and what is shown then. -/

namespace Phux

open List SessionKernel

variable {R ε : Type}

variable {during : List KernelCall} {aid : UInt32} {attach : AttachState}
  {ts : List ResourceId}

namespace SessionKernel

variable {host : KernelHost R ε} {t : ResourceId} {call : KernelCall} {k : SessionKernel R}

/-- The resource has had a published replica at some point of the run, its start and its end
included. -/
def everPublished (host : KernelHost R ε) (k : SessionKernel R) (calls : List KernelCall)
    (t : ResourceId) : Bool :=
  calls.inits.any fun earlier => ((k.run host earlier).published t).isSome

/-- What the barrier of an attach that began at `k` owes a participant when it opens. -/
def owed (host : KernelHost R ε) (k : SessionKernel R) (during : List KernelCall)
    (t : ResourceId) : List KernelEffect :=
  if ((k.run host during).published t).isSome then [.damage t .full]
  else if k.everPublished host during t then [.damage t .removed]
  else []

structure Orderly (k : SessionKernel R) : Prop where
  kept : k.Kept
  barrier : k.Barrier
  filed : k.Filed

theorem orderly_start {selected : BootstrapProfile} {config : HistoryCacheConfig} :
    (withHistoryConfig selected config : SessionKernel R).Orderly where
  kept := kept_start
  barrier _ ha := by cases ha
  filed := fun _ => ⟨by simp [terminal, withHistoryConfig, TerminalState.default],
    by simp [terminal, withHistoryConfig, TerminalState.default]⟩

theorem Orderly.after (h : k.Orderly) (host : KernelHost R ε) (call : KernelCall) :
    (k.after host call).Orderly where
  kept := h.kept.step (after_step host k call)
  barrier := (after_attachStep host h.kept h.barrier call).barrier h.barrier
  filed := h.filed.step (after_step host k call)

theorem Orderly.run (h : k.Orderly) (host : KernelHost R ε) (calls : List KernelCall) :
    (k.run host calls).Orderly :=
  Machine.run_invariant (fun _ call hk => hk.after host call) h

theorem everPublished_of_now {calls : List KernelCall}
    (h : ((k.run host calls).published t).isSome = true) : k.everPublished host calls t = true :=
  any_eq_true.mpr ⟨calls, (mem_inits calls calls).mpr (prefix_refl calls), h⟩

def holdsBack (host : KernelHost R ε) (k : SessionKernel R) (call : KernelCall) : Prop :=
  k.opens host call = false ∧ call ≠ .releaseActiveAttach

structure Up (host : KernelHost R ε) (k : SessionKernel R) (attachId : UInt32)
    (ts : List ResourceId) (during : List KernelCall) (attach : AttachState) : Prop where
  now : (k.run host during).attach = some attach
  id : attach.attachId = attachId
  unreleased : attach.released = false
  participants : attach.terminals.map AttachParticipant.terminalId = ts
  removal : ∀ p ∈ attach.terminals, p.pendingRemoval = true ↔
    (k.run host during).published p.terminalId = none ∧
      k.everPublished host during p.terminalId = true
  closed : Machine.EveryStep (after host) (holdsBack host) k during

structure Down (host : KernelHost R ε) (k : SessionKernel R) (during : List KernelCall) : Prop where
  released : ∀ attach, (k.run host during).attach = some attach → attach.released = true
  ended : ¬Machine.EveryStep (after host) (holdsBack host) k during

theorem attachBlocks_of_mem {p : AttachParticipant} (hattach : k.attach = some attach)
    (hreleased : attach.released = false) (hp : p ∈ attach.terminals) :
    k.attachBlocks p.terminalId = true := by
  simp only [attachBlocks, hattach, hreleased, Bool.not_false, Bool.true_and, any_eq_true]
  exact ⟨p, hp, decide_eq_true rfl⟩

theorem everyStep_concat {q : SessionKernel R → KernelCall → Prop} :
    Machine.EveryStep (after host) q k (during ++ [call]) ↔
      Machine.EveryStep (after host) q k during ∧ q (k.run host during) call := by
  rw [Machine.everyStep_append]
  exact and_congr_right fun _ => and_iff_left trivial

theorem Up.seated (h : Up host k aid ts during attach)
    (hseated : Seated (k.run host during) (k.run host (during ++ [call])))
    (hback : (k.run host during).holdsBack host call) :
    ∃ attach', Up host k aid ts (during ++ [call]) attach' := by
  obtain ⟨f, hattach, hseats⟩ := hseated
  have hseat := hseats attach h.now
  rw [h.now, Option.map_some] at hattach
  refine ⟨_, hattach, h.id, h.unreleased, ?_, fun p hp => ?_, everyStep_concat.mpr ⟨h.closed, hback⟩⟩
  · rw [map_map, ← h.participants]
    exact map_congr_left fun p hp => (hseat p hp).id
  · obtain ⟨q, hq, rfl⟩ := mem_map.mp hp
    have hlost := (hseat q hq).lost (attachBlocks_of_mem h.now h.unreleased hq)
    rw [(hseat q hq).id, hlost, ← published_eq, ← published_eq, h.removal q hq]
    have hlater : k.everPublished host (during ++ [call]) q.terminalId =
        (k.everPublished host during q.terminalId ||
          ((k.run host (during ++ [call])).published q.terminalId).isSome) := by
      simp [everPublished, inits_append, any_append]
    rw [hlater]
    have hever := @everPublished_of_now R ε host q.terminalId k during
    cases hnow : (k.run host (during ++ [call])).published q.terminalId with
    | some replica => simp
    | none =>
      cases hbefore : (k.run host during).published q.terminalId with
      | none => simp
      | some replica =>
        rw [hbefore] at hever
        simp [hever rfl]

theorem Down.keep (h : Down host k during)
    (hreleased : ∀ attach, (k.run host (during ++ [call])).attach = some attach → attach.released = true) :
    Down host k (during ++ [call]) :=
  ⟨hreleased, fun hall => h.ended (everyStep_concat.mp hall).1⟩

theorem run_concat (host : KernelHost R ε) (k : SessionKernel R) (calls : List KernelCall)
    (call : KernelCall) : k.run host (calls ++ [call]) = (k.run host calls).after host call :=
  Machine.run_concat _ k calls call

theorem barrier_phase (hk : k.Orderly) (hattach : k.attach = some (.fresh aid ts))
    (halone : Machine.EveryStep (after host) (fun k call => k.starts host call = false) k during) :
    (∃ attach, Up host k aid ts during attach) ∨ Down host k during := by
  induction during using reverseRecOn with
  | nil =>
    refine .inl ⟨.fresh aid ts, hattach, rfl, rfl, ?_, fun p hp => ?_, trivial⟩
    · simp [AttachState.fresh, Function.comp_def]
    · obtain ⟨t, _, rfl⟩ := mem_map.mp hp
      simp [everPublished, run, Machine.run]
  | append_singleton during call ih =>
    obtain ⟨halone, hstarts⟩ := everyStep_concat.mp halone
    have hrun := hk.run host during
    have hstep := after_attachStep host hrun.kept hrun.barrier call
    rw [← run_concat] at hstep
    rcases ih halone with ⟨attach, hup⟩ | hdown
    · cases hstep with
      | keep _ hopens hcall hseated => exact .inl (hup.seated hseated ⟨hopens, hcall⟩)
      | start _ _ _ hstarted =>
        rw [hstarts] at hstarted
        cases hstarted
      | «open» attach' hcall hopens hbefore hunreleased hready hafter =>
        refine .inr ⟨fun _ ha => ?_, fun hall => ?_⟩
        · rw [hafter] at ha
          cases ha
          rfl
        · have hback := (everyStep_concat.mp hall).2.1
          rw [hopens] at hback
          cases hback
      | abandon hcall hnone =>
        refine .inr ⟨fun _ ha => ?_, fun hall => (everyStep_concat.mp hall).2.2 hcall⟩
        rw [hnone] at ha
        cases ha
      | leave t attach' hcall hbefore hreleased =>
        rw [hup.now] at hbefore
        cases hbefore
        rw [hup.unreleased] at hreleased
        cases hreleased
    · refine .inr (hdown.keep fun attach' ha => ?_)
      cases hstep with
      | keep _ _ _ hseated =>
        obtain ⟨f, hsame, _⟩ := hseated
        rw [hsame, Option.map_eq_some_iff] at ha
        obtain ⟨attach, hbefore, rfl⟩ := ha
        exact hdown.released attach hbefore
      | start _ _ _ hstarted =>
        rw [hstarts] at hstarted
        cases hstarted
      | «open» attach hcall hopens hbefore hunreleased =>
        rw [hdown.released attach hbefore] at hunreleased
        cases hunreleased
      | abandon hcall hnone =>
        rw [hnone] at ha
        cases ha
      | leave t attach hcall hbefore hreleased hafter =>
        rw [hafter] at ha
        cases ha
        exact hreleased

theorem Up.owed (h : Up host k aid ts during attach) :
    attach.terminals.flatMap (k.run host during).participantDamage =
      ts.flatMap (k.owed host during) := by
  rw [← h.participants, flatMap_map]
  refine flatMap_congr fun p hp => ?_
  have hremoval := h.removal p hp
  have hdamage : (k.run host during).participantDamage p =
      if p.pendingRemoval then [.damage p.terminalId .removed]
      else if ((k.run host during).published p.terminalId).isSome then
        [.damage p.terminalId .full]
      else [] := rfl
  rw [hdamage, SessionKernel.owed]
  cases hnow : (k.run host during).published p.terminalId with
  | some replica =>
    rw [hnow] at hremoval
    have hpending : p.pendingRemoval = false := by simpa using hremoval
    simp [hpending]
  | none =>
    rw [hnow] at hremoval
    have hpending : p.pendingRemoval = k.everPublished host during p.terminalId :=
      Bool.eq_iff_iff.mpr (hremoval.trans (and_iff_right rfl))
    simp [hpending]

theorem attachReady_ok (h : (k.update host (.attachReady aid)).result = .ok ()) :
    ∃ attach, k.attach = some attach ∧ attach.attachId = aid ∧ attach.released = false ∧
      (∀ p ∈ attach.terminals, p.resolved = true) ∧ (k.update host (.attachReady aid)).effects =
        attach.terminals.flatMap k.participantDamage := by
  rcases @attachReady_cases R ε k aid with
    ⟨error, hrefused⟩ | ⟨attach, hattach, hid, hreleased, hready, haccepted⟩
  · have hupdate : k.update host (.attachReady aid) = k.reject error := hrefused
    rw [hupdate] at h
    cases h
  · refine ⟨attach, hattach, hid, hreleased, hready, ?_⟩
    have hupdate : k.update host (.attachReady aid) = _ := haccepted
    rw [hupdate]
    rfl

/-- A resource is done waiting for its attach: it is closed, or a replica of it is published
whose generation is not retired. -/
def Settled (k : SessionKernel R) (t : ResourceId) : Prop :=
  t ∈ k.closed ∨ (k.terminal t).live = true

end SessionKernel

/-- The attach barrier, after any run of calls: a resolved participant is settled;
ATTACH_READY succeeds for settled participants only; and of the attach that a call begins
over `ts`, until another begins, ATTACH_READY succeeds at most once, shows then what each
participant is owed and nothing else, and nothing of a participant is shown before. -/
theorem attach_barrier (host : KernelHost R ε) (selected : BootstrapProfile)
    (config : HistoryCacheConfig) (calls : List KernelCall) :
    let k := (withHistoryConfig selected config).run host calls
    (∀ attach, k.attach = some attach → ∀ p ∈ attach.terminals, p.resolved = true →
      k.Settled p.terminalId) ∧
    (∀ attachId, (k.update host (.attachReady attachId)).result = .ok () →
      ∃ attach, k.attach = some attach ∧ attach.attachId = attachId ∧
        ∀ p ∈ attach.terminals, k.Settled p.terminalId) ∧
    (∀ t rows, ∀ effect ∈ (k.prefetchHistory t rows).2.1, effect.isDamage = false) ∧
    ∀ attachId ts during, k.starts host (.update (.attachStarted attachId ts)) = true →
      let k₁ := k.after host (.update (.attachStarted attachId ts))
      let k₂ := k₁.run host during
      Machine.EveryStep (after host) (fun k call => k.starts host call = false)
        k₁ during →
      ts.Nodup ∧
      (∀ id, (k₂.update host (.attachReady id)).result = .ok () → id = attachId ∧
        Machine.EveryStep (after host) (fun k call => k.opens host call = false)
          k₁ during ∧
        (k₂.update host (.attachReady id)).effects = ts.flatMap (k₁.owed host during)) ∧
      (Machine.EveryStep (after host) (holdsBack host) k₁ during →
        ∀ t ∈ ts, ∀ input kind, .damage t kind ∈ (k₂.update host input).effects →
          input = .attachReady attachId ∧ (k₂.update host input).result = .ok ()) := by
  intro k
  have hk : k.Orderly := orderly_start.run host calls
  have hsettled : ∀ attach, k.attach = some attach → ∀ p ∈ attach.terminals,
      p.resolved = true → k.Settled p.terminalId :=
    fun attach ha p hp => ((hk.barrier attach ha).2 p hp).resolved
  refine ⟨hsettled, fun attachId hok => ?_, fun t rows => ?_, fun attachId ts during hstarts => ?_⟩
  · obtain ⟨attach, hattach, hid, _, hready, _⟩ := attachReady_ok hok
    exact ⟨attach, hattach, hid, fun p hp => hsettled attach hattach p hp (hready p hp)⟩
  · unfold prefetchHistory
    repeat' split
    all_goals simp [KernelEffect.isDamage]
  intro k₁ k₂ halone
  have hk₁ : k₁.Orderly := hk.after host _
  have hk₂ : k₂.Orderly := hk₁.run host during
  rcases (attachStarted_cases (o := k.update host (.attachStarted attachId ts))
    rfl).2 with ⟨hrefused, _⟩ | ⟨_, hattach, hnodup, _⟩
  · rw [show k.starts host (.update (.attachStarted attachId ts)) = false from hrefused] at hstarts
    cases hstarts
  have hphase := barrier_phase hk₁ hattach halone
  refine ⟨hnodup, fun id hok => ?_, fun hback t ht input kind hin => ?_⟩
  · obtain ⟨attach, hnow, hid, hreleased, _, heffects⟩ := attachReady_ok hok
    rcases hphase with ⟨attach', hup⟩ | hdown
    · cases hnow.symm.trans hup.now
      exact ⟨hid.symm.trans hup.id, hup.closed.mono fun _ _ hback => hback.1,
        heffects.trans hup.owed⟩
    · rw [hdown.released attach hnow] at hreleased
      cases hreleased
  · rcases hphase with ⟨attach, hup⟩ | hdown
    · rw [← hup.participants] at ht
      obtain ⟨p, hp, rfl⟩ := mem_map.mp ht
      have hblocks := attachBlocks_of_mem hup.now hup.unreleased hp
      obtain ⟨id, rfl⟩ : ∃ attachId, input = .attachReady attachId := by
        by_contra hother
        have hhides := update_hides host hk₂.filed (not_exists.mp hother) _ kind hin
        rw [hblocks] at hhides
        cases hhides
      rcases @attachReady_cases R ε k₂ id with
        ⟨error, hrefused⟩ | ⟨attach', hnow, hid, -, -, haccepted⟩
      · have hupdate : k₂.update host (.attachReady id) = k₂.reject error := hrefused
        rw [hupdate] at hin
        exact absurd hin not_mem_nil
      · have hupdate : k₂.update host (.attachReady id) = _ := haccepted
        cases hnow.symm.trans hup.now
        exact ⟨by rw [← hid, hup.id], by rw [hupdate]; rfl⟩
    · exact absurd hback hdown.ended

/-- An attach over two terminals: one bootstraps, the other bootstraps and closes. -/
def twoTerminals : List KernelCall :=
  [.update (.bootstrapBegin (.local 1) .first .synthesizedVtRaw ⟨80, 24⟩ 0),
    .update (.bootstrapReady (.local 1) .first none),
    .update (.bootstrapBegin (.local 2) .first .synthesizedVtRaw ⟨80, 24⟩ 0),
    .update (.bootstrapReady (.local 2) .first none),
    .update (.resourceClosed (.local 2))]

theorem attach_shows_each_once :
    let k := ((withHistoryConfig .synthesizedVtRaw .standard).after .recording
      (.update (.attachStarted 7 [.local 1, .local 2]))).run .recording twoTerminals
    (k.update .recording (.attachReady 7)).result = .ok () ∧
      (k.update .recording (.attachReady 7)).effects =
        [.damage (.local 1) .full, .damage (.local 2) .removed] := by
  intro k
  have hok : (k.update .recording (.attachReady 7)).result = .ok () := rfl
  have hbarrier := (attach_barrier .recording .synthesizedVtRaw .standard []).2.2.2 7
    [.local 1, .local 2] twoTerminals rfl (by decide)
  exact ⟨hok, (hbarrier.2.1 7 hok).2.2⟩

end Phux
