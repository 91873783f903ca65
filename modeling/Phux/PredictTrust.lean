import Phux.PredictRuns

/-! When the guesses are shown, and when the tentative lock is on. -/

namespace Phux

open List Bool

/-- Three contradicted passes in a row and no two clean ones in a row since; newest first. -/
def Locked (passes : List Bool) : Prop :=
  ∃ newer older, passes = newer ++ true :: true :: true :: older ∧ ¬[false, false] <:+: newer

theorem locked_contradicted {passes : List Bool} :
    Locked (true :: passes) ↔ Locked passes ∨ 2 ≤ (passes.takeWhile id).length := by
  constructor
  · rintro ⟨_ | ⟨b, newer⟩, older, heq, hclean⟩
    · obtain ⟨-, rfl⟩ := cons.inj heq
      exact .inr (by simp)
    · obtain ⟨rfl, rfl⟩ := cons.inj heq
      exact .inl ⟨newer, older, rfl, fun h => hclean (h.trans (suffix_cons _ _).isInfix)⟩
  · rintro (⟨newer, older, rfl, hclean⟩ | hlong)
    · exact ⟨true :: newer, older, rfl, by simpa [infix_cons_iff] using hclean⟩
    · rcases passes with _ | ⟨_ | _, _ | ⟨_ | _, passes⟩⟩ <;> simp at hlong
      exact ⟨[], passes, rfl, by simp⟩

theorem locked_clean {passes : List Bool} :
    Locked (false :: passes) ↔ Locked passes ∧ (passes.takeWhile (!·)).length = 0 := by
  constructor
  · rintro ⟨_ | ⟨b, newer⟩, older, heq, hclean⟩
    · cases heq
    · obtain ⟨rfl, rfl⟩ := cons.inj heq
      refine ⟨⟨newer, older, rfl, fun h => hclean (h.trans (suffix_cons _ _).isInfix)⟩, ?_⟩
      rcases newer with _ | ⟨_ | _, newer⟩ <;> simp [infix_cons_iff] at hclean ⊢
  · rintro ⟨⟨newer, older, rfl, hclean⟩, hshort⟩
    refine ⟨false :: newer, older, rfl, fun h => ?_⟩
    rcases newer with _ | ⟨_ | _, newer⟩ <;> simp_all [infix_cons_iff]

def ReconcileStats.pass (stats : ReconcileStats) : List Bool :=
  if 0 < stats.contradicted then [true] else if 0 < stats.confirmed then [false] else []

namespace PredictionState

variable {s : PredictionState} {passes : List Bool}

structure Lock (s : PredictionState) (passes : List Bool) : Prop where
  tentative : s.tentative = true ↔ Locked passes
  contradictions : s.contradictionStreak = (passes.takeWhile id).length
  clean : s.tentative = true → s.cleanConfirmStreak = (passes.takeWhile (!·)).length

theorem Lock.noteReconcile (h : Lock s passes) (stats : ReconcileStats) :
    Lock (s.noteReconcile stats) (stats.pass ++ passes) := by
  obtain ⟨htentative, hcontradictions, hclean⟩ := h
  unfold PredictionState.noteReconcile ReconcileStats.pass
  dsimp only
  split_ifs with hcontradicted hlock hconfirmed hlift
  · refine ⟨iff_of_true rfl (locked_contradicted.mpr (.inr ?_)), ?_, fun _ => rfl⟩
    · exact Nat.le_of_succ_le_succ (hcontradictions ▸ hlock)
    · simp [enterTentative, hcontradictions]
  · refine ⟨?_, by simp [hcontradictions], fun _ => rfl⟩
    rw [singleton_append, locked_contradicted, ← htentative, ← hcontradictions]
    exact ⟨.inl, fun h => h.resolve_right fun hlong => hlock (Nat.succ_le_succ hlong)⟩
  · refine ⟨iff_of_false false_ne_true fun h => ?_, rfl, fun h => absurd h false_ne_true⟩
    have hnone := (hclean hlift.1).trans (locked_clean.mp h).2
    exact absurd hlift.2 (by simp [hnone, rearmThreshold])
  · refine ⟨?_, rfl, fun ht => by simp [hclean ht]⟩
    rw [singleton_append, locked_clean, ← htentative]
    refine ⟨fun ht => ⟨ht, ?_⟩, And.left⟩
    have hshort := not_and.mp hlift ht
    rw [rearmThreshold] at hshort
    rw [← hclean ht]
    omega
  · exact ⟨htentative, hcontradictions, hclean⟩

/-- What ends the evidence of an echo. -/
def resets (s : PredictionState) : PredictOp → Bool
  | .key event _ _ => event.action = .press && isModeChangingInput event
  | .reconcile cursor readCell => 0 < (s.reconcile cursor readCell).2.contradicted
  | .setAltScreen alt => alt ≠ s.altScreen
  | .setViewport _ _ | .clear => true
  | .setCursor _ _ | .suspend => false

/-- A pass confirms a non-blank inserted character. -/
def proves (s : PredictionState) : PredictOp → Bool
  | .reconcile cursor readCell => (s.matched cursor readCell).any Prediction.proves
  | _ => false

def passed (s : PredictionState) : PredictOp → List Bool
  | .reconcile cursor readCell => (s.reconcile cursor readCell).2.pass
  | _ => []

end PredictionState

/-- A run watched from outside: whether an echo was proved since the last reset, and the
outcomes of the passes that were not neutral, newest first. -/
structure Watched where
  state : PredictionState
  proved : Bool := false
  passes : List Bool := []

namespace Watched

open PredictionState

variable {unicode : UnicodeTables} {w : Watched}

def next (unicode : UnicodeTables) (w : Watched) (op : PredictOp) : Watched where
  state := w.state.step unicode op
  proved := !w.state.resets op && (w.proved || w.state.proves op)
  passes := w.state.passed op ++ w.passes

structure Sound (w : Watched) : Prop where
  lock : Lock w.state w.passes
  quiet : w.state.enabled = false → w.state.pending = []
  proved : w.state.enabled = true → w.state.altScreen = true → w.state.echoConfirmed = true →
    w.proved = true

theorem Sound.key (h : w.Sound) (event : KeyEvent) (nowMs : Nat)
    (cell : Nat → Nat → Option Char) : (w.next unicode (.key event nowMs cell)).Sound := by
  have hkeyed : Keyed w.state (w.state.step unicode (.key event nowMs cell)) := predictKey_keyed
  obtain ⟨_, _, _, _, _, _, hsame⟩ := hkeyed.same
  refine ⟨?_, fun hoff => ?_, fun hon halt hecho => ?_⟩
  · change Lock (w.state.step unicode (.key event nowMs cell)) w.passes
    rw [hsame]
    exact { h.lock with }
  · have hoff : w.state.enabled = false := by simpa [next, hsame] using hoff
    simpa [next, step, predictKeyWithGridAt, rejectUnpredictableContext, hoff] using h.quiet hoff
  · have hon : w.state.enabled = true := by simpa [next, hsame] using hon
    have halt : w.state.altScreen = true := by simpa [next, hsame] using halt
    cases hmode : w.state.resets (.key event nowMs cell) with
    | true =>
      simp only [resets, and_eq_true, decide_eq_true_eq] at hmode
      simp [next, step, predictKeyWithGridAt, rejectUnpredictableContext, hon, halt, hmode] at hecho
    | false => simp [next, hmode, h.proved hon halt (hkeyed.echo hecho)]

theorem Sound.note {s : PredictionState} {proved : Bool} {passes : List Bool}
    (h : Sound ⟨s, proved, passes⟩) {stats : ReconcileStats} :
    Sound ⟨s.noteReconcile stats, proved, stats.pass ++ passes⟩ := by
  have hlock := h.lock.noteReconcile stats
  obtain ⟨_, _, _, _, _, hnote, rfl | ⟨rfl, -⟩⟩ := s.noteReconcile_same
  all_goals rw [hnote] at hlock ⊢
  · exact ⟨hlock, h.quiet, h.proved⟩
  · exact ⟨hlock, fun _ => rfl, h.proved⟩

theorem Sound.reconcile (h : w.Sound) (cursor : Nat × Nat)
    (cell : Nat → Nat → Option String) : (w.next unicode (.reconcile cursor cell)).Sound := by
  have hr := w.state.reconcile_reconciles cursor cell
  have hproved : w.state.enabled = true → w.state.altScreen = true →
      (w.state.kept cursor cell []).echoConfirmed = true →
      (w.proved || (w.state.matched cursor cell).any Prediction.proves) = true := by
    intro hon halt hecho
    exact or_eq_true_iff.mpr ((or_eq_true_iff.mp hecho).imp_left (h.proved hon halt))
  unfold next resets proves passed step
  dsimp only
  generalize w.state.reconcile cursor cell = r at hr
  cases hr with
  | @drained _ stats hstats =>
    have hclean : decide (0 < stats.contradicted) = false := by simp [hstats]
    dsimp only
    rw [hclean]
    refine note ?_
    exact ⟨{ h.lock with }, fun _ => rfl, hproved⟩
  | @waits first rest hleft _ stats hstats =>
    have hclean : decide (0 < stats.contradicted) = false := by simp [hstats]
    dsimp only
    rw [hclean]
    refine note ?_
    refine ⟨{ h.lock with }, fun hoff => ?_, hproved⟩
    have hsplit := w.state.matched_append cursor cell
    simp [h.quiet hoff, hleft] at hsplit
  | @contradicted _ _ _ _ stats hstats =>
    dsimp only
    refine note ?_
    exact ⟨{ h.lock with }, fun _ => rfl, fun _ _ hecho => by cases hecho⟩

theorem Sound.next (h : w.Sound) (op : PredictOp) : (w.next unicode op).Sound := by
  cases op with
  | key event nowMs cell => exact h.key event nowMs cell
  | reconcile cursor cell => exact h.reconcile cursor cell
  | setAltScreen alt =>
    unfold Watched.next step setAltScreen
    dsimp only
    split_ifs with hsame
    · exact ⟨h.lock, h.quiet, fun hon halt hecho => by simp [resets, hsame, h.proved hon halt hecho]⟩
    · exact ⟨{ h.lock with }, fun _ => rfl, fun _ _ hecho => by cases hecho⟩
  | setViewport cols rows | clear =>
    exact ⟨{ h.lock with }, fun _ => rfl, fun _ _ hecho => by cases hecho⟩
  | setCursor row col =>
    exact ⟨{ h.lock with }, h.quiet, fun hon halt hecho => by
      simp [Watched.next, resets, h.proved hon halt hecho]⟩
  | suspend =>
    exact ⟨{ h.lock with }, fun _ => rfl, fun hon halt hecho => by
      simp [Watched.next, resets, h.proved hon halt hecho]⟩

/-- Along every run the alternate screen shows a guess only if a non-blank inserted character was
confirmed since the last switch of screens, contradiction, resize, clear or press of a
mode-changing key; and the tentative lock is on exactly when three passes in a row contradicted
and no two clean ones in a row came after. -/
theorem shown_only_if_proved (unicode : UnicodeTables) (enabled : Bool) (cols rows : Nat)
    (ops : List PredictOp) :
    let w := Machine.run (next unicode) ⟨{ enabled, cols, rows }, false, []⟩ ops
    (∀ nowMs, w.state.altScreen = true → w.state.shouldDisplay nowMs = true → w.proved = true) ∧
      (w.state.tentative = true ↔ Locked w.passes) := by
  intro w
  have hsound : w.Sound := by
    refine Machine.run_invariant (fun _ op h => h.next op) ⟨⟨?_, rfl, fun _ => rfl⟩, fun _ => rfl,
      fun _ _ hecho => by cases hecho⟩
    simp [Locked]
  refine ⟨fun nowMs halt hshown => ?_, hsound.lock.tentative⟩
  unfold shouldDisplay at hshown
  split at hshown
  · cases hshown
  · rename_i front rest hpending
    have hon : w.state.enabled = true := by
      cases hon : w.state.enabled with
      | false => simp [hsound.quiet hon] at hpending
      | true => rfl
    simp only [halt, Bool.true_and, Bool.and_eq_true, Bool.not_not] at hshown
    exact hsound.proved hon halt hshown.1.2

def plainKey (action : KeyAction) (key : PhysicalKey) (text : Option String) : KeyEvent :=
  ⟨action, key, ⟨0, by decide⟩, ⟨0, by decide⟩, false, text, none⟩

/-- An arrow that repeats is mode-changing input, and the evidence outlives it. -/
theorem repeated_arrow_keeps_evidence :
    let unicode : UnicodeTables := ⟨fun text => [text], fun _ => some 1, fun _ => 1⟩
    let up := plainKey .repeat .arrowUp none
    let w := Machine.run (next unicode) ⟨{ enabled := true, cols := 80, rows := 24 }, false, []⟩
      [.setAltScreen true, .key (plainKey .press .a (some "a")) 0 fun _ _ => none,
        .reconcile (0, 1) fun _ _ => some "a", .key up 0 fun _ _ => none,
        .key (plainKey .press .b (some "b")) 0 fun _ _ => none]
    isModeChangingInput up = true ∧ w.state.altScreen = true ∧ w.state.shouldDisplay 0 = true := by
  decide +kernel

end Watched

end Phux
