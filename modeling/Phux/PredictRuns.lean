import Phux.Predict
import Mathlib.Data.List.TakeWhile

/-! What holds along every run of the predictive echo. -/

namespace Phux

open List Nat

namespace PredictionState

section

variable (s : PredictionState) (cursor : Nat × Nat) (readCell : Nat → Nat → Option String)

/-- The longest run of guesses at the front that the server has confirmed. -/
def matched : List Prediction :=
  s.pending.takeWhile (·.verdict cursor readCell = .confirmed)

def unmatched : List Prediction :=
  s.pending.dropWhile (·.verdict cursor readCell = .confirmed)

def kept (pending : List Prediction) : PredictionState :=
  { s with
    pending
    echoConfirmed := s.echoConfirmed || (s.matched cursor readCell).any Prediction.proves }

/-- How a reconcile ends: the queue drained, the first guess left is undecided, or the server
contradicts it. -/
inductive Reconciles : PredictionState × ReconcileStats → Prop where
  | drained (h : s.unmatched cursor readCell = []) {stats : ReconcileStats}
      (hstats : stats = ⟨(s.matched cursor readCell).length, 0, 0⟩) :
      Reconciles (((s.kept cursor readCell []).setCursor cursor.1 cursor.2).noteReconcile stats, stats)
  | waits {first rest} (h : s.unmatched cursor readCell = first :: rest)
      (hfirst : first.verdict cursor readCell = .pending) {stats : ReconcileStats}
      (hstats : stats = ⟨(s.matched cursor readCell).length, 0, rest.length + 1⟩) :
      Reconciles ((s.kept cursor readCell (first :: rest)).noteReconcile stats, stats)
  | contradicted {first rest} (h : s.unmatched cursor readCell = first :: rest)
      (hfirst : first.verdict cursor readCell = .contradicted) {stats : ReconcileStats}
      (hstats : stats = ⟨(s.matched cursor readCell).length, rest.length + 1, 0⟩) :
      Reconciles ((s.clear.setCursor cursor.1 cursor.2).noteReconcile stats, stats)

theorem settle_matched {verdict : Prediction → Verdict} {matched : List Prediction}
    (h : ∀ p ∈ matched, verdict p = .confirmed) (s : PredictionState) (n : Nat)
    (rest : List Prediction) : s.settle verdict n (matched ++ rest) =
      settle verdict { s with echoConfirmed := s.echoConfirmed || matched.any Prediction.proves }
        (n + matched.length) rest := by
  induction matched generalizing s n with
  | nil => simp
  | cons p matched ih =>
    rw [forall_mem_cons] at h
    simp [settle, h.1, ih h.2, Bool.or_assoc, add_assoc, add_comm 1]

theorem matched_append : s.matched cursor readCell ++ s.unmatched cursor readCell = s.pending :=
  takeWhile_append_dropWhile

theorem reconcile_reconciles : Reconciles s cursor readCell (s.reconcile cursor readCell) := by
  have hall : ∀ p ∈ s.matched cursor readCell, p.verdict cursor readCell = .confirmed :=
    fun p hp => by simpa using mem_takeWhile_imp hp
  rw [reconcile, ← s.matched_append cursor readCell, settle_matched hall, zero_add]
  cases h : s.unmatched cursor readCell with
  | nil => exact .drained h rfl
  | cons first rest =>
    have hfirst : first.verdict cursor readCell ≠ .confirmed := by
      have hnot := head?_dropWhile_not (·.verdict cursor readCell = .confirmed) s.pending
      rw [show s.pending.dropWhile _ = _ from h] at hnot
      simpa using hnot
    cases hv : first.verdict cursor readCell with
    | confirmed => exact absurd hv hfirst
    | pending =>
      simp only [settle, hv]
      exact .waits h hv rfl
    | contradicted =>
      simp only [settle, hv]
      exact .contradicted h hv rfl

theorem noteReconcile_same {stats : ReconcileStats} :
    ∃ pending promptBoundary contradictionStreak cleanConfirmStreak tentative,
      s.noteReconcile stats = { s with
        pending, promptBoundary, contradictionStreak, cleanConfirmStreak, tentative } ∧
      (pending = s.pending ∨ pending = [] ∧ stats.contradicted ≠ 0) := by
  unfold noteReconcile
  dsimp only
  split_ifs with hcontradicted
  · exact ⟨_, _, _, _, _, rfl, .inr ⟨rfl, hcontradicted.ne'⟩⟩
  all_goals exact ⟨_, _, _, _, _, rfl, .inl rfl⟩

/-- A reconcile drops the longest confirmed run, keeps the rest if its first guess is undecided
and clears it otherwise; the guessed cursor goes to the server's, clamped into the viewport,
exactly when nothing is left. -/
theorem reconcile_partitions (s : PredictionState) (cursor : Nat × Nat)
    (readCell : Nat → Nat → Option String) :
    let r := s.reconcile cursor readCell
    r.2.confirmed = (s.matched cursor readCell).length ∧
      r.2.confirmed + r.2.pending + r.2.contradicted = s.pending.length ∧
      (s.unmatched cursor readCell = [] → r.1.pending = []) ∧
      (∀ first rest, s.unmatched cursor readCell = first :: rest →
        (first.verdict cursor readCell = .pending → r.1.pending = first :: rest) ∧
        (first.verdict cursor readCell ≠ .pending → r.1.pending = [])) ∧
      (r.1.pending = [] → r.1.cursorRow = min cursor.1 (s.rows - 1) ∧
        r.1.cursorCol = min cursor.2 (s.cols - 1)) ∧
      (r.1.pending ≠ [] → r.1.cursorRow = s.cursorRow ∧ r.1.cursorCol = s.cursorCol) := by
  intro r
  have hr : Reconciles s cursor readCell r := s.reconcile_reconciles cursor readCell
  clear_value r
  rw [← s.matched_append cursor readCell, length_append]
  cases hr with
  | @drained h stats hstats =>
    obtain ⟨_, _, _, _, _, hnote, rfl | ⟨-, hne⟩⟩ :=
      ((s.kept cursor readCell []).setCursor cursor.1 cursor.2).noteReconcile_same
    · rw [hnote, hstats, h]
      simp [kept, setCursor]
    · simp [hstats] at hne
  | @waits first rest h hfirst stats hstats =>
    obtain ⟨_, _, _, _, _, hnote, rfl | ⟨-, hne⟩⟩ :=
      (s.kept cursor readCell (first :: rest)).noteReconcile_same
    · rw [hnote, hstats, h]
      simp +contextual [kept, hfirst]
    · simp [hstats] at hne
  | @contradicted first rest h hfirst stats hstats =>
    obtain ⟨_, _, _, _, _, hnote, rfl | ⟨rfl, -⟩⟩ :=
      (s.clear.setCursor cursor.1 cursor.2).noteReconcile_same
    all_goals
      rw [hnote, hstats, h]
      simp +contextual [clear, setCursor, hfirst]

/-- A server cursor below the viewport is not the one the guessed cursor is set to. -/
theorem reconcile_clamps_cursor :
    let s : PredictionState := { enabled := true, cols := 80, rows := 24 }
    let r := (s.reconcile (24, 0) fun _ _ => none).1
    r.pending = [] ∧ (r.cursorRow, r.cursorCol) = (23, 0) := by
  decide

end

/-- The queued cells are in the viewport and the cursor is, or at the origin of an empty one. -/
structure Inside (s : PredictionState) : Prop where
  pending : ∀ p ∈ s.pending, p.row < s.rows ∧ p.col < s.cols ∧ p.col + p.width ≤ s.cols
  row : s.cursorRow ≤ s.rows - 1
  col : s.cursorCol ≤ s.cols - 1

/-- What a key changes: never the viewport, the screen or the tentative lock, and the evidence
of an echo only by dropping it. -/
structure Keyed (s s' : PredictionState) : Prop where
  same : ∃ pending cursorRow cursorCol promptBoundary suspended echoConfirmed, s' = { s with
    pending, cursorRow, cursorCol, promptBoundary, suspended, echoConfirmed }
  echo : s'.echoConfirmed = true → s.echoConfirmed = true
  inside : s.Inside → s'.Inside

variable {unicode : UnicodeTables} {s : PredictionState} {nowMs : Nat}

theorem Keyed.refl (s : PredictionState) : Keyed s s := ⟨⟨_, _, _, _, _, _, rfl⟩, id, id⟩

theorem Inside.queue (h : s.Inside) (kind : PredictionKind) (text : String) {width col : Nat}
    (hrow : s.cursorRow < s.rows) (hcol : col < s.cols) (hend : col + width ≤ s.cols) :
    (s.queue nowMs kind text width col).Inside := by
  refine ⟨?_, h.row, h.col⟩
  simp only [PredictionState.queue, forall_mem_append, forall_mem_singleton]
  exact ⟨h.pending, hrow, hcol, hend⟩

/-- A guess on the cursor's row that leaves the cursor in the viewport. -/
theorem keyed_queue {kind : PredictionKind} {text : String} {width col row' col' : Nat}
    {boundary : Option (Nat × Nat)} (hrow : s.cursorRow < s.rows) (hrow' : row' < s.rows)
    (hcols : s.cursorCol ≤ s.cols - 1 → col < s.cols ∧ col + width ≤ s.cols ∧ col' < s.cols) :
    Keyed s { s.queue nowMs kind text width col with
      cursorRow := row', cursorCol := col', promptBoundary := boundary } := by
  refine ⟨⟨_, _, _, _, _, _, rfl⟩, id, fun h => ?_⟩
  obtain ⟨hcol, hend, hcol'⟩ := hcols h.col
  exact ⟨(h.queue kind text hrow hcol hend).pending, le_sub_one_of_lt hrow', le_sub_one_of_lt hcol'⟩

theorem Keyed.unless {skipped : Prop} [Decidable skipped] {guess : Guess}
    (h : ¬skipped → Keyed s guess.1) : Keyed s (if skipped then (s, .skipped) else guess).1 := by
  split_ifs with hskip
  · exact .refl s
  · exact h hskip

theorem moveTo_keyed (kind : PredictionKind) {col : Nat} (hrow : s.cursorRow < s.rows)
    (hcol : s.cursorCol ≤ s.cols - 1 → col < s.cols) : Keyed s (s.moveTo nowMs kind col).1 :=
  keyed_queue hrow hrow (by omega)

theorem eraseTo_eq (nowMs bcol col : Nat) (s : PredictionState) :
    ∃ erased, eraseTo nowMs bcol col s = { s with pending := s.pending ++ erased } ∧
      ∀ p ∈ erased, p.row = s.cursorRow ∧ p.col < col ∧ p.width = 1 := by
  induction col generalizing s with
  | zero => exact ⟨[], by simp [eraseTo], by simp⟩
  | succ col ih =>
    rw [eraseTo]
    split_ifs with h
    · obtain ⟨erased, heq, herased⟩ := ih (s.queue nowMs .backspaceEol " " 1 col)
      refine ⟨_ :: erased, by rw [heq, queue, append_assoc]; rfl, ?_⟩
      rw [forall_mem_cons]
      refine ⟨⟨rfl, lt_succ_self col, rfl⟩, fun p hp => ?_⟩
      obtain ⟨hrow, hlt, hwidth⟩ := herased p hp
      exact ⟨hrow, by omega, hwidth⟩
    · exact ⟨[], by simp, by simp⟩

theorem predictKillToBoundary_keyed : Keyed s (s.predictKillToBoundary nowMs).1 := by
  refine .unless fun h => ?_
  split
  · exact .refl s
  · rename_i brow bcol _
    refine .unless fun h' => ?_
    obtain ⟨erased, heq, herased⟩ := eraseTo_eq nowMs bcol s.cursorCol s
    rw [heq]
    refine ⟨⟨_, _, _, _, _, _, rfl⟩, id, fun hin => ⟨?_, hin.row, ?_⟩⟩
    · have hcol := hin.col
      simp only [forall_mem_append]
      refine ⟨hin.pending, fun p hp => ?_⟩
      obtain ⟨hrow, hlt, hwidth⟩ := herased p hp
      omega
    · have hcol := hin.col
      dsimp only
      omega

theorem suspend_keyed (echoConfirmed : Bool) (h : echoConfirmed = true → s.echoConfirmed = true) :
    Keyed s { s.suspend with echoConfirmed } :=
  ⟨⟨_, _, _, _, _, _, rfl⟩, h, fun hin => ⟨by simp [suspend], hin.row, hin.col⟩⟩

theorem predictKey_keyed {event : KeyEvent} {readCell : Nat → Nat → Option Char} :
    Keyed s (predictKeyWithGridAt unicode s nowMs event readCell).1 := by
  unfold predictKeyWithGridAt
  split
  · rename_i guess hreject
    unfold rejectUnpredictableContext at hreject
    split_ifs at hreject
    all_goals obtain rfl := Option.some.inj hreject
    · exact .refl s
    · exact .refl s
    · exact suspend_keyed false (by simp)
    · exact .refl s
  · split_ifs
    · exact predictKillToBoundary_keyed
    · exact .refl s
    · exact .unless fun h =>
        have hrow : s.cursorRow < s.rows := by omega
        keyed_queue hrow hrow (by omega)
    · exact suspend_keyed _ id
    · exact .unless fun h => keyed_queue (by omega) (by omega) (by omega)
    · refine .unless fun h => ?_
      split
      · exact .refl s
      · refine .unless fun hzero => ?_
        split_ifs
        · exact moveTo_keyed _ (by omega) (by omega)
        · exact moveTo_keyed _ (by omega) (by omega)
        · exact .refl s
    · refine .unless fun h => ?_
      split
      · exact .refl s
      · exact .unless fun h' => moveTo_keyed _ (by omega) (by omega)
    · unfold predictPrintableCluster
      split
      · split_ifs
        · split
          · exact .refl s
          · exact .unless fun h =>
              have hrow : s.cursorRow < s.rows := by omega
              keyed_queue hrow hrow (by omega)
        · exact .refl s
      · exact .refl s

theorem Inside.noteReconcile (h : s.Inside) (stats : ReconcileStats) :
    (s.noteReconcile stats).Inside := by
  obtain ⟨_, _, _, _, _, hnote, rfl | ⟨rfl, -⟩⟩ := s.noteReconcile_same
  · rw [hnote]
    exact ⟨h.pending, h.row, h.col⟩
  · rw [hnote]
    exact ⟨by simp, h.row, h.col⟩

theorem Inside.reconcile (h : s.Inside) (cursor : Nat × Nat)
    (readCell : Nat → Nat → Option String) : (s.reconcile cursor readCell).1.Inside := by
  have hr := s.reconcile_reconciles cursor readCell
  generalize s.reconcile cursor readCell = r at hr
  cases hr with
  | drained _ hstats | contradicted _ _ hstats =>
    exact noteReconcile ⟨by simp [kept, clear, setCursor], min_le_right .., min_le_right ..⟩ _
  | @waits first rest hleft =>
    have hkept : (s.kept cursor readCell (first :: rest)).Inside := by
      refine ⟨fun p hp => h.pending p ?_, h.row, h.col⟩
      rw [← s.matched_append cursor readCell, hleft]
      exact mem_append_right _ hp
    exact hkept.noteReconcile _

theorem Inside.step (h : s.Inside) (op : PredictOp) : (s.step unicode op).Inside := by
  cases op with
  | key event nowMs readCell => exact predictKey_keyed.inside h
  | reconcile cursor readCell => exact h.reconcile cursor readCell
  | setViewport cols rows =>
    exact ⟨fun _ hp => absurd hp not_mem_nil, min_le_right .., min_le_right ..⟩
  | setAltScreen alt =>
    unfold PredictionState.step setAltScreen
    dsimp only
    split_ifs
    · exact h
    · exact ⟨fun _ hp => absurd hp not_mem_nil, h.row, h.col⟩
  | setCursor row col => exact ⟨h.pending, min_le_right .., min_le_right ..⟩
  | clear | suspend => exact ⟨fun _ hp => absurd hp not_mem_nil, h.row, h.col⟩

/-- Along every run the queued cells are in the viewport, and so is the guessed cursor unless
the viewport is empty. -/
theorem predictions_stay_inside (unicode : UnicodeTables) (enabled : Bool) (cols rows : Nat)
    (ops : List PredictOp) :
    let s := Machine.run (step unicode) { enabled, cols, rows } ops
    (∀ p ∈ s.pending, p.row < s.rows ∧ p.col < s.cols ∧ p.col + p.width ≤ s.cols) ∧
      (0 < s.rows → s.cursorRow < s.rows) ∧ (0 < s.cols → s.cursorCol < s.cols) := by
  intro s
  have hin : s.Inside := Machine.run_invariant (fun _ op h => h.step op)
    ⟨by simp, zero_le _, zero_le _⟩
  have hrow := hin.row
  have hcol := hin.col
  exact ⟨hin.pending, by omega, by omega⟩

theorem empty_viewport_holds_no_cursor :
    let s := Machine.run (step ⟨fun _ => [], fun _ => none, fun _ => 0⟩)
      { enabled := true, cols := 80, rows := 24 } [.setViewport 0 0]
    ¬s.cursorRow < s.rows := by
  decide

end PredictionState
end Phux
