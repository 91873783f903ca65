import Phux.Input
import Phux.Machine

/-! Predictive local echo: the guesses a client paints before the server has echoed its keys,
and the pass that settles them against the server's grid. -/

namespace Phux

inductive PredictionKind where
  | insert | backspaceEol | newline | cursorLeft | cursorRight
deriving DecidableEq

structure Prediction where
  row : Nat
  col : Nat
  text : String
  width : Nat
  kind : PredictionKind
  queuedAtMs : Nat
deriving DecidableEq

inductive PredictionOutcome where
  | predicted | skipped | disabled
deriving DecidableEq

structure ReconcileStats where
  confirmed : Nat
  contradicted : Nat
  pending : Nat

structure PredictionState where
  enabled : Bool
  pending : List Prediction := []
  cursorRow : Nat := 0
  cursorCol : Nat := 0
  cols : Nat
  rows : Nat
  promptBoundary : Option (Nat × Nat) := none
  suspended : Bool := false
  contradictionStreak : Nat := 0
  cleanConfirmStreak : Nat := 0
  tentative : Bool := false
  altScreen : Bool := false
  echoConfirmed : Bool := false

/-- `unicode-segmentation` and `unicode-width`. -/
structure UnicodeTables where
  graphemes : String → List String
  charWidth : Char → Option Nat
  strWidth : String → Nat

namespace UnicodeTables

def cellWidth (width : Nat) : Option Nat := if width = 0 then none else some (min width 2)

def graphemeWidth (unicode : UnicodeTables) (ch : Char) : Option Nat :=
  (unicode.charWidth ch).bind cellWidth

def clusterWidth (unicode : UnicodeTables) (cluster : String) : Option Nat :=
  cellWidth (unicode.strWidth cluster)

end UnicodeTables

def backoffThreshold : Nat := 3

def rearmThreshold : Nat := 2

def displayTtlMs : Nat := 1000

/-- Control, Alt or Super is held. -/
def ModSet.commands (mods : ModSet) : Bool := mods.bits &&& 14 ≠ 0

def isControl (ch : Char) : Bool := ch.toNat < 0x20 || (0x7f ≤ ch.toNat && ch.toNat ≤ 0x9f)

def isSafePredictable (ch : Char) : Bool := 0x20 ≤ ch.toNat && ch.toNat ≠ 0x7f

def isModeChangingInput (event : KeyEvent) : Bool :=
  if event.key = .backspace ∨ event.key = .enter then false
  else if event.mods.commands then true
  else ((event.text.getD "").toList.head?.map isControl).getD true

namespace PredictionState

variable (unicode : UnicodeTables) (s : PredictionState) (nowMs : Nat)

def suspend : PredictionState :=
  { s with pending := [], promptBoundary := none, suspended := true }

def clear : PredictionState :=
  { s with pending := [], promptBoundary := none, echoConfirmed := false }

def setViewport (cols rows : Nat) : PredictionState :=
  { s with
    cols, rows
    pending := []
    cursorRow := min s.cursorRow (rows - 1)
    cursorCol := min s.cursorCol (cols - 1)
    promptBoundary := none
    echoConfirmed := false }

def setAltScreen (alt : Bool) : PredictionState :=
  if alt = s.altScreen then s else { s.clear with altScreen := alt }

def setCursor (row col : Nat) : PredictionState :=
  { s with
    promptBoundary := s.promptBoundary.filter fun b => b.1 = min row (s.rows - 1)
    cursorRow := min row (s.rows - 1)
    cursorCol := min col (s.cols - 1)
    suspended := false }

def enterTentative : PredictionState :=
  { s with pending := [], promptBoundary := none, tentative := true, cleanConfirmStreak := 0 }

def noteReconcile (stats : ReconcileStats) : PredictionState :=
  if 0 < stats.contradicted then
    let s := { s with contradictionStreak := s.contradictionStreak + 1, cleanConfirmStreak := 0 }
    if backoffThreshold ≤ s.contradictionStreak then s.enterTentative else s
  else if 0 < stats.confirmed then
    let s := { s with contradictionStreak := 0, cleanConfirmStreak := s.cleanConfirmStreak + 1 }
    if s.tentative ∧ rearmThreshold ≤ s.cleanConfirmStreak then
      { s with tentative := false, cleanConfirmStreak := 0 }
    else s
  else s

def shouldDisplay : Bool :=
  match s.pending with
  | [] => false
  | front :: _ => !s.tentative && !(s.altScreen && !s.echoConfirmed) &&
      decide (nowMs - front.queuedAtMs ≤ displayTtlMs)

def queue (kind : PredictionKind) (text : String) (width col : Nat) : PredictionState :=
  { s with pending := s.pending ++ [⟨s.cursorRow, col, text, width, kind, nowMs⟩] }

abbrev Guess := PredictionState × PredictionOutcome

def predictEnter : Guess :=
  if s.cursorCol = 0 ∨ s.rows = 0 ∨ s.rows ≤ s.cursorRow + 1 then (s, .skipped)
  else ({ s.queue nowMs .newline "\n" 0 s.cursorCol with
    cursorRow := s.cursorRow + 1, cursorCol := 0, promptBoundary := none }, .predicted)

def predictInsert (cluster : String) (width : Nat) : Guess :=
  if s.cols = 0 ∨ s.rows = 0 ∨ s.rows ≤ s.cursorRow ∨ width = 0 ∨ s.cols ≤ s.cursorCol + width then
    (s, .skipped)
  else ({ s.queue nowMs .insert cluster width s.cursorCol with
    promptBoundary := if s.promptBoundary.any (·.1 = s.cursorRow) then s.promptBoundary
      else some (s.cursorRow, s.cursorCol)
    cursorCol := s.cursorCol + width }, .predicted)

def predictBackspaceEol : Guess :=
  if s.cursorCol = 0 ∨ s.rows = 0 ∨ s.rows ≤ s.cursorRow ∨
      s.promptBoundary.any (fun b => b.1 = s.cursorRow ∧ s.cursorCol ≤ b.2) then (s, .skipped)
  else ({ s.queue nowMs .backspaceEol " " 1 (s.cursorCol - 1) with
    cursorCol := s.cursorCol - 1 }, .predicted)

/-- The loop of `predict_kill_to_boundary`, from the column it has reached. -/
def eraseTo (bcol : Nat) : Nat → PredictionState → PredictionState
  | 0, s => s
  | col + 1, s =>
    if bcol ≤ col then eraseTo bcol col (s.queue nowMs .backspaceEol " " 1 col) else s

def predictKillToBoundary : Guess :=
  if s.rows = 0 ∨ s.rows ≤ s.cursorRow then (s, .skipped)
  else match s.promptBoundary with
    | none => (s, .skipped)
    | some (brow, bcol) =>
      if brow ≠ s.cursorRow ∨ s.cursorCol ≤ bcol then (s, .skipped)
      else ({ eraseTo nowMs bcol s.cursorCol s with cursorCol := bcol }, .predicted)

def moveTo (kind : PredictionKind) (col : Nat) : Guess :=
  ({ s.queue nowMs kind " " 0 col with cursorCol := col }, .predicted)

def predictArrowLeft (readCell : Nat → Nat → Option Char) : Guess :=
  if s.cursorCol = 0 ∨ s.rows = 0 ∨ s.rows ≤ s.cursorRow then (s, .skipped)
  else match (readCell s.cursorRow (s.cursorCol - 1)).bind unicode.graphemeWidth with
    | none => (s, .skipped)
    | some advance =>
      if advance = 0 then (s, .skipped)
      else if advance = 1 then s.moveTo nowMs .cursorLeft (s.cursorCol - 1)
      else if advance ≤ s.cursorCol then s.moveTo nowMs .cursorLeft (s.cursorCol - advance)
      else (s, .skipped)

def predictArrowRight (readCell : Nat → Nat → Option Char) : Guess :=
  if s.cols = 0 ∨ s.cols ≤ s.cursorCol ∨ s.rows = 0 ∨ s.rows ≤ s.cursorRow then (s, .skipped)
  else match (readCell s.cursorRow s.cursorCol).bind unicode.graphemeWidth with
    | none => (s, .skipped)
    | some advance =>
      if advance = 0 ∨ s.cols ≤ s.cursorCol + advance then (s, .skipped)
      else s.moveTo nowMs .cursorRight (s.cursorCol + advance)

def predictPrintableCluster (event : KeyEvent) : Guess :=
  match event.text.map unicode.graphemes with
  | some [cluster] =>
    if (cluster.toList.head?.map isSafePredictable).getD false then
      match unicode.clusterWidth cluster with
      | none => (s, .skipped)
      | some width => s.predictInsert nowMs cluster width
    else (s, .skipped)
  | _ => (s, .skipped)

def rejectUnpredictableContext (event : KeyEvent) : Option Guess :=
  if !s.enabled then some (s, .disabled)
  else if event.action ≠ .press then some (s, .skipped)
  else if s.altScreen && isModeChangingInput event then
    some ({ s.suspend with echoConfirmed := false }, .skipped)
  else if s.suspended then some (s, .skipped)
  else none

def predictKeyWithGridAt (event : KeyEvent) (readCell : Nat → Nat → Option Char) : Guess :=
  match s.rejectUnpredictableContext event with
  | some outcome => outcome
  | none =>
    if event.key = .u ∧ event.mods.bits = 2 then s.predictKillToBoundary nowMs
    else if event.mods.commands then (s, .skipped)
    else if event.key = .backspace then s.predictBackspaceEol nowMs
    else if event.key = .enter then
      if s.altScreen then (s.suspend, .skipped) else s.predictEnter nowMs
    else if event.key = .arrowLeft then predictArrowLeft unicode s nowMs readCell
    else if event.key = .arrowRight then predictArrowRight unicode s nowMs readCell
    else predictPrintableCluster unicode s nowMs event

end PredictionState

inductive Verdict where
  | confirmed | pending | contradicted
deriving DecidableEq

def classifyInsert (predicted : String) (actual : Option String) : Verdict :=
  if actual = some predicted then .confirmed
  else if actual = some " " ∨ actual = none then .pending else .contradicted

def classifyBackspace (actual : Option String) : Verdict :=
  if actual = some " " ∨ actual = none then .confirmed else .contradicted

def classifyNewline (predRow cursorRow : Nat) : Verdict :=
  if predRow < cursorRow then .confirmed else .contradicted

def classifyCursor (behind : Bool) (pred cursor : Nat × Nat) : Verdict :=
  if cursor = pred then .confirmed
  else if cursor.1 = pred.1 ∧ behind then .pending else .contradicted

def classifyCursorLeft (pred cursor : Nat × Nat) : Verdict :=
  classifyCursor (pred.2 < cursor.2) pred cursor

def classifyCursorRight (pred cursor : Nat × Nat) : Verdict :=
  classifyCursor (cursor.2 < pred.2) pred cursor

/-- What the server's grid and cursor say of one prediction. -/
def Prediction.verdict (cursor : Nat × Nat) (readCell : Nat → Nat → Option String)
    (p : Prediction) : Verdict :=
  match p.kind with
  | .insert => classifyInsert p.text (readCell p.row p.col)
  | .backspaceEol => classifyBackspace (readCell p.row p.col)
  | .newline => classifyNewline p.row cursor.1
  | .cursorLeft => classifyCursorLeft (p.row, p.col) cursor
  | .cursorRight => classifyCursorRight (p.row, p.col) cursor

/-- A confirmation that shows the program echoes. -/
def Prediction.proves (p : Prediction) : Bool := p.kind = .insert && p.text ≠ " "

namespace PredictionState

/-- The loop of the reconcile, over what is left of the queue. -/
def settle (verdict : Prediction → Verdict) (s : PredictionState) (confirmed : Nat) :
    List Prediction → PredictionState × ReconcileStats
  | [] => ({ s with pending := [] }, ⟨confirmed, 0, 0⟩)
  | front :: rest =>
    match verdict front with
    | .confirmed =>
      settle verdict { s with echoConfirmed := s.echoConfirmed || front.proves } (confirmed + 1) rest
    | .pending => ({ s with pending := front :: rest }, ⟨confirmed, 0, rest.length + 1⟩)
    | .contradicted => (s.clear, ⟨confirmed, rest.length + 1, 0⟩)

/-- `reconcile_terminal_output_per_cell`. -/
def reconcile (s : PredictionState) (cursor : Nat × Nat) (readCell : Nat → Nat → Option String) :
    PredictionState × ReconcileStats :=
  let (s, stats) := s.settle (Prediction.verdict cursor readCell) 0 s.pending
  let s := if s.pending = [] then s.setCursor cursor.1 cursor.2 else s
  (s.noteReconcile stats, stats)

end PredictionState

inductive PredictOp where
  | key (event : KeyEvent) (nowMs : Nat) (readCell : Nat → Nat → Option Char)
  | reconcile (cursor : Nat × Nat) (readCell : Nat → Nat → Option String)
  | setViewport (cols rows : Nat)
  | setAltScreen (alt : Bool)
  | setCursor (row col : Nat)
  | clear
  | suspend

namespace PredictionState

def step (unicode : UnicodeTables) (s : PredictionState) : PredictOp → PredictionState
  | .key event nowMs readCell => (predictKeyWithGridAt unicode s nowMs event readCell).1
  | .reconcile cursor readCell => (s.reconcile cursor readCell).1
  | .setViewport cols rows => s.setViewport cols rows
  | .setAltScreen alt => s.setAltScreen alt
  | .setCursor row col => s.setCursor row col
  | .clear => s.clear
  | .suspend => s.suspend

end PredictionState

end Phux
