import Schengen.Library.Runs
import Schengen.Library.Terminal
import Schengen.Storage.ProgressRuns

/-!
# The progress display

`CliProgressController` with its tables, what it writes to its stream, and the thread that renders on
a terminal. Every call holds the mutex, so it is one step; a step of the render thread runs from its
wake-up to the next wait. `Stop` is a step up to the join, the join, and the last frame. The texts
carry no control sequences of their own.
-/

namespace Schengen.Storage
open Library

/-- The default of `FormatTableProgressLine`. -/
def kBarWidth : Nat := 20

def statusGlyph : TableProgressStatus → String
  | .pending => " "
  | .running => " "
  | .done => "✓"
  | .failed => "!"

def repeated (count : Nat) (c : Char) : String := String.ofList (List.replicate count c)

/-- `std::setw`, for a text of single bytes. -/
def setw (width : Nat) (text : String) : String :=
  repeated (width - text.length) ' ' ++ text

def formatTableProgressLine (s : TableProgressState) (barWidth : Nat) : String :=
  let percent := s.approxPercent
  let filled := percent * barWidth / 100
  let progressLabel :=
    if s.status = .done then toString percent ++ "%" else "~" ++ toString percent ++ "%"
  "[" ++ statusGlyph s.status ++ "] " ++ s.tableName ++ " " ++ setw 4 progressLabel ++ " [" ++
    repeated filled '#' ++ repeated (barWidth - filled) '-' ++ "] " ++ toString s.rowsWritten ++
    " rows" ++
    if 0 < s.partCount then
      " parts " ++ toString s.completedParts ++ "/" ++ toString s.partCount
    else ""

structure TableEntry where
  state : TableProgressState
  lastEmitAt : Int
  lastEmittedPercent : Nat
  hasEmitted : Bool

/-- Where `render_thread_` is, if there is one: before its loop, in the wait without or with a
notification, or at its end. -/
inductive RenderThread
  | notStarted
  | looping
  | waiting
  | woken
  | exited
  deriving DecidableEq

/-- The members of the controller, with what it has written. `shown`, `failures` and `observed`
record history: the states in the last frame, the messages of failures and the states given to the
observer. -/
structure ProgressController where
  tables : List TableEntry
  nonTtyUpdateInterval : Int
  interactiveTty : Bool
  appendOnly : Bool
  renderDirty : Bool
  stopRequested : Bool
  frameDrawn : Bool
  renderedLines : Nat
  renderThread : RenderThread
  output : List TerminalOutput
  shown : List TableProgressState
  failures : List String
  observed : List TableProgressState

namespace ProgressController
open TableProgressState

/-! ## Output -/

def emit (output : List TerminalOutput) (c : ProgressController) : ProgressController :=
  { c with output := c.output ++ output }

/-- `render_cv_.notify_all()` -/
def notifyAll (c : ProgressController) : ProgressController :=
  { c with renderThread := if c.renderThread = .waiting then .woken else c.renderThread }

def frameLines (states : List TableProgressState) : List String :=
  states.map fun s => formatTableProgressLine s kBarWidth

def states (c : ProgressController) : List TableProgressState := c.tables.map TableEntry.state

def renderFrameLocked (c : ProgressController) : ProgressController :=
  if !c.interactiveTty || c.tables.isEmpty then { c with renderDirty := false }
  else
    let c := if c.frameDrawn && 0 < c.renderedLines then c.emit [.cursorUp c.renderedLines] else c
    { c.emit ((frameLines c.states).flatMap drawRow) with
      renderedLines := c.tables.length
      frameDrawn := true
      renderDirty := false
      shown := c.states }

def clearFrameLocked (returnToFrameStart : Bool) (c : ProgressController) : ProgressController :=
  if !c.interactiveTty || !c.frameDrawn || c.renderedLines = 0 then c
  else
    let c := c.emit
      (.cursorUp c.renderedLines :: (List.replicate c.renderedLines "").flatMap drawRow)
    if returnToFrameStart then c.emit [.cursorUp c.renderedLines] else c

def writeFailureMessage (message : String) (c : ProgressController) : ProgressController :=
  let c := { c with failures := c.failures ++ [message] }
  if !c.interactiveTty then c.emit [.text (message ++ "\n")]
  else
    renderFrameLocked { (c.clearFrameLocked true).emit (drawRow message) with
      frameDrawn := false
      renderedLines := 0
      renderDirty := true }

def requestRender (immediate : Bool) (c : ProgressController) : ProgressController :=
  if !c.interactiveTty then c
  else if immediate then c.renderFrameLocked
  else notifyAll { c with renderDirty := true }

/-- The entry after `MaybeEmitAppendOnly`, and what is written. -/
def maybeEmitAppendOnly (now : Int) (force : Bool) (entry : TableEntry) (c : ProgressController) :
    TableEntry × List TerminalOutput :=
  if !c.appendOnly then (entry, [])
  else
    let percent := entry.state.approxPercent
    let intervalElapsed := !entry.hasEmitted || c.nonTtyUpdateInterval ≤ now - entry.lastEmitAt
    let percentStepReached :=
      !entry.hasEmitted || entry.lastEmittedPercent + 5 ≤ percent || percent = 100
    if !force && !intervalElapsed && !percentStepReached then (entry, [])
    else
      ({ entry with lastEmitAt := now, lastEmittedPercent := percent, hasEmitted := true },
        [.text (formatTableProgressLine entry.state kBarWidth ++ "\n")])

/-! ## Calls -/

/-- The entry at `table` is put to `state`, and shown in an append-only stream. -/
def putEntry (now : Int) (force : Bool) (table : Nat) (entry : TableEntry)
    (state : TableProgressState) (c : ProgressController) : ProgressController :=
  let emitted := c.maybeEmitAppendOnly now force { entry with state := state }
  { c.emit emitted.2 with tables := c.tables.set table emitted.1 }

def notifyObserver (state : TableProgressState) (c : ProgressController) : ProgressController :=
  { c with observed := c.observed ++ [state] }

def markTableStarted (now : Int) (table : Nat) (partCount : Int) (c : ProgressController) :
    ProgressController :=
  match c.tables[table]? with
  | none => c
  | some entry =>
    if entry.state.status = .failed then c
    else
      let state := entry.state.markTableStarted partCount
      ((c.putEntry now true table entry state).requestRender false).notifyObserver state

def addCommittedRows (now : Int) (table rows : Nat) (c : ProgressController) :
    ProgressController :=
  if rows = 0 then c
  else
    match c.tables[table]? with
    | none => c
    | some entry =>
      if entry.state.status = .failed ∨ entry.state.status = .done then c
      else
        let state := entry.state.addCommittedRows rows
        ((c.putEntry now false table entry state).requestRender false).notifyObserver state

def markPartCompleted (now : Int) (table : Nat) (c : ProgressController) : ProgressController :=
  match c.tables[table]? with
  | none => c
  | some entry =>
    if entry.state.status = .failed ∨ entry.state.status = .done then c
    else
      let state := entry.state.markPartCompleted
      ((c.putEntry now false table entry state).requestRender false).notifyObserver state

def markTableFinished (now : Int) (table : Nat) (c : ProgressController) : ProgressController :=
  match c.tables[table]? with
  | none => c
  | some entry =>
    if entry.state.status = .failed then c
    else
      let state := entry.state.markTableFinished
      ((c.putEntry now true table entry state).requestRender true).notifyObserver state

def reportFailure (now : Int) (table : Nat) (message : String) (c : ProgressController) :
    ProgressController :=
  writeFailureMessage message
    (match c.tables[table]? with
    | none => c
    | some entry =>
      let state := entry.state.reportFailure message
      (c.putEntry now true table entry state).notifyObserver state)

def call (now : Int) (table : Nat) (c : ProgressController) : ProgressCall → ProgressController
  | .markTableStarted partCount => c.markTableStarted now table partCount
  | .work (.addCommittedRows rows) => c.addCommittedRows now table rows
  | .work .markPartCompleted => c.markPartCompleted now table
  | .ending .markTableFinished => c.markTableFinished now table
  | .ending (.reportFailure message) => c.reportFailure now table message

/-! ## The constructor -/

/-- The options of the controller; the intervals that are not positive have been replaced. -/
structure Options where
  verbose : Bool
  isTty : Bool
  nonTtyUpdateInterval : Int

def newEntry (index : Nat) (table : String × Nat) : TableEntry where
  state := .new index table.1 table.2
  lastEmitAt := 0
  lastEmittedPercent := 0
  hasEmitted := false

def nonPositiveReplaced (interval default : Int) : Int := if interval ≤ 0 then default else interval

/-- `CliProgressController::CliProgressController` -/
def new (tables : List (String × Nat)) (options : Options) : ProgressController :=
  let c : ProgressController :=
    { tables := tables.mapIdx newEntry
      nonTtyUpdateInterval := nonPositiveReplaced options.nonTtyUpdateInterval 1000
      interactiveTty := options.verbose && options.isTty
      appendOnly := options.verbose && !options.isTty
      renderDirty := false
      stopRequested := false
      frameDrawn := false
      renderedLines := 0
      renderThread := .notStarted
      output := []
      shown := []
      failures := []
      observed := [] }
  if c.interactiveTty && !c.tables.isEmpty then
    { renderFrameLocked { c with renderDirty := true } with renderThread := .looping }
  else c

/-! ## The render thread -/

/-- From its start, or from a wake-up, to the next wait: `RenderLoop`. -/
def renderLoop (c : ProgressController) : ProgressController :=
  if c.stopRequested then { c with renderThread := .exited }
  else
    let c := if c.renderDirty then c.renderFrameLocked else c
    { c with renderThread := .waiting }

end ProgressController

/-- The next part of `Stop`. -/
inductive StopPc
  | idle
  | join
  | lastFrame
  | returned
  deriving DecidableEq

structure DisplayState where
  controller : ProgressController
  stop : StopPc

/-- `wake` is a wake-up without a notification. -/
inductive DisplayAction
  | call (now : Int) (table : Nat) (call : TableProgressState.ProgressCall)
  | renderLoop
  | wake
  | stop

namespace DisplayState
open ProgressController

def initial (tables : List (String × Nat)) (options : Options) : DisplayState :=
  ⟨.new tables options, .idle⟩

def stopStep (s : DisplayState) : Option DisplayState :=
  let c := s.controller
  match s.stop with
  | .idle =>
    if c.stopRequested then some { s with stop := .returned }
    else some ⟨notifyAll { c with stopRequested := true }, .join⟩
  | .join =>
    match c.renderThread with
    | .notStarted => some { s with stop := .lastFrame }
    | .exited => some { s with stop := .lastFrame }
    | _ => none
  | .lastFrame =>
    if c.interactiveTty then some ⟨renderFrameLocked { c with renderDirty := true }, .returned⟩
    else some { s with stop := .returned }
  | .returned => none

def step (s : DisplayState) : DisplayAction → Option DisplayState
  | .call now table call => some { s with controller := s.controller.call now table call }
  | .renderLoop =>
    match s.controller.renderThread with
    | .looping => some { s with controller := s.controller.renderLoop }
    | .woken => some { s with controller := s.controller.renderLoop }
    | _ => none
  | .wake =>
    if s.controller.renderThread = .waiting then
      some { s with controller := { s.controller with renderThread := .woken } }
    else none
  | .stop => s.stopStep

/-- What is on a terminal that showed the rows `above`, with the cursor below them. -/
def screen (window : Window) (above : List (List Char)) (s : DisplayState) : Screen :=
  (Screen.atRows above []).display window s.controller.output

end DisplayState

end Schengen.Storage
