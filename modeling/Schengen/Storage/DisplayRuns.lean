import Schengen.Storage.ProgressFrames

/-!
# Runs of the progress display

The calls for the tables, the render thread and `Stop`, in any order. The controller keeps for every
table what its calls make of it, and the terminal shows it wherever no frame is due.
-/

namespace Schengen.Storage
open Library

namespace ProgressController
open TableProgressState

variable {window : Window} {names : List String} {above : List (List Char)} {c : ProgressController}

/-! ## The states of the tables -/

@[simp] lemma states_notifyObserver (state : TableProgressState) (c : ProgressController) :
    (c.notifyObserver state).states = c.states := rfl

@[simp] lemma states_renderFrameLocked (c : ProgressController) :
    c.renderFrameLocked.states = c.states := by
  unfold renderFrameLocked
  dsimp only
  split_ifs <;> rfl

@[simp] lemma states_writeFailureMessage (message : String) (c : ProgressController) :
    (c.writeFailureMessage message).states = c.states := by
  unfold writeFailureMessage clearFrameLocked
  dsimp only
  split_ifs
  · rfl
  all_goals
    rw [states_renderFrameLocked]
    rfl

@[simp] lemma states_requestRender (immediate : Bool) (c : ProgressController) :
    (c.requestRender immediate).states = c.states := by
  unfold requestRender
  split_ifs
  · rfl
  · rw [states_renderFrameLocked]
  · rfl

lemma tableName_call (s : TableProgressState) (k : ProgressCall) :
    (s.call k).tableName = s.tableName := by
  cases k with
  | markTableStarted partCount =>
    simp only [TableProgressState.call, TableProgressState.markTableStarted]
    split_ifs <;> rfl
  | work k =>
    cases k with
    | addCommittedRows rows =>
      simp only [TableProgressState.call, TableProgressState.addCommittedRows]
      split_ifs <;> rfl
    | markPartCompleted =>
      simp only [TableProgressState.call, TableProgressState.markPartCompleted]
      split_ifs <;> rfl
  | ending k =>
    cases k with
    | markTableFinished =>
      simp only [TableProgressState.call, TableProgressState.markTableFinished]
      split_ifs <;> rfl
    | reportFailure message => rfl

@[simp] lemma maybeEmitAppendOnly_state (now : Int) (force : Bool) (entry : TableEntry)
    (c : ProgressController) : (c.maybeEmitAppendOnly now force entry).1.state = entry.state := by
  unfold maybeEmitAppendOnly
  dsimp only
  split_ifs <;> rfl

lemma states_putEntry (now : Int) (force : Bool) (table : Nat) (entry : TableEntry)
    (state : TableProgressState) (c : ProgressController) :
    (c.putEntry now force table entry state).states = c.states.set table state := by
  unfold putEntry states
  rw [List.map_set, maybeEmitAppendOnly_state]

/-- The calls whose lines an append-only stream always shows. -/
def forced : ProgressCall → Bool
  | .markTableStarted _ => true
  | .work _ => false
  | .ending _ => true

def messageOf : ProgressCall → Option String
  | .ending (.reportFailure message) => some message
  | _ => none

/-- The table of the call is put to its new state. -/
def putCall (now : Int) (table : Nat) (k : ProgressCall) (entry : TableEntry)
    (c : ProgressController) : ProgressController :=
  c.putEntry now (forced k) table entry (entry.state.call k)

/-- A call that is no failure leaves everything as it is or puts its table to the new state; a
failure writes its message also without a table. -/
lemma call_cases (now : Int) (table : Nat) (k : ProgressCall) (c : ProgressController) :
    (messageOf k = none ∧ c.call now table k = c ∧
      ∀ entry, c.tables[table]? = some entry → entry.state.call k = entry.state) ∨
    (∃ entry immediate, messageOf k = none ∧ c.tables[table]? = some entry ∧
      c.call now table k =
        ((c.putCall now table k entry).requestRender immediate).notifyObserver (entry.state.call k)) ∨
    ∃ message, messageOf k = some message ∧
      ((c.tables[table]? = none ∧ c.call now table k = c.writeFailureMessage message) ∨
        ∃ entry, c.tables[table]? = some entry ∧ c.call now table k =
          ((c.putCall now table k entry).notifyObserver
            (entry.state.call k)).writeFailureMessage message) := by
  rcases htable : c.tables[table]? with _ | entry
  · rcases k with partCount | ⟨rows | _⟩ | ⟨_ | message⟩
    case ending.reportFailure =>
      refine .inr (.inr ⟨message, rfl, .inl ⟨rfl, ?_⟩⟩)
      simp only [call, reportFailure, htable]
    all_goals
      refine .inl ⟨rfl, ?_, fun _ h => absurd h (by simp)⟩
      simp [call, markTableStarted, addCommittedRows, markPartCompleted, markTableFinished, htable]
  · have hsame : ∀ {k}, entry.state.call k = entry.state →
        ∀ e, some entry = some e → e.state.call k = e.state := by
      rintro k hcall e ⟨⟩
      exact hcall
    rcases k with partCount | ⟨rows | _⟩ | ⟨_ | message⟩
    case markTableStarted =>
      by_cases hfailed : entry.state.status = .failed
      · refine .inl ⟨rfl, ?_, hsame (if_pos hfailed)⟩
        simp only [call, markTableStarted, htable, if_pos hfailed]
      · refine .inr (.inl ⟨entry, false, rfl, rfl, ?_⟩)
        simp only [call, markTableStarted, htable, if_neg hfailed]
        rfl
    case work.addCommittedRows =>
      by_cases hrows : rows = 0
      · refine .inl ⟨rfl, ?_, hsame (if_pos hrows)⟩
        simp only [call, addCommittedRows, if_pos hrows]
      · by_cases hended : entry.state.status = .failed ∨ entry.state.status = .done
        · refine .inl ⟨rfl, ?_, hsame ((if_neg hrows).trans (if_pos hended))⟩
          simp only [call, addCommittedRows, htable, if_neg hrows, if_pos hended]
        · refine .inr (.inl ⟨entry, false, rfl, rfl, ?_⟩)
          simp only [call, addCommittedRows, htable, if_neg hrows, if_neg hended]
          rfl
    case work.markPartCompleted =>
      by_cases hended : entry.state.status = .failed ∨ entry.state.status = .done
      · refine .inl ⟨rfl, ?_, hsame (if_pos hended)⟩
        simp only [call, markPartCompleted, htable, if_pos hended]
      · refine .inr (.inl ⟨entry, false, rfl, rfl, ?_⟩)
        simp only [call, markPartCompleted, htable, if_neg hended]
        rfl
    case ending.markTableFinished =>
      by_cases hfailed : entry.state.status = .failed
      · refine .inl ⟨rfl, ?_, hsame (if_pos hfailed)⟩
        simp only [call, markTableFinished, htable, if_pos hfailed]
      · refine .inr (.inl ⟨entry, true, rfl, rfl, ?_⟩)
        simp only [call, markTableFinished, htable, if_neg hfailed]
        rfl
    case ending.reportFailure =>
      refine .inr (.inr ⟨message, rfl, .inr ⟨entry, rfl, ?_⟩⟩)
      simp only [call, reportFailure, htable]
      rfl

lemma states_putCall {table : Nat} {entry : TableEntry} (hentry : c.tables[table]? = some entry)
    (now : Int) (k : ProgressCall) :
    (c.putCall now table k entry).states = c.states.modify table (·.call k) := by
  have hstate : c.states[table]? = some entry.state := by
    unfold states
    rw [List.getElem?_map, hentry]
    rfl
  unfold putCall
  rw [states_putEntry]
  apply List.ext_getElem?
  intro i
  rw [List.getElem?_modify, List.getElem?_set']
  by_cases hi : table = i
  · subst hi
    rw [if_pos rfl, hstate]
    simp
  · simp [hi]

/-- A call changes its table as it would change it alone. -/
lemma states_call (now : Int) (table : Nat) (k : ProgressCall) (c : ProgressController) :
    (c.call now table k).states = c.states.modify table (·.call k) := by
  rcases call_cases now table k c with ⟨-, hcall, hsame⟩ | ⟨entry, immediate, -, hentry, hcall⟩ |
    ⟨message, -, ⟨hnone, hcall⟩ | ⟨entry, hentry, hcall⟩⟩
  · rw [hcall]
    apply List.ext_getElem?
    intro i
    rw [List.getElem?_modify]
    unfold states
    rw [List.getElem?_map]
    rcases htable : c.tables[i]? with _ | entry
    · rfl
    · by_cases hi : table = i
      · have hentry := hsame entry (hi ▸ htable)
        simp [hi, hentry]
      · simp [hi]
  · rw [hcall, states_notifyObserver, states_requestRender, states_putCall hentry]
  · have hbeyond : c.states.length ≤ table := by
      rw [length_states]
      exact List.getElem?_eq_none_iff.mp hnone
    rw [hcall, states_writeFailureMessage, List.modify_eq_self hbeyond]
  · rw [hcall, states_writeFailureMessage, states_notifyObserver, states_putCall hentry]

/-! ## What was written -/

@[simp] lemma failures_renderFrameLocked (c : ProgressController) :
    c.renderFrameLocked.failures = c.failures := by
  unfold renderFrameLocked
  dsimp only
  split_ifs <;> rfl

lemma failures_writeFailureMessage (message : String) (c : ProgressController) :
    (c.writeFailureMessage message).failures = c.failures ++ [message] := by
  unfold writeFailureMessage clearFrameLocked
  dsimp only
  split_ifs
  · rfl
  all_goals
    rw [failures_renderFrameLocked]
    rfl

lemma failures_requestRender (immediate : Bool) (c : ProgressController) :
    (c.requestRender immediate).failures = c.failures := by
  unfold requestRender
  split_ifs
  · rfl
  · rw [failures_renderFrameLocked]
  · rfl

lemma failures_call (now : Int) (table : Nat) (k : ProgressCall) (c : ProgressController) :
    (c.call now table k).failures = c.failures ++ (messageOf k).toList := by
  rcases call_cases now table k c with ⟨hmessage, hcall, -⟩ | ⟨entry, immediate, hmessage, -, hcall⟩ |
    ⟨message, hmessage, ⟨-, hcall⟩ | ⟨entry, -, hcall⟩⟩
  · rw [hcall, hmessage, Option.toList_none, List.append_nil]
  · rw [hcall, hmessage, Option.toList_none, List.append_nil]
    exact failures_requestRender immediate _
  · rw [hcall, hmessage, failures_writeFailureMessage]
    rfl
  · rw [hcall, hmessage, failures_writeFailureMessage]
    rfl

/-- A frame is of the states that the tables have when it is drawn. -/
lemma shown_renderFrameLocked (c : ProgressController) :
    c.renderFrameLocked.shown = c.shown ∨ c.renderFrameLocked.shown = c.states := by
  unfold renderFrameLocked
  dsimp only
  split_ifs
  · exact .inl rfl
  all_goals exact .inr rfl

lemma shown_writeFailureMessage (message : String) (c : ProgressController) :
    (c.writeFailureMessage message).shown = c.shown ∨
      (c.writeFailureMessage message).shown = c.states := by
  unfold writeFailureMessage clearFrameLocked
  dsimp only
  split_ifs
  · exact .inl rfl
  all_goals exact shown_renderFrameLocked _

lemma shown_requestRender (immediate : Bool) (c : ProgressController) :
    (c.requestRender immediate).shown = c.shown ∨ (c.requestRender immediate).shown = c.states := by
  unfold requestRender
  split_ifs
  · exact .inl rfl
  · exact shown_renderFrameLocked c
  · exact .inl rfl

lemma shown_call (now : Int) (table : Nat) (k : ProgressCall) (c : ProgressController) :
    (c.call now table k).shown = c.shown ∨
      (c.call now table k).shown = (c.call now table k).states := by
  rcases call_cases now table k c with ⟨-, hcall, -⟩ | ⟨entry, immediate, -, -, hcall⟩ |
    ⟨message, -, ⟨-, hcall⟩ | ⟨entry, -, hcall⟩⟩
  · exact .inl (by rw [hcall])
  · rw [hcall, states_notifyObserver, states_requestRender]
    exact shown_requestRender immediate (c.putCall now table k entry)
  · rw [hcall, states_writeFailureMessage]
    exact shown_writeFailureMessage message c
  · rw [hcall, states_writeFailureMessage]
    exact shown_writeFailureMessage message
      ((c.putCall now table k entry).notifyObserver (entry.state.call k))

lemma renderLoop_written (c : ProgressController) :
    c.renderLoop.states = c.states ∧ c.renderLoop.failures = c.failures ∧
      (c.renderLoop.shown = c.shown ∨ c.renderLoop.shown = c.states) := by
  unfold renderLoop
  split
  · exact ⟨rfl, rfl, .inl rfl⟩
  · split
    · exact ⟨states_renderFrameLocked c, failures_renderFrameLocked c, shown_renderFrameLocked c⟩
    · exact ⟨rfl, rfl, .inl rfl⟩

/-! ## The frame -/

/-- The terminal does not depend on where the render thread is, nor on the observer. -/
lemma Framed.apart (h : c.Framed window names above) (renderThread : RenderThread)
    (stopRequested : Bool) (observed : List TableProgressState) :
    Framed window names above
      { c with renderThread := renderThread, stopRequested := stopRequested, observed := observed } :=
  { onTerminal := h.onTerminal.same rfl rfl rfl
    drawn := h.drawn
    lines := h.lines
    shownNamed := h.shownNamed
    screen := h.screen
    clean := h.clean }

lemma Drawn.notifyObserver (h : c.Drawn window names above) {state : TableProgressState} :
    (c.notifyObserver state).Drawn window names above :=
  { onTerminal := h.onTerminal.same rfl rfl rfl
    drawn := h.drawn
    lines := h.lines
    shownNamed := h.shownNamed
    screen := h.screen }

lemma Drawn.dirty (h : c.Drawn window names above) :
    Framed window names above { c with renderDirty := true } :=
  { onTerminal := h.onTerminal.same rfl rfl rfl
    drawn := h.drawn
    lines := h.lines
    shownNamed := h.shownNamed
    screen := h.screen
    clean := fun hclean => nomatch hclean }

/-- A table that keeps its name keeps its row. -/
lemma Drawn.putCall (h : c.Drawn window names above) {table : Nat} {entry : TableEntry}
    (hentry : c.tables[table]? = some entry) (now : Int) (k : ProgressCall) :
    (c.putCall now table k entry).Drawn window names above := by
  have hquiet : (c.maybeEmitAppendOnly now (forced k) { entry with state := entry.state.call k }).2 =
      [] := by
    unfold maybeEmitAppendOnly
    rw [h.onTerminal.appendOnly]
    rfl
  have houtput : (c.putCall now table k entry).output = c.output := by
    change c.output ++ _ = c.output
    rw [hquiet, List.append_nil]
  have hnames : (c.putCall now table k entry).states.map TableProgressState.tableName =
      c.states.map TableProgressState.tableName := by
    rw [states_putCall hentry]
    apply List.ext_getElem?
    intro i
    rw [List.getElem?_map, List.getElem?_map, List.getElem?_modify]
    cases c.states[i]? with
    | none => rfl
    | some s =>
      by_cases hi : table = i
      · simp [hi, tableName_call]
      · simp [hi]
  exact
    { onTerminal := h.onTerminal.same rfl rfl hnames
      drawn := h.drawn
      lines := h.lines
      shownNamed := h.shownNamed
      screen := by rw [houtput]; exact h.screen }

lemma Drawn.requestRender (h : c.Drawn window names above)
    (hwidth : LinesFit window.width c.states) (immediate : Bool) :
    (c.requestRender immediate).Framed window names above := by
  unfold ProgressController.requestRender
  rw [if_neg (by rw [h.onTerminal.interactive]; decide)]
  split
  · exact h.renderFrameLocked hwidth
  · exact h.dirty.apart _ c.stopRequested c.observed

lemma Framed.call (h : c.Framed window names above) {now : Int} {table : Nat} {k : ProgressCall}
    (hwidth : LinesFit window.width (c.call now table k).states) :
    (c.call now table k).Framed window names above := by
  rcases call_cases now table k c with ⟨-, hcall, -⟩ | ⟨entry, immediate, -, hentry, hcall⟩ |
    ⟨message, -, ⟨-, hcall⟩ | ⟨entry, hentry, hcall⟩⟩
  · rw [hcall]
    exact h
  · rw [hcall, states_notifyObserver, states_requestRender] at hwidth
    rw [hcall]
    have hframed := (h.putCall hentry now k).requestRender hwidth immediate
    exact hframed.apart _ _ _
  · rw [hcall, states_writeFailureMessage] at hwidth
    rw [hcall]
    exact h.writeFailureMessage hwidth message
  · rw [hcall, states_writeFailureMessage] at hwidth
    rw [hcall]
    exact (h.putCall hentry now k).notifyObserver.writeFailureMessage hwidth message

lemma Framed.renderLoop (h : c.Framed window names above)
    (hwidth : LinesFit window.width c.states) :
    c.renderLoop.Framed window names above := by
  unfold ProgressController.renderLoop
  split
  · exact h.apart _ _ _
  · split
    · exact (h.renderFrameLocked hwidth).apart _ _ _
    · exact h.apart _ _ _

/-- What the constructor draws. -/
lemma framed_new {tables : List (String × Nat)} {options : Options}
    (hterminal : options.verbose = true ∧ options.isTty = true) (htables : tables ≠ [])
    (hfits : tables.length < window.height) (hprintable : ∀ table ∈ tables, Printable table.1)
    (hwidth : LinesFit window.width ((tables.mapIdx newEntry).map TableEntry.state))
    (above : List (List Char)) :
    (new tables options).Framed window (tables.map Prod.fst) above := by
  let c : ProgressController :=
    { tables := tables.mapIdx newEntry
      nonTtyUpdateInterval := nonPositiveReplaced options.nonTtyUpdateInterval 1000
      interactiveTty := true
      appendOnly := false
      renderDirty := true
      stopRequested := false
      frameDrawn := false
      renderedLines := 0
      renderThread := .notStarted
      output := []
      shown := []
      failures := []
      observed := [] }
  have hlisted : (tables.mapIdx newEntry).isEmpty = false := by
    rw [List.isEmpty_eq_false_iff]
    exact fun hnil => htables (List.mapIdx_eq_nil_iff.mp hnil)
  have hnew : new tables options = { c.renderFrameLocked with renderThread := .looping } := by
    unfold new
    rw [hterminal.1, hterminal.2]
    exact if_pos (by rw [hlisted]; rfl)
  have honTerminal : c.OnTerminal window (tables.map Prod.fst) :=
    { interactive := rfl
      appendOnly := rfl
      named := by
        apply List.ext_getElem?
        intro i
        unfold states
        simp only [c, List.getElem?_map, List.getElem?_mapIdx, Option.map_map]
        rfl
      nonempty := fun hnil => htables (List.map_eq_nil_iff.mp hnil)
      fits := by rwa [List.length_map]
      printable := by
        intro name hname
        obtain ⟨table, htable, rfl⟩ := List.mem_map.mp hname
        exact hprintable table htable }
  have hundrawn : (c.frameDrawn && decide (0 < c.renderedLines)) = false := rfl
  rw [hnew]
  refine Framed.apart (c := c.renderFrameLocked) ?_ .looping c.renderFrameLocked.stopRequested
    c.renderFrameLocked.observed
  rw [honTerminal.renderFrameLocked_eq, hundrawn, if_neg Bool.false_ne_true]
  have hscreen : (Screen.atRows above []).display window [] =
      Screen.atRows (c.failureRows window.width ++ above) [] := rfl
  exact honTerminal.framed_of_render hwidth ⟨rfl, rfl, rfl⟩ ⟨rfl, rfl, rfl⟩ rfl hscreen
    (.inr List.drop_nil)

lemma renderDirty_renderFrameLocked (c : ProgressController) :
    c.renderFrameLocked.renderDirty = false := by
  unfold renderFrameLocked
  dsimp only
  split_ifs <;> rfl

lemma renderDirty_new (tables : List (String × Nat)) (options : Options) :
    (new tables options).renderDirty = false := by
  unfold new
  dsimp only
  split
  · exact renderDirty_renderFrameLocked _
  · rfl

end ProgressController

namespace DisplayState
open ProgressController TableProgressState

variable {window : Window} {names : List String} {above : List (List Char)} {s t : DisplayState}
  {a : DisplayAction} {tables : List (String × Nat)} {options : Options}
  {actions : List DisplayAction}

/-- A step that is no call leaves the states and the messages. -/
lemma step_cases (hstep : s.step a = some t) :
    (∃ now table k, a = .call now table k ∧ t.controller = s.controller.call now table k) ∨
    ((∀ now table k, a ≠ .call now table k) ∧ t.controller.states = s.controller.states ∧
      t.controller.failures = s.controller.failures ∧
      (t.controller.shown = s.controller.shown ∨ t.controller.shown = t.controller.states) ∧
      ∀ (window : Window) names above, LinesFit window.width s.controller.states →
        s.controller.Framed window names above → t.controller.Framed window names above) := by
  cases a with
  | call now table k =>
    cases hstep
    exact .inl ⟨now, table, k, rfl, rfl⟩
  | renderLoop =>
    have hnext : t.controller = s.controller.renderLoop := by
      simp only [step] at hstep
      split at hstep <;> cases hstep <;> rfl
    refine .inr ⟨by simp, ?_⟩
    obtain ⟨hstates, hfailures, hshown⟩ := renderLoop_written s.controller
    rw [hnext, hstates]
    exact ⟨rfl, hfailures, hshown, fun _ _ _ hwidth h => h.renderLoop hwidth⟩
  | wake =>
    simp only [step] at hstep
    split at hstep
    · cases hstep
      exact .inr ⟨by simp, rfl, rfl, .inl rfl, fun _ _ _ _ h => h.apart _ _ _⟩
    · cases hstep
  | stop =>
    refine .inr ⟨by simp, ?_⟩
    simp only [step, stopStep] at hstep
    split at hstep
    · split at hstep
      · cases hstep
        exact ⟨rfl, rfl, .inl rfl, fun _ _ _ _ h => h⟩
      · cases hstep
        exact ⟨rfl, rfl, .inl rfl, fun _ _ _ _ h => h.apart _ _ _⟩
    · split at hstep <;> cases hstep
      · exact ⟨rfl, rfl, .inl rfl, fun _ _ _ _ h => h⟩
      · exact ⟨rfl, rfl, .inl rfl, fun _ _ _ _ h => h⟩
    · split at hstep <;> cases hstep
      · refine ⟨states_renderFrameLocked _, failures_renderFrameLocked _, ?_,
          fun _ _ _ hwidth h => h.dirty.renderFrameLocked hwidth⟩
        rw [states_renderFrameLocked]
        exact shown_renderFrameLocked _
      · exact ⟨rfl, rfl, .inl rfl, fun _ _ _ _ h => h⟩
    · cases hstep

/-! ## The display of a run -/

/-- The calls for a table. -/
def callsTo (table : Nat) (actions : List DisplayAction) : List ProgressCall :=
  actions.filterMap fun
    | .call _ t k => if t = table then some k else none
    | _ => none

/-- The messages of the failures. -/
def reported (actions : List DisplayAction) : List String :=
  actions.filterMap fun
    | .call _ _ k => messageOf k
    | _ => none

/-- Every table after its own calls. -/
def statesAfter (tables : List (String × Nat)) (actions : List DisplayAction) :
    List TableProgressState :=
  tables.mapIdx fun index table => (TableProgressState.new index table.1 table.2).after
    (callsTo index actions)

lemma statesAfter_call (tables : List (String × Nat)) (actions : List DisplayAction) (now : Int)
    (table : Nat) (k : ProgressCall) :
    statesAfter tables (actions ++ [.call now table k]) =
      (statesAfter tables actions).modify table (·.call k) := by
  have hcalls : ∀ i, callsTo i (actions ++ [.call now table k]) =
      callsTo i actions ++ if table = i then [k] else [] := by
    intro i
    unfold callsTo
    rw [List.filterMap_append]
    by_cases hi : table = i <;> simp [hi]
  apply List.ext_getElem?
  intro i
  unfold statesAfter
  rw [List.getElem?_modify, List.getElem?_mapIdx, List.getElem?_mapIdx, hcalls]
  by_cases hi : table = i
  · simp only [if_pos hi, after_concat, Option.map_eq_map, Option.map_map]
    rfl
  · simp [hi]

lemma history_other (tables : List (String × Nat)) (actions : List DisplayAction)
    (h : ∀ now table k, a ≠ .call now table k) :
    statesAfter tables (actions ++ [a]) = statesAfter tables actions ∧
      reported (actions ++ [a]) = reported actions := by
  have hskip {β : Type} (g : DisplayAction → Option β) (hnone : g a = none) :
      (actions ++ [a]).filterMap g = actions.filterMap g := by
    rw [List.filterMap_append, List.filterMap_cons_none hnone]
    exact List.append_nil _
  have hcalls : ∀ i, callsTo i (actions ++ [a]) = callsTo i actions := by
    intro i
    apply hskip
    cases a with
    | call now table k => exact absurd rfl (h now table k)
    | _ => rfl
  constructor
  · unfold statesAfter
    simp only [hcalls]
  · apply hskip
    cases a with
    | call now table k => exact absurd rfl (h now table k)
    | _ => rfl

lemma statesAfter_nil (tables : List (String × Nat)) :
    (tables.mapIdx newEntry).map TableEntry.state = statesAfter tables [] := by
  apply List.ext_getElem?
  intro i
  unfold statesAfter
  rw [List.getElem?_map, List.getElem?_mapIdx, List.getElem?_mapIdx, Option.map_map]
  rfl

lemma initial_written (tables : List (String × Nat)) (options : Options) :
    (initial tables options).controller.states = statesAfter tables [] ∧
      (initial tables options).controller.failures = [] := by
  change (ProgressController.new tables options).states = _ ∧
    (ProgressController.new tables options).failures = _
  unfold ProgressController.new
  dsimp only
  split
  · exact ⟨(states_renderFrameLocked _).trans (statesAfter_nil tables),
      failures_renderFrameLocked _⟩
  · exact ⟨statesAfter_nil tables, rfl⟩

/-- The controller has every table as its own calls leave it, and it wrote every message. -/
lemma controller_after (hrun : exec step (.initial tables options) actions = some s) :
    s.controller.states = statesAfter tables actions ∧
      s.controller.failures = reported actions := by
  refine exec_history (I := fun actions s => s.controller.states = statesAfter tables actions ∧
    s.controller.failures = reported actions) ?_ ?_ hrun
  · exact initial_written tables options
  · rintro actions s a t ⟨hstates, hfailures⟩ hstep
    rcases step_cases hstep with ⟨now, table, k, rfl, hcall⟩ | ⟨hother, hsame, hkept, -, -⟩
    · rw [hcall, states_call, failures_call, hstates, hfailures, statesAfter_call]
      refine ⟨rfl, ?_⟩
      unfold reported
      rw [List.filterMap_append]
      cases hmessage : messageOf k <;> simp [hmessage]
    · obtain ⟨hafter, hreported⟩ := history_other tables actions hother
      rw [hsame, hkept, hafter, hreported]
      exact ⟨hstates, hfailures⟩

/-- At every moment of the run the lines of the tables are no longer than the rows. -/
def RowsFit (width : Nat) (tables : List (String × Nat)) (actions : List DisplayAction) : Prop :=
  ∀ before rest, actions = before ++ rest → LinesFit width (statesAfter tables before)

lemma framed_of_exec (hterminal : options.verbose = true ∧ options.isTty = true)
    (htables : tables ≠ []) (hfits : tables.length < window.height)
    (hprintable : ∀ table ∈ tables, Printable table.1)
    (hwidth : RowsFit window.width tables actions) (above : List (List Char))
    (hrun : exec step (.initial tables options) actions = some s) :
    s.controller.Framed window (tables.map Prod.fst) above := by
  refine (exec_history (I := fun actions s =>
    exec step (.initial tables options) actions = some s ∧ (RowsFit window.width tables actions →
      s.controller.Framed window (tables.map Prod.fst) above)) ?_ ?_ hrun).2 hwidth
  · refine ⟨rfl, fun hwidth => framed_new hterminal htables hfits hprintable ?_ above⟩
    rw [statesAfter_nil]
    exact hwidth [] [] rfl
  · rintro actions s a t ⟨htaken, hframed⟩ hstep
    have hnext := exec_concat step htaken hstep
    refine ⟨hnext, fun hwidth => ?_⟩
    have hbefore : RowsFit window.width tables actions := fun before rest hsplit =>
      hwidth before (rest ++ [a]) (by rw [hsplit, List.append_assoc])
    rcases step_cases hstep with ⟨now, table, k, -, hcall⟩ | ⟨-, -, -, -, hkept⟩
    · have hlines := hwidth (actions ++ [a]) [] (List.append_nil _).symm
      rw [← (controller_after hnext).1, hcall] at hlines
      rw [hcall]
      exact (hframed hbefore).call hlines
    · have hlines := hbefore actions [] (List.append_nil _).symm
      rw [← (controller_after htaken).1] at hlines
      exact hkept _ _ _ hlines (hframed hbefore)

/-- A frame is of the states after a part of the run. -/
lemma shown_before (hshown : (initial tables options).controller.shown = statesAfter tables [])
    (hrun : exec step (.initial tables options) actions = some s) :
    ∃ before rest, actions = before ++ rest ∧ s.controller.shown = statesAfter tables before := by
  refine (exec_history (I := fun actions s =>
    exec step (.initial tables options) actions = some s ∧ ∃ before rest,
      actions = before ++ rest ∧ s.controller.shown = statesAfter tables before) ?_ ?_ hrun).2
  · exact ⟨rfl, [], [], rfl, hshown⟩
  · rintro actions s a t ⟨htaken, before, rest, hsplit, hbefore⟩ hstep
    have hnext := exec_concat step htaken hstep
    refine ⟨hnext, ?_⟩
    have hnew : t.controller.shown = s.controller.shown ∨
        t.controller.shown = t.controller.states := by
      rcases step_cases hstep with ⟨now, table, k, -, hcall⟩ | ⟨-, -, -, hnew, -⟩
      · rw [hcall]
        exact shown_call now table k s.controller
      · exact hnew
    rcases hnew with hnew | hnew
    · exact ⟨before, rest ++ [a], by rw [hsplit, List.append_assoc], by rw [hnew, hbefore]⟩
    · exact ⟨actions ++ [a], [], (List.append_nil _).symm, by rw [hnew, (controller_after hnext).1]⟩

/-- On a terminal there are at every moment the messages reported so far and, below them, the frame of
one earlier moment; it is the frame of this moment unless the next one is due. -/
theorem displays (hterminal : options.verbose = true ∧ options.isTty = true) (htables : tables ≠ [])
    (hfits : tables.length < window.height) (hprintable : ∀ table ∈ tables, Printable table.1)
    (hwidth : RowsFit window.width tables actions) (above : List (List Char))
    (hrun : exec step (.initial tables options) actions = some s) :
    s.screen window above =
        Screen.atRows ((frameRows s.controller.shown).reverse ++
          (((reported actions).flatMap (textRows window.width)).reverse ++ above)) [[]] ∧
      (∃ before rest, actions = before ++ rest ∧ s.controller.shown = statesAfter tables before) ∧
      (s.controller.renderDirty = false → s.controller.shown = statesAfter tables actions) := by
  have hwritten := controller_after hrun
  have hframed := framed_of_exec hterminal htables hfits hprintable hwidth above hrun
  have hfirst : (initial tables options).controller.shown = statesAfter tables [] := by
    have hlines : RowsFit window.width tables [] := by
      intro before rest hsplit
      obtain ⟨rfl, -⟩ := List.append_eq_nil_iff.mp hsplit.symm
      exact hwidth [] actions rfl
    have hstart := framed_of_exec hterminal htables hfits hprintable hlines above rfl
    rw [hstart.clean (renderDirty_new tables options), (initial_written tables options).1]
  refine ⟨?_, shown_before hfirst hrun, fun hclean => ?_⟩
  · rw [← hwritten.2]
    exact hframed.screen
  · rw [hframed.clean hclean, hwritten.1]

/-- A failure that is reported for no table, with a message of two rows. -/
theorem displays_failure :
    let s := initial [("region", 5)] ⟨true, true, 1000⟩
    let message := "region: the disk is full, and its file is deleted"
    let t : DisplayState :=
      { s with controller := s.controller.call 3 1 (.ending (.reportFailure message)) }
    t.screen ⟨24, 45⟩ ["$".toList] =
      Screen.atRows ((frameRows t.controller.shown).reverse ++
        ["eted".toList, "region: the disk is full, and its file is del".toList,
          "$".toList]) [[]] := by
  intro s message t
  let window : Window := ⟨24, 45⟩
  have hrun : exec step s [.call 3 1 (.ending (.reportFailure message))] = some t := by
    rw [exec_cons]
    rfl
  have hrows : ((reported [.call 3 1 (.ending (.reportFailure message))]).flatMap
      (textRows 45)).reverse =
        ["eted".toList, "region: the disk is full, and its file is del".toList] := by
    decide +kernel
  have hfits : [("region", 5)].length < window.height := by decide
  have hwidth : RowsFit window.width [("region", 5)] [.call 3 1 (.ending (.reportFailure message))] := by
    intro before rest hsplit
    match before, hsplit with
    | [], _ => decide
    | [_], hsplit =>
      obtain ⟨rfl, -⟩ := List.cons_eq_cons.mp hsplit
      decide
    | _ :: _ :: _, hsplit => cases (List.cons_eq_cons.mp hsplit).2
  have hdisplays := displays ⟨rfl, rfl⟩ (List.cons_ne_nil _ _) hfits (by decide) hwidth
    ["$".toList] hrun
  have hscreen := hdisplays.1
  rw [show window.width = 45 from rfl, hrows] at hscreen
  exact hscreen

end DisplayState

end Schengen.Storage
