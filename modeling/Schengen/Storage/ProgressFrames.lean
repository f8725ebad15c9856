import Schengen.Storage.ProgressDisplay

/-!
# What the terminal shows

On a terminal that has more rows than there are tables, and is as wide as their lines are long, the
display is the messages of the failures in their order, each once, and one row for every table below
them. The render thread is woken for every
frame that is due, and it ends when the display is stopped.
-/

namespace Schengen.Storage
open Library

/-! ## Lines of the frame -/

lemma printable_repeated (count : Nat) {c : Char} (h : c ≠ '\n' ∧ c ≠ '\r') :
    Printable (repeated count c) := by
  apply printable_ofList
  intro d hd
  rw [List.eq_of_mem_replicate hd]
  exact h

lemma printable_formatTableProgressLine {s : TableProgressState} (h : Printable s.tableName)
    (barWidth : Nat) : Printable (formatTableProgressLine s barWidth) := by
  have hglyph : ∀ status, Printable (statusGlyph status) := by
    intro status
    cases status <;> decide
  have hlabel : ∀ label : String, Printable label → Printable (setw 4 label) :=
    fun label hlabel => (printable_repeated _ (by decide)).append hlabel
  have hpercent : Printable (if s.status = .done then toString s.approxPercent ++ "%"
      else "~" ++ toString s.approxPercent ++ "%") := by
    have hsign : Printable "%" := by decide
    split
    · exact (printable_natRepr _).append hsign
    · exact ((show Printable "~" by decide).append (printable_natRepr _)).append hsign
  have hparts : Printable (if 0 < s.partCount then
      " parts " ++ toString s.completedParts ++ "/" ++ toString s.partCount else "") := by
    split
    · exact (((show Printable " parts " by decide).append (printable_intRepr _)).append
        (by decide)).append (printable_intRepr _)
    · decide
  unfold formatTableProgressLine
  refine Printable.append ?_ hparts
  refine Printable.append ?_ (by decide)
  refine Printable.append ?_ (printable_natRepr _)
  refine Printable.append ?_ (by decide)
  refine Printable.append ?_ (printable_repeated _ (by decide))
  refine Printable.append ?_ (printable_repeated _ (by decide))
  refine Printable.append ?_ (by decide)
  refine Printable.append ?_ (hlabel _ hpercent)
  refine Printable.append ?_ (by decide)
  refine Printable.append ?_ h
  refine Printable.append ?_ (by decide)
  exact Printable.append (by decide) (hglyph _)

namespace ProgressController
open Screen TableProgressState

variable {window : Window} {names : List String} {above : List (List Char)} {c : ProgressController}

/-- The rows of a frame. -/
def frameRows (states : List TableProgressState) : List (List Char) :=
  (frameLines states).map String.toList

/-- The rows of the messages, the last one first. -/
def failureRows (width : Nat) (c : ProgressController) : List (List Char) :=
  (c.failures.flatMap (textRows width)).reverse

/-- No line of a frame is longer than a row. -/
def LinesFit (width : Nat) (states : List TableProgressState) : Prop :=
  ∀ line ∈ frameLines states, line.toList.length ≤ width

instance (width : Nat) (states : List TableProgressState) : Decidable (LinesFit width states) :=
  List.decidableBAll (fun line : String => line.toList.length ≤ width) (frameLines states)

/-- A terminal that is tall enough for the tables, whose names stay in their rows. -/
structure OnTerminal (window : Window) (names : List String) (c : ProgressController) : Prop where
  interactive : c.interactiveTty = true
  appendOnly : c.appendOnly = false
  named : c.states.map TableProgressState.tableName = names
  nonempty : names ≠ []
  fits : names.length < window.height
  printable : ∀ name ∈ names, Printable name

/-- The messages, and the frame below them, of whatever states. -/
structure Drawn (window : Window) (names : List String) (above : List (List Char))
    (c : ProgressController) : Prop where
  onTerminal : c.OnTerminal window names
  drawn : c.frameDrawn = true
  lines : c.renderedLines = names.length
  shownNamed : c.shown.map TableProgressState.tableName = names
  screen : (atRows above []).display window c.output =
    atRows ((frameRows c.shown).reverse ++ (c.failureRows window.width ++ above)) [[]]

/-- Unless another frame is due, the frame is that of the present states. -/
structure Framed (window : Window) (names : List String) (above : List (List Char))
    (c : ProgressController) : Prop extends c.Drawn window names above where
  clean : c.renderDirty = false → c.shown = c.states

lemma OnTerminal.same {d : ProgressController} (h : c.OnTerminal window names)
    (hinteractive : d.interactiveTty = c.interactiveTty) (happend : d.appendOnly = c.appendOnly)
    (hnamed : d.states.map TableProgressState.tableName = c.states.map TableProgressState.tableName) :
    d.OnTerminal window names :=
  { h with
    interactive := hinteractive.trans h.interactive
    appendOnly := happend.trans h.appendOnly
    named := hnamed.trans h.named }

lemma length_states (c : ProgressController) : c.states.length = c.tables.length :=
  List.length_map _

lemma OnTerminal.length_tables (h : c.OnTerminal window names) : c.tables.length = names.length := by
  rw [← h.named, List.length_map, length_states]

lemma OnTerminal.printable_states (h : c.OnTerminal window names) :
    ∀ s ∈ c.states, Printable s.tableName := by
  intro s hs
  apply h.printable
  rw [← h.named]
  exact List.mem_map_of_mem hs

lemma Drawn.length_shown (h : c.Drawn window names above) : c.shown.length = names.length := by
  rw [← h.shownNamed, List.length_map]

lemma Drawn.renderedLines_pos (h : c.Drawn window names above) : 0 < c.renderedLines := by
  rw [h.lines]
  exact List.length_pos_of_ne_nil h.onTerminal.nonempty

lemma length_frameRows (states : List TableProgressState) :
    (frameRows states).length = states.length := by
  unfold frameRows frameLines
  rw [List.length_map, List.length_map]

lemma display_frame (h : ∀ s ∈ c.states, Printable s.tableName)
    (hwidth : LinesFit window.width c.states) (above rows : List (List Char)) :
    (atRows above rows).display window ((frameLines c.states).flatMap drawRow) =
      atRows ((frameRows c.states).reverse ++ above) (rows.drop c.tables.length) := by
  have hlines : ∀ line ∈ frameLines c.states, FitsRow window.width line := by
    intro line hline
    have hlength := hwidth line hline
    obtain ⟨s, hs, rfl⟩ := List.mem_map.mp hline
    exact ⟨printable_formatTableProgressLine (h s hs) kBarWidth, hlength⟩
  have hlength : (frameLines c.states).length = c.tables.length := by
    unfold frameLines
    rw [List.length_map, length_states]
  rw [display_drawRows hlines, hlength]
  rfl

/-- From below the frame to its first row. -/
lemma Drawn.display_frameUp (h : c.Drawn window names above) (rows : List (List Char)) :
    (atRows ((frameRows c.shown).reverse ++ rows) [[]]).display window
        [.cursorUp c.renderedLines] =
      atRows rows (frameRows c.shown ++ [[]]) := by
  have hrows : (frameRows c.shown).length = c.renderedLines := by
    rw [length_frameRows, h.length_shown, h.lines]
  have hfits : [([] : List Char)].length + (frameRows c.shown).length ≤ window.height := by
    rw [hrows, h.lines, List.length_singleton, Nat.add_comm]
    exact h.onTerminal.fits
  have hup := display_cursorUp rows (List.cons_ne_nil [] []) hfits
  rwa [hrows] at hup

/-- The rows of the frame are written over, and the row below them stays. -/
lemma Drawn.drop_frame (h : c.Drawn window names above) :
    (frameRows c.shown ++ [[]]).drop c.renderedLines = [[]] := by
  rw [h.lines, ← h.length_shown, ← length_frameRows c.shown, List.drop_left]

lemma OnTerminal.renderFrameLocked_eq (h : c.OnTerminal window names) :
    c.renderFrameLocked =
      { (if c.frameDrawn && 0 < c.renderedLines then c.emit [.cursorUp c.renderedLines]
          else c).emit ((frameLines c.states).flatMap drawRow) with
        renderedLines := c.tables.length
        frameDrawn := true
        renderDirty := false
        shown := c.states } := by
  have hne : c.tables ≠ [] := by
    intro hnil
    apply h.nonempty
    rw [← List.length_eq_zero_iff, ← h.length_tables, hnil, List.length_nil]
  unfold renderFrameLocked
  rw [h.interactive, List.isEmpty_eq_false_iff.mpr hne, if_neg (by decide)]
  split <;> rfl

/-- Above the frame of the present states, the screen is as it was above the last one. -/
lemma OnTerminal.framed_of_render {d : ProgressController} {blank : List (List Char)}
    (h : c.OnTerminal window names) (hwidth : LinesFit window.width c.states)
    (hsame : d.interactiveTty = c.interactiveTty ∧ d.appendOnly = c.appendOnly ∧
      d.tables = c.tables)
    (hfields : d.frameDrawn = true ∧ d.renderedLines = c.tables.length ∧ d.shown = c.states)
    {output : List TerminalOutput}
    (houtput : d.output = output ++ (frameLines c.states).flatMap drawRow)
    (hscreen : (atRows above []).display window output = atRows (d.failureRows window.width ++ above) blank)
    (hblank : blank.drop c.tables.length = [[]] ∨ blank.drop c.tables.length = []) :
    d.Framed window names above := by
  have hstates : d.states = c.states := by
    unfold states
    rw [hsame.2.2]
  refine ⟨⟨h.same hsame.1 hsame.2.1 (by rw [hstates]), hfields.1, ?_, ?_, ?_⟩, fun _ => ?_⟩
  · rw [hfields.2.1, h.length_tables]
  · rw [hfields.2.2, h.named]
  · rw [houtput, display_append, hscreen, display_frame h.printable_states hwidth, hfields.2.2]
    rcases hblank with hblank | hblank
    · rw [hblank]
    · rw [hblank]
      rfl
  · rw [hfields.2.2, hstates]

/-- The frame is drawn over the last one. -/
lemma Drawn.renderFrameLocked (h : c.Drawn window names above)
    (hwidth : LinesFit window.width c.states) :
    c.renderFrameLocked.Framed window names above := by
  have hcond : (c.frameDrawn && decide (0 < c.renderedLines)) = true := by
    rw [h.drawn, decide_eq_true h.renderedLines_pos]
    rfl
  have hscreen : (atRows above []).display window (c.output ++ [.cursorUp c.renderedLines]) =
      atRows (c.failureRows window.width ++ above) (frameRows c.shown ++ [[]]) := by
    rw [display_append, h.screen, h.display_frameUp]
  rw [h.onTerminal.renderFrameLocked_eq, if_pos hcond]
  refine h.onTerminal.framed_of_render hwidth ⟨rfl, rfl, rfl⟩ ⟨rfl, rfl, rfl⟩ rfl hscreen (.inl ?_)
  rw [h.onTerminal.length_tables, ← h.lines, h.drop_frame]

/-- What clears a frame and goes back to its first row. -/
def clearOutput (lines : Nat) : List TerminalOutput :=
  .cursorUp lines :: (List.replicate lines "").flatMap drawRow ++ [.cursorUp lines]

lemma clearFrameLocked_eq (hinteractive : c.interactiveTty = true) (hdrawn : c.frameDrawn = true)
    (hlines : c.renderedLines ≠ 0) :
    c.clearFrameLocked true = c.emit (clearOutput c.renderedLines) := by
  unfold clearFrameLocked
  rw [hinteractive, hdrawn, if_neg (by simp [hlines]), if_pos rfl]
  unfold emit clearOutput
  rw [List.append_assoc]

/-- Where the frame was, there are blank rows, and the cursor is in the first of them. -/
lemma Drawn.display_clearOutput (h : c.Drawn window names above) :
    (atRows above []).display window (c.output ++ clearOutput c.renderedLines) =
      atRows (c.failureRows window.width ++ above) (List.replicate (c.renderedLines + 1) []) := by
  have hblank : ∀ row ∈ List.replicate c.renderedLines "", FitsRow window.width row := by
    intro row hrow
    rw [List.eq_of_mem_replicate hrow]
    exact ⟨by decide, Nat.zero_le _⟩
  have hrows : ((List.replicate c.renderedLines "").map String.toList).reverse =
      (List.replicate c.renderedLines []).reverse := by
    rw [List.map_replicate]
    rfl
  have hfits : [([] : List Char)].length + (List.replicate c.renderedLines ([] : List Char)).length ≤
      window.height := by
    rw [List.length_replicate, List.length_singleton, Nat.add_comm, h.lines]
    exact h.onTerminal.fits
  have hup := display_cursorUp (c.failureRows window.width ++ above) (List.cons_ne_nil [] []) hfits
  rw [List.length_replicate] at hup
  unfold clearOutput
  rw [List.cons_append, ← List.singleton_append, display_append, display_append, display_append,
    h.screen, h.display_frameUp, display_drawRows hblank, List.length_replicate, h.drop_frame, hrows,
    hup, List.replicate_succ']

/-- The row of a message, on blank rows. -/
lemma display_message (message : String) (above : List (List Char)) (blank : Nat) :
    (atRows above (List.replicate (blank + 1) [])).display window (drawRow message) =
      atRows ((textRows window.width message).reverse ++ above)
        (List.replicate (blank + 1 - (textRows window.width message).length) []) := by
  have hreturn : "\r".toList = ['\r'] := by decide
  have herase : (atRows above (List.replicate (blank + 1) [])).display window
      [.text "\r", .eraseLine] = atRows above (List.replicate (blank + 1) []) := by
    unfold Screen.display
    rw [List.foldl_cons, interpret, hreturn]
    rfl
  change (atRows above (List.replicate (blank + 1) [])).display window
    ([.text "\r", .eraseLine] ++ [.text (message ++ "\n")]) = _
  rw [display_append, herase, display_text]

/-- A message stands between the messages before it and a new frame. -/
lemma Drawn.writeFailureMessage (h : c.Drawn window names above)
    (hwidth : LinesFit window.width c.states) (message : String) :
    (c.writeFailureMessage message).Framed window names above := by
  let cleared : ProgressController := { c with
    output := c.output ++ clearOutput c.renderedLines ++ drawRow message
    failures := c.failures ++ [message]
    frameDrawn := false
    renderedLines := 0
    renderDirty := true }
  have hclear := clearFrameLocked_eq (c := { c with failures := c.failures ++ [message] })
    h.onTerminal.interactive h.drawn h.renderedLines_pos.ne'
  have hwrite : c.writeFailureMessage message = cleared.renderFrameLocked := by
    unfold ProgressController.writeFailureMessage
    rw [if_neg (by rw [h.onTerminal.interactive]; decide), hclear]
    rfl
  have hterminal : cleared.OnTerminal window names := h.onTerminal.same rfl rfl rfl
  have hrows : 0 < (textRows window.width message).length :=
    List.length_pos_of_ne_nil (textRows_ne_nil window.width message)
  have hfailures : cleared.failureRows window.width ++ above =
      (textRows window.width message).reverse ++ (c.failureRows window.width ++ above) := by
    unfold failureRows
    rw [List.flatMap_append, List.reverse_append, List.flatMap_singleton, List.append_assoc]
  have hscreen : (atRows above []).display window cleared.output =
      atRows (cleared.failureRows window.width ++ above)
        (List.replicate (c.renderedLines + 1 - (textRows window.width message).length) []) := by
    rw [display_append, h.display_clearOutput, display_message, hfailures]
  have hundrawn : (cleared.frameDrawn && decide (0 < cleared.renderedLines)) = false := rfl
  rw [hwrite, hterminal.renderFrameLocked_eq, hundrawn, if_neg Bool.false_ne_true]
  refine hterminal.framed_of_render hwidth ⟨rfl, rfl, rfl⟩ ⟨rfl, rfl, rfl⟩ rfl hscreen (.inr ?_)
  rw [List.drop_replicate, List.replicate_eq_nil_iff, hterminal.length_tables, ← h.lines]
  omega

end ProgressController

end Schengen.Storage
