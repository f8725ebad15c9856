import Schengen.Library.Overwrite
import Mathlib.Data.List.Basic
import Mathlib.Logic.Function.Iterate

/-!
# A terminal

The rows of a terminal with its cursor, and what a program writes to it: text, the erasure of a row
and the way back up. A text that comes to the end of its row goes on in the next one, with the first
character that finds no place. The cursor moves up inside the window, which shows the last rows.
-/

namespace Schengen.Library

structure Window where
  height : Nat
  width : Nat

/-- The rows above the cursor from the nearest on, the row and the column of the cursor, and the rows
below it. -/
structure Screen where
  above : List (List Char)
  row : List Char
  column : Nat
  below : List (List Char)
  deriving DecidableEq

inductive TerminalOutput
  | text (text : String)
  | eraseLine
  | cursorUp (rows : Nat)

namespace Screen

def put (width : Nat) (s : Screen) (c : Char) : Screen :=
  if c = '\n' then ⟨s.row :: s.above, s.below.headD [], 0, s.below.tail⟩
  else if c = '\r' then { s with column := 0 }
  else if width ≤ s.column then
    ⟨s.row :: s.above, overwrite (s.below.headD []) 0 [c], 1, s.below.tail⟩
  else
    { s with
      row := overwrite (s.row ++ List.replicate (s.column - s.row.length) ' ') s.column [c]
      column := s.column + 1 }

def write (width : Nat) (s : Screen) (text : List Char) : Screen := text.foldl (put width) s

def up (height : Nat) (s : Screen) : Screen :=
  match s.above with
  | [] => s
  | row :: above =>
    if s.below.length + 1 < height then ⟨above, row, s.column, s.row :: s.below⟩ else s

def interpret (window : Window) (s : Screen) : TerminalOutput → Screen
  | .text text => s.write window.width text.toList
  | .eraseLine => { s with row := [] }
  | .cursorUp rows => (up window.height)^[rows] s

/-- The screen after the given output. -/
def display (window : Window) (s : Screen) (output : List TerminalOutput) : Screen :=
  output.foldl (interpret window) s

/-- The cursor at the first of the given rows. -/
def atRows (above : List (List Char)) (rows : List (List Char)) : Screen :=
  ⟨above, rows.headD [], 0, rows.tail⟩

end Screen

/-- The row of the cursor is written anew. -/
def drawRow (row : String) : List TerminalOutput := [.text "\r", .eraseLine, .text (row ++ "\n")]

/-- The text stays in its row. -/
def Printable (text : String) : Prop := ∀ c ∈ text.toList, c ≠ '\n' ∧ c ≠ '\r'

instance (text : String) : Decidable (Printable text) :=
  List.decidableBAll (fun c => c ≠ '\n' ∧ c ≠ '\r') text.toList

/-- The text stays in a row of this width. -/
def FitsRow (width : Nat) (text : String) : Prop := Printable text ∧ text.toList.length ≤ width

/-- The rows that a text and the end of its line take. -/
def textRows (width : Nat) (text : String) : List (List Char) :=
  ((⟨[], [], 0, []⟩ : Screen).write width (text ++ "\n").toList).above.reverse

variable {window : Window} {height width : Nat} {s : Screen} {above rows : List (List Char)}

namespace Screen

@[simp] lemma write_nil (s : Screen) : s.write width [] = s := rfl

lemma write_append (s : Screen) (text more : List Char) :
    s.write width (text ++ more) = (s.write width text).write width more := List.foldl_append

lemma display_append (s : Screen) (output more : List TerminalOutput) :
    s.display window (output ++ more) = (s.display window output).display window more :=
  List.foldl_append

/-! ## Rows -/

/-- Text at the end of a row makes the row longer. -/
lemma write_row {text : List Char} (h : ∀ c ∈ text, c ≠ '\n' ∧ c ≠ '\r')
    (hend : s.column = s.row.length) (hwidth : s.row.length + text.length ≤ width) :
    s.write width text = { s with row := s.row ++ text, column := s.row.length + text.length } := by
  induction text generalizing s with
  | nil =>
    rw [write_nil, List.append_nil, List.length_nil, Nat.add_zero, ← hend]
  | cons c text ih =>
    obtain ⟨⟨hnewline, hreturn⟩, htext⟩ := List.forall_mem_cons.mp h
    rw [List.length_cons] at hwidth
    have hput : s.put width c = { s with row := s.row ++ [c], column := s.row.length + 1 } := by
      unfold put overwrite
      rw [if_neg hnewline, if_neg hreturn, if_neg (by omega), hend]
      simp
    have hrest : (s.row ++ [c]).length + text.length ≤ width := by
      rw [List.length_append, List.length_singleton]
      omega
    change (s.put width c).write width text = _
    rw [hput, ih htext (by simp) hrest]
    simp [Nat.add_assoc, Nat.add_comm 1]

lemma put_newline (s : Screen) :
    s.put width '\n' = atRows (s.row :: s.above) s.below := rfl

/-- Drawing a row leaves the cursor in the next one. -/
lemma display_drawRow {row : String} (h : FitsRow window.width row) (above rows : List (List Char)) :
    (atRows above rows).display window (drawRow row) =
      atRows (row.toList :: above) rows.tail := by
  have hreturn : "\r".toList = ['\r'] := by decide
  have herased : (atRows above rows).display window [.text "\r", .eraseLine] =
      ⟨above, [], 0, rows.tail⟩ := by
    unfold display
    rw [List.foldl_cons, interpret, hreturn]
    rfl
  have hwidth : ([] : List Char).length + row.toList.length ≤ window.width := by
    rw [List.length_nil, Nat.zero_add]
    exact h.2
  change ((atRows above rows).display window [.text "\r", .eraseLine]).write window.width
    (row ++ "\n").toList = _
  rw [herased, String.toList_append, write_append, write_row h.1 rfl hwidth]
  rfl

/-- Rows that are drawn one after the other. -/
lemma display_drawRows {drawn : List String} (h : ∀ row ∈ drawn, FitsRow window.width row)
    (above rows : List (List Char)) :
    (atRows above rows).display window (drawn.flatMap drawRow) =
      atRows ((drawn.map String.toList).reverse ++ above) (rows.drop drawn.length) := by
  induction drawn generalizing above rows with
  | nil => rfl
  | cons row drawn ih =>
    obtain ⟨hrow, hdrawn⟩ := List.forall_mem_cons.mp h
    rw [List.flatMap_cons, display_append, display_drawRow hrow, ih hdrawn, List.map_cons,
      List.reverse_cons, List.append_assoc, List.length_cons, List.drop_tail]
    rfl

/-- The way back up over rows that are all in the window. -/
lemma up_iterate (drawn above : List (List Char)) (row : List Char) (column : Nat)
    (below : List (List Char)) (h : below.length + drawn.length < height) :
    (up height)^[drawn.length] ⟨drawn ++ above, row, column, below⟩ =
      ⟨above, (drawn.reverse ++ row :: below).headD [], column,
        (drawn.reverse ++ row :: below).tail⟩ := by
  induction drawn generalizing row below with
  | nil => rfl
  | cons last drawn ih =>
    rw [List.length_cons] at h ⊢
    have hstep : up height ⟨last :: drawn ++ above, row, column, below⟩ =
        ⟨drawn ++ above, last, column, row :: below⟩ :=
      if_pos (show below.length + 1 < height by omega)
    rw [Function.iterate_succ_apply, hstep, ih last (row :: below) (by rw [List.length_cons]; omega),
      List.reverse_cons, List.append_assoc]
    rfl

/-- From below a frame to its first row. -/
lemma display_cursorUp {frame : List (List Char)} (above : List (List Char))
    (hrows : rows ≠ []) (h : rows.length + frame.length ≤ window.height) :
    (atRows (frame.reverse ++ above) rows).display window [.cursorUp frame.length] =
      atRows above (frame ++ rows) := by
  obtain ⟨row, below, rfl⟩ := List.exists_cons_of_ne_nil hrows
  rw [List.length_cons] at h
  have hup := @up_iterate window.height frame.reverse above row 0 below
    (by rw [List.length_reverse]; omega)
  rw [List.length_reverse, List.reverse_reverse] at hup
  exact hup

/-! ## Texts of several rows -/

lemma length_above_put (s : Screen) (c : Char) :
    s.above.length ≤ (s.put width c).above.length := by
  unfold put
  split_ifs
  · exact Nat.le_succ _
  · exact Nat.le_refl _
  · exact Nat.le_succ _
  · exact Nat.le_refl _

lemma length_above_write (s : Screen) (text : List Char) :
    s.above.length ≤ (s.write width text).above.length := by
  induction text generalizing s with
  | nil => exact Nat.le_refl _
  | cons c text ih => exact Nat.le_trans (length_above_put s c) (ih (s.put width c))

/-- One more row of blank ones is taken. -/
lemma write_blank_row {text : List Char} {written above : List (List Char)} {row next : List Char}
    {column blank : Nat} (ih : ∀ written row column blank,
      (⟨written ++ above, row, column, List.replicate blank []⟩ : Screen).write width text =
        let alone := (⟨written, row, column, []⟩ : Screen).write width text
        ⟨alone.above ++ above, alone.row, alone.column,
          List.replicate (blank + written.length - alone.above.length) []⟩) :
    (⟨row :: written ++ above, next, column, List.replicate (blank - 1) []⟩ : Screen).write width
        text =
      let alone := (⟨row :: written, next, column, []⟩ : Screen).write width text
      ⟨alone.above ++ above, alone.row, alone.column,
        List.replicate (blank + written.length - alone.above.length) []⟩ := by
  have hmono : (row :: written).length ≤ _ :=
    @length_above_write width ⟨row :: written, next, column, []⟩ text
  rw [ih]
  rw [List.length_cons] at hmono
  dsimp only
  rw [List.length_cons]
  congr 2
  omega

/-- On rows that are blank a text looks as it does on an empty screen. -/
lemma write_blank (text : List Char) (written above : List (List Char)) (row : List Char)
    (column blank : Nat) :
    (⟨written ++ above, row, column, List.replicate blank []⟩ : Screen).write width text =
      let alone := (⟨written, row, column, []⟩ : Screen).write width text
      ⟨alone.above ++ above, alone.row, alone.column,
        List.replicate (blank + written.length - alone.above.length) []⟩ := by
  induction text generalizing written row column blank with
  | nil =>
    simp only [write_nil, Nat.add_sub_cancel]
  | cons c text ih =>
    change ((⟨written ++ above, row, column, List.replicate blank []⟩ : Screen).put width c).write
      width text = _
    have halone : (⟨written, row, column, []⟩ : Screen).write width (c :: text) =
        ((⟨written, row, column, []⟩ : Screen).put width c).write width text := rfl
    have hhead : (List.replicate blank ([] : List Char)).headD [] = [] := by
      cases blank <;> rfl
    rw [halone]
    by_cases hnewline : c = '\n'
    · have hput : ∀ a (b : List (List Char)), (⟨a, row, column, b⟩ : Screen).put width c =
          ⟨row :: a, b.headD [], 0, b.tail⟩ := fun a b => if_pos hnewline
      rw [hput, hput, hhead, List.tail_replicate]
      exact write_blank_row ih
    · by_cases hreturn : c = '\r'
      · have hput : ∀ a b : List (List Char), (⟨a, row, column, b⟩ : Screen).put width c =
            ⟨a, row, 0, b⟩ := fun a b => by
          unfold put
          rw [if_neg hnewline, if_pos hreturn]
        rw [hput, hput, ih]
      · by_cases hwraps : width ≤ column
        · have hput : ∀ a b : List (List Char), (⟨a, row, column, b⟩ : Screen).put width c =
              ⟨row :: a, overwrite (b.headD []) 0 [c], 1, b.tail⟩ := fun a b => by
            unfold put
            rw [if_neg hnewline, if_neg hreturn, if_pos hwraps]
          rw [hput, hput, hhead, List.tail_replicate]
          exact write_blank_row ih
        · have hput : ∀ a b : List (List Char), (⟨a, row, column, b⟩ : Screen).put width c =
              ⟨a, overwrite (row ++ List.replicate (column - row.length) ' ') column [c],
                column + 1, b⟩ := fun a b => by
            unfold put
            rw [if_neg hnewline, if_neg hreturn, if_neg hwraps]
          rw [hput, hput, ih]

variable (width) in
lemma textRows_ne_nil (text : String) : textRows width text ≠ [] := by
  unfold textRows
  rw [String.toList_append, write_append]
  intro hnil
  exact List.cons_ne_nil _ _ (List.reverse_eq_nil_iff.mp hnil)

/-- A text with the end of its line, on blank rows. -/
lemma display_text (text : String) (above : List (List Char)) (blank : Nat) :
    (atRows above (List.replicate (blank + 1) [])).display window [.text (text ++ "\n")] =
      atRows ((textRows window.width text).reverse ++ above)
        (List.replicate (blank + 1 - (textRows window.width text).length) []) := by
  have hwrite := @write_blank window.width (text ++ "\n").toList [] above [] 0 blank
  rw [List.nil_append] at hwrite
  have hlast : ∃ a, (⟨[], [], 0, []⟩ : Screen).write window.width (text ++ "\n").toList =
      ⟨a, [], 0, []⟩ := by
    rw [String.toList_append, write_append]
    have hbelow : ∀ (t : List Char) (s : Screen), s.below = [] →
        (s.write window.width t).below = [] := by
      intro t
      induction t with
      | nil => exact fun s hs => hs
      | cons c t ih =>
        intro s hs
        refine ih (s.put window.width c) ?_
        unfold put
        split_ifs
        · rw [hs]
          rfl
        · exact hs
        · rw [hs]
          rfl
        · exact hs
    have hend : ((⟨[], [], 0, []⟩ : Screen).write window.width text.toList).below = [] := hbelow _ _ rfl
    refine ⟨((⟨[], [], 0, []⟩ : Screen).write window.width text.toList).row ::
      ((⟨[], [], 0, []⟩ : Screen).write window.width text.toList).above, ?_⟩
    change ((⟨[], [], 0, []⟩ : Screen).write window.width text.toList).put window.width '\n' = _
    rw [put_newline, hend]
    rfl
  obtain ⟨a, ha⟩ := hlast
  have hrows : textRows window.width text = a.reverse := by
    unfold textRows
    rw [ha]
  have hpos : 0 < a.length := by
    have hne := textRows_ne_nil window.width text
    rw [hrows] at hne
    exact List.length_pos_of_ne_nil fun hnil => hne (by rw [hnil]; rfl)
  rw [ha] at hwrite
  rw [hrows, List.reverse_reverse, List.length_reverse]
  refine hwrite.trans ?_
  unfold atRows
  rw [List.length_nil, Nat.add_zero, List.tail_replicate]
  have hhead : (List.replicate (blank + 1 - a.length) ([] : List Char)).headD [] = [] := by
    cases blank + 1 - a.length with
    | zero => rfl
    | succ k => rfl
  have hblank : blank + 1 - a.length - 1 = blank - a.length := by omega
  rw [hhead, hblank]

end Screen

/-! ## Printable texts -/

lemma Printable.append {text more : String} (h : Printable text) (hmore : Printable more) :
    Printable (text ++ more) := by
  intro c hc
  rw [String.toList_append] at hc
  rcases List.mem_append.mp hc with hc | hc
  · exact h c hc
  · exact hmore c hc

lemma printable_ofList {text : List Char} (h : ∀ c ∈ text, c ≠ '\n' ∧ c ≠ '\r') :
    Printable (String.ofList text) := by
  intro c hc
  rw [String.toList_ofList] at hc
  exact h c hc

lemma printable_natRepr (n : Nat) : Printable (toString n) := by
  intro c hc
  have hdigit : c.isDigit = true := by
    rw [Nat.toString_eq_ofList_toDigits, String.toList_ofList] at hc
    exact Nat.isDigit_of_mem_toDigits (by decide) (by decide) hc
  constructor
  · rintro rfl
    cases hdigit
  · rintro rfl
    cases hdigit

lemma printable_intRepr (z : Int) : Printable (toString z) := by
  cases z with
  | ofNat n => exact printable_natRepr n
  | negSucc n => exact (show Printable "-" by decide).append (printable_natRepr (n + 1))

end Schengen.Library
