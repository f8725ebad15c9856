import Schengen.Storage.Pipeline
import Mathlib.Logic.Function.Basic

/-!
# Files

A file system is a map from paths to contents. The writers change it through calls that return
a status: calls of `arrow::fs::FileSystem`, of the output stream, and of the format writer
on top of it. Contents are lists of what was written, bytes for a stream and batches for a
format writer. A buffered stream holds back what is written until it is closed; since the
contents matter only after that, every write goes into the file at once.
-/

namespace Schengen.Storage

variable {β : Type}

inductive FileCall (β : Type)
  | createDir (path : String)
  | getFileInfo (path : String)
  | openOutputStream (path : String)
  | createBuffer
  | openWriter
  | newRowGroup
  | write (path : String) (items : List β)
  | closeWriter
  | closeStream
  | abort
  | deleteFile (path : String)
  | move (source target : String)
  deriving DecidableEq

/-- The contents of every path, the calls made and the texts given to `ReportError`. -/
structure World (β : Type) where
  files : String → Option (List β)
  calls : List (FileCall β)
  errors : List String

/-- How the calls go, each depending on those before it: its status, and what is added to the
file by a write that fails. -/
structure FileSystem (β : Type) where
  answer : List (FileCall β) → FileCall β → Status
  torn : List (FileCall β) → List β

def World.reportError (w : World β) (error : String) : World β :=
  { w with errors := w.errors ++ [error] }

def append (files : String → Option (List β)) (path : String) (items : List β) :
    String → Option (List β) :=
  Function.update files path (some ((files path).getD [] ++ items))

/-- What a successful call changes. -/
def FileCall.effect (files : String → Option (List β)) : FileCall β → String → Option (List β)
  | openOutputStream path => Function.update files path (some [])
  | write path items => append files path items
  | deleteFile path => Function.update files path none
  | move source target => Function.update (Function.update files target (files source)) source none
  | _ => files

/-- What a call that fails changes: only a write can have an effect. -/
def FileCall.failedEffect (torn : List β) (files : String → Option (List β)) :
    FileCall β → String → Option (List β)
  | write path _ => append files path torn
  | _ => files

def FileSystem.call (fs : FileSystem β) (c : FileCall β) (w : World β) : Status × World β :=
  let status := fs.answer w.calls c
  (status, { w with
    files := if status = .ok then c.effect w.files else c.failedEffect (fs.torn w.calls) w.files
    calls := w.calls ++ [c] })

/-- `JoinPath` -/
def joinPath (base leaf : String) : String :=
  if base = "" then leaf
  else if leaf = "" then base
  else if base.toList.getLast? = some '/' then base ++ leaf
  else base ++ "/" ++ leaf

def tempPath (finalPath : String) : String := finalPath ++ ".tmp"

lemma tempPath_ne (finalPath : String) : tempPath finalPath ≠ finalPath := by
  intro h
  exact absurd (String.append_eq_left_iff.mp h) (by decide)

lemma joinPath_ne {base leaf : String} (hleaf : leaf ≠ "") : joinPath base leaf ≠ "" := by
  intro h
  unfold joinPath at h
  split at h
  · exact hleaf h
  · next hbase =>
    split at h
    · exact append_ne_left hbase leaf h
    · exact append_ne_right (base ++ "/") hleaf h

/-- The paths whose contents a call may change. -/
def FileCall.paths : FileCall β → List String
  | openOutputStream path => [path]
  | write path _ => [path]
  | deleteFile path => [path]
  | move source target => [source, target]
  | _ => []

variable {fs : FileSystem β} {c : FileCall β} {w : World β} {path : String}

lemma call_calls : (fs.call c w).2.calls = w.calls ++ [c] := rfl

lemma call_ok (h : (fs.call c w).1 = .ok) : (fs.call c w).2.files = c.effect w.files :=
  if_pos h

lemma call_failed (h : (fs.call c w).1 ≠ .ok) :
    (fs.call c w).2.files = c.failedEffect (fs.torn w.calls) w.files :=
  if_neg h

lemma call_write {items contents : List β} (h : (fs.call (.write path items) w).1 = .ok)
    (hfile : w.files path = some contents) :
    (fs.call (.write path items) w).2.files path = some (contents ++ items) := by
  rw [call_ok h, FileCall.effect, append, Function.update_self, hfile, Option.getD_some]

lemma call_openOutputStream (h : (fs.call (.openOutputStream path) w).1 = .ok) :
    (fs.call (.openOutputStream path) w).2.files path = some [] := by
  rw [call_ok h, FileCall.effect, Function.update_self]

lemma call_move {source target : String} (h : (fs.call (.move source target) w).1 = .ok)
    (hne : target ≠ source) :
    (fs.call (.move source target) w).2.files target = w.files source ∧
      (fs.call (.move source target) w).2.files source = none := by
  rw [call_ok h, FileCall.effect]
  exact ⟨by rw [Function.update_of_ne hne, Function.update_self], Function.update_self _ _ _⟩

/-- Other paths keep their contents, whether the call succeeds or not. -/
lemma call_files_other (h : path ∉ c.paths) : (fs.call c w).2.files path = w.files path := by
  have heffect : c.effect w.files path = w.files path := by
    cases c with
    | move source target =>
      simp only [FileCall.paths, List.mem_cons, List.not_mem_nil, or_false, not_or] at h
      exact (Function.update_of_ne h.1 _ _).trans (Function.update_of_ne h.2 _ _)
    | openOutputStream p => exact Function.update_of_ne (List.ne_of_not_mem_cons h) _ _
    | write p items => exact Function.update_of_ne (List.ne_of_not_mem_cons h) _ _
    | deleteFile p => exact Function.update_of_ne (List.ne_of_not_mem_cons h) _ _
    | _ => rfl
  have hfailed : c.failedEffect (fs.torn w.calls) w.files path = w.files path := by
    cases c with
    | write p items => exact Function.update_of_ne (List.ne_of_not_mem_cons h) _ _
    | _ => rfl
  simp only [FileSystem.call]
  by_cases hok : fs.answer w.calls c = .ok
  · rw [if_pos hok]
    exact heffect
  · rw [if_neg hok]
    exact hfailed

end Schengen.Storage
