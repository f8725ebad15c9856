import Mathlib.Data.List.Basic

/-!
# Generators and writers as the schedulers see them

The scheduling functions of `Storage/write_scheduler.cpp` see a generator as the batches it
returns, up to its end or an exception, and a writer by the status or the exception of every
call. Batches are of any type `β`.
-/

namespace Schengen.Storage

/-- `arrow::Status` -/
inductive Status
  | ok
  | error (code message : String)
  deriving DecidableEq, Inhabited

def Status.toString : Status → String
  | ok => "OK"
  | error code message => code ++ ": " ++ message

/-- What a `catch` clause sees. -/
inductive Thrown
  | exception (what : String)
  | other
  deriving DecidableEq

/-- `ex.what()`, or the text of the clause for anything else. -/
def Thrown.text (unknown : String) : Thrown → String
  | exception what => what
  | other => unknown

/-- The end of a call on a writer or a sink. -/
inductive Outcome
  | returned (status : Status)
  | threw (thrown : Thrown)
  deriving DecidableEq

namespace Outcome

def ok : Outcome := returned .ok

end Outcome

/-- What `CreateGenerator` and `Reset` do. -/
inductive GeneratorStart
  | ready
  | missing
  | threw (thrown : Thrown)
  deriving DecidableEq

inductive GeneratorEnd
  | finished
  | threw (thrown : Thrown)
  deriving DecidableEq

/-- A generator of one part: the batches that `NextBatch` returns before it ends. -/
structure PartGenerator (β : Type) where
  start : GeneratorStart
  batches : List β
  ends : GeneratorEnd

inductive BatchMessage (β : Type)
  | batch (part : Nat) (batch : β)
  | endPartition (part : Nat)
  | error (part : Nat) (error : String)
  deriving DecidableEq

def BatchMessage.part {β : Type} : BatchMessage β → Nat
  | batch part _ => part
  | endPartition part => part
  | error part _ => part

/-- A call on the sink or the ordered writer. -/
inductive SinkCall (β : Type)
  | openTable
  | beginPartition (part : Int)
  | writeBatch (batch : β)
  | endPartition
  | close
  deriving DecidableEq

/-- The batches that are written. -/
def SinkCall.written {β : Type} : List (SinkCall β) → List β :=
  List.filterMap fun
    | writeBatch batch => some batch
    | _ => none

variable {β : Type}

/-- A part begun, its batches written, and ended. -/
def partCalls (part : Nat) (batches : List β) : List (SinkCall β) :=
  .beginPartition part :: batches.map .writeBatch ++ [.endPartition]

/-- The batches of the parts `1` to `partCount`. -/
def allBatches (partCount : Nat) (generator : Nat → PartGenerator β) : List β :=
  (List.range' 1 partCount).flatMap fun part => (generator part).batches

/-- The generator starts, and ends without an exception. -/
def PartGenerator.Completes (generator : PartGenerator β) : Prop :=
  generator.start = .ready ∧ generator.ends = .finished

instance (generator : PartGenerator β) : Decidable generator.Completes :=
  inferInstanceAs (Decidable (_ ∧ _))

@[simp] lemma SinkCall.written_append (calls more : List (SinkCall β)) :
    written (calls ++ more) = written calls ++ written more :=
  List.filterMap_append

lemma SinkCall.written_flatMap (parts : List Nat) (calls : Nat → List (SinkCall β)) :
    written (parts.flatMap calls) = parts.flatMap fun part => written (calls part) :=
  List.filterMap_flatMap

@[simp] lemma SinkCall.written_map (batches : List β) :
    written (batches.map SinkCall.writeBatch) = batches := by
  induction batches with
  | nil => rfl
  | cons batch batches ih => exact congrArg (batch :: ·) ih

lemma SinkCall.written_partCalls (part : Nat) (batches : List β) :
    written (partCalls part batches) = batches := by
  change written (batches.map SinkCall.writeBatch ++ [.endPartition]) = batches
  rw [written_append, written_map]
  exact List.append_nil batches

/-! ## Texts that are not empty -/

lemma append_ne_left {text : String} (h : text ≠ "") (rest : String) : text ++ rest ≠ "" :=
  fun hempty => h (String.append_eq_empty_iff.mp hempty).1

lemma append_ne_right {rest : String} (text : String) (h : rest ≠ "") : text ++ rest ≠ "" :=
  fun hempty => h (String.append_eq_empty_iff.mp hempty).2

lemma Status.toString_ne (status : Status) : status.toString ≠ "" := by
  cases status with
  | ok => decide
  | error code message => exact append_ne_left (append_ne_right code (by decide)) message

end Schengen.Storage
