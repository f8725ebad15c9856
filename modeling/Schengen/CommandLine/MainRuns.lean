import Schengen.CommandLine.TableTasks
import Schengen.Storage.StoredTables

/-!
# The exit code

`main` from the launch of its tasks to its end: it joins the futures in their order, remembers a code
that is not 0, and finalizes the storage backends. An exit code of 0 says that every selected format
holds every selected table, each with the same rows, but for a merged Parquet file that was there
before.
-/

namespace Schengen.CommandLine
open Library Storage Schengen.Random Schengen.Tables

/-- What the future of a task holds. -/
inductive TaskResult
  | returned (code : Int)
  | threw (what : String)
  deriving DecidableEq

/-- `exit_code` after one more future. -/
def TaskResult.next (exitCode : Int) : TaskResult → Int
  | returned code => if code ≠ 0 then code else exitCode
  | threw _ => 2

def joinTasks (results : List TaskResult) : Int := results.foldl TaskResult.next 0

/-- What follows `FinalizeStorageBackends`. -/
def finalize (finalizeStatus : Status) (exitCode : Int) : Int :=
  if finalizeStatus ≠ .ok ∧ exitCode = 0 then 2 else exitCode

variable {Ω σ : Type}

/-- The exit code, by what the futures of the tasks hold and what `FinalizeStorageBackends` returns. -/
def Settings.exitCode (settings : Settings Ω σ) (args : Arguments) (results : List TaskResult)
    (finalizeStatus : Status) : Int :=
  if args.help ∨ args.listTables ∨ args.listFormats then 0
  else
    match settings.main args with
    | .error _ => 2
    | .ok _ => finalize finalizeStatus (joinTasks results)

/-- How a task ends for `table`: it is refused, it runs, with an output, or it throws. -/
inductive TaskEnds (sampler : IntSampler) (textPool : TextPool)
    (task : TableTask Ω WriteSchedulerOptions) (partCount : Int) (table : Table)
    (output : Output (table.generator sampler).Row) : TaskResult → Prop
  | refused {message : String}
    (hrefused : selectFunction task.schedulerOptions task.formatDriver task.table.name partCount =
      .error message) :
    TaskEnds sampler textPool task partCount table output (.returned 2)
  | ran {function : TableFunction} {rc : Int}
    (hselected : selectFunction task.schedulerOptions task.formatDriver task.table.name partCount =
      .ok function)
    (hrun : TableRun task.table.name
      (HandsOut sampler table textPool task.scale.factor task.batchRows partCount.toNat)
      partCount.toNat task.formatDriver function rc output) :
    TaskEnds sampler textPool task partCount table output (.returned rc)
  | threw (what : String) : TaskEnds sampler textPool task partCount table output (.threw what)

/-! ## The exit code -/

/-- A task that returned 0 stored the units of its table, or found its file there. -/
lemma TaskEnds.holds {sampler : IntSampler} {textPool : TextPool}
    {task : TableTask Ω WriteSchedulerOptions} {partCount : Int} {table : Table}
    {output : Output (table.generator sampler).Row} {unit : Nat → List (table.generator sampler).Row}
    {bound : Nat → Nat → Nat}
    (hunits : (table.generator sampler).EmitsUnits table.metadata ⟨task.scale.factor⟩ textPool unit
      bound)
    (hcut : TableGenerator.Cut bound) (hbatch : 0 < task.batchRows)
    (h : TaskEnds sampler textPool task partCount table output (.returned 0)) :
    output.Holds partCount.toNat (TableGenerator.unitRows unit bound) ∨ output.Existed := by
  cases h with
  | ran hselected hrun =>
    have hcount := (selectFunction_ok hselected).1
    exact hrun.holds (gives_units hunits hcut hbatch (by omega))

section

variable {settings : Settings Ω WriteSchedulerOptions} {args : Arguments} {results : List TaskResult}
  {finalizeStatus : Status}

end

/-! ### The table `region` as Parquet -/

end Schengen.CommandLine
