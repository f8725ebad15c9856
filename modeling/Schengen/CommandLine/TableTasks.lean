import Mathlib.Data.List.Sort
import Schengen.CommandLine.FormatSelections
import Schengen.Tables.Partition

/-!
# The tasks of a run

`main` up to the launch of its tasks: the checks of the arguments, the tables in the order of
their sizes, and one task for every selected format and every selected table.
-/

namespace Schengen.CommandLine
open Library Storage Tables

def defaultTableNames : List String :=
  ["region", "nation", "supplier", "part", "partsupp", "customer", "orders", "lineitem"]

/-- `RegisterTables` -/
def registeredTables : List TableMetadata :=
  [kCustomer, kNation, kRegion, kSupplier, kPartsupp, kPart, kOrders, kLineitem]

def findMetadata (name : String) : Option TableMetadata :=
  registeredTables.find? fun table => table.name = name

/-- The values that `main` takes from the command line itself. -/
structure Arguments where
  help : Bool
  listTables : Bool
  listFormats : Bool
  scaleFactor : ScaleFactor
  outputFormat : String
  outputPath : String
  tables : List String
  batchRows : Nat

/-- The drivers, and what the options of the scheduler and of the progress display give. -/
structure Settings (Ω σ : Type) where
  drivers : FormatDrivers Ω
  buildWriteSchedulerOptions : Except String σ
  buildCliVerbosity : Except String Unit

/-- What `LaunchTableTask` is given; the tasks are numbered by their positions. -/
structure TableTask (Ω σ : Type) where
  scale : ScaleConfig
  batchRows : Nat
  table : TableMetadata
  outputUri : String
  writerOptions : Ω
  formatDriver : FormatDriver
  schedulerOptions : σ

/-- The directory, or its URI, into which the writers of every format put the table. -/
def TableTask.tableDir {Ω σ : Type} (task : TableTask Ω σ) : String :=
  joinPath task.outputUri task.table.name

def selectedTableNames (tables : List String) : List String :=
  if tables = [] ∨ tables = ["all"] then defaultTableNames else tables

def selectTables : List String → Except String (List TableMetadata)
  | [] => .ok []
  | tableName :: tables =>
    match findMetadata tableName with
    | none => .error ("Unknown table: " ++ tableName)
    | some metadata => do
      let selectedTables ← selectTables tables
      return metadata :: selectedTables

/-- The stable sort, largest table first. -/
def sortTables (scale : ScaleConfig) (tables : List TableMetadata) : List TableMetadata :=
  tables.insertionSort fun lhs rhs => scale.rowCount rhs ≤ scale.rowCount lhs

variable {Ω σ : Type}

def launchTasks (args : Arguments) (formatSelections : List (FormatSelection Ω))
    (selectedTables : List TableMetadata) (schedulerOptions : σ) : List (TableTask Ω σ) :=
  formatSelections.flatMap fun format =>
    selectedTables.map fun table =>
      { scale := ⟨args.scaleFactor⟩
        batchRows := args.batchRows
        table := table
        outputUri := format.outputUri
        writerOptions := format.writerOptions
        formatDriver := format.driver
        schedulerOptions := schedulerOptions }

namespace Settings

variable (settings : Settings Ω σ) (args : Arguments)

/-- The tasks that `main` launches, or the text with which it stops. -/
def main : Except String (List (TableTask Ω σ)) :=
  if args.help ∨ args.listTables ∨ args.listFormats then .ok []
  else if args.scaleFactor.value ≤ 0 then .error "Scale factor must be > 0"
  else if args.batchRows = 0 then .error "Batch rows must be > 0"
  else do
    let formatSelections ←
      (settings.drivers.buildFormatSelections args.outputFormat args.outputPath).mapError
        ("Invalid output format: " ++ ·)
    let schedulerOptions ←
      settings.buildWriteSchedulerOptions.mapError ("Invalid write scheduler options: " ++ ·)
    settings.buildCliVerbosity
    let selectedTables ← selectTables (selectedTableNames args.tables)
    return launchTasks args formatSelections (sortTables ⟨args.scaleFactor⟩ selectedTables)
      schedulerOptions

def launchedTasks : List (TableTask Ω σ) :=
  match settings.main args with
  | .ok tasks => tasks
  | .error _ => []

/-- The checks of `main` but that of the formats: it does not only print help, and the other
arguments and every table name are good. -/
structure Runs : Prop where
  generates : ¬ (args.help ∨ args.listTables ∨ args.listFormats)
  scaleFactor : 0 < args.scaleFactor.value
  batchRows : args.batchRows ≠ 0
  schedulerOptions : ∃ options, settings.buildWriteSchedulerOptions = .ok options
  verbosity : settings.buildCliVerbosity = .ok ()
  tables : ∀ name ∈ selectedTableNames args.tables, (findMetadata name).isSome

end Settings

lemma selectTables_cons_ok {name : String} {names : List String} {tables : List TableMetadata} :
    selectTables (name :: names) = .ok tables ↔
      ∃ metadata others, findMetadata name = some metadata ∧ selectTables names = .ok others ∧
        tables = metadata :: others := by
  rw [selectTables]
  cases hfind : findMetadata name with
  | none => simp
  | some metadata =>
    cases hothers : selectTables names with
    | error e => simp [bind, Except.bind]
    | ok others => simp [bind, Except.bind, pure, Except.pure, eq_comm]

lemma exists_selectTables_iff {names : List String} :
    (∃ tables, selectTables names = .ok tables) ↔
      ∀ name ∈ names, (findMetadata name).isSome := by
  induction names with
  | nil => simp [selectTables]
  | cons name names ih =>
    rw [List.forall_mem_cons, ← ih, Option.isSome_iff_exists]
    constructor
    · rintro ⟨tables, h⟩
      obtain ⟨metadata, others, hmetadata, hothers, _⟩ := selectTables_cons_ok.mp h
      exact ⟨⟨metadata, hmetadata⟩, others, hothers⟩
    · rintro ⟨⟨metadata, hmetadata⟩, others, hothers⟩
      exact ⟨metadata :: others,
        selectTables_cons_ok.mpr ⟨metadata, others, hmetadata, hothers, rfl⟩⟩

/-- The selected tables have the names that were asked for. -/
lemma selectTables_names {names : List String} {tables : List TableMetadata}
    (h : selectTables names = .ok tables) : tables.map TableMetadata.name = names := by
  induction names generalizing tables with
  | nil =>
    cases h
    rfl
  | cons name names ih =>
    obtain ⟨metadata, others, hmetadata, hothers, rfl⟩ := selectTables_cons_ok.mp h
    have hname : metadata.name = name := by simpa using List.find?_some hmetadata
    rw [List.map_cons, ih hothers, hname]

lemma selectTables_registered {names : List String} {tables : List TableMetadata}
    (h : selectTables names = .ok tables) : ∀ table ∈ tables, table ∈ registeredTables := by
  induction names generalizing tables with
  | nil =>
    cases h
    intro table htable
    exact absurd htable List.not_mem_nil
  | cons name names ih =>
    obtain ⟨metadata, others, hmetadata, hothers, rfl⟩ := selectTables_cons_ok.mp h
    exact List.forall_mem_cons.mpr ⟨List.mem_of_find?_eq_some hmetadata, ih hothers⟩

lemma sortTables_perm (scale : ScaleConfig) (tables : List TableMetadata) :
    (sortTables scale tables).Perm tables := List.perm_insertionSort _ tables

lemma findMetadata_default : ∀ name ∈ defaultTableNames, (findMetadata name).isSome := by decide

lemma selectedTableNames_ne_nil (tables : List String) : selectedTableNames tables ≠ [] := by
  unfold selectedTableNames
  split
  · exact List.cons_ne_nil _ _
  · next h => exact fun hnil => h (.inl hnil)

namespace Settings

variable {settings : Settings Ω σ} {args : Arguments}
  {formatSelections : List (FormatSelection Ω)}

/-- A run that passes every check launches a task for every format and every table. -/
lemma launchedTasks_of_runs (hruns : settings.Runs args)
    (hformats : settings.drivers.buildFormatSelections args.outputFormat args.outputPath =
      .ok formatSelections) :
    ∃ tables schedulerOptions, selectTables (selectedTableNames args.tables) = .ok tables ∧
      settings.launchedTasks args =
        launchTasks args formatSelections (sortTables ⟨args.scaleFactor⟩ tables)
          schedulerOptions := by
  obtain ⟨schedulerOptions, hscheduler⟩ := hruns.schedulerOptions
  obtain ⟨tables, htables⟩ := exists_selectTables_iff.mpr hruns.tables
  refine ⟨tables, schedulerOptions, htables, ?_⟩
  unfold launchedTasks main
  rw [if_neg hruns.generates, if_neg (not_le.mpr hruns.scaleFactor), if_neg hruns.batchRows,
    hformats, hscheduler, hruns.verbosity, htables]
  rfl

/-- Only a run that passes every check launches tasks. -/
lemma runs_of_launchedTasks (h : settings.launchedTasks args ≠ []) :
    settings.Runs args ∧ ∃ formatSelections,
      settings.drivers.buildFormatSelections args.outputFormat args.outputPath =
        .ok formatSelections := by
  unfold launchedTasks main at h
  by_cases hgenerates : args.help ∨ args.listTables ∨ args.listFormats
  · simp [hgenerates] at h
  by_cases hscale : args.scaleFactor.value ≤ 0
  · simp [hgenerates, hscale] at h
  by_cases hbatch : args.batchRows = 0
  · simp [hgenerates, hscale, hbatch] at h
  rw [if_neg hgenerates, if_neg hscale, if_neg hbatch] at h
  cases hformats : settings.drivers.buildFormatSelections args.outputFormat args.outputPath with
  | error e => simp [hformats, Except.mapError, bind, Except.bind] at h
  | ok formatSelections =>
    cases hscheduler : settings.buildWriteSchedulerOptions with
    | error e => simp [hformats, hscheduler, Except.mapError, bind, Except.bind] at h
    | ok schedulerOptions =>
      cases hverbosity : settings.buildCliVerbosity with
      | error e => simp [hformats, hscheduler, hverbosity, Except.mapError, bind, Except.bind] at h
      | ok u =>
        cases htables : selectTables (selectedTableNames args.tables) with
        | error e =>
          simp [hformats, hscheduler, hverbosity, htables, Except.mapError, bind, Except.bind] at h
        | ok tables =>
          exact ⟨⟨hgenerates, not_le.mp hscale, hbatch, ⟨schedulerOptions, hscheduler⟩, hverbosity,
            exists_selectTables_iff.mp ⟨tables, htables⟩⟩, formatSelections, rfl⟩

/-- Of the formats only the selections matter. -/
lemma launchedTasks_congr {formatSpec : String}
    (h : settings.drivers.buildFormatSelections formatSpec args.outputPath =
      settings.drivers.buildFormatSelections args.outputFormat args.outputPath) :
    settings.launchedTasks { args with outputFormat := formatSpec } =
      settings.launchedTasks args := by
  unfold launchedTasks main
  rw [h]
  rfl

end Settings

/-- The text before the last component of a path. -/
def slashed (base : String) : List Char :=
  if base = "" then []
  else if base.toList.getLast? = some '/' then base.toList
  else base.toList ++ ['/']

def IsComponent (name : String) : Prop := name ≠ "" ∧ '/' ∉ name.toList

instance (name : String) : Decidable (IsComponent name) := inferInstanceAs (Decidable (_ ∧ _))

lemma FormatDriver.isComponent_name (driver : FormatDriver) : IsComponent driver.name := by
  cases driver <;> decide

lemma isComponent_of_registered : ∀ table ∈ registeredTables, IsComponent table.name := by
  decide

lemma slashed_ends (base : String) : slashed base = [] ∨ (slashed base).getLast? = some '/' := by
  unfold slashed
  split
  · exact .inl rfl
  · split
    · next h => exact .inr h
    · exact .inr List.getLast?_concat

lemma toList_joinPath {base leaf : String} (hleaf : leaf ≠ "") :
    (joinPath base leaf).toList = slashed base ++ leaf.toList := by
  unfold joinPath slashed
  by_cases hbase : base = ""
  · rw [if_pos hbase, if_pos hbase, List.nil_append]
  rw [if_neg hbase, if_neg hbase, if_neg hleaf]
  by_cases hslash : base.toList.getLast? = some '/'
  · rw [if_pos hslash, if_pos hslash, String.toList_append]
  · rw [if_neg hslash, if_neg hslash, String.toList_append, String.toList_append]
    rfl

/-- The last component of a path is what comes after its last slash. -/
lemma append_component_inj {p q x y : List Char} (hp : p = [] ∨ p.getLast? = some '/')
    (hq : q = [] ∨ q.getLast? = some '/') (hx : '/' ∉ x) (hy : '/' ∉ y) (h : p ++ x = q ++ y) :
    p = q ∧ x = y := by
  have hempty : ∀ {p q r : List Char}, (q = [] ∨ q.getLast? = some '/') → q = p ++ r → '/' ∉ r →
      r = [] := by
    intro p q r hq hqr hr
    by_contra hne
    rcases hq with rfl | hq
    · exact hne (List.append_eq_nil_iff.mp hqr.symm).2
    · rw [hqr, List.getLast?_append_of_ne_nil _ hne] at hq
      exact hr (List.mem_of_getLast? hq)
  rcases List.append_eq_append_iff.mp h with ⟨r, hqr, hxr⟩ | ⟨r, hpr, hyr⟩
  · have hr := hempty hq hqr fun hmem => hx (hxr ▸ List.mem_append_left y hmem)
    subst hr
    exact ⟨by simpa using hqr.symm, by simpa using hxr⟩
  · have hr := hempty hp hpr fun hmem => hy (hyr ▸ List.mem_append_left x hmem)
    subst hr
    exact ⟨by simpa using hpr, by simpa using hyr.symm⟩

lemma joinPath_inj {base base' leaf leaf' : String} (hleaf : IsComponent leaf)
    (hleaf' : IsComponent leaf') (h : joinPath base leaf = joinPath base' leaf') :
    slashed base = slashed base' ∧ leaf = leaf' := by
  have htext := congrArg String.toList h
  rw [toList_joinPath hleaf.1, toList_joinPath hleaf'.1] at htext
  obtain ⟨hbase, hname⟩ := append_component_inj (slashed_ends base) (slashed_ends base') hleaf.2
    hleaf'.2 htext
  exact ⟨hbase, String.toList_inj.mp hname⟩

lemma slashed_joinPath {base leaf : String} (hleaf : IsComponent leaf) :
    slashed (joinPath base leaf) = (joinPath base leaf).toList ++ ['/'] := by
  have hne : leaf.toList ≠ [] := fun h => hleaf.1 (String.toList_eq_nil_iff.mp h)
  have hlast : (joinPath base leaf).toList.getLast? ≠ some '/' := by
    intro h
    rw [toList_joinPath hleaf.1, List.getLast?_append_of_ne_nil _ hne] at h
    exact hleaf.2 (List.mem_of_getLast? h)
  unfold slashed
  rw [if_neg (joinPath_ne hleaf.1), if_neg hlast]

/-- A name that is joined makes the path longer. -/
lemma joinPath_ne_base {base leaf : String} (hleaf : leaf ≠ "") : joinPath base leaf ≠ base := by
  intro h
  have hlength := congrArg (fun path => path.toList.length) h
  have hpos : 0 < leaf.toList.length :=
    List.length_pos_iff.mpr fun hnil => hleaf (String.toList_eq_nil_iff.mp hnil)
  have hslashed : base.toList.length ≤ (slashed base).length := by
    unfold slashed
    split
    · next hbase => simp [hbase]
    · split <;> simp
  simp only [toList_joinPath hleaf, List.length_append] at hlength
  omega

/-- Tables in the subdirectories of two formats have different directories. -/
lemma joinPath_subdirectory_ne {base table table' : String} {driver driver' : FormatDriver}
    (htable : IsComponent table) (htable' : IsComponent table') (h : driver ≠ driver') :
    joinPath (joinOutputPath base driver.name) table ≠
      joinPath (joinOutputPath base driver'.name) table' := by
  intro heq
  have hslashed := (joinPath_inj htable htable' heq).1
  unfold joinOutputPath at hslashed
  rw [slashed_joinPath driver.isComponent_name, slashed_joinPath driver'.isComponent_name] at hslashed
  have hpath := String.toList_inj.mp (List.append_cancel_right hslashed)
  have hname := (joinPath_inj driver.isComponent_name driver'.isComponent_name hpath).2
  exact h (FormatDriver.name_injective hname)

variable {args : Arguments} {formatSelections : List (FormatSelection Ω)}
  {selectedTables : List TableMetadata} {schedulerOptions : σ}

lemma mem_launchTasks {task : TableTask Ω σ}
    (h : task ∈ launchTasks args formatSelections selectedTables schedulerOptions) :
    ∃ format ∈ formatSelections, task.outputUri = format.outputUri := by
  obtain ⟨format, hformat, htask⟩ := List.mem_flatMap.mp h
  obtain ⟨table, _, rfl⟩ := List.mem_map.mp htask
  exact ⟨format, hformat, rfl⟩

lemma launchTasks_ne_nil (hformats : formatSelections ≠ []) (htables : selectedTables ≠ []) :
    launchTasks args formatSelections selectedTables schedulerOptions ≠ [] := by
  obtain ⟨format, formats, rfl⟩ := List.exists_cons_of_ne_nil hformats
  obtain ⟨table, tables, rfl⟩ := List.exists_cons_of_ne_nil htables
  exact List.cons_ne_nil _ _

/-- Where no two tasks share a directory, no table is selected twice. -/
lemma nodup_of_launchTasks_pairwise (hformats : formatSelections ≠ [])
    (h : (launchTasks args formatSelections selectedTables schedulerOptions).Pairwise
      fun task task' => task.tableDir ≠ task'.tableDir) :
    (selectedTables.map TableMetadata.name).Nodup := by
  obtain ⟨format, formats, rfl⟩ := List.exists_cons_of_ne_nil hformats
  have hfirst := List.pairwise_map.mp ((List.pairwise_flatMap.mp h).1 format List.mem_cons_self)
  refine List.pairwise_map.mpr (hfirst.imp ?_)
  intro table table' hdir hname
  exact hdir (congrArg (joinPath format.outputUri) hname)

/-- Different tables of one format and tables of different formats have different directories. -/
lemma launchTasks_pairwise {outputPath : String}
    (hformats : formatSelections.Pairwise fun s s' =>
      s.driver ≠ s'.driver ∧ s.outputUri = joinOutputPath outputPath s.driver.name ∧
        s'.outputUri = joinOutputPath outputPath s'.driver.name)
    (htables : (selectedTables.map TableMetadata.name).Nodup)
    (hregistered : ∀ table ∈ selectedTables, table ∈ registeredTables) :
    (launchTasks args formatSelections selectedTables schedulerOptions).Pairwise
      fun task task' => task.tableDir ≠ task'.tableDir := by
  have hcomponent : ∀ table ∈ selectedTables, IsComponent table.name :=
    fun table htable => isComponent_of_registered table (hregistered table htable)
  refine List.pairwise_flatMap.mpr ⟨?_, hformats.imp ?_⟩
  · intro format _
    refine List.pairwise_map.mpr ((List.pairwise_map.mp htables).imp_of_mem ?_)
    intro table table' htable htable' hne heq
    exact hne (joinPath_inj (hcomponent table htable) (hcomponent table' htable') heq).2
  · rintro s s' ⟨hdriver, huri, huri'⟩ task htask task' htask' heq
    obtain ⟨table, htable, rfl⟩ := List.mem_map.mp htask
    obtain ⟨table', htable', rfl⟩ := List.mem_map.mp htask'
    unfold TableTask.tableDir at heq
    rw [huri, huri'] at heq
    exact joinPath_subdirectory_ne (hcomponent table htable) (hcomponent table' htable') hdriver heq

end Schengen.CommandLine
