import Schengen.CommandLine.TableTasks

/-!
# Repeated names

A format or a table that is named twice is meant to change nothing. The formats are counted
before their repetitions are left out, so a single format named twice is treated as several; and
the tables are never compared with each other.
-/

namespace Schengen.CommandLine
open Library Storage Tables

/-- The command line without the later repetitions of a format or a table. -/
def Arguments.withoutRepeats (args : Arguments) : Arguments :=
  { args with
    outputFormat := removeRepeatedFormats args.outputFormat
    tables := firsts id args.tables }

namespace Settings

variable {Ω σ : Type} (settings : Settings Ω σ) (args : Arguments)

/-- Repetitions change neither what is accepted nor what is launched, and no two launched tasks
share a directory. -/
structure RepeatsChangeNothing : Prop where
  accepted :
    (∃ selections,
      settings.drivers.buildFormatSelections args.outputFormat args.outputPath = .ok selections) ↔
    ∃ selections,
      settings.drivers.buildFormatSelections (removeRepeatedFormats args.outputFormat)
        args.outputPath = .ok selections
  tasks : settings.launchedTasks args = settings.launchedTasks args.withoutRepeats
  directories : (settings.launchedTasks args).Pairwise
    fun task task' => task.tableDir ≠ task'.tableDir

/-- Where a single name is given several times and would be accepted alone, it is not `all`, and no
tasks are launched for other reasons; and no table is repeated where tasks are launched. -/
structure RepeatsHarmless : Prop where
  formats : ∀ name n, splitFormatSpec args.outputFormat = List.replicate (n + 2) name →
    settings.drivers.Accepts [name] → name ≠ "all" ∧ ¬ settings.Runs args.withoutRepeats
  tables : settings.drivers.Accepts (firsts id (splitFormatSpec args.outputFormat)) →
    settings.Runs args.withoutRepeats → args.tables.Nodup

end Settings

section Formats

variable {Ω : Type} {drivers : FormatDrivers Ω} {outputPath name : String} {names : List String}

/-- Either nothing is repeated, or several names stay, or it is one name. -/
lemma repeated_cases (names : List String) :
    names.Nodup ∨ 1 < (firsts id names).length ∨ ∃ name n, names = List.replicate (n + 2) name := by
  rcases hfirsts : firsts id names with _ | ⟨name, _ | ⟨name', others⟩⟩
  · left
    have hnil : names = [] := by
      refine List.eq_nil_iff_forall_not_mem.mpr fun name hname => ?_
      have hmem := mem_firsts.mpr hname
      rw [hfirsts] at hmem
      exact List.not_mem_nil hmem
    exact hnil ▸ List.nodup_nil
  · have hreplicate := eq_replicate_of_firsts hfirsts
    rcases hlength : names.length with _ | _ | n
    · left
      rw [List.length_eq_zero_iff.mp hlength]
      exact List.nodup_nil
    · left
      rw [hreplicate, hlength]
      exact List.nodup_singleton name
    · right
      right
      exact ⟨name, n, hlength ▸ hreplicate⟩
  · right
    left
    simp

/-- Repetitions among several formats are skipped. -/
lemma selectRequested_firsts (h : names.Nodup ∨ 1 < (firsts id names).length) :
    drivers.selectRequested outputPath (firsts id names) =
      drivers.selectRequested outputPath names := by
  rcases h with hnodup | hmany
  · rw [firsts_eq_self (by rwa [List.map_id])]
  · have hsublist : (firsts id names).length ≤ names.length := firstsFrom_sublist.length_le
    have hfew : ∀ {names : List String}, 1 < names.length → names ≠ [] ∧
        drivers.expandAll names = names := by
      intro names hlength
      refine ⟨?_, FormatDrivers.expandAll_of_ne ?_⟩
      · rintro rfl
        simp at hlength
      · rintro rfl
        simp at hlength
    obtain ⟨hne, hexpand⟩ := hfew hmany
    obtain ⟨hne', hexpand'⟩ := hfew (hmany.trans_le hsublist)
    have hloop : drivers.selectFormats outputPath true [] (firsts id names) =
        drivers.selectFormats outputPath true [] names :=
      FormatDrivers.selectFormats_firstsFrom List.not_mem_nil
    unfold FormatDrivers.selectRequested
    rw [if_neg hne, if_neg hne', hexpand, hexpand']
    dsimp only
    rw [decide_eq_true hmany, decide_eq_true (hmany.trans_le hsublist), hloop]

/-- `all` given twice is refused. -/
lemma not_accepts_repeated_all (n : ℕ) : ¬ drivers.Accepts (List.replicate (n + 2) "all") := by
  rintro ⟨_, h⟩
  have hne : List.replicate (n + 2) "all" ≠ ["all"] := by
    rw [List.replicate_succ, List.replicate_succ]
    simp
  rw [FormatDrivers.expandAll_of_ne hne] at h
  exact (h "all" (by simp)).1 rfl

lemma expandAll_replicate (hname : name ≠ "all") (n : ℕ) :
    drivers.expandAll (List.replicate (n + 1) name) = List.replicate (n + 1) name := by
  refine FormatDrivers.expandAll_of_ne ?_
  rw [List.replicate_succ]
  simp [hname]

lemma accepts_replicate (hname : name ≠ "all") (n : ℕ) :
    drivers.Accepts (List.replicate (n + 1) name) ↔ drivers.Accepts [name] := by
  rw [← List.replicate_one]
  unfold FormatDrivers.Accepts
  rw [expandAll_replicate hname, expandAll_replicate hname]
  simp

end Formats

namespace Settings

variable {Ω σ : Type} {settings : Settings Ω σ} {args : Arguments}
  {formatSelections : List (FormatSelection Ω)}

lemma buildFormatSelections_ne_nil {formatSpec outputPath : String}
    (h : settings.drivers.buildFormatSelections formatSpec outputPath = .ok formatSelections) :
    formatSelections ≠ [] := by
  obtain ⟨hne, hloop⟩ := FormatDrivers.selectRequested_ok_iff.mp h
  exact FormatDrivers.selectFormats_ne_nil hne hloop

/-- Tasks are launched exactly if the formats are accepted and every other check passes. -/
lemma launchedTasks_ne_nil_iff :
    settings.launchedTasks args ≠ [] ↔
      settings.drivers.Accepts (splitFormatSpec args.outputFormat) ∧ settings.Runs args := by
  constructor
  · intro h
    obtain ⟨hruns, hformats⟩ := runs_of_launchedTasks h
    exact ⟨FormatDrivers.exists_selectRequested_iff.mp hformats, hruns⟩
  · rintro ⟨haccepts, hruns⟩
    obtain ⟨formatSelections, hformats⟩ : ∃ selections,
        settings.drivers.buildFormatSelections args.outputFormat args.outputPath =
          .ok selections := FormatDrivers.exists_selectRequested_iff.mpr haccepts
    obtain ⟨tables, schedulerOptions, htables, htasks⟩ := launchedTasks_of_runs hruns hformats
    rw [htasks]
    refine launchTasks_ne_nil (buildFormatSelections_ne_nil hformats) ?_
    intro hnil
    have htablesNil : tables = [] := (hnil ▸ sortTables_perm ⟨args.scaleFactor⟩ tables).nil_eq.symm
    have hnames := selectTables_names htables
    rw [htablesNil] at hnames
    exact selectedTableNames_ne_nil args.tables hnames.symm

/-- A table name that is known stays known. -/
lemma Runs.withoutRepeats (h : settings.Runs args) : settings.Runs args.withoutRepeats := by
  refine ⟨h.generates, h.scaleFactor, h.batchRows, h.schedulerOptions, h.verbosity, ?_⟩
  intro name hname
  change name ∈ selectedTableNames (firsts id args.tables) at hname
  unfold selectedTableNames at hname
  by_cases hdefault : firsts id args.tables = [] ∨ firsts id args.tables = ["all"]
  · rw [if_pos hdefault] at hname
    exact findMetadata_default name hname
  · rw [if_neg hdefault] at hname
    refine h.tables name ?_
    unfold selectedTableNames
    rw [if_neg]
    · exact mem_firsts.mp hname
    · rintro (hnil | hall)
      · exact hdefault (.inl (by rw [hnil]; rfl))
      · exact hdefault (.inr (by rw [hall]; rfl))

lemma launchedTasks_outputUri {task : TableTask Ω σ} (h : task ∈ settings.launchedTasks args) :
    ∃ driver : FormatDriver, task.outputUri =
      if 1 < (settings.drivers.expandAll (splitFormatSpec args.outputFormat)).length then
        joinOutputPath args.outputPath driver.name
      else args.outputPath := by
  obtain ⟨hruns, formatSelections, hformats⟩ := runs_of_launchedTasks (List.ne_nil_of_mem h)
  obtain ⟨tables, schedulerOptions, _, htasks⟩ := launchedTasks_of_runs hruns hformats
  rw [htasks] at h
  obtain ⟨format, hformat, huri⟩ := mem_launchTasks h
  exact ⟨format.driver,
    huri.trans (FormatDrivers.selectRequested_outputUri hformats format hformat)⟩

/-- One format named several times gets a subdirectory that it does not get when named once. -/
lemma launchedTasks_ne_of_repeated {name : String} {n : ℕ}
    (hnames : splitFormatSpec args.outputFormat = List.replicate (n + 2) name)
    (haccepts : settings.drivers.Accepts [name]) (hruns : settings.Runs args.withoutRepeats) :
    settings.launchedTasks args ≠ settings.launchedTasks args.withoutRepeats := by
  have honce : splitFormatSpec args.withoutRepeats.outputFormat = [name] := by
    have hsplit := splitFormatSpec_removeRepeatedFormats args.outputFormat
    rw [hnames, firsts_replicate] at hsplit
    exact hsplit
  have hlaunched : settings.launchedTasks args.withoutRepeats ≠ [] := by
    rw [launchedTasks_ne_nil_iff, honce]
    exact ⟨haccepts, hruns⟩
  obtain ⟨task, htask⟩ := List.exists_mem_of_ne_nil _ hlaunched
  obtain ⟨_, hpath⟩ := launchedTasks_outputUri htask
  intro htasks
  rw [← htasks] at hlaunched htask
  rw [launchedTasks_ne_nil_iff, hnames] at hlaunched
  have hall : name ≠ "all" := by
    rintro rfl
    exact not_accepts_repeated_all n hlaunched.1
  obtain ⟨driver, hsubdirectory⟩ := launchedTasks_outputUri htask
  rw [hnames, expandAll_replicate hall, List.length_replicate, if_pos (by omega)] at hsubdirectory
  rw [honce, ← List.replicate_one, expandAll_replicate hall, List.length_replicate,
    if_neg (by omega)] at hpath
  exact joinPath_ne_base driver.isComponent_name.1 (hsubdirectory.symm.trans hpath)

/-- Tasks that share no directory are of tables that are named once. -/
lemma nodup_of_directories (hlaunched : settings.launchedTasks args ≠ [])
    (hdirectories : (settings.launchedTasks args).Pairwise
      fun task task' => task.tableDir ≠ task'.tableDir) : args.tables.Nodup := by
  obtain ⟨hruns, formatSelections, hformats⟩ := runs_of_launchedTasks hlaunched
  obtain ⟨tables, schedulerOptions, htables, htasks⟩ := launchedTasks_of_runs hruns hformats
  rw [htasks] at hdirectories
  have hsorted := nodup_of_launchTasks_pairwise (buildFormatSelections_ne_nil hformats) hdirectories
  have hnodup : (selectedTableNames args.tables).Nodup := by
    rw [← selectTables_names htables]
    exact ((sortTables_perm _ tables).map TableMetadata.name).nodup_iff.mp hsorted
  unfold selectedTableNames at hnodup
  by_cases hdefault : args.tables = [] ∨ args.tables = ["all"]
  · rcases hdefault with hnil | hall
    · exact hnil ▸ List.nodup_nil
    · exact hall ▸ List.nodup_singleton _
  · rwa [if_neg hdefault] at hnodup

lemma directories_of_nodup (hnodup : args.tables.Nodup) :
    (settings.launchedTasks args).Pairwise fun task task' => task.tableDir ≠ task'.tableDir := by
  by_cases hlaunched : settings.launchedTasks args = []
  · rw [hlaunched]
    exact List.Pairwise.nil
  obtain ⟨hruns, formatSelections, hformats⟩ := runs_of_launchedTasks hlaunched
  obtain ⟨tables, schedulerOptions, htables, htasks⟩ := launchedTasks_of_runs hruns hformats
  have hpairwise := FormatDrivers.selectRequested_pairwise (fun _ => toLower_of_mem) hformats
  have hperm := sortTables_perm ⟨args.scaleFactor⟩ tables
  have hnames : (selectedTableNames args.tables).Nodup := by
    unfold selectedTableNames
    split
    · decide
    · exact hnodup
  rw [htasks]
  refine launchTasks_pairwise hpairwise ?_ ?_
  · rw [(hperm.map TableMetadata.name).nodup_iff, selectTables_names htables]
    exact hnames
  · intro table htable
    exact selectTables_registered htables table (hperm.mem_iff.mp htable)

/-- The names that are accepted are those whose first occurrences are, but for `all`. -/
lemma accepts_firsts {drivers : FormatDrivers Ω} {names : List String}
    (hall : ∀ n, names = List.replicate (n + 2) "all" → ¬ drivers.Accepts ["all"]) :
    drivers.Accepts names ↔ drivers.Accepts (firsts id names) := by
  have hok : ∀ names, (∃ selections, drivers.selectRequested "" names = .ok selections) ↔
      drivers.Accepts names := fun _ => FormatDrivers.exists_selectRequested_iff
  have hrequested (h : names.Nodup ∨ 1 < (firsts id names).length) :
      drivers.Accepts names ↔ drivers.Accepts (firsts id names) := by
    rw [← hok, ← selectRequested_firsts h, hok]
  rcases repeated_cases names with hnodup | hmany | ⟨name, n, rfl⟩
  · exact hrequested (.inl hnodup)
  · exact hrequested (.inr hmany)
  · rw [firsts_replicate]
    by_cases hname : name = "all"
    · subst hname
      exact iff_of_false (not_accepts_repeated_all n) (hall n rfl)
    · exact accepts_replicate hname (n + 1)

/-- Repetitions among several formats change nothing about the tasks. -/
lemma launchedTasks_withoutRepeats (htables : args.tables.Nodup)
    (h : (splitFormatSpec args.outputFormat).Nodup ∨
      1 < (firsts id (splitFormatSpec args.outputFormat)).length) :
    settings.launchedTasks args.withoutRepeats = settings.launchedTasks args := by
  have hformats : settings.drivers.buildFormatSelections args.withoutRepeats.outputFormat
      args.outputPath =
        settings.drivers.buildFormatSelections args.outputFormat args.outputPath := by
    have hsplit := splitFormatSpec_removeRepeatedFormats args.outputFormat
    exact (congrArg (settings.drivers.selectRequested args.outputPath) hsplit).trans
      (selectRequested_firsts h)
  have hargs : args.withoutRepeats =
      { args with outputFormat := args.withoutRepeats.outputFormat } := by
    unfold Arguments.withoutRepeats
    rw [firsts_eq_self (by rwa [List.map_id])]
  rw [hargs]
  exact launchedTasks_congr hformats

lemma buildFormatSelections_accepts (settings : Settings Ω σ) (formatSpec outputPath : String) :
    (∃ selections,
      settings.drivers.buildFormatSelections formatSpec outputPath = .ok selections) ↔
        settings.drivers.Accepts (splitFormatSpec formatSpec) :=
  FormatDrivers.exists_selectRequested_iff

/-- When tasks are launched from the names without repetitions. -/
lemma launchedTasks_withoutRepeats_ne_nil_iff :
    settings.launchedTasks args.withoutRepeats ≠ [] ↔
      settings.drivers.Accepts (firsts id (splitFormatSpec args.outputFormat)) ∧
        settings.Runs args.withoutRepeats := by
  rw [launchedTasks_ne_nil_iff, ← splitFormatSpec_removeRepeatedFormats]
  rfl

lemma RepeatsChangeNothing.harmless (h : settings.RepeatsChangeNothing args) :
    settings.RepeatsHarmless args := by
  constructor
  · intro name n hnames haccepts
    constructor
    · rintro rfl
      have honce := splitFormatSpec_removeRepeatedFormats args.outputFormat
      rw [hnames, firsts_replicate] at honce
      rw [← honce, ← buildFormatSelections_accepts, ← h.accepted, buildFormatSelections_accepts,
        hnames] at haccepts
      exact not_accepts_repeated_all n haccepts
    · intro hruns
      exact launchedTasks_ne_of_repeated hnames haccepts hruns h.tasks
  · intro haccepts hruns
    have hlaunched := launchedTasks_withoutRepeats_ne_nil_iff.mpr ⟨haccepts, hruns⟩
    rw [← h.tasks] at hlaunched
    exact nodup_of_directories hlaunched h.directories

lemma RepeatsHarmless.changeNothing (h : settings.RepeatsHarmless args) :
    settings.RepeatsChangeNothing args := by
  have hnames : settings.drivers.Accepts (splitFormatSpec args.outputFormat) ↔
      settings.drivers.Accepts (firsts id (splitFormatSpec args.outputFormat)) := by
    refine accepts_firsts fun n hnames haccepts => ?_
    exact (h.formats "all" n hnames haccepts).1 rfl
  have haccepted : (∃ selections, settings.drivers.buildFormatSelections args.outputFormat
      args.outputPath = .ok selections) ↔ ∃ selections, settings.drivers.buildFormatSelections
        (removeRepeatedFormats args.outputFormat) args.outputPath = .ok selections := by
    rw [buildFormatSelections_accepts, buildFormatSelections_accepts,
      splitFormatSpec_removeRepeatedFormats]
    exact hnames
  by_cases hlaunches : settings.launchedTasks args.withoutRepeats = []
  · have hnone : settings.launchedTasks args = [] := by
      by_contra hne
      obtain ⟨hok, hruns⟩ := launchedTasks_ne_nil_iff.mp hne
      exact launchedTasks_withoutRepeats_ne_nil_iff.mpr ⟨hnames.mp hok, hruns.withoutRepeats⟩
        hlaunches
    refine ⟨haccepted, hnone.trans hlaunches.symm, ?_⟩
    rw [hnone]
    exact List.Pairwise.nil
  · obtain ⟨hok, hruns⟩ := launchedTasks_withoutRepeats_ne_nil_iff.mp hlaunches
    have hnodup := h.tables hok hruns
    have hseveral : (splitFormatSpec args.outputFormat).Nodup ∨
        1 < (firsts id (splitFormatSpec args.outputFormat)).length := by
      rcases repeated_cases (splitFormatSpec args.outputFormat) with hsingle | hmany | hrepeated
      · exact .inl hsingle
      · exact .inr hmany
      · obtain ⟨name, n, hrepeated⟩ := hrepeated
        rw [hrepeated, firsts_replicate] at hok
        exact absurd hruns (h.formats name n hrepeated hok).2
    exact ⟨haccepted, (launchedTasks_withoutRepeats hnodup hseveral).symm,
      directories_of_nodup hnodup⟩

/-- Repeated names change nothing, and outputs never collide, exactly where a single format is not
repeated and, if tasks are launched, neither is a table. -/
theorem repeatsChangeNothing_iff (settings : Settings Ω σ) (args : Arguments) :
    settings.RepeatsChangeNothing args ↔ settings.RepeatsHarmless args :=
  ⟨RepeatsChangeNothing.harmless, RepeatsHarmless.changeNothing⟩

/-- A build with every driver and good other options. -/
def everyFormat : Settings Unit Unit where
  drivers := ⟨fun _ => true, fun _ => .ok ()⟩
  buildWriteSchedulerOptions := .ok ()
  buildCliVerbosity := .ok ()

end Settings

/-- The command line with these formats and tables and the defaults for the rest. -/
def Arguments.ofNames (outputFormat : String) (tables : List String) : Arguments where
  help := false
  listTables := false
  listFormats := false
  scaleFactor := 1
  outputFormat := outputFormat
  outputPath := "."
  tables := tables
  batchRows := 128 * 1024

lemma everyFormat_accepts (driver : FormatDriver) :
    Settings.everyFormat.drivers.Accepts [driver.name] := by
  have hexpand : Settings.everyFormat.drivers.expandAll [driver.name] = [driver.name] := by
    cases driver <;> decide
  unfold FormatDrivers.Accepts
  rw [hexpand]
  refine ⟨List.cons_ne_nil _ _, fun name hname => ?_⟩
  rw [List.mem_singleton.mp hname]
  refine ⟨by cases driver <;> decide, driver, by cases driver <;> decide, driver.toLower_name,
    (), rfl⟩

lemma everyFormat_accepts_all : Settings.everyFormat.drivers.Accepts ["all"] := by
  refine ⟨by decide, fun name hname => ?_⟩
  obtain ⟨driver, _, rfl⟩ := List.mem_map.mp hname
  exact (everyFormat_accepts driver).2 driver.name (by cases driver <;> decide)

lemma everyFormat_runs (outputFormat : String) (tables : List String)
    (h : ∀ name ∈ selectedTableNames tables, (findMetadata name).isSome) :
    Settings.everyFormat.Runs (Arguments.ofNames outputFormat tables) where
  generates := by simp [Arguments.ofNames]
  scaleFactor := zero_lt_one
  batchRows := by simp [Arguments.ofNames]
  schedulerOptions := ⟨(), rfl⟩
  verbosity := rfl
  tables := h

/-- A format given twice is written into a subdirectory, `all` given twice is refused, and a table
given twice is written twice at once into one directory. -/
theorem repeated_names_change_outputs :
    ¬ Settings.everyFormat.RepeatsChangeNothing (.ofNames "parquet,parquet" ["region"]) ∧
    ¬ Settings.everyFormat.RepeatsChangeNothing (.ofNames "all,all" ["region"]) ∧
    ¬ Settings.everyFormat.RepeatsChangeNothing (.ofNames "parquet" ["region", "region"]) := by
  refine ⟨fun h => ?_, fun h => ?_, fun h => ?_⟩
  · have hruns := everyFormat_runs (removeRepeatedFormats "parquet,parquet") ["region"] (by decide)
    exact (h.harmless.formats "parquet" 0 (by decide) (everyFormat_accepts .parquet)).2 hruns
  · exact (h.harmless.formats "all" 0 (by decide) everyFormat_accepts_all).1 rfl
  · have hruns := everyFormat_runs (removeRepeatedFormats "parquet") ["region"] (by decide)
    have hnodup := h.harmless.tables (everyFormat_accepts .parquet) hruns
    exact absurd hnodup (by decide)

end Schengen.CommandLine
