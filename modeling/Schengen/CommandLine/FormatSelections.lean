import Mathlib.Data.List.DropRight
import Schengen.Library.FirstOccurrences
import Schengen.Storage.FileSystem

/-!
# The selected formats

`BuildFormatSelections` of `main.cpp`: the value of `--output-format` is cut at its commas, every
name is resolved to the driver of a format, and each of several formats gets a subdirectory of the
output path. The characters of a string are its bytes.
-/

namespace Schengen.CommandLine
open Library Storage

/-- `std::tolower` in the C locale on every byte. -/
def toLower (value : String) : String := String.ofList (value.toList.map Char.toLower)

def isBlank (c : Char) : Bool := c ∈ [' ', '\t', '\n', '\r']

def trim (value : List Char) : String :=
  String.ofList ((value.dropWhile isBlank).rdropWhile isBlank)

/-- The name that a token between two commas gives, empty for a blank token. -/
def formatName (token : List Char) : String := toLower (trim token)

def splitFormatSpec (formatSpec : String) : List String :=
  ((formatSpec.toList.splitOn ',').map formatName).filter (· ≠ "")

def joinOutputPath (base leaf : String) : String := joinPath base leaf

/-- The text of an `arrow::Status::Invalid`. -/
def invalid (message : String) : String := "Invalid: " ++ message

inductive FormatDriver
  | parquet
  | orc
  | lance
  | vortex
  deriving DecidableEq

def FormatDriver.name : FormatDriver → String
  | parquet => "parquet"
  | orc => "orc"
  | lance => "lance"
  | vortex => "vortex"

/-- The drivers that the build contains, and what each makes of the other options of the command
line. -/
structure FormatDrivers (Ω : Type) where
  isEnabled : FormatDriver → Bool
  buildWriterOptions : FormatDriver → Except String Ω

structure FormatSelection (Ω : Type) where
  driver : FormatDriver
  writerOptions : Ω
  outputUri : String

namespace FormatDrivers

variable {Ω : Type} (drivers : FormatDrivers Ω)

def enabledDrivers : List FormatDriver :=
  [FormatDriver.parquet, .orc, .lance, .vortex].filter drivers.isEnabled

def supportedFormatNames : List String := drivers.enabledDrivers.map FormatDriver.name

def resolveFormatDriver (formatName : String) : Except String FormatDriver :=
  match drivers.enabledDrivers.find? fun driver => toLower formatName = driver.name with
  | some driver => .ok driver
  | none =>
    let supported := ", ".intercalate drivers.supportedFormatNames
    .error (invalid ("Unsupported output format: " ++ formatName ++ ". Supported formats: " ++
      if supported = "" then "none" else supported))

/-- The loop over the requested names, where `seen` are those selected so far. -/
def selectFormats (outputPath : String) (multiFormat : Bool) (seen : List String) :
    List String → Except String (List (FormatSelection Ω))
  | [] => .ok []
  | formatName :: requestedFormats =>
    if formatName = "all" then
      .error (invalid "output-format=all cannot be mixed with explicit format names")
    else if formatName ∈ seen then selectFormats outputPath multiFormat seen requestedFormats
    else do
      let driver ← drivers.resolveFormatDriver formatName
      let writerOptions ← drivers.buildWriterOptions driver
      let outputUri := if multiFormat then joinOutputPath outputPath driver.name else outputPath
      let selections ←
        selectFormats outputPath multiFormat (formatName :: seen) requestedFormats
      return ⟨driver, writerOptions, outputUri⟩ :: selections

def expandAll (requestedFormats : List String) : List String :=
  if requestedFormats = ["all"] then drivers.supportedFormatNames else requestedFormats

/-- `BuildFormatSelections` from the names that `SplitFormatSpec` gives. -/
def selectRequested (outputPath : String) (requestedFormats : List String) :
    Except String (List (FormatSelection Ω)) :=
  if requestedFormats = [] then .error (invalid "output-format must not be empty")
  else do
    let requestedFormats := drivers.expandAll requestedFormats
    -- repetitions are still in the list that is counted here
    let multiFormat := decide (1 < requestedFormats.length)
    let selections ← drivers.selectFormats outputPath multiFormat [] requestedFormats
    if selections.isEmpty then .error (invalid "No output formats selected") else return selections

def buildFormatSelections (formatSpec outputPath : String) :
    Except String (List (FormatSelection Ω)) :=
  drivers.selectRequested outputPath (splitFormatSpec formatSpec)

end FormatDrivers

/-- The value of `--output-format` without the tokens whose name an earlier one gives. -/
def removeRepeatedFormats (formatSpec : String) : String :=
  String.ofList ([','].intercalate (firsts formatName (formatSpec.toList.splitOn ',')))

lemma splitOn_not_mem {sep : Char} {text token : List Char} (h : token ∈ text.splitOn sep) :
    sep ∉ token := by
  induction text generalizing token with
  | nil =>
    rw [List.splitOn_nil, List.mem_singleton] at h
    exact h ▸ List.not_mem_nil
  | cons c text ih =>
    rw [List.splitOn_cons_eq_if_modifyHead] at h
    by_cases hc : c = sep
    · rw [if_pos (beq_iff_eq.mpr hc), List.mem_cons] at h
      rcases h with rfl | h
      · exact List.not_mem_nil
      · exact ih h
    · rw [if_neg (by simpa using hc)] at h
      cases htokens : text.splitOn sep with
      | nil => exact absurd htokens (List.splitOn_ne_nil sep text)
      | cons first others =>
        rw [htokens] at ih h
        rw [List.modifyHead_cons, List.mem_cons] at h
        rcases h with rfl | h
        · simpa [Ne.symm hc] using ih List.mem_cons_self
        · exact ih (List.mem_cons_of_mem first h)

/-- Leaving out tokens with the name of an earlier one leaves the first occurrence of each name. -/
lemma splitFormatSpec_removeRepeatedFormats (formatSpec : String) :
    splitFormatSpec (removeRepeatedFormats formatSpec) = firsts id (splitFormatSpec formatSpec) := by
  have hsublist : (firsts formatName (formatSpec.toList.splitOn ',')).Sublist
      (formatSpec.toList.splitOn ',') := firstsFrom_sublist
  have hcomma : ∀ token ∈ firsts formatName (formatSpec.toList.splitOn ','), ',' ∉ token :=
    fun token htoken => splitOn_not_mem (hsublist.subset htoken)
  have hne : firsts formatName (formatSpec.toList.splitOn ',') ≠ [] := by
    intro hnil
    obtain ⟨token, tokens, htokens⟩ :=
      List.exists_cons_of_ne_nil (List.splitOn_ne_nil ',' formatSpec.toList)
    rw [htokens] at hnil
    exact absurd ((firstsFrom_new formatName List.not_mem_nil).symm.trans hnil)
      (List.cons_ne_nil _ _)
  have hnames : (firsts formatName (formatSpec.toList.splitOn ',')).map formatName =
      firsts id ((formatSpec.toList.splitOn ',').map formatName) := map_firstsFrom
  unfold splitFormatSpec removeRepeatedFormats
  rw [String.toList_ofList, List.splitOn_intercalate _ hcomma hne, hnames, filter_firsts]

example : splitFormatSpec (removeRepeatedFormats " ORC,parquet,,orc\t") = ["orc", "parquet"] := by
  decide

lemma toLower_char (c : Char) : c.toLower.toLower = c.toLower := by
  by_cases h : c.val ≥ 'A'.val ∧ c.val ≤ 'Z'.val
  · have hval : c.toLower.val = c.val + 32 := by
      unfold Char.toLower
      rw [dif_pos h]
      rfl
    have hlower : ¬ (c.toLower.val ≥ 'A'.val ∧ c.toLower.val ≤ 'Z'.val) := by
      have hA : 'A'.val.toNat = 65 := rfl
      have hZ : 'Z'.val.toNat = 90 := rfl
      rw [hval]
      simp only [ge_iff_le, UInt32.le_iff_toNat_le, UInt32.toNat_add, UInt32.reduceToNat, hA, hZ]
        at h ⊢
      omega
    exact dif_neg hlower
  · have hsame : c.toLower = c := dif_neg h
    rw [hsame, hsame]

lemma toLower_toLower (value : String) : toLower (toLower value) = toLower value := by
  have hchar : Char.toLower ∘ Char.toLower = Char.toLower := funext toLower_char
  unfold toLower
  rw [String.toList_ofList, List.map_map, hchar]

lemma toLower_of_mem {formatSpec name : String} (h : name ∈ splitFormatSpec formatSpec) :
    toLower name = name := by
  obtain ⟨token, htoken, rfl⟩ := List.mem_map.mp (List.mem_filter.mp h).1
  exact toLower_toLower _

lemma FormatDriver.toLower_name (driver : FormatDriver) : toLower driver.name = driver.name := by
  cases driver <;> decide

lemma FormatDriver.name_injective : Function.Injective FormatDriver.name := by
  intro driver driver' h
  cases driver <;> cases driver' <;> first | rfl | exact absurd h (by decide)

namespace FormatDrivers

variable {Ω : Type} {drivers : FormatDrivers Ω} {outputPath name : String} {multiFormat : Bool}
  {seen names : List String} {driver : FormatDriver} {selections : List (FormatSelection Ω)}

lemma resolveFormatDriver_ok_iff :
    drivers.resolveFormatDriver name = .ok driver ↔
      driver ∈ drivers.enabledDrivers ∧ toLower name = driver.name := by
  unfold resolveFormatDriver
  cases hfind : drivers.enabledDrivers.find? fun driver => toLower name = driver.name with
  | none =>
    rw [List.find?_eq_none] at hfind
    constructor
    · intro h
      cases h
    · rintro ⟨hmem, hname⟩
      exact absurd (decide_eq_true hname) (hfind driver hmem)
  | some found =>
    have hmem := List.mem_of_find?_eq_some hfind
    have hname : toLower name = found.name := by simpa using List.find?_some hfind
    constructor
    · intro h
      cases h
      exact ⟨hmem, hname⟩
    · rintro ⟨_, h⟩
      rw [FormatDriver.name_injective (hname.symm.trans h)]

/-- What one round of the loop does when it and those after it succeed. -/
lemma selectFormats_cons_ok :
    drivers.selectFormats outputPath multiFormat seen (name :: names) = .ok selections ↔
      name ≠ "all" ∧
        (name ∈ seen ∧ drivers.selectFormats outputPath multiFormat seen names = .ok selections ∨
          name ∉ seen ∧ ∃ driver options others,
            drivers.resolveFormatDriver name = .ok driver ∧
            drivers.buildWriterOptions driver = .ok options ∧
            drivers.selectFormats outputPath multiFormat (name :: seen) names = .ok others ∧
            selections = ⟨driver, options,
              if multiFormat then joinOutputPath outputPath driver.name else outputPath⟩ ::
                others) := by
  rw [selectFormats]
  by_cases hall : name = "all"
  · simp [hall]
  by_cases hseen : name ∈ seen
  · simp [hall, hseen]
  rw [if_neg hall, if_neg hseen]
  cases hresolve : drivers.resolveFormatDriver name with
  | error e => simp [hseen, bind, Except.bind]
  | ok driver =>
    cases hoptions : drivers.buildWriterOptions driver with
    | error e => simp [hoptions, hseen, bind, Except.bind]
    | ok options =>
      cases hothers : drivers.selectFormats outputPath multiFormat (name :: seen) names with
      | error e => simp [hoptions, hseen, bind, Except.bind]
      | ok others =>
        simp [hoptions, hall, hseen, bind, Except.bind, pure, Except.pure, eq_comm]

/-- A name that the loop accepts when it meets it first. -/
def Selectable (drivers : FormatDrivers Ω) (name : String) : Prop :=
  ∃ driver ∈ drivers.enabledDrivers, toLower name = driver.name ∧
    ∃ options, drivers.buildWriterOptions driver = .ok options

lemma selectFormats_ok_iff :
    (∃ selections, drivers.selectFormats outputPath multiFormat seen names = .ok selections) ↔
      ∀ name ∈ names, name ≠ "all" ∧ (name ∉ seen → drivers.Selectable name) := by
  induction names generalizing seen with
  | nil => simp [selectFormats]
  | cons name names ih =>
    constructor
    · rintro ⟨selections, h⟩
      obtain ⟨hall, ⟨hseen, hrest⟩ | ⟨hnew, driver, options, others, hresolve, hoptions, hrest, _⟩⟩ :=
        selectFormats_cons_ok.mp h
      · intro other hother
        rcases List.mem_cons.mp hother with rfl | hother
        · exact ⟨hall, fun hnew => absurd hseen hnew⟩
        · exact ih.mp ⟨selections, hrest⟩ other hother
      · obtain ⟨hdriver, hname⟩ := resolveFormatDriver_ok_iff.mp hresolve
        have hselectable : drivers.Selectable name := ⟨driver, hdriver, hname, options, hoptions⟩
        intro other hother
        rcases List.mem_cons.mp hother with rfl | hother
        · exact ⟨hall, fun _ => hselectable⟩
        · obtain ⟨hother, hlater⟩ := ih.mp ⟨others, hrest⟩ other hother
          refine ⟨hother, fun hunseen => ?_⟩
          by_cases heq : other = name
          · exact heq ▸ hselectable
          · exact hlater (by simp [heq, hunseen])
    · intro h
      obtain ⟨hall, hname⟩ := h name List.mem_cons_self
      have hnames := fun other hother => h other (List.mem_cons_of_mem name hother)
      by_cases hseen : name ∈ seen
      · obtain ⟨selections, hrest⟩ := ih.mpr hnames
        exact ⟨selections, selectFormats_cons_ok.mpr ⟨hall, .inl ⟨hseen, hrest⟩⟩⟩
      · obtain ⟨driver, hdriver, hlower, options, hoptions⟩ := hname hseen
        have hlater : ∀ other ∈ names, other ≠ "all" ∧
            (other ∉ name :: seen → drivers.Selectable other) := by
          intro other hother
          refine ⟨(hnames other hother).1, fun hunseen => (hnames other hother).2 ?_⟩
          exact fun hmem => hunseen (List.mem_cons_of_mem name hmem)
        obtain ⟨others, hrest⟩ := ih.mpr hlater
        have hresolve := resolveFormatDriver_ok_iff.mpr ⟨hdriver, hlower⟩
        exact ⟨_, selectFormats_cons_ok.mpr
          ⟨hall, .inr ⟨hseen, driver, options, others, hresolve, hoptions, hrest, rfl⟩⟩⟩

/-- A repeated name makes no difference to the loop. -/
lemma selectFormats_firstsFrom (hall : "all" ∉ seen) :
    drivers.selectFormats outputPath multiFormat seen (firstsFrom id seen names) =
      drivers.selectFormats outputPath multiFormat seen names := by
  induction names generalizing seen with
  | nil => rfl
  | cons name names ih =>
    by_cases hseen : name ∈ seen
    · have hname : name ≠ "all" := fun h => hall (h ▸ hseen)
      rw [firstsFrom_seen id hseen, ih hall, selectFormats, if_neg hname, if_pos hseen]
    · rw [firstsFrom_new id hseen, selectFormats, selectFormats]
      by_cases hname : name = "all"
      · rw [if_pos hname, if_pos hname]
      · have hnext : "all" ∉ name :: seen := by
          simp [Ne.symm hname, hall]
        rw [if_neg hname, if_neg hname, if_neg hseen, if_neg hseen, id, ih hnext]

/-- The drivers are those named by the first occurrences. -/
lemma selectFormats_names (hlower : ∀ name ∈ names, toLower name = name)
    (h : drivers.selectFormats outputPath multiFormat seen names = .ok selections) :
    selections.map (fun selection => selection.driver.name) = firstsFrom id seen names := by
  induction names generalizing seen selections with
  | nil =>
    cases h
    rfl
  | cons name names ih =>
    have hlater := fun other hother => hlower other (List.mem_cons_of_mem name hother)
    obtain ⟨_, ⟨hseen, hrest⟩ | ⟨hnew, driver, options, others, hresolve, _, hrest, rfl⟩⟩ :=
      selectFormats_cons_ok.mp h
    · rw [firstsFrom_seen id hseen]
      exact ih hlater hrest
    · have hname := (resolveFormatDriver_ok_iff.mp hresolve).2
      rw [firstsFrom_new id hnew, List.map_cons, ih hlater hrest, ← hname,
        hlower name List.mem_cons_self]
      rfl

lemma selectFormats_outputUri
    (h : drivers.selectFormats outputPath multiFormat seen names = .ok selections) :
    ∀ selection ∈ selections, selection.outputUri =
      if multiFormat then joinOutputPath outputPath selection.driver.name else outputPath := by
  induction names generalizing seen selections with
  | nil =>
    cases h
    intro selection hmem
    exact absurd hmem List.not_mem_nil
  | cons name names ih =>
    obtain ⟨_, ⟨_, hrest⟩ | ⟨_, driver, options, others, _, _, hrest, rfl⟩⟩ :=
      selectFormats_cons_ok.mp h
    · exact ih hrest
    · intro selection hmem
      rcases List.mem_cons.mp hmem with rfl | hmem
      · rfl
      · exact ih hrest selection hmem

lemma selectFormats_ne_nil (hnames : names ≠ [])
    (h : drivers.selectFormats outputPath multiFormat [] names = .ok selections) :
    selections ≠ [] := by
  obtain ⟨name, others, rfl⟩ := List.exists_cons_of_ne_nil hnames
  obtain ⟨_, ⟨hseen, _⟩ | ⟨_, driver, options, others, _, _, _, rfl⟩⟩ := selectFormats_cons_ok.mp h
  · exact absurd hseen List.not_mem_nil
  · exact List.cons_ne_nil _ _

/-- The names that `BuildFormatSelections` accepts: there is at least one once `all` stands for
every format of the build, and each can be selected. -/
def Accepts (drivers : FormatDrivers Ω) (names : List String) : Prop :=
  drivers.expandAll names ≠ [] ∧
    ∀ name ∈ drivers.expandAll names, name ≠ "all" ∧ drivers.Selectable name

lemma expandAll_of_ne (h : names ≠ ["all"]) : drivers.expandAll names = names := if_neg h

lemma expandAll_nil : drivers.expandAll [] = [] := expandAll_of_ne (List.cons_ne_nil _ _).symm

lemma selectRequested_ok_iff :
    drivers.selectRequested outputPath names = .ok selections ↔
      drivers.expandAll names ≠ [] ∧
        drivers.selectFormats outputPath (decide (1 < (drivers.expandAll names).length)) []
          (drivers.expandAll names) = .ok selections := by
  unfold selectRequested
  by_cases hnames : names = []
  · simp [hnames, expandAll_nil]
  rw [if_neg hnames]
  dsimp only
  cases hloop : drivers.selectFormats outputPath (decide (1 < (drivers.expandAll names).length)) []
      (drivers.expandAll names) with
  | error e => simp [bind, Except.bind]
  | ok found =>
    by_cases hexpand : drivers.expandAll names = []
    · rw [hexpand] at hloop
      cases hloop
      simp [hexpand, bind, Except.bind]
    · have hfound : found.isEmpty = false := by
        simpa using selectFormats_ne_nil hexpand hloop
      simp [hexpand, hfound, bind, Except.bind, pure, Except.pure]

lemma exists_selectRequested_iff :
    (∃ selections, drivers.selectRequested outputPath names = .ok selections) ↔
      drivers.Accepts names := by
  constructor
  · rintro ⟨selections, h⟩
    obtain ⟨hne, hloop⟩ := selectRequested_ok_iff.mp h
    refine ⟨hne, fun name hname => ?_⟩
    obtain ⟨hall, hselectable⟩ := selectFormats_ok_iff.mp ⟨selections, hloop⟩ name hname
    exact ⟨hall, hselectable List.not_mem_nil⟩
  · rintro ⟨hne, hnames⟩
    have hloop : ∃ selections, drivers.selectFormats outputPath
        (decide (1 < (drivers.expandAll names).length)) [] (drivers.expandAll names) =
          .ok selections :=
      selectFormats_ok_iff.mpr fun name hname =>
        ⟨(hnames name hname).1, fun _ => (hnames name hname).2⟩
    obtain ⟨selections, hloop⟩ := hloop
    exact ⟨selections, selectRequested_ok_iff.mpr ⟨hne, hloop⟩⟩

lemma toLower_of_mem_expandAll (hlower : ∀ name ∈ names, toLower name = name) :
    ∀ name ∈ drivers.expandAll names, toLower name = name := by
  unfold expandAll
  by_cases hall : names = ["all"]
  · rw [if_pos hall]
    intro name hname
    obtain ⟨driver, _, rfl⟩ := List.mem_map.mp hname
    exact driver.toLower_name
  · rw [if_neg hall]
    exact hlower

lemma selectRequested_outputUri
    (h : drivers.selectRequested outputPath names = .ok selections) :
    ∀ selection ∈ selections, selection.outputUri =
      if 1 < (drivers.expandAll names).length then
        joinOutputPath outputPath selection.driver.name
      else outputPath := by
  intro selection hmem
  have huri := selectFormats_outputUri (selectRequested_ok_iff.mp h).2 selection hmem
  simpa using huri

/-- Two selections are of different formats, each with a subdirectory of its own. -/
lemma selectRequested_pairwise (hlower : ∀ name ∈ names, toLower name = name)
    (h : drivers.selectRequested outputPath names = .ok selections) :
    selections.Pairwise fun s s' =>
      s.driver ≠ s'.driver ∧ s.outputUri = joinOutputPath outputPath s.driver.name ∧
        s'.outputUri = joinOutputPath outputPath s'.driver.name := by
  obtain ⟨_, hloop⟩ := selectRequested_ok_iff.mp h
  have hnames := selectFormats_names (toLower_of_mem_expandAll hlower) hloop
  have huri := selectRequested_outputUri h
  by_cases hmulti : 1 < (drivers.expandAll names).length
  · have hnodup : (selections.map fun selection => selection.driver.name).Nodup :=
      hnames ▸ firsts_nodup (drivers.expandAll names)
    refine (List.pairwise_map.mp hnodup).imp_of_mem ?_
    intro s s' hs hs' hne
    rw [huri s hs, huri s' hs', if_pos hmulti, if_pos hmulti]
    exact ⟨fun heq => hne (congrArg FormatDriver.name heq), rfl, rfl⟩
  · have hlength : selections.length ≤ 1 := by
      have hsublist : (firstsFrom id [] (drivers.expandAll names)).length ≤
          (drivers.expandAll names).length := firstsFrom_sublist.length_le
      rw [← hnames, List.length_map] at hsublist
      omega
    rcases selections with _ | ⟨s, _ | ⟨s', others⟩⟩
    · exact List.Pairwise.nil
    · exact List.pairwise_singleton _ s
    · exact absurd hlength (by simp)

end FormatDrivers

end Schengen.CommandLine
