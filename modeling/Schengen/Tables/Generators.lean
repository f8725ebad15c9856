import Schengen.Tables.Customer
import Schengen.Tables.Lineitem
import Schengen.Tables.Orders
import Schengen.Tables.Part
import Schengen.Tables.RegionNation
import Schengen.Tables.Supplier

/-!
# Table generators

The eight implementations of `ITableGenerator` and their independence of batches and
partitions. A generator emits the units of its range: rows, parts with their suppliers, or
orders with their lines.
-/

namespace Schengen.Tables
open Library Schengen.Random

/-- A generator: its state when it is new, `Reset`, and the iterator that `NextBatch` reads. -/
structure TableGenerator where
  State : Type
  Row : Type
  fresh : State
  reset : GeneratorContext → State → Except String State
  iterator : PullIterator State Row

namespace TableGenerator

def nextBatch (g : TableGenerator) (maxRows : Nat) (s : g.State) : Option (Batch g.Row × g.State) :=
  g.iterator.nextBatch maxRows s

/-- The batches of part `partNum` of `partCount` from a new generator, with `sizes i` rows at
most in batch `i`; `none` where the fuel does not suffice. -/
def runPart (g : TableGenerator) (table : TableMetadata) (scale : ScaleConfig)
    (textPool : TextPool) (sizes : Nat → Nat) (partNum partCount : Int) (fuel : Nat) :
    Except String (Option (List (Batch g.Row))) := do
  let plan ← makePartitionPlan table scale partNum partCount
  let s ← g.reset ⟨scale, plan, textPool⟩ g.fresh
  return g.iterator.drain sizes fuel s

/-- Reading the part ends with the batches. -/
def PartRun (g : TableGenerator) (table : TableMetadata) (scale : ScaleConfig)
    (textPool : TextPool) (sizes : Nat → Nat) (partNum partCount : Int)
    (batches : List (Batch g.Row)) : Prop :=
  ∃ bound, ∀ fuel, bound ≤ fuel →
    g.runPart table scale textPool sizes partNum partCount fuel = .ok (some batches)

/-- A generator of a row iterator whose rows are the rows of the partition; `clamp` is what
`Reset` does to the end of the range. -/
def ofCursor {σ ρ : Type} [Inhabited σ] (new : GeneratorContext → σ) (advanceRows : σ → Nat → σ)
    (read : Nat → σ → ρ × σ) (rowFinished : σ → σ) (clamp : Nat → Nat) : TableGenerator where
  State := RowCursor σ
  Row := ρ
  fresh := default
  reset ctx _ := .ok (RowCursor.reset (new ctx) advanceRows ctx.partition.range.startRow
    (clamp ctx.partition.range.endRow))
  iterator := RowCursor.iterator read rowFinished

end TableGenerator

inductive Table
  | region | nation | supplier | part | partsupp | customer | orders | lineitem
  deriving DecidableEq

namespace Table
open TableGenerator

def metadata : Table → TableMetadata
  | region => kRegion
  | nation => kNation
  | supplier => kSupplier
  | part => kPart
  | partsupp => kPartsupp
  | customer => kCustomer
  | orders => kOrders
  | lineitem => kLineitem

def regionGenerator (sampler : IntSampler) : TableGenerator :=
  .ofCursor (fun ctx => RegionStreams.new ctx.textPool) RegionStreams.advanceRows
    (RegionStreams.read sampler) RegionStreams.rowFinished (min · RegionStreams.kRegionCount)

def nationGenerator (sampler : IntSampler) : TableGenerator :=
  .ofCursor (fun ctx => NationStreams.new ctx.textPool) NationStreams.advanceRows
    (NationStreams.read sampler) NationStreams.rowFinished (min · NationStreams.kNationCount)

def supplierGenerator (sampler : IntSampler) : TableGenerator :=
  .ofCursor (fun ctx => SupplierStreams.new ctx.textPool) SupplierStreams.advanceRows
    (SupplierStreams.read sampler) SupplierStreams.rowFinished id

def partGenerator (sampler : IntSampler) : TableGenerator :=
  .ofCursor (fun ctx => PartStreams.new ctx.textPool) PartStreams.advanceRows
    (PartStreams.read sampler) PartStreams.rowFinished id

def customerGenerator (sampler : IntSampler) : TableGenerator :=
  .ofCursor (fun ctx => CustomerStreams.new ctx.textPool) CustomerStreams.advanceRows
    (CustomerStreams.read sampler) CustomerStreams.rowFinished id

def orderGenerator (sampler : IntSampler) : TableGenerator :=
  .ofCursor (fun ctx => OrderStreams.new ctx.scale.factor ctx.textPool) OrderStreams.advanceRows
    (OrderStreams.read sampler) OrderStreams.rowFinished id

/-- The range of the parts is cut anew, whatever the range of the context. -/
def partSuppGenerator (sampler : IntSampler) : TableGenerator where
  State := PartSuppCursor
  Row := PartSuppRow
  fresh := PartSuppCursor.initial
  reset ctx s := do
    let partRange ← makePartitionRange (ctx.scale.rowCount kPart) ctx.partition.partNum
      ctx.partition.partCount
    return s.reset partRange.startRow partRange.endRow ctx.scale.factor ctx.textPool
  iterator := PartSuppCursor.iterator sampler

/-- The range of the orders is cut anew, whatever the range of the context. -/
def lineitemGenerator (sampler : IntSampler) : TableGenerator where
  State := LineitemCursor
  Row := LineitemRow
  fresh := LineitemCursor.initial
  reset ctx s := do
    let orderRange ← makePartitionRange (ctx.scale.rowCount kOrders) ctx.partition.partNum
      ctx.partition.partCount
    return s.reset sampler orderRange.startRow orderRange.endRow ctx.scale.factor ctx.textPool
  iterator := LineitemCursor.iterator sampler

/-- `RegisterTables` -/
def generator (sampler : IntSampler) : Table → TableGenerator
  | region => regionGenerator sampler
  | nation => nationGenerator sampler
  | supplier => supplierGenerator sampler
  | part => partGenerator sampler
  | partsupp => partSuppGenerator sampler
  | customer => customerGenerator sampler
  | orders => orderGenerator sampler
  | lineitem => lineitemGenerator sampler

end Table

namespace TableGenerator

/-- At one scale factor and text pool, the parts of the table are consecutive ranges of
units: part `i + 1` of `n` emits the units from `bound n i` to `bound n (i + 1)`. -/
def EmitsUnits (g : TableGenerator) (table : TableMetadata) (scale : ScaleConfig)
    (textPool : TextPool) (unit : Nat → List g.Row) (bound : Nat → Nat → Nat) : Prop :=
  ∀ n i : Nat, i < n → ∃ plan s, makePartitionPlan table scale (i + 1) n = .ok plan ∧
    g.reset ⟨scale, plan, textPool⟩ g.fresh = .ok s ∧
    g.iterator.Emits s ((List.range' (bound n i) (bound n (i + 1) - bound n i)).flatMap unit)

/-- Bounds that cut the same units into any number of parts. -/
structure Cut (bound : Nat → Nat → Nat) : Prop where
  mono : ∀ n, Monotone (bound n)
  zero : ∀ {n}, 1 ≤ n → bound n 0 = 0
  total : ∀ {n}, 1 ≤ n → bound n n = bound 1 1

lemma cut_partitionBound (totalRows : Nat) : Cut (partitionBound totalRows) where
  mono := partitionBound_mono totalRows
  zero := partitionBound_zero
  total _ := by rw [partitionBound_self, partitionBound_self]

lemma Cut.clamp {bound : Nat → Nat → Nat} (h : Cut bound) {clamp : Nat → Nat}
    (hmono : Monotone clamp) (hzero : clamp 0 = 0) : Cut fun n i => clamp (bound n i) where
  mono n := hmono.comp (h.mono n)
  zero hn := by rw [h.zero hn, hzero]
  total hn := by rw [h.total hn]

lemma makePartitionPlan_eq (table : TableMetadata) (scale : ScaleConfig) {n i : Nat} (hi : i < n) :
    makePartitionPlan table scale (i + 1) n =
      .ok ⟨⟨partitionBound (scale.rowCount table) n i,
        partitionBound (scale.rowCount table) n (i + 1)⟩, i + 1, n⟩ := by
  unfold makePartitionPlan
  rw [makePartitionRange_eq _ hi]
  rfl

lemma emitsUnits_ofCursor {σ ρ : Type} [Inhabited σ] {new : GeneratorContext → σ}
    {advanceRows : σ → Nat → σ} {read : Nat → σ → ρ × σ} {rowFinished : σ → σ} {clamp : Nat → Nat}
    {scale : ScaleConfig} {textPool : TextPool} {base : σ} (table : TableMetadata)
    (hbase : ∀ plan, new ⟨scale, plan, textPool⟩ = base) (hzero : advanceRows base 0 = base)
    (hread : ∀ r, rowFinished (read r (advanceRows base r)).2 = advanceRows base (r + 1))
    (hmono : Monotone clamp)
    (hclamp : ∀ a b, a ≤ b → (if a > clamp b then clamp b else a) = clamp a) :
    (ofCursor new advanceRows read rowFinished clamp).EmitsUnits table scale textPool
      (fun r => [(read r (advanceRows base r)).1])
      (fun n i => clamp (partitionBound (scale.rowCount table) n i)) := by
  intro n i hi
  have hle := partitionBound_mono (scale.rowCount table) n (Nat.le_succ i)
  refine ⟨_, _, makePartitionPlan_eq table scale hi, rfl, ?_⟩
  simp only [hbase]
  have hreset : ∀ {a b}, a ≤ b → RowCursor.reset base advanceRows a (clamp b) =
      RowCursor.reset base advanceRows (clamp a) (clamp b) := by
    intro a b hab
    unfold RowCursor.reset
    rw [hclamp a b hab, if_neg (not_lt.mpr (hmono hab))]
  rw [hreset hle]
  exact RowCursor.emits_reset hzero (hmono hle) hread

lemma clamp_min (top a b : Nat) (hab : a ≤ b) :
    (if a > min b top then min b top else a) = min a top := by
  split <;> omega

lemma monotone_min (top : Nat) : Monotone (min · top) := by
  intro a b hab
  change min a top ≤ min b top
  omega

lemma clamp_id (a b : Nat) (hab : a ≤ b) : (if a > id b then id b else a) = id a := by
  exact if_neg (not_lt.mpr hab)

/-- One generator drained in a single batch and `n` generators, one for each part, drained in
batches of the given sizes return the same rows. -/
def Independent (g : TableGenerator) (table : TableMetadata) (scale : ScaleConfig)
    (textPool : TextPool) (n : Nat) (sizes : Nat → Nat → Nat) : Prop :=
  ∃ rows : List g.Row,
    (∀ maxRows, rows.length < maxRows → ∃ batches, batches.length ≤ 1 ∧
      g.PartRun table scale textPool (fun _ => maxRows) 1 1 batches ∧
      batches.flatMap Batch.rows = rows) ∧
    ∃ parts : Nat → List (Batch g.Row),
      (∀ i < n, g.PartRun table scale textPool (sizes i) (i + 1) n (parts i)) ∧
      (List.range n).flatMap (fun i => (parts i).flatMap Batch.rows) = rows

section

variable {g : TableGenerator} {table : TableMetadata} {scale : ScaleConfig} {textPool : TextPool}
  {unit : Nat → List g.Row} {bound : Nat → Nat → Nat}

/-- A part is read to its end, whatever the sizes of the batches. -/
lemma partRun_of_emits {partNum partCount : Int} {plan : PartitionPlan} {s : g.State}
    {rows : List g.Row} (hplan : makePartitionPlan table scale partNum partCount = .ok plan)
    (hreset : g.reset ⟨scale, plan, textPool⟩ g.fresh = .ok s) (hemits : g.iterator.Emits s rows)
    {sizes : Nat → Nat} (hsizes : ∀ j, 0 < sizes j) :
    ∃ batches, g.PartRun table scale textPool sizes partNum partCount batches ∧
      batches.flatMap Batch.rows = rows ∧ (rows.length ≤ sizes 0 → batches.length ≤ 1) := by
  have hrun : ∀ fuel, g.runPart table scale textPool sizes partNum partCount fuel =
      .ok (g.iterator.drain sizes fuel s) := by
    intro fuel
    unfold runPart
    rw [hplan]
    simp only [bind, Except.bind, pure, Except.pure, hreset]
  obtain ⟨batches, hdrain, hrows, -, hone⟩ := hemits.drain hsizes (Nat.lt_succ_self rows.length)
  refine ⟨batches, ⟨rows.length + 1, fun fuel hfuel => ?_⟩, hrows, hone⟩
  rw [hrun, PullIterator.drain_mono hfuel hdrain]

lemma EmitsUnits.partRun (h : g.EmitsUnits table scale textPool unit bound) {n i : Nat} (hi : i < n)
    {sizes : Nat → Nat} (hsizes : ∀ j, 0 < sizes j) :
    let rows := (List.range' (bound n i) (bound n (i + 1) - bound n i)).flatMap unit
    ∃ batches, g.PartRun table scale textPool sizes (i + 1) n batches ∧
      batches.flatMap Batch.rows = rows ∧ (rows.length ≤ sizes 0 → batches.length ≤ 1) := by
  obtain ⟨plan, s, hplan, hreset, hemits⟩ := h n i hi
  exact partRun_of_emits hplan hreset hemits hsizes

/-- Units that are cut at increasing bounds: the rows of the parts are the rows of the whole. -/
theorem EmitsUnits.independent (h : g.EmitsUnits table scale textPool unit bound)
    (hcut : Cut bound) {n : Nat} (hn : 1 ≤ n) {sizes : Nat → Nat → Nat}
    (hsizes : ∀ i j, 0 < sizes i j) :
    g.Independent table scale textPool n sizes := by
  let units : Nat → Nat → List g.Row := fun a b => (List.range' a (b - a)).flatMap unit
  refine ⟨units 0 (bound 1 1), ?_, ?_⟩
  · intro maxRows hmax
    have hpos : ∀ j : Nat, 0 < (fun _ => maxRows : Nat → Nat) j := fun _ => Nat.zero_lt_of_lt hmax
    obtain ⟨batches, hrun, hrows, hone⟩ := h.partRun (n := 1) (i := 0) Nat.one_pos hpos
    rw [hcut.zero le_rfl] at hrows hone
    exact ⟨batches, hone hmax.le, hrun, hrows⟩
  · have hpart : ∀ i, ∃ batches, i < n → g.PartRun table scale textPool (sizes i) (i + 1) n batches ∧
        batches.flatMap Batch.rows = units (bound n i) (bound n (i + 1)) := by
      intro i
      by_cases hi : i < n
      · obtain ⟨batches, hrun, hrows, -⟩ := h.partRun hi (hsizes i)
        exact ⟨batches, fun _ => ⟨hrun, hrows⟩⟩
      · exact ⟨[], fun hlt => absurd hlt hi⟩
    choose parts hparts using hpart
    refine ⟨parts, fun i hi => (hparts i hi).1, ?_⟩
    calc (List.range n).flatMap (fun i => (parts i).flatMap Batch.rows)
        = (List.range n).flatMap (fun i => units (bound n i) (bound n (i + 1))) :=
          List.flatMap_congr fun i hi => (hparts i (List.mem_range.mp hi)).2
      _ = units (bound n 0) (bound n n) := flatMap_consecutive unit (hcut.mono n) n
      _ = units 0 (bound 1 1) := by rw [hcut.zero hn, hcut.total hn]

end

end TableGenerator

namespace Table
open TableGenerator

lemma emitsUnits_partSupp (sampler : IntSampler) (scale : ScaleConfig) (textPool : TextPool) :
    (partSuppGenerator sampler).EmitsUnits kPartsupp scale textPool
      (PartSuppCursor.partRows sampler scale.factor textPool)
      (partitionBound (scale.rowCount kPart)) := by
  intro n i hi
  refine ⟨_, _, makePartitionPlan_eq kPartsupp scale hi, ?_, PartSuppCursor.emits_reset sampler
    scale.factor textPool (partitionBound_mono (scale.rowCount kPart) n (Nat.le_succ i))⟩
  simp only [partSuppGenerator, makePartitionRange_eq _ hi, bind, Except.bind, pure, Except.pure]

lemma emitsUnits_lineitem (sampler : IntSampler) (scale : ScaleConfig) (textPool : TextPool)
    (hsf : scale.factor.value < 30000) :
    (lineitemGenerator sampler).EmitsUnits kLineitem scale textPool
      (LineitemCursor.orderRows sampler scale.factor textPool)
      (partitionBound (scale.rowCount kOrders)) := by
  intro n i hi
  refine ⟨_, _, makePartitionPlan_eq kLineitem scale hi, ?_, LineitemCursor.emits_reset sampler
    scale.factor textPool hsf (partitionBound_mono (scale.rowCount kOrders) n (Nat.le_succ i))⟩
  simp only [lineitemGenerator, makePartitionRange_eq _ hi, bind, Except.bind, pure, Except.pure]

/-- The rows of a table do not depend on batches and partitions, in the mode of the 32-bit
generator; a batch that is returned has a row, in every state. -/
theorem partition_independent (sampler : IntSampler) (table : Table) (textPool : TextPool)
    {sf : ScaleFactor} (hmax : sf.value < 30000) {n : Nat} (hn : 1 ≤ n) {sizes : Nat → Nat → Nat}
    (hsizes : ∀ i j, 0 < sizes i j) :
    (table.generator sampler).Independent table.metadata ⟨sf⟩ textPool n sizes ∧
      ∀ maxRows s batch t, (table.generator sampler).nextBatch maxRows s = some (batch, t) →
        batch.rows ≠ [] := by
  refine ⟨?_, fun maxRows s batch t h => PullIterator.nextBatch_rows_ne_nil h⟩
  have hcut : ∀ table : TableMetadata, Cut (partitionBound (ScaleConfig.rowCount ⟨sf⟩ table)) :=
    fun table => cut_partitionBound _
  cases table with
  | region =>
    exact (emitsUnits_ofCursor kRegion (fun _ => rfl) (RegionStreams.advanceRows_zero textPool)
      (RegionStreams.finish_read sampler textPool) (monotone_min _) (clamp_min _)).independent
      ((hcut kRegion).clamp (monotone_min _) (Nat.zero_min _)) hn hsizes
  | nation =>
    exact (emitsUnits_ofCursor kNation (fun _ => rfl) (NationStreams.advanceRows_zero textPool)
      (NationStreams.finish_read sampler textPool) (monotone_min _) (clamp_min _)).independent
      ((hcut kNation).clamp (monotone_min _) (Nat.zero_min _)) hn hsizes
  | supplier =>
    exact (emitsUnits_ofCursor kSupplier (fun _ => rfl) (SupplierStreams.advanceRows_zero textPool)
      (SupplierStreams.finish_read sampler textPool) monotone_id clamp_id).independent
      (hcut kSupplier) hn hsizes
  | part =>
    exact (emitsUnits_ofCursor kPart (fun _ => rfl) (PartStreams.advanceRows_zero textPool)
      (PartStreams.finish_read sampler textPool) monotone_id clamp_id).independent
      (hcut kPart) hn hsizes
  | partsupp =>
    exact (emitsUnits_partSupp sampler ⟨sf⟩ textPool).independent (hcut kPart) hn hsizes
  | customer =>
    exact (emitsUnits_ofCursor kCustomer (fun _ => rfl) (CustomerStreams.advanceRows_zero textPool)
      (CustomerStreams.finish_read sampler textPool) monotone_id clamp_id).independent
      (hcut kCustomer) hn hsizes
  | orders =>
    exact (emitsUnits_ofCursor kOrders (fun _ => rfl) (OrderStreams.advanceRows_zero textPool hmax)
      (OrderStreams.finish_read sampler textPool hmax) monotone_id clamp_id).independent
      (hcut kOrders) hn hsizes
  | lineitem =>
    exact (emitsUnits_lineitem sampler ⟨sf⟩ textPool hmax).independent (hcut kOrders) hn hsizes

theorem partition_independent_lineitem :
    (lineitem.generator IntSampler.exact).Independent kLineitem ⟨(1 / 1024 : ℚ)⟩ ⟨[]⟩ 3
        (fun _ j => j + 1) ∧
      ∀ maxRows s batch t,
        (lineitem.generator IntSampler.exact).nextBatch maxRows s = some (batch, t) →
          batch.rows ≠ [] :=
  partition_independent IntSampler.exact lineitem ⟨[]⟩ (by norm_num [ScaleFactor.exact]) (by decide)
    (fun _ j => Nat.succ_pos j)

end Table

end Schengen.Tables
