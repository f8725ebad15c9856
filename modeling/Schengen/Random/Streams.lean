import Schengen.Random.Distributions
import Schengen.Random.RowRandomInt

/-!
# Random columns

The column generators of `Common/rands.h` over the 32-bit row generator. Each of these
classes forwards `AdvanceRows` and `RowFinished` to its inner generator, so they share one
definition. The multipliers 0.4 and 1.6 of the average lengths are the fractions 2/5 and
8/5.
-/

namespace Schengen.Random

/-- A column generator: its parameters and its inner generator. -/
structure RowStream (π : Type) where
  params : π
  inner : RowRandomInt
  deriving Inhabited

namespace RowStream

variable {π : Type}

def advanceRows (s : RowStream π) (rowCount : Nat) : RowStream π :=
  { s with inner := s.inner.advanceRows rowCount }

def rowFinished (s : RowStream π) : RowStream π :=
  { s with inner := s.inner.rowFinished }

/-- `s` is `start` after at most `n` draws of one row. -/
structure Drawn (start : RowStream π) (n : Nat) (s : RowStream π) : Prop where
  params : s.params = start.params
  inner : start.inner.Drawn n s.inner

/-- A stream at the start of a row, with a budget of at least `k` draws. -/
structure Fresh (k : Nat) (s : RowStream π) : Prop where
  usage : s.inner.usage = 0
  budget : k ≤ s.inner.seedsPerRow
  seed : s.inner.SeedInRange

variable {start s : RowStream π} {k n : Nat}

lemma Fresh.drawn (h : Fresh k s) : Drawn s 0 s := ⟨rfl, .refl h.usage⟩

lemma Drawn.mono (h : Drawn start n s) {m : Nat} (hnm : n ≤ m) : Drawn start m s :=
  ⟨h.params, h.inner.mono hnm⟩

lemma Drawn.rowFinished (h : Drawn start n s) (hn : n ≤ start.inner.seedsPerRow) :
    s.rowFinished = start.advanceRows 1 := by
  unfold RowStream.rowFinished RowStream.advanceRows
  rw [h.inner.rowFinished hn]
  obtain ⟨params, inner⟩ := s
  obtain rfl := h.params
  rfl

lemma advanceRows_zero (h : Fresh k s) : s.advanceRows 0 = s := by
  unfold advanceRows
  rw [RowRandomInt.advanceRows_zero h.usage]

lemma advanceRows_add (h : Fresh k s) (a b : Nat) :
    (s.advanceRows a).advanceRows b = s.advanceRows (a + b) := by
  unfold advanceRows
  rw [RowRandomInt.advanceRows_add h.usage]

lemma Fresh.advanceRows (h : Fresh k s) (r : Nat) : Fresh k (s.advanceRows r) := by
  refine ⟨RowRandomInt.usage_advanceRows h.usage r, ?_, ?_⟩
  · change k ≤ (s.inner.advanceRows r).seedsPerRow
    rw [RowRandomInt.seedsPerRow_advanceRows h.usage]
    exact h.budget
  · change (s.inner.advanceRows r).SeedInRange
    rw [RowRandomInt.advanceRows_eq h.usage]
    exact RowRandomInt.nextSeed_iterate_mem h.seed _

/-- Reading row `r` and finishing it is skipping it. -/
lemma Fresh.finish_row {base : RowStream π} (h : Fresh k base) {r : Nat}
    (hd : Drawn (base.advanceRows r) n s) (hn : n ≤ k) :
    s.rowFinished = base.advanceRows (r + 1) := by
  rw [hd.rowFinished (hn.trans (h.advanceRows r).budget), advanceRows_add h]

lemma finish_skip {base : RowStream π} (hfresh : base.inner.usage = 0) (r : Nat) :
    (base.advanceRows r).rowFinished = base.advanceRows (r + 1) := by
  unfold rowFinished advanceRows
  simp only [RowRandomInt.finish_skip hfresh r]

/-- It does not matter how many draws of its budget a row leaves out. -/
lemma Fresh.rowFinished_eq (h : Fresh k start) (hd : Drawn start n s) (hn : n ≤ k) :
    start.rowFinished = s.rowFinished := by
  rw [hd.rowFinished (hn.trans h.budget), h.drawn.rowFinished (Nat.zero_le _)]

lemma Fresh.rowFinished (h : Fresh k start) (hd : Drawn start n s) (hn : n ≤ k) :
    Fresh k s.rowFinished := by
  rw [hd.rowFinished (hn.trans h.budget)]
  exact h.advanceRows 1

end RowStream

/-! ## Bounded integers -/

structure IntBounds where
  lowerBound : Int
  upperBound : Int
  deriving Inhabited

abbrev RandomBoundedInt := RowStream IntBounds

namespace RandomBoundedInt

def new (seed lowerBound upperBound : Int) (seedsPerRow : Nat) : RandomBoundedInt :=
  ⟨⟨lowerBound, upperBound⟩, .new seed seedsPerRow⟩

def nextValue (sampler : IntSampler) (s : RandomBoundedInt) : Int × RandomBoundedInt :=
  let (value, inner) := s.inner.nextInt sampler s.params.lowerBound s.params.upperBound
  (value, { s with inner := inner })

lemma drawn_nextValue (sampler : IntSampler) {start s : RandomBoundedInt} {n : Nat}
    (h : RowStream.Drawn start n s) : RowStream.Drawn start (n + 1) (nextValue sampler s).2 :=
  ⟨h.params, h.inner.nextRand⟩

lemma fresh_new {seed lowerBound upperBound : Int} {seedsPerRow k : Nat} (hk : k ≤ seedsPerRow)
    (hseed : 0 ≤ seed ∧ seed < RowRandomInt.kModulus) :
    RowStream.Fresh k (new seed lowerBound upperBound seedsPerRow) :=
  ⟨rfl, hk, hseed⟩

lemma finish_nextValue (sampler : IntSampler) {base : RandomBoundedInt}
    (h : RowStream.Fresh 1 base) (r : Nat) :
    (nextValue sampler (base.advanceRows r)).2.rowFinished = base.advanceRows (r + 1) :=
  h.finish_row (drawn_nextValue sampler (h.advanceRows r).drawn) le_rfl

lemma nextValue_mem (sampler : IntSampler) {start s : RandomBoundedInt} {n k : Nat}
    {lower upper : Int} (hfresh : RowStream.Fresh k start) (h : RowStream.Drawn start n s)
    (hparams : s.params = ⟨lower, upper⟩) (hle : lower ≤ upper)
    (hrange : upper - lower ≤ 2147483646) :
    lower ≤ (nextValue sampler s).1 ∧ (nextValue sampler s).1 ≤ upper := by
  have hseed := h.inner.nextRand.seedInRange hfresh.seed
  have hlower : s.params.lowerBound = lower := by rw [hparams]
  have hupper : s.params.upperBound = upper := by rw [hparams]
  subst hlower hupper
  exact sampler.pick_mem _ _ _ hseed.1 hseed.2 hle hrange

/-- The value lies in the bounds, whatever the state of the stream is. -/
lemma nextValue_bounds {sampler : IntSampler} (h : sampler.Bounded)
    {s : RandomBoundedInt} {lower upper : Int} (hparams : s.params = ⟨lower, upper⟩)
    (hle : lower ≤ upper) : lower ≤ (s.nextValue sampler).1 ∧ (s.nextValue sampler).1 ≤ upper := by
  have hlower : s.params.lowerBound = lower := by rw [hparams]
  have hupper : s.params.upperBound = upper := by rw [hparams]
  subst hlower hupper
  exact h _ _ _ hle

end RandomBoundedInt

/-! ## Addresses -/

structure LengthBounds where
  minLength : Int
  maxLength : Int
  deriving Inhabited

structure RandomAlphaNumericInstance where
  length : Int
  snapshot : RowRandomInt

namespace RandomAlphaNumericInstance

def kAlphabet : List Char :=
  "0123456789abcdefghijklmnopqrstuvwxyz ABCDEFGHIJKLMNOPQRSTUVWXYZ,".toList

/-- The characters from position `i` on: every fifth one draws the six-bit indices of the
next five. -/
def chars (sampler : IntSampler) (generator : RowRandomInt) (charIndex : Int) (i : Nat) :
    Nat → List Char
  | 0 => []
  | count + 1 =>
    let (charIndex, generator) :=
      if i % 5 = 0 then generator.nextInt sampler 0 2147483647 else (charIndex, generator)
    kAlphabet.getD (charIndex % 64).toNat '0' :: chars sampler generator (charIndex / 64) (i + 1) count

def toString (sampler : IntSampler) (x : RandomAlphaNumericInstance) : String :=
  String.ofList (chars sampler x.snapshot 0 0 x.length.toNat)

end RandomAlphaNumericInstance

abbrev RandomAlphaNumeric := RowStream LengthBounds

namespace RandomAlphaNumeric

def kUsagePerRow : Nat := 9

def new (seed : Int) (averageLength expectedRowCount : Nat) : RandomAlphaNumeric :=
  ⟨⟨(averageLength * 2 / 5 : Nat), (averageLength * 8 / 5 : Nat)⟩,
    .new seed (kUsagePerRow * expectedRowCount)⟩

def nextValue (sampler : IntSampler) (s : RandomAlphaNumeric) :
    RandomAlphaNumericInstance × RandomAlphaNumeric :=
  let (length, inner) := s.inner.nextInt sampler s.params.minLength s.params.maxLength
  (⟨length, inner⟩, { s with inner := inner })

lemma drawn_nextValue (sampler : IntSampler) {start s : RandomAlphaNumeric} {n : Nat}
    (h : RowStream.Drawn start n s) : RowStream.Drawn start (n + 1) (nextValue sampler s).2 :=
  ⟨h.params, h.inner.nextRand⟩

lemma fresh_new {seed : Int} {averageLength expectedRowCount k : Nat}
    (hk : k ≤ kUsagePerRow * expectedRowCount) (hseed : 0 ≤ seed ∧ seed < RowRandomInt.kModulus) :
    RowStream.Fresh k (new seed averageLength expectedRowCount) :=
  ⟨rfl, hk, hseed⟩

lemma finish_nextValue (sampler : IntSampler) {base : RandomAlphaNumeric}
    (h : RowStream.Fresh 9 base) (r : Nat) :
    (nextValue sampler (base.advanceRows r)).2.rowFinished = base.advanceRows (r + 1) :=
  h.finish_row (drawn_nextValue sampler (h.advanceRows r).drawn) (by omega)

end RandomAlphaNumeric

/-! ## Phone numbers -/

/-- `printf` with `%0<width>d`. -/
def formatPadded (width : Nat) (n : Int) : String :=
  let sign := if n < 0 then "-" else ""
  let digits := toString n.natAbs
  sign ++ String.ofList (List.replicate (width - sign.length - digits.length) '0') ++ digits

structure PhoneNumberInstance where
  countryCode : Int
  local1 : Int
  local2 : Int
  local3 : Int

def PhoneNumberInstance.toString (p : PhoneNumberInstance) : String :=
  formatPadded 2 p.countryCode ++ "-" ++ formatPadded 3 p.local1 ++ "-" ++
    formatPadded 3 p.local2 ++ "-" ++ formatPadded 4 p.local3

abbrev RandomPhoneNumber := RowStream Unit

namespace RandomPhoneNumber

def kNationsMax : Int := 90

def new (seed : Int) (expectedRowCount : Nat) : RandomPhoneNumber :=
  ⟨(), .new seed (3 * expectedRowCount)⟩

def nextValue (sampler : IntSampler) (nationKey : Int) (s : RandomPhoneNumber) :
    PhoneNumberInstance × RandomPhoneNumber :=
  let (local1, inner) := s.inner.nextInt sampler 100 999
  let (local2, inner) := inner.nextInt sampler 100 999
  let (local3, inner) := inner.nextInt sampler 1000 9999
  (⟨10 + nationKey.tmod kNationsMax, local1, local2, local3⟩, { s with inner := inner })

lemma drawn_nextValue (sampler : IntSampler) (nationKey : Int) {start s : RandomPhoneNumber}
    {n : Nat} (h : RowStream.Drawn start n s) :
    RowStream.Drawn start (n + 3) (nextValue sampler nationKey s).2 :=
  ⟨h.params, h.inner.nextRand.nextRand.nextRand⟩

lemma fresh_new {seed : Int} {expectedRowCount k : Nat} (hk : k ≤ 3 * expectedRowCount)
    (hseed : 0 ≤ seed ∧ seed < RowRandomInt.kModulus) :
    RowStream.Fresh k (new seed expectedRowCount) :=
  ⟨rfl, hk, hseed⟩

lemma finish_nextValue (sampler : IntSampler) (nationKey : Int) {base : RandomPhoneNumber}
    (h : RowStream.Fresh 3 base) (r : Nat) :
    (nextValue sampler nationKey (base.advanceRows r)).2.rowFinished = base.advanceRows (r + 1) :=
  h.finish_row (drawn_nextValue sampler nationKey (h.advanceRows r).drawn) le_rfl

end RandomPhoneNumber

/-! ## Tokens of a distribution -/

/-- The first entry whose cumulative weight exceeds the sample, else the last one. -/
def pickEntry (sample : Int) : Int → List DistributionEntry → String
  | _, [] => ""
  | _, [entry] => entry.token
  | cumulative, entry :: entries =>
    if sample < cumulative + entry.weight then entry.token
    else pickEntry sample (cumulative + entry.weight) entries

/-- A token of the distribution is picked. -/
lemma pickEntry_mem (sample cumulative : Int) {entries : List DistributionEntry} (h : entries ≠ []) :
    pickEntry sample cumulative entries ∈ entries.map DistributionEntry.token := by
  induction entries generalizing cumulative with
  | nil => exact absurd rfl h
  | cons entry entries ih =>
    cases entries with
    | nil => exact List.mem_cons_self
    | cons entry' entries =>
      unfold pickEntry
      split
      · exact List.mem_cons_self
      · exact List.mem_cons_of_mem _ (ih _ (List.cons_ne_nil _ _))

def pickToken (sampler : IntSampler) (dist : DistributionView) (random : RowRandomInt) :
    String × RowRandomInt :=
  let (sample, random) := random.nextInt sampler 0 (dist.totalWeight - 1)
  (pickEntry sample 0 dist.entries, random)

abbrev RandomString := RowStream DistributionView

namespace RandomString

def new (seed : Int) (distribution : DistributionView) (expectedRowCount : Nat) : RandomString :=
  ⟨distribution, .new seed expectedRowCount⟩

def nextValue (sampler : IntSampler) (s : RandomString) : String × RandomString :=
  if s.params.size = 0 then ("", s)
  else
    let (token, inner) := pickToken sampler s.params s.inner
    (token, { s with inner := inner })

lemma drawn_nextValue (sampler : IntSampler) {start s : RandomString} {n : Nat}
    (h : RowStream.Drawn start n s) : RowStream.Drawn start (n + 1) (nextValue sampler s).2 := by
  unfold nextValue
  split
  · exact h.mono (Nat.le_succ n)
  · exact ⟨h.params, h.inner.nextRand⟩

lemma fresh_new {seed : Int} {distribution : DistributionView} {expectedRowCount k : Nat}
    (hk : k ≤ expectedRowCount) (hseed : 0 ≤ seed ∧ seed < RowRandomInt.kModulus) :
    RowStream.Fresh k (new seed distribution expectedRowCount) :=
  ⟨rfl, hk, hseed⟩

lemma finish_nextValue (sampler : IntSampler) {base : RandomString}
    (h : RowStream.Fresh 1 base) (r : Nat) :
    (nextValue sampler (base.advanceRows r)).2.rowFinished = base.advanceRows (r + 1) :=
  h.finish_row (drawn_nextValue sampler (h.advanceRows r).drawn) le_rfl

end RandomString

structure SequenceParams where
  count : Int
  distribution : DistributionView
  deriving Inhabited

abbrev RandomStringSequence := RowStream SequenceParams

def swap (values : List String) (i j : Nat) : List String :=
  match values[i]?, values[j]? with
  | some x, some y => (values.set i y).set j x
  | _, _ => values

/-- `StringSequenceInstance::ToString` -/
def joinTokens (values : List String) : String := " ".intercalate values

namespace RandomStringSequence

def new (seed : Int) (count : Int) (distribution : DistributionView) (expectedRowCount : Nat) :
    RandomStringSequence :=
  ⟨⟨count, distribution⟩, .new seed (distribution.size * expectedRowCount)⟩

/-- The swaps at the positions from `current` on. -/
def shuffle (sampler : IntSampler) (current : Nat) (values : List String) (random : RowRandomInt) :
    Nat → List String × RowRandomInt
  | 0 => (values, random)
  | remaining + 1 =>
    let (swapWithIdx, random) := random.nextInt sampler current (values.length - 1)
    shuffle sampler (current + 1) (swap values current swapWithIdx.toNat) random remaining

def nextValue (sampler : IntSampler) (s : RandomStringSequence) :
    List String × RandomStringSequence :=
  if s.params.distribution.size = 0 ∨ s.params.count ≤ 0 then ([], s)
  else
    let tokens := s.params.distribution.entries.map DistributionEntry.token
    let limit := min s.params.count.toNat tokens.length
    let (values, inner) := shuffle sampler 0 tokens s.inner limit
    (values.take limit, { s with inner := inner })

lemma drawn_shuffle (sampler : IntSampler) {start : RowRandomInt} (remaining : Nat) {n : Nat}
    {random : RowRandomInt} (h : start.Drawn n random) (current : Nat) (values : List String) :
    start.Drawn (n + remaining) (shuffle sampler current values random remaining).2 := by
  induction remaining generalizing n random current values with
  | zero => exact h
  | succ remaining ih =>
    have hnext := ih h.nextRand (current + 1)
      (swap values current (random.nextInt sampler current (values.length - 1)).1.toNat)
    exact hnext.mono (by omega)

lemma drawn_nextValue (sampler : IntSampler) {start s : RandomStringSequence} {n : Nat}
    (h : RowStream.Drawn start n s) :
    RowStream.Drawn start (n + s.params.distribution.size) (nextValue sampler s).2 := by
  unfold nextValue
  split
  · exact h.mono (Nat.le_add_right _ _)
  · refine ⟨h.params, (drawn_shuffle sampler _ h.inner 0 _).mono ?_⟩
    simp only [List.length_map, DistributionView.size]
    omega

lemma fresh_new {seed count : Int} {distribution : DistributionView} {expectedRowCount k : Nat}
    (hk : k ≤ distribution.size * expectedRowCount)
    (hseed : 0 ≤ seed ∧ seed < RowRandomInt.kModulus) :
    RowStream.Fresh k (new seed count distribution expectedRowCount) :=
  ⟨rfl, hk, hseed⟩

lemma finish_nextValue (sampler : IntSampler) {base : RandomStringSequence}
    (h : RowStream.Fresh base.params.distribution.size base) (r : Nat) :
    (nextValue sampler (base.advanceRows r)).2.rowFinished = base.advanceRows (r + 1) :=
  h.finish_row (drawn_nextValue sampler (h.advanceRows r).drawn) (Nat.zero_add _).le

end RandomStringSequence

/-! ## Comments -/

structure TextPool where
  text : List Char
  deriving Inhabited

namespace TextPool

def getSize (pool : TextPool) : Int := pool.text.length

def getView (pool : TextPool) (first last : Int) : List Char :=
  (pool.text.drop first.toNat).take (last - first).toNat

end TextPool

structure TextParams where
  textPool : TextPool
  minLength : Int
  maxLength : Int
  deriving Inhabited

abbrev RandomText := RowStream TextParams

namespace RandomText

def new (seed : Int) (textPool : TextPool) (averageTextLength expectedRowCount : Nat) : RandomText :=
  ⟨⟨textPool, (averageTextLength * 2 / 5 : Nat), (averageTextLength * 8 / 5 : Nat)⟩,
    .new seed (expectedRowCount * 2)⟩

def nextValue (sampler : IntSampler) (s : RandomText) : List Char × RandomText :=
  if s.params.textPool.getSize ≤ s.params.maxLength then ([], s)
  else
    let (offset, inner) :=
      s.inner.nextInt sampler 0 (s.params.textPool.getSize - s.params.maxLength)
    let (length, inner) := inner.nextInt sampler s.params.minLength s.params.maxLength
    (s.params.textPool.getView offset (offset + length), { s with inner := inner })

lemma drawn_nextValue (sampler : IntSampler) {start s : RandomText} {n : Nat}
    (h : RowStream.Drawn start n s) : RowStream.Drawn start (n + 2) (nextValue sampler s).2 := by
  unfold nextValue
  split
  · exact h.mono (Nat.le_add_right n 2)
  · exact ⟨h.params, h.inner.nextRand.nextRand⟩

lemma fresh_new {seed : Int} {textPool : TextPool} {averageTextLength expectedRowCount k : Nat}
    (hk : k ≤ expectedRowCount * 2) (hseed : 0 ≤ seed ∧ seed < RowRandomInt.kModulus) :
    RowStream.Fresh k (new seed textPool averageTextLength expectedRowCount) :=
  ⟨rfl, hk, hseed⟩

lemma finish_nextValue (sampler : IntSampler) {base : RandomText}
    (h : RowStream.Fresh 2 base) (r : Nat) :
    (nextValue sampler (base.advanceRows r)).2.rowFinished = base.advanceRows (r + 1) :=
  h.finish_row (drawn_nextValue sampler (h.advanceRows r).drawn) le_rfl

end RandomText

end Schengen.Random
