import Schengen.Random.RowRandomLong
import Schengen.Random.Sentences

/-!
# Text pools

The constructor of `TextPool` appends sentences until the text is long enough and cuts it. Pools of
different sizes write the same sentences, so the smaller one is the beginning of the larger one.
-/

namespace Schengen.Random
open Library Function

namespace TextPool

def kMaxSentenceLength : Nat := 256

def kPoolSeed : Int := 933588178

/-- `resize`, which may append zero characters. -/
def resize (o : Output) (size : Nat) : Output :=
  ⟨o.text.take size ++ List.replicate (size - o.text.length) '\x00', max o.peak size⟩

variable {σ : Type} (picker : TokenPicker σ)

/-- The loop of the constructor; `none` where the fuel runs out. -/
def textLoop (size : Int) : Nat → Output × σ → Option Output
  | 0, _ => none
  | fuel + 1, written =>
    if toInt32 written.1.text.length < size then textLoop size fuel (picker.generateSentence written)
    else some written.1

/-- The constructor, with the random numbers in the state `random`. -/
def construct (size : Int) (random : σ) : Option Output :=
  (textLoop picker size (size.toNat + 1) (⟨[], 0⟩, random)).map fun o => resize o size.toNat

variable {written : Output × σ} {size : Int}

/-- The existing text is empty or ends in exactly one space. -/
def EndsInOneSpace (text : List Char) : Prop :=
  text = [] ∨ ∃ before, text = before ++ [' '] ∧ before.getLast? ≠ some ' '

lemma EndsInOneSpace.pushSpace {o : Output} (h : EndsInOneSpace o.text) : o.pushSpace = o := by
  unfold Output.pushSpace
  rw [if_neg]
  rintro ⟨hne, hlast⟩
  rcases h with hnil | ⟨before, htext, -⟩
  · exact hne hnil
  · rw [htext] at hlast
    exact hlast List.getLast?_concat

lemma endsInOneSpace_append {appended : List Char} (h : IsSentence appended) (text : List Char) :
    EndsInOneSpace (text ++ appended) := by
  obtain ⟨phrase, terminator, happended, -, hterminator, hlast⟩ := h.ending
  refine Or.inr ⟨text ++ (phrase ++ terminator), ?_, ?_⟩
  · simp only [happended, List.append_assoc]
  · have hne : phrase ++ terminator ≠ [] := by
      intro hnil
      obtain ⟨entry, hentry, htoken⟩ := List.mem_map.mp hterminator
      have hmark := (marks_kTerminatorsDist entry hentry).2.2.1
      rw [htoken] at hmark
      exact hmark (List.append_eq_nil_iff.mp hnil).2
    rwa [List.getLast?_append_of_ne_nil _ hne]

lemma generateSentence_text (h : EndsInOneSpace written.1.text) :
    ∃ appended, IsSentence appended ∧
      (picker.generateSentence written).1.text = written.1.text ++ appended ∧
      (picker.generateSentence written).1.peak ≤ max written.1.peak (written.1.text.length + 256) :=
  generateSentence_appends picker h.pushSpace written.2

lemma endsInOneSpace_generateSentence (h : EndsInOneSpace written.1.text) :
    EndsInOneSpace (picker.generateSentence written).1.text := by
  obtain ⟨appended, hsentence, htext, -⟩ := generateSentence_text picker h
  rw [htext]
  exact endsInOneSpace_append hsentence _

/-- The sentences after `n` turns, and what was there before them. -/
lemma iterate_text (h : EndsInOneSpace written.1.text) (n : Nat) :
    EndsInOneSpace (picker.generateSentence^[n] written).1.text ∧
      written.1.text <+: (picker.generateSentence^[n] written).1.text := by
  induction n with
  | zero => exact ⟨h, List.prefix_rfl⟩
  | succ n ih =>
    rw [iterate_succ_apply']
    obtain ⟨appended, -, htext, -⟩ := generateSentence_text picker ih.1
    refine ⟨endsInOneSpace_generateSentence picker ih.1, ih.2.trans ?_⟩
    rw [htext]
    exact List.prefix_append _ _

/-- More turns go on with the text. -/
lemma iterate_mono (h : EndsInOneSpace written.1.text) {m n : Nat} (hle : m ≤ n) :
    (picker.generateSentence^[m] written).1.text <+: (picker.generateSentence^[n] written).1.text := by
  obtain ⟨k, rfl⟩ := Nat.exists_eq_add_of_le hle
  rw [Nat.add_comm, iterate_add_apply]
  exact (iterate_text picker (iterate_text picker h m).1 k).2

/-- The loop ends with a text that is long enough and within the reservation. -/
lemma textLoop_eq (hmax : size ≤ 2 ^ 31 - 1 - kMaxSentenceLength) {fuel : Nat}
    (h : EndsInOneSpace written.1.text)
    (hlength : (written.1.text.length : Int) ≤ max 0 (size + 255))
    (hpeak : (written.1.peak : Int) ≤ max 0 (size + 255)) (hfuel : size < written.1.text.length + fuel)
    (hpos : 0 < fuel) :
    ∃ n, textLoop picker size fuel written = some (picker.generateSentence^[n] written).1 ∧
      size ≤ (picker.generateSentence^[n] written).1.text.length ∧
      ((picker.generateSentence^[n] written).1.peak : Int) ≤ max 0 (size + 255) := by
  induction fuel generalizing written with
  | zero => exact absurd hpos (Nat.lt_irrefl 0)
  | succ fuel ih =>
    unfold kMaxSentenceLength at hmax
    rw [textLoop, toInt32_eq (by omega) (by omega)]
    by_cases hshort : (written.1.text.length : Int) < size
    · obtain ⟨appended, hsentence, htext, hpeak'⟩ := generateSentence_text picker h
      have hle := hsentence.length_le
      have hmore := List.length_pos_iff.mpr hsentence.ne_nil
      have hlength' : (picker.generateSentence written).1.text.length =
          written.1.text.length + appended.length := by
        rw [htext, List.length_append]
      obtain ⟨n, hloop, hsize, hpeaks⟩ := ih (endsInOneSpace_generateSentence picker h) (by omega) (by omega)
        (by omega) (by omega)
      rw [if_pos hshort]
      exact ⟨n + 1, by rwa [iterate_succ_apply], by rwa [iterate_succ_apply], by rwa [iterate_succ_apply]⟩
    · rw [if_neg hshort]
      exact ⟨0, rfl, not_lt.mp hshort, hpeak⟩

/-- The empty text and the random numbers at the start. -/
def start (random : σ) : Output × σ := (⟨[], 0⟩, random)

lemma endsInOneSpace_start (random : σ) : EndsInOneSpace (start random).1.text := Or.inl rfl

/-- A pool is the beginning of the sentences. -/
lemma construct_eq (hmin : 0 ≤ size) (hmax : size ≤ 2 ^ 31 - 1 - kMaxSentenceLength) (random : σ) :
    ∃ n pool, construct picker size random = some pool ∧
      size.toNat ≤ (picker.generateSentence^[n] (start random)).1.text.length ∧
      pool.text = (picker.generateSentence^[n] (start random)).1.text.take size.toNat ∧
      (pool.peak : Int) ≤ size + kMaxSentenceLength := by
  have hfuel : size < (start random).1.text.length + ((size.toNat + 1 : Nat) : Int) := by
    change size < ((0 : Nat) : Int) + _
    omega
  obtain ⟨n, hloop, hlength, hpeak⟩ := textLoop_eq picker hmax (endsInOneSpace_start random)
    (le_max_left 0 _) (le_max_left 0 _) hfuel (Nat.succ_pos _)
  refine ⟨n, resize (picker.generateSentence^[n] (start random)).1 size.toNat, ?_, by omega, ?_, ?_⟩
  · unfold construct
    change (textLoop picker size (size.toNat + 1) (start random)).map _ = _
    rw [hloop, Option.map_some]
  · have hnone : size.toNat - (picker.generateSentence^[n] (start random)).1.text.length = 0 := by omega
    rw [resize, hnone, List.replicate_zero, List.append_nil]
  · unfold resize kMaxSentenceLength
    dsimp only
    omega

/-- The text of a smaller pool is the beginning of that of a larger one. -/
lemma take_construct {size' : Int} (hmin : 0 ≤ size') (hle : size' ≤ size)
    (hmax : size ≤ 2 ^ 31 - 1 - kMaxSentenceLength) (random : σ) {pool pool' : Output}
    (h : construct picker size random = some pool) (h' : construct picker size' random = some pool') :
    pool'.text = pool.text.take size'.toNat := by
  obtain ⟨n, q, hconstruct, hlength, htext, -⟩ := construct_eq picker (hmin.trans hle) hmax random
  obtain ⟨n', q', hconstruct', hlength', htext', -⟩ :=
    construct_eq picker hmin (hle.trans hmax) random
  cases h.symm.trans hconstruct
  cases h'.symm.trans hconstruct'
  rw [htext, htext', List.take_take, Nat.min_eq_left (Int.toNat_le_toNat hle)]
  have hshort : size'.toNat ≤ (picker.generateSentence^[n] (start random)).1.text.length :=
    (Int.toNat_le_toNat hle).trans hlength
  rcases le_total n n' with hn | hn
  · obtain ⟨rest, hrest⟩ := iterate_mono picker (endsInOneSpace_start random) hn
    rw [← hrest, List.take_append_of_le_length hshort]
  · obtain ⟨rest, hrest⟩ := iterate_mono picker (endsInOneSpace_start random) hn
    rw [← hrest, List.take_append_of_le_length hlength']

/-- `TextPool(size)`, with the random numbers of the source. -/
def ofSize (sampler : IntSampler) (size : Int) : Option TextPool :=
  (construct (.ofSampler sampler) size (.new kPoolSeed 2147483647)).map fun o => ⟨o.text⟩

/-- The pools of the source. -/
lemma take_ofSize (sampler : IntSampler) {size' : Int} (hmin : 0 ≤ size') (hle : size' ≤ size)
    (hmax : size ≤ 2 ^ 31 - 1 - kMaxSentenceLength) :
    ∃ pool pool', ofSize sampler size = some pool ∧ ofSize sampler size' = some pool' ∧
      pool'.text = pool.text.take size'.toNat := by
  obtain ⟨n, pool, hpool, -⟩ :=
    construct_eq (.ofSampler sampler) (hmin.trans hle) hmax (.new kPoolSeed 2147483647)
  obtain ⟨n', pool', hpool', -⟩ :=
    construct_eq (.ofSampler sampler) hmin (hle.trans hmax) (.new kPoolSeed 2147483647)
  refine ⟨⟨pool.text⟩, ⟨pool'.text⟩, ?_, ?_,
    take_construct (.ofSampler sampler) hmin hle hmax _ hpool hpool'⟩
  · rw [ofSize, hpool, Option.map_some]
  · rw [ofSize, hpool', Option.map_some]

end TextPool

open TextPool in
/-- Every choice of words gives sentences, every pool ends within its reservation, and the pools of two
sizes agree as far as the smaller one goes, those with the random numbers of the source among
them. -/
theorem textPool_sentences {σ : Type} (picker : TokenPicker σ) :
    (∀ (existing : Output) (s : σ), EndsInOneSpace existing.text → ∃ appended, IsSentence appended ∧
      (picker.generateSentence (existing, s)).1.text = existing.text ++ appended) ∧
      (∀ (random : σ) (size : Int), 0 ≤ size → size ≤ 2 ^ 31 - 1 - kMaxSentenceLength →
        ∃ pool, construct picker size random = some pool ∧ (pool.text.length : Int) = size ∧
          (pool.peak : Int) ≤ size + kMaxSentenceLength ∧
          ∀ size', 0 ≤ size' → size' ≤ size → ∃ pool', construct picker size' random = some pool' ∧
            pool'.text = pool.text.take size'.toNat) ∧
      ∀ (sampler : IntSampler) (size size' : Int), 0 ≤ size' → size' ≤ size →
        size ≤ 2 ^ 31 - 1 - kMaxSentenceLength →
          ∃ pool pool', ofSize sampler size = some pool ∧ ofSize sampler size' = some pool' ∧
            pool'.text = pool.text.take size'.toNat := by
  refine ⟨fun existing s h => ?_, fun random size hmin hmax => ?_,
    fun sampler size size' hmin hle hmax => take_ofSize sampler hmin hle hmax⟩
  · obtain ⟨appended, hsentence, htext, -⟩ := generateSentence_appends picker h.pushSpace s
    exact ⟨appended, hsentence, htext⟩
  · obtain ⟨n, pool, hpool, hlength, htext, hpeak⟩ := construct_eq picker hmin hmax random
    refine ⟨pool, hpool, ?_, hpeak, fun size' hmin' hle => ?_⟩
    · rw [htext, List.length_take_of_le hlength, Int.toNat_of_nonneg hmin]
    · obtain ⟨n', pool', hpool', -⟩ := construct_eq picker hmin' (hle.trans hmax) random
      exact ⟨pool', hpool', take_construct picker hmin' hle hmax random hpool hpool'⟩

end Schengen.Random
