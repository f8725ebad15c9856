import Schengen.Library.SpacedText
import Schengen.Random.Streams

/-!
# The generation of texts

The sentences of the text pool. A grammar rule is walked token by token; a phrase appends words with
a space behind each, and marks replace the space at the end. The words are drawn with any picker that
returns tokens of its distribution.
-/

namespace Schengen.Random
open Library

/-- A stand-in for `PickToken`, with the state of its random numbers. -/
structure TokenPicker (σ : Type) where
  pick : DistributionView → σ → String × σ
  pick_mem : ∀ (dist : DistributionView) (s : σ), dist.entries ≠ [] →
    (pick dist s).1 ∈ dist.entries.map DistributionEntry.token

/-- `PickToken` itself. -/
def TokenPicker.ofSampler (sampler : IntSampler) : TokenPicker RowRandomInt where
  pick := pickToken sampler
  pick_mem _ _ h := pickEntry_mem _ _ h

/-- The text that is written to, and the largest size that it has had. -/
@[ext] structure Output where
  text : List Char
  peak : Nat

namespace Output

def append (o : Output) (chars : List Char) : Output :=
  ⟨o.text ++ chars, max o.peak (o.text.length + chars.length)⟩

@[simp] lemma text_append (o : Output) (chars : List Char) : (o.append chars).text = o.text ++ chars :=
  rfl

@[simp] lemma peak_append (o : Output) (chars : List Char) :
    (o.append chars).peak = max o.peak (o.text.length + chars.length) := rfl

/-- A space at the end is removed. -/
def popSpace (o : Output) : Output :=
  if o.text.getLast? = some ' ' then ⟨o.text.dropLast, o.peak⟩ else o

/-- A space is put to the end of a text that has none there. -/
def pushSpace (o : Output) : Output :=
  if o.text ≠ [] ∧ o.text.getLast? ≠ some ' ' then o.append [' '] else o

end Output

/-- The characters at the even positions. -/
def everySecond : List Char → List Char
  | [] => []
  | [c] => [c]
  | c :: _ :: rest => c :: everySecond rest

namespace TokenPicker

variable {σ : Type} (picker : TokenPicker σ)

/-- A token that stands for a word appends one; other tokens are passed over. -/
def wordToken (source : Char → Option DistributionView) (written : Output × σ) (token : Char) :
    Output × σ :=
  match source token with
  | none => written
  | some dist =>
    let word := picker.pick dist written.2
    ((written.1.append word.1.toList).append [' '], word.2)

def verbSource : Char → Option DistributionView
  | 'D' => some kAdverbsDist
  | 'V' => some kVerbsDist
  | 'X' => some kAuxiliariesDist
  | _ => none

def generateVerbPhrase (written : Output × σ) : Output × σ :=
  let syntaxes := picker.pick kVerbPhraseDist written.2
  (everySecond syntaxes.1.toList).foldl (picker.wordToken verbSource) (written.1, syntaxes.2)

def nounSource : Char → Option DistributionView
  | 'A' => some kArticlesDist
  | 'J' => some kAdjectivesDist
  | 'D' => some kAdverbsDist
  | 'N' => some kNounsDist
  | _ => none

def nounToken (written : Output × σ) (token : Char) : Output × σ :=
  if token = ',' then (written.1.popSpace.append [',', ' '], written.2)
  else picker.wordToken nounSource written token

def generateNounPhrase (written : Output × σ) : Output × σ :=
  let syntaxes := picker.pick kNounPhraseDist written.2
  syntaxes.1.toList.foldl picker.nounToken (written.1, syntaxes.2)

def prepositionalPhrase (written : Output × σ) : Output × σ :=
  let preposition := picker.pick kPrepositionsDist written.2
  picker.generateNounPhrase
    ((written.1.append preposition.1.toList).append " the ".toList, preposition.2)

def terminate (written : Output × σ) : Output × σ :=
  let terminator := picker.pick kTerminatorsDist written.2
  (written.1.popSpace.append terminator.1.toList, terminator.2)

def sentencePart (written : Output × σ) (token : Char) : Output × σ :=
  if token = 'V' then picker.generateVerbPhrase written
  else if token = 'N' then picker.generateNounPhrase written
  else if token = 'P' then picker.prepositionalPhrase written
  else if token = 'T' then picker.terminate written
  else written

def sentenceToken (written : Output × σ) (token : Char) : Output × σ :=
  ((picker.sentencePart written token).1.pushSpace, (picker.sentencePart written token).2)

def generateSentence (written : Output × σ) : Output × σ :=
  let syntaxes := picker.pick kGrammarDist written.2
  (everySecond syntaxes.1.toList).foldl picker.sentenceToken (written.1, syntaxes.2)

end TokenPicker

end Schengen.Random
