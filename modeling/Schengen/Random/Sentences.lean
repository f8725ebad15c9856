import Schengen.Random.TextGeneration

/-!
# Sentences

Every derivation of the grammar, with any choice of words, appends a sentence: its words are separated
by single spaces, and its length is bounded. The walk over a rule keeps what has been written behind
the existing text.
-/

namespace Schengen.Random
open Library

/-! ## Words -/

/-- A distribution of words of at most `n` characters. -/
def WordsUpTo (dist : DistributionView) (n : Nat) : Prop :=
  dist.entries ≠ [] ∧ ∀ entry ∈ dist.entries,
    Phrase entry.token.toList ∧ entry.token.toList.length ≤ n

instance (dist : DistributionView) (n : Nat) : Decidable (WordsUpTo dist n) :=
  inferInstanceAs (Decidable (_ ∧ _))

lemma words_kNounsDist : WordsUpTo kNounsDist 14 := by decide +kernel

lemma words_kVerbsDist : WordsUpTo kVerbsDist 14 := by decide +kernel

lemma words_kAdverbsDist : WordsUpTo kAdverbsDist 14 := by decide +kernel

lemma words_kArticlesDist : WordsUpTo kArticlesDist 14 := by decide +kernel

lemma words_kPrepositionsDist : WordsUpTo kPrepositionsDist 12 := by decide +kernel

lemma words_kAuxiliariesDist : WordsUpTo kAuxiliariesDist 14 := by decide +kernel

lemma words_kAdjectivesDist : WordsUpTo kAdjectivesDist 14 := by decide +kernel

variable {σ : Type} {picker : TokenPicker σ}

lemma WordsUpTo.pick (picker : TokenPicker σ) {dist : DistributionView} {n : Nat} (h : WordsUpTo dist n) (s : σ) :
    Phrase (picker.pick dist s).1.toList ∧ (picker.pick dist s).1.toList.length ≤ n := by
  obtain ⟨entry, hentry, htoken⟩ := List.mem_map.mp (picker.pick_mem dist s h.1)
  rw [← htoken]
  exact h.2 entry hentry

/-! ## What has been written -/

/-- Behind the text of `start` a phrase and a space were written. -/
structure Wrote (start : Output) (bound : Nat) (phrase : List Char) (o : Output) : Prop where
  text : o.text = start.text ++ phrase ++ [' ']
  isPhrase : Phrase phrase
  length_le : phrase.length + 1 ≤ bound
  peak_le : o.peak ≤ max start.peak (start.text.length + bound)

/-- Nothing was written yet, or a phrase was. -/
def Progress (start : Output) (bound : Nat) : Bool → Output → Prop
  | false, o => o = start
  | true, o => ∃ phrase, Wrote start bound phrase o

variable {start o : Output} {bound : Nat} {phrase word : List Char} {begun : Bool}

lemma Wrote.mono (h : Wrote start bound phrase o) {bound' : Nat} (hle : bound ≤ bound') :
    Wrote start bound' phrase o :=
  ⟨h.text, h.isPhrase, h.length_le.trans hle, h.peak_le.trans (by omega)⟩

lemma Wrote.length_text (h : Wrote start bound phrase o) :
    o.text.length = start.text.length + phrase.length + 1 := by
  rw [h.text, List.length_append, List.length_append, List.length_singleton]

lemma Output.append_append (o : Output) (a b : List Char) :
    (o.append a).append b = o.append (a ++ b) := by
  apply Output.ext
  · simp only [text_append, List.append_assoc]
  · simp only [peak_append, text_append, List.length_append]
    omega

/-- The first word, at the end of the existing text. -/
lemma wrote_first (hword : Phrase word) :
    Wrote start (word.length + 1) word (start.append (word ++ [' '])) where
  text := by rw [Output.text_append, List.append_assoc]
  isPhrase := hword
  length_le := le_rfl
  peak_le := by rw [Output.peak_append, List.length_append, List.length_singleton]

lemma Wrote.append_word (h : Wrote start bound phrase o) (hword : Phrase word) :
    Wrote start (bound + (word.length + 1)) (phrase ++ ' ' :: word) (o.append (word ++ [' '])) where
  text := by
    rw [Output.text_append, h.text]
    simp only [List.append_assoc, List.cons_append, List.nil_append]
  isPhrase := h.isPhrase.append_word hword
  length_le := by
    have hlength := h.length_le
    rw [List.length_append, List.length_cons]
    omega
  peak_le := by
    have hlength := h.length_le
    have hpeak := h.peak_le
    rw [Output.peak_append, h.length_text, List.length_append, List.length_singleton]
    omega

/-- A word is written, be it the first one or not. -/
lemma Progress.append_word (h : Progress start bound begun o) (hword : Phrase word) {n : Nat}
    (hlength : word.length + 1 ≤ n) :
    Progress start (bound + n) true (o.append (word ++ [' '])) := by
  cases begun with
  | false =>
    rw [show o = start from h]
    exact ⟨word, (wrote_first hword).mono (by omega)⟩
  | true =>
    obtain ⟨phrase, hphrase⟩ := h
    exact ⟨_, (hphrase.append_word hword).mono (by omega)⟩

lemma Wrote.popSpace (h : Wrote start bound phrase o) :
    o.popSpace = ⟨start.text ++ phrase, o.peak⟩ := by
  unfold Output.popSpace
  rw [h.text, if_pos List.getLast?_concat, List.dropLast_concat]

/-- A mark replaces the space, and a space follows it. -/
lemma Wrote.append_mark (h : Wrote start bound phrase o) {mark : List Char}
    (hspaced : mark.IsChain MayFollow) (hlast : mark.getLast? ≠ some ' ') (hmark : mark ≠ []) :
    Wrote start (bound + mark.length) (phrase ++ mark) (o.popSpace.append (mark ++ [' '])) := by
  have hlength := h.length_le
  have hpeak := h.peak_le
  rw [h.popSpace]
  refine ⟨?_, h.isPhrase.append_mark hspaced hlast hmark, ?_, ?_⟩
  · simp only [Output.text_append, List.append_assoc]
  · rw [List.length_append]
    omega
  · simp only [Output.peak_append, List.length_append, List.length_singleton]
    omega

lemma Wrote.pushSpace (h : Wrote start bound phrase o) : o.pushSpace = o := by
  unfold Output.pushSpace
  rw [if_neg]
  rintro ⟨-, hlast⟩
  rw [h.text] at hlast
  exact hlast List.getLast?_concat

/-! ## Walking a rule -/

/-- What a token does to the text: it appends at most `n` characters, or it replaces the space at the
end and adds at most `n` characters. -/
inductive Effect
  | appends (n : Nat)
  | replaces (n : Nat)
  | nothing

/-- Whether something is written behind a rule, and how much at most; a space is replaced only where
something was written. -/
def walk (effect : Char → Effect) : Bool → List Char → Option (Bool × Nat)
  | begun, [] => some (begun, 0)
  | begun, token :: tokens =>
    match effect token with
    | .appends n => (walk effect true tokens).map fun r => (r.1, n + r.2)
    | .replaces n =>
      if begun then (walk effect true tokens).map fun r => (r.1, n + r.2) else none
    | .nothing => walk effect begun tokens

/-- The step has the effect on every output. -/
def HasEffect (start : Output) (step : Output × σ → Char → Output × σ) (effect : Char → Effect) :
    Prop :=
  ∀ (bound : Nat) (begun : Bool) (written : Output × σ) (token : Char),
    Progress start bound begun written.1 →
      match effect token with
      | .appends n => Progress start (bound + n) true (step written token).1
      | .replaces n => begun = true → Progress start (bound + n) true (step written token).1
      | .nothing => Progress start bound begun (step written token).1

/-- What one token keeps is kept by the whole rule. -/
lemma progress_walk {step : Output × σ → Char → Output × σ} {effect : Char → Effect}
    (hstep : HasEffect start step effect) {tokens : List Char} {written : Output × σ} {after : Bool}
    {n : Nat} (h : Progress start bound begun written.1)
    (hwalk : walk effect begun tokens = some (after, n)) :
    Progress start (bound + n) after (tokens.foldl step written).1 := by
  induction tokens generalizing begun bound written n with
  | nil =>
    cases hwalk
    exact h
  | cons token tokens ih =>
    have htoken := hstep bound begun written token h
    unfold walk at hwalk
    cases heffect : effect token with
    | appends k =>
      simp only [heffect] at htoken hwalk
      obtain ⟨⟨after', m⟩, hrest, hpair⟩ := Option.map_eq_some_iff.mp hwalk
      cases hpair
      rw [← Nat.add_assoc]
      exact ih htoken hrest
    | replaces k =>
      simp only [heffect] at htoken hwalk
      cases begun with
      | false => cases hwalk
      | true =>
        rw [if_pos rfl] at hwalk
        obtain ⟨⟨after', m⟩, hrest, hpair⟩ := Option.map_eq_some_iff.mp hwalk
        cases hpair
        rw [← Nat.add_assoc]
        exact ih (htoken rfl) hrest
    | nothing =>
      simp only [heffect] at htoken hwalk
      exact ih htoken hwalk

/-! ## Phrases -/

/-- A word of at most fourteen characters and its space. -/
def wordEffect (source : Char → Option DistributionView) (token : Char) : Effect :=
  if (source token).isSome then .appends 15 else .nothing

lemma hasEffect_wordToken {source : Char → Option DistributionView}
    (hsource : ∀ token dist, source token = some dist → WordsUpTo dist 14) :
    HasEffect start (picker.wordToken source) (wordEffect source) := by
  intro bound begun written token h
  unfold wordEffect TokenPicker.wordToken
  cases hdist : source token with
  | none => exact h
  | some dist =>
    obtain ⟨hphrase, hlength⟩ := (hsource token dist hdist).pick picker written.2
    simp only [Option.isSome_some, if_true, Output.append_append]
    exact h.append_word hphrase (by omega)

lemma words_verbSource (token : Char) (dist : DistributionView)
    (h : TokenPicker.verbSource token = some dist) : WordsUpTo dist 14 := by
  unfold TokenPicker.verbSource at h
  split at h <;> cases h
  · exact words_kAdverbsDist
  · exact words_kVerbsDist
  · exact words_kAuxiliariesDist

lemma words_nounSource (token : Char) (dist : DistributionView)
    (h : TokenPicker.nounSource token = some dist) : WordsUpTo dist 14 := by
  unfold TokenPicker.nounSource at h
  split at h <;> cases h
  · exact words_kArticlesDist
  · exact words_kAdjectivesDist
  · exact words_kAdverbsDist
  · exact words_kNounsDist

/-- In a noun phrase, a comma replaces the space. -/
def nounEffect (token : Char) : Effect :=
  if token = ',' then .replaces 1 else wordEffect TokenPicker.nounSource token

lemma hasEffect_nounToken : HasEffect start picker.nounToken nounEffect := by
  intro bound begun written token h
  unfold nounEffect TokenPicker.nounToken
  by_cases hcomma : token = ','
  · rw [if_pos hcomma, if_pos hcomma]
    rintro rfl
    obtain ⟨phrase, hphrase⟩ := h
    exact ⟨_, hphrase.append_mark (List.isChain_singleton ',') (by decide) (by decide)⟩
  · rw [if_neg hcomma, if_neg hcomma]
    exact hasEffect_wordToken words_nounSource bound begun written token h

/-- A rule writes at most `n` characters, whatever stands before it. -/
def WritesUpTo (effect : Char → Effect) (n : Nat) (rule : List Char) : Prop :=
  ∀ begun, (walk effect begun rule).any (fun r => r.1 && r.2 ≤ n) = true

instance (effect : Char → Effect) (n : Nat) (rule : List Char) :
    Decidable (WritesUpTo effect n rule) :=
  inferInstanceAs (Decidable (∀ _, _))

lemma Progress.mono {bound' : Nat} (h : Progress start bound begun o) (hle : bound ≤ bound') :
    Progress start bound' begun o := by
  cases begun with
  | false => exact h
  | true =>
    obtain ⟨phrase, hphrase⟩ := h
    exact ⟨phrase, hphrase.mono hle⟩

lemma WritesUpTo.progress {step : Output × σ → Char → Output × σ} {effect : Char → Effect} {n : Nat}
    {rule : List Char} (hrule : WritesUpTo effect n rule) (hstep : HasEffect start step effect)
    {written : Output × σ} (h : Progress start bound begun written.1) :
    Progress start (bound + n) true (rule.foldl step written).1 := by
  have hany := hrule begun
  cases hwalk : walk effect begun rule with
  | none =>
    rw [hwalk] at hany
    cases hany
  | some result =>
    obtain ⟨after, k⟩ := result
    rw [hwalk, Option.any_some] at hany
    obtain ⟨hafter, hk⟩ := Bool.and_eq_true_iff.mp hany
    rw [show after = true from hafter] at hwalk
    exact (progress_walk hstep h hwalk).mono (Nat.add_le_add_left (of_decide_eq_true hk) bound)

lemma rules_kNounPhraseDist : ∀ entry ∈ kNounPhraseDist.entries,
    WritesUpTo nounEffect 46 entry.token.toList := by decide +kernel

lemma rules_kVerbPhraseDist : ∀ entry ∈ kVerbPhraseDist.entries,
    WritesUpTo (wordEffect TokenPicker.verbSource) 45 (everySecond entry.token.toList) := by
  decide +kernel

lemma TokenPicker.exists_entry (picker : TokenPicker σ) {dist : DistributionView} (s : σ)
    (h : dist.entries ≠ []) : ∃ entry ∈ dist.entries, (picker.pick dist s).1 = entry.token := by
  obtain ⟨entry, hentry, htoken⟩ := List.mem_map.mp (picker.pick_mem dist s h)
  exact ⟨entry, hentry, htoken.symm⟩

variable {written : Output × σ}

lemma progress_generateNounPhrase (h : Progress start bound begun written.1) :
    Progress start (bound + 46) true (picker.generateNounPhrase written).1 := by
  obtain ⟨entry, hentry, htoken⟩ :=
    picker.exists_entry written.2 (show kNounPhraseDist.entries ≠ [] by decide)
  have hrule := rules_kNounPhraseDist entry hentry
  rw [← htoken] at hrule
  exact hrule.progress hasEffect_nounToken h

lemma progress_generateVerbPhrase (h : Progress start bound begun written.1) :
    Progress start (bound + 45) true (picker.generateVerbPhrase written).1 := by
  obtain ⟨entry, hentry, htoken⟩ :=
    picker.exists_entry written.2 (show kVerbPhraseDist.entries ≠ [] by decide)
  have hrule := rules_kVerbPhraseDist entry hentry
  rw [← htoken] at hrule
  exact hrule.progress (hasEffect_wordToken words_verbSource) h

lemma progress_prepositionalPhrase (h : Progress start bound begun written.1) :
    Progress start (bound + 63) true (picker.prepositionalPhrase written).1 := by
  obtain ⟨hphrase, hlength⟩ := words_kPrepositionsDist.pick picker written.2
  have hthe : " the ".toList = ' ' :: "the".toList ++ [' '] := by decide
  unfold TokenPicker.prepositionalPhrase
  dsimp only
  rw [Output.append_append, hthe, ← List.append_assoc]
  have hword : Phrase ((picker.pick kPrepositionsDist written.2).1.toList ++ ' ' :: "the".toList) :=
    hphrase.append_word (by decide)
  have hfirst := h.append_word hword (n := 17) (by
    have hlength' : (' ' :: "the".toList).length = 4 := by decide
    rw [List.length_append, hlength']
    omega)
  exact progress_generateNounPhrase hfirst

/-! ## Sentences -/

lemma Progress.pushSpace (h : Progress start bound true o) : o.pushSpace = o := by
  obtain ⟨phrase, hphrase⟩ := h
  exact hphrase.pushSpace

lemma marks_kTerminatorsDist : ∀ entry ∈ kTerminatorsDist.entries,
    entry.token.toList.IsChain MayFollow ∧ entry.token.toList.getLast? ≠ some ' ' ∧
      entry.token.toList ≠ [] ∧ entry.token.toList.length ≤ 2 := by decide +kernel

variable (picker) in
/-- The terminator takes the place of the space. -/
lemma wrote_terminate (h : Wrote start bound phrase written.1) :
    ∃ entry ∈ kTerminatorsDist.entries, Wrote start (bound + 2) (phrase ++ entry.token.toList)
      (picker.sentenceToken written 'T').1 := by
  obtain ⟨entry, hentry, htoken⟩ :=
    picker.exists_entry written.2 (show kTerminatorsDist.entries ≠ [] by decide)
  obtain ⟨hspaced, hlast, hne, hlength⟩ := marks_kTerminatorsDist entry hentry
  have hpush : (written.1.popSpace.append entry.token.toList).pushSpace =
      written.1.popSpace.append (entry.token.toList ++ [' ']) := by
    have htext : (written.1.popSpace.append entry.token.toList).text ≠ [] ∧
        (written.1.popSpace.append entry.token.toList).text.getLast? ≠ some ' ' := by
      rw [Output.text_append, List.getLast?_append_of_ne_nil _ hne]
      exact ⟨List.append_ne_nil_of_right_ne_nil _ hne, hlast⟩
    unfold Output.pushSpace
    rw [if_pos htext, Output.append_append]
  have hstep : (picker.sentenceToken written 'T').1 =
      (written.1.popSpace.append entry.token.toList).pushSpace := by
    change ((picker.sentencePart written 'T').1).pushSpace = _
    rw [← htoken]
    rfl
  rw [hstep, hpush]
  exact ⟨entry, hentry, (h.append_mark hspaced hlast hne).mono (by omega)⟩

/-- What a token of the grammar writes. -/
def sentenceEffect (token : Char) : Effect :=
  if token = 'V' then .appends 45
  else if token = 'N' then .appends 46
  else if token = 'P' then .appends 63
  else if token = 'T' then .replaces 2
  else .nothing

lemma Progress.sentenceToken {n : Nat} {token : Char}
    (h : Progress start (bound + n) true (picker.sentencePart written token).1) :
    Progress start (bound + n) true (picker.sentenceToken written token).1 := by
  unfold TokenPicker.sentenceToken
  rwa [h.pushSpace]

/-- Between the tokens, existing text that ends in a space is not changed. -/
lemma hasEffect_sentenceToken (hstart : start.pushSpace = start) :
    HasEffect start picker.sentenceToken sentenceEffect := by
  intro bound begun written token h
  unfold sentenceEffect
  by_cases hverb : token = 'V'
  · subst hverb
    exact (progress_generateVerbPhrase h).sentenceToken
  rw [if_neg hverb]
  by_cases hnoun : token = 'N'
  · subst hnoun
    exact (progress_generateNounPhrase h).sentenceToken
  rw [if_neg hnoun]
  by_cases hpreposition : token = 'P'
  · subst hpreposition
    exact (progress_prepositionalPhrase h).sentenceToken
  rw [if_neg hpreposition]
  by_cases hterminator : token = 'T'
  · subst hterminator
    rintro rfl
    obtain ⟨phrase, hphrase⟩ := h
    obtain ⟨entry, -, hwrote⟩ := wrote_terminate picker hphrase
    exact ⟨_, hwrote⟩
  rw [if_neg hterminator]
  have hpart : picker.sentencePart written token = written := by
    unfold TokenPicker.sentencePart
    rw [if_neg hverb, if_neg hnoun, if_neg hpreposition, if_neg hterminator]
  have hpush : written.1.pushSpace = written.1 := by
    cases begun with
    | false => rwa [show written.1 = start from h]
    | true => exact h.pushSpace
  change Progress start bound begun (picker.sentencePart written token).1.pushSpace
  rwa [hpart, hpush]

/-- A rule of the grammar ends with the terminator. -/
def TerminatedUpTo (n : Nat) (rule : List Char) : Prop :=
  rule = rule.dropLast ++ ['T'] ∧ WritesUpTo sentenceEffect n rule.dropLast

instance (n : Nat) (rule : List Char) : Decidable (TerminatedUpTo n rule) :=
  inferInstanceAs (Decidable (_ ∧ _))

lemma rules_kGrammarDist : ∀ entry ∈ kGrammarDist.entries,
    TerminatedUpTo 217 (everySecond entry.token.toList) := by decide +kernel

/-- `appended` is a sentence: a phrase, its terminator and a space. -/
structure IsSentence (appended : List Char) : Prop where
  ne_nil : appended ≠ []
  length_le : appended.length ≤ 256
  noDoubleSpace : appended.IsChain fun a b => ¬ (a = ' ' ∧ b = ' ')
  noSpaceComma : appended.IsChain fun a b => ¬ (a = ' ' ∧ b = ',')
  letter : appended.head?.any Char.isAlpha = true
  ending : ∃ phrase terminator, appended = phrase ++ terminator ++ [' '] ∧ phrase.getLast? ≠ some ' ' ∧
    terminator ∈ kTerminatorsDist.entries.map (fun entry => entry.token.toList) ∧
      (phrase ++ terminator).getLast? ≠ some ' '

lemma Wrote.isSentence {entry : DistributionEntry} (h : Wrote start bound (phrase ++ entry.token.toList) o)
    (hentry : entry ∈ kTerminatorsDist.entries) (hlast : phrase.getLast? ≠ some ' ')
    (hbound : bound ≤ 256) : IsSentence (phrase ++ entry.token.toList ++ [' ']) := by
  have hspaced : (phrase ++ entry.token.toList ++ [' ']).IsChain MayFollow := by
    refine List.isChain_append.mpr ⟨h.isPhrase.spaced, List.isChain_singleton _, fun a ha b _ hspace => ?_⟩
    rw [hspace] at ha
    exact absurd ha h.isPhrase.last
  refine ⟨List.append_ne_nil_of_right_ne_nil _ (List.cons_ne_nil _ _), ?_, ?_, ?_, ?_, ?_⟩
  · rw [List.length_append, List.length_singleton]
    exact h.length_le.trans hbound
  · exact hspaced.imp fun a b hfollow hboth => (hfollow hboth.1).1 hboth.2
  · exact hspaced.imp fun a b hfollow hboth => (hfollow hboth.1).2 hboth.2
  · rw [List.head?_append_of_ne_nil _ h.isPhrase.ne_nil]
    exact h.isPhrase.letter
  · exact ⟨phrase, entry.token.toList, rfl, hlast, List.mem_map_of_mem hentry, h.isPhrase.last⟩

variable (picker) in
/-- A sentence is appended to the existing text, and the text was never longer than it is now. -/
theorem generateSentence_appends (hstart : start.pushSpace = start) (s : σ) :
    ∃ appended, IsSentence appended ∧
      (picker.generateSentence (start, s)).1.text = start.text ++ appended ∧
      (picker.generateSentence (start, s)).1.peak ≤ max start.peak (start.text.length + 256) := by
  obtain ⟨entry, hentry, htoken⟩ :=
    picker.exists_entry s (show kGrammarDist.entries ≠ [] by decide)
  obtain ⟨hrule, hwrites⟩ := rules_kGrammarDist entry hentry
  rw [← htoken] at hrule hwrites
  unfold TokenPicker.generateSentence
  dsimp only
  generalize everySecond (picker.pick kGrammarDist s).1.toList = rule at hrule hwrites ⊢
  rw [hrule, List.foldl_append]
  have hnone : Progress start 0 false ((start, (picker.pick kGrammarDist s).2) : Output × σ).1 := rfl
  obtain ⟨phrase, hphrase⟩ := hwrites.progress (hasEffect_sentenceToken hstart) hnone
  obtain ⟨terminator, hterminator, hwrote⟩ := wrote_terminate picker hphrase
  have hsentence := hwrote.isSentence hterminator hphrase.isPhrase.last (by decide)
  refine ⟨_, hsentence, ?_, ?_⟩
  · rw [List.foldl_cons, List.foldl_nil, hwrote.text]
    simp only [List.append_assoc]
  · rw [List.foldl_cons, List.foldl_nil]
    exact hwrote.peak_le.trans (by omega)

end Schengen.Random
