import Mathlib.Data.List.Chain
import Mathlib.Tactic.Common

/-!
# Spaced text

Texts of words that single spaces separate: no two spaces stand side by side, and none stands before
a comma.
-/

namespace Schengen.Library

/-- Characters that may stand side by side. -/
def MayFollow (a b : Char) : Prop := a = ' ' → b ≠ ' ' ∧ b ≠ ','

instance (a b : Char) : Decidable (MayFollow a b) := inferInstanceAs (Decidable (_ → _))

/-- A text that begins with a letter and does not end with a space. -/
structure Phrase (text : List Char) : Prop where
  spaced : text.IsChain MayFollow
  letter : text.head?.any Char.isAlpha = true
  last : text.getLast? ≠ some ' '

instance (text : List Char) : Decidable (Phrase text) :=
  decidable_of_iff (text.IsChain MayFollow ∧ text.head?.any Char.isAlpha = true ∧
    text.getLast? ≠ some ' ') ⟨fun h => ⟨h.1, h.2.1, h.2.2⟩, fun h => ⟨h.spaced, h.letter, h.last⟩⟩

variable {text word mark : List Char}

lemma Phrase.ne_nil (h : Phrase text) : text ≠ [] := by
  rintro rfl
  simpa using h.letter

/-- A mark may stand at the end of a phrase, whatever it begins with. -/
lemma Phrase.append_mark (h : Phrase text) (hspaced : mark.IsChain MayFollow)
    (hlast : mark.getLast? ≠ some ' ') (hmark : mark ≠ []) : Phrase (text ++ mark) where
  spaced := by
    refine List.isChain_append.mpr ⟨h.spaced, hspaced, fun a ha b _ hspace => ?_⟩
    rw [hspace] at ha
    exact absurd ha h.last
  letter := by
    rw [List.head?_append_of_ne_nil _ h.ne_nil]
    exact h.letter
  last := by
    rwa [List.getLast?_append_of_ne_nil _ hmark]

/-- A word behind a space. -/
lemma Phrase.append_word (h : Phrase text) (hword : Phrase word) : Phrase (text ++ ' ' :: word) := by
  refine h.append_mark ?_ ?_ (List.cons_ne_nil _ _)
  · refine List.isChain_cons.mpr ⟨fun b hb _ => ?_, hword.spaced⟩
    have hletter := hword.letter
    rw [Option.mem_def.mp hb, Option.any_some] at hletter
    refine ⟨?_, ?_⟩
    · rintro rfl
      cases hletter
    · rintro rfl
      cases hletter
  · rw [List.getLast?_cons_of_ne_nil hword.ne_nil]
    exact hword.last

end Schengen.Library
