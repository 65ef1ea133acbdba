import NoteQuery.Condition.Basic
import NoteQuery.Proofs.Text.Search

/-!
# Searching a field for a text

`contains` looks for a text in a field that holds a text, and capitals count as their small letters.
One would expect it to find every piece of the field. It does not: the two texts are brought to lower
case each on its own, and a capital sigma at the end of a word has another small letter than elsewhere.
So the beginning of a word that is cut behind a capital sigma is not found in the word.

* `Finds`: what both searches answer if the text is found.
* `not_contains_every_piece`: such a word.
* `contains_piece`: the pieces that are found, those that are found wherever they stand, and that a
  search for a text in lower case is the search for the text.
-/

namespace NoteQuery

open Value

/-- A text in lower case. -/
def Text.lowerText (t : String) : String := String.ofList (lower t.toList)

namespace Condition

theorem test_contains {r : Record} {field s : String} (h : r.get field = .text s) (t : String) :
    (ofOperator .contains (.text t)).test r field =
      .ok (.bool (Text.hasPiece (Text.lower t.toList) (Text.lower s.toList))) := by
  rw [ofOperator, test, h]
  rfl

theorem test_notContains {r : Record} {field s : String} (h : r.get field = .text s) (t : String) :
    (ofOperator .notContains (.text t)).test r field =
      .ok (.bool (!Text.hasPiece (Text.lower t.toList) (Text.lower s.toList))) := by
  rw [ofOperator, test, h]
  rfl

/-- A search for the lower case of a text is the search for the text. -/
theorem test_contains_lowerText {r : Record} {field s : String} (h : r.get field = .text s)
    (t : String) :
    (ofOperator .contains (.text (Text.lowerText t))).test r field =
      (ofOperator .contains (.text t)).test r field := by
  rw [test_contains h, test_contains h, Text.lowerText, String.toList_ofList, Text.lower_lower]

/-- Both searches find the text in the field, and so does the search for its lower case. -/
def Finds (r : Record) (field t : String) : Prop :=
  (ofOperator .contains (.text t)).test r field = .ok (.bool true) ∧
    (ofOperator .notContains (.text t)).test r field = .ok (.bool false) ∧
    (ofOperator .contains (.text (Text.lowerText t))).test r field = .ok (.bool true)

theorem finds_iff {r : Record} {field s : String} (h : r.get field = .text s) {t : String} :
    Finds r field t ↔ Text.lower t.toList <:+: Text.lower s.toList := by
  rw [Finds, test_contains_lowerText h, test_contains h, test_notContains h, ← Text.hasPiece_iff]
  cases Text.hasPiece (Text.lower t.toList) (Text.lower s.toList) <;> simp

/-- The word for the Odyssey, and its beginning up to the first sigma. -/
theorem not_contains_every_piece :
    ¬ ∀ (r : Record) (field s t : String), r.get field = .text s → t.toList <:+: s.toList →
      Finds r field t := by
  intro h
  have hpiece : "ΟΔΥΣ".toList <:+: "ΟΔΥΣΣΕΙΑ".toList := ⟨[], "ΣΕΙΑ".toList, by decide⟩
  have hfound := (h ⟨{}, .ofList [("title", .text "ΟΔΥΣΣΕΙΑ")]⟩ "title" _ _ rfl hpiece).1
  rw [test_contains rfl] at hfound
  have hlower : Text.hasPiece (Text.lower "ΟΔΥΣ".toList) (Text.lower "ΟΔΥΣΣΕΙΑ".toList) = false := by
    decide +kernel
  rw [hlower] at hfound
  cases hfound

/-- A piece of the field is found if its capital sigmas keep their small letters, and then so is its
lower case. They keep them if there are none, and if the piece begins and ends where words do. The
texts that are found in every field that holds them are those whose sigmas keep their letters
whatever stands around them. -/
theorem contains_piece (t : String) :
    (∀ (r : Record) (field s : String) (before after : List Char), r.get field = .text s →
      s.toList = before ++ t.toList ++ after → Text.KeepsSigmas before t.toList after →
      Finds r field t) ∧
    (∀ before after : List Char,
      'Σ' ∉ t.toList ∨ (Text.reachesCased before.reverse = false ∧ Text.reachesCased after = false) →
      Text.KeepsSigmas before t.toList after) ∧
    (∀ (r : Record) (field s : String), r.get field = .text s →
      (ofOperator .contains (.text (Text.lowerText t))).test r field =
        (ofOperator .contains (.text t)).test r field) ∧
    ((∀ (r : Record) (field s : String), r.get field = .text s → t.toList <:+: s.toList →
        Finds r field t) ↔
      ∀ before after : List Char, Text.KeepsSigmas before t.toList after) := by
  refine ⟨fun r field s before after hget hs hkeeps => ?_, fun before after h => ?_,
    fun r field s hget => test_contains_lowerText hget t, fun h => ?_,
    fun hkeeps r field s hget hpiece => ?_⟩
  · rw [finds_iff hget, hs]
    exact hkeeps.lower_occurs
  · rcases h with hpiece | ⟨hb, ha⟩
    · exact Text.keepsSigmas_of_notMem hpiece before after
    · exact Text.keepsSigmas_of_whole hb ha t.toList
  · refine Text.occurs_everywhere_iff.mp fun cs hpiece => ?_
    have hget : Record.get ⟨{}, .ofList [("title", .text (String.ofList cs))]⟩ "title" =
        .text (String.ofList cs) := rfl
    simpa using (finds_iff hget).mp (h _ _ _ hget (by simpa using hpiece))
  · exact (finds_iff hget).mpr (Text.occurs_everywhere_iff.mpr hkeeps s.toList hpiece)

/-- The word for the city is found in a sentence, its last sigma included. -/
theorem contains_piece_of_word :
    Finds ⟨{}, .ofList [("title", .text "Η ΠΟΛΙΣ, 1990")]⟩ "title" "ΠΟΛΙΣ" :=
  (contains_piece "ΠΟΛΙΣ").1 _ _ _ "Η ".toList ", 1990".toList rfl (by decide)
    ((contains_piece "ΠΟΛΙΣ").2.1 _ _ (.inr (by decide +kernel)))

end Condition

end NoteQuery
