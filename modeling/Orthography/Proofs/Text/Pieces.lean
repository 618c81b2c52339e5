import Orthography.Text.Blank

/-! The pieces of a phrase. A blank parts a phrase into two that are cut on their own, so a
phrase of joined words has the pieces of the words. -/
namespace Orthography.Text

/-- All else follows from this: what is in front of a blank and what is behind it are cut
independently. -/
theorem piecesAfter_append_blank (pending front : List Char) {c : Char} (blank : isBlank c = true)
    (back : List Char) :
    piecesAfter pending (front ++ c :: back) =
      piecesAfter pending front ++ piecesAfter [] back := by
  induction front generalizing pending with
  | nil => cases pending <;> simp [piecesAfter,blank]
  | cons d front ih =>
    simp only [List.cons_append,piecesAfter,ih]
    cases isBlank d <;> cases pending <;> simp

theorem pieces_append_space (front back : String) :
    pieces (front ++ " " ++ back) = pieces front ++ pieces back := by
  have space : isBlank ' ' = true := by decide
  have spread : (front ++ " " ++ back).toList = front.toList ++ ' ' :: back.toList := by simp
  simp only [pieces,spread,piecesAfter_append_blank [] front.toList space,List.map_append]

/-- Joining words with spaces joins their pieces. -/
theorem pieces_intercalate (words : List String) :
    pieces (" ".intercalate words) = words.flatMap pieces := by
  induction words with
  | nil => rfl
  | cons word rest ih =>
    cases rest with
    | nil => simp
    | cons next rest =>
      rw [String.intercalate_cons_cons,pieces_append_space,ih]
      rfl

theorem piecesAfter_of_noBlank (pending : List Char) {cs : List Char}
    (plain : ∀ c ∈ cs, isBlank c = false) :
    piecesAfter pending cs =
      if (cs.reverse ++ pending).isEmpty then [] else [(cs.reverse ++ pending).reverse] := by
  induction cs generalizing pending with
  | nil => simp [piecesAfter]
  | cons c rest ih =>
    have tail := ih (c :: pending) fun d member => plain d (by simp [member])
    simp [piecesAfter,plain c (by simp),tail]

/-- A word without blanks is its only piece. -/
theorem pieces_of_noBlank {word : String} (plain : ∀ c ∈ word.toList, isBlank c = false)
    (full : word ≠ "") : pieces word = [word] := by
  simp [pieces,piecesAfter_of_noBlank [] plain,full]

theorem piecesAfter_eq_nil_iff {pending cs : List Char} :
    piecesAfter pending cs = [] ↔ pending = [] ∧ ∀ c ∈ cs, isBlank c = true := by
  induction cs generalizing pending with
  | nil => simp [piecesAfter]
  | cons c rest ih =>
    by_cases blank : isBlank c = true
    · by_cases nothing : pending = [] <;> simp [piecesAfter,blank,nothing,ih]
    · simp [piecesAfter,blank,ih]

/-- Only a text that shows nothing has no pieces. -/
theorem pieces_eq_nil_iff {text : String} :
    pieces text = [] ↔ ∀ c ∈ text.toList, isBlank c = true := by
  rw [pieces,List.map_eq_nil_iff,piecesAfter_eq_nil_iff,and_iff_right rfl]

theorem flatMap_pieces {words : List String} (alone : ∀ word ∈ words, pieces word = [word]) :
    words.flatMap pieces = words := by
  induction words with
  | nil => rfl
  | cons word rest ih =>
    rw [List.flatMap_cons,alone word (by simp),ih fun other member => alone other (by simp [member])]
    rfl

end Orthography.Text
