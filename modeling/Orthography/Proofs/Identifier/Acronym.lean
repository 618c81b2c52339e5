import Orthography.Identifier

/-! Acronyms read from the right. Words are glued from the left, but a word in front only
decides whether it joins the first of those behind it, so gluing is also a recursion on the
words. -/
namespace Orthography.Identifier

open Text

def attachFront (word : List Char) : List (List Char) → List (List Char)
  | [] => [word]
  | first :: rest =>
    if isAcronym word && isAcronym first then (word ++ first) :: rest
    else word :: first :: rest

theorem isAcronym_append {a b : List Char} (left : isAcronym a = true)
    (right : isAcronym b = true) : isAcronym (a ++ b) = true := by
  simp only [isAcronym,Bool.and_eq_true,Bool.not_eq_true',List.isEmpty_eq_false_iff] at left right ⊢
  constructor
  · exact List.append_ne_nil_of_left_ne_nil left.1 b
  · rw [List.all_append,left.2,right.2,Bool.and_self]

/-- One character that is no capital keeps a word from being an acronym. -/
theorem isAcronym_of_mem {word : List Char} {c : Char} (member : c ∈ word)
    (small : isCapital c = false) : isAcronym word = false := by
  have : word.all isCapital = false := List.all_eq_false.mpr ⟨c,member,by simp [small]⟩
  simp [isAcronym,this]

theorem attachFront_of_not_acronym {word : List Char} (h : isAcronym word = false)
    (words : List (List Char)) : attachFront word words = word :: words := by
  cases words <;> simp [attachFront,h]

/-- The first word is an acronym exactly if the word in front was one. -/
theorem attachFront_eq_cons (word : List Char) (words : List (List Char)) :
    ∃ first rest, attachFront word words = first :: rest ∧
      isAcronym first = isAcronym word := by
  cases words with
  | nil => exact ⟨word,[],rfl,rfl⟩
  | cons next rest =>
    by_cases both : (isAcronym word && isAcronym next) = true
    · have parts := Bool.and_eq_true_iff.mp both
      exact ⟨word ++ next,rest,by simp [attachFront,both],
        by rw [isAcronym_append parts.1 parts.2,parts.1]⟩
    · exact ⟨word,next :: rest,by simp [attachFront,both],rfl⟩

/-- Joining two acronyms first and then what follows is joining one after the other. -/
theorem attachFront_append {a b : List Char} (left : isAcronym a = true)
    (right : isAcronym b = true) (words : List (List Char)) :
    attachFront (a ++ b) words = attachFront a (attachFront b words) := by
  have joined := isAcronym_append left right
  cases words with
  | nil => simp [attachFront,left,right]
  | cons next rest =>
    cases h : isAcronym next with
    | false => simp [attachFront,left,right,h]
    | true => simp [attachFront,left,joined,right,h,isAcronym_append right h]

/-- Words before the last one are not touched again. -/
theorem foldl_attach_append (last : List Char) (earlier words : List (List Char)) :
    words.foldl attach (last :: earlier) = words.foldl attach [last] ++ earlier := by
  induction words generalizing last earlier with
  | nil => rfl
  | cons word rest ih =>
    simp only [List.foldl_cons,attach]
    split
    · exact ih _ _
    · rw [ih word (last :: earlier),ih word [last],List.append_assoc]
      rfl

@[simp] theorem glueAcronyms_nil : glueAcronyms [] = [] := rfl

/-- Gluing as a recursion on the words. -/
theorem glueAcronyms_cons (word : List Char) (words : List (List Char)) :
    glueAcronyms (word :: words) = attachFront word (glueAcronyms words) := by
  induction words generalizing word with
  | nil => rfl
  | cons next rest ih =>
    by_cases both : (isAcronym word && isAcronym next) = true
    · have parts := Bool.and_eq_true_iff.mp both
      have joined : glueAcronyms (word :: next :: rest) = glueAcronyms ((word ++ next) :: rest) := by
        simp [glueAcronyms,attach,both]
      rw [joined,ih,ih,attachFront_append parts.1 parts.2]
    · have apart : glueAcronyms (word :: next :: rest) = word :: glueAcronyms (next :: rest) := by
        simp only [glueAcronyms,List.foldl_cons,attach,if_neg both]
        rw [foldl_attach_append next [word]]
        simp
      obtain ⟨first,others,eq,same⟩ := attachFront_eq_cons next (glueAcronyms rest)
      rw [apart,ih,eq]
      simp [attachFront,same,both]

end Orthography.Identifier
