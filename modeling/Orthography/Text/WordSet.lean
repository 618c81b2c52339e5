/-! A finite set of words as a strictly increasing list, so that equal sets are equal
lists. -/
namespace Orthography.Text

def insertWord (word : String) : List String → List String
  | [] => [word]
  | first :: rest =>
    if word < first then word :: first :: rest
    else if word = first then first :: rest
    else first :: insertWord word rest

def insertWords (words : List String) (set : List String) : List String :=
  words.foldl (fun set word => insertWord word set) set

@[simp] theorem mem_insertWord {word other : String} {set : List String} :
    other ∈ insertWord word set ↔ other = word ∨ other ∈ set := by
  induction set with
  | nil => simp [insertWord]
  | cons first rest ih =>
    simp only [insertWord]
    split
    · simp
    · split
      next h => subst h; simp
      · simp only [List.mem_cons, ih]; grind

@[simp] theorem mem_insertWords {words set : List String} {other : String} :
    other ∈ insertWords words set ↔ other ∈ words ∨ other ∈ set := by
  induction words generalizing set with
  | nil => simp [insertWords]
  | cons word rest ih =>
    rw [insertWords, List.foldl_cons]
    have h := @ih (insertWord word set)
    rw [insertWords] at h
    rw [h]
    simp only [mem_insertWord, List.mem_cons]
    grind

theorem pairwise_insertWord {set : List String} (sorted : set.Pairwise (· < ·)) (word : String) :
    (insertWord word set).Pairwise (· < ·) := by
  induction set with
  | nil => simp [insertWord]
  | cons first rest ih =>
    obtain ⟨behind,later⟩ := List.pairwise_cons.mp sorted
    simp only [insertWord]
    split
    next before =>
      refine List.pairwise_cons.mpr ⟨fun other member => ?_,sorted⟩
      rcases List.mem_cons.mp member with rfl | member
      · exact before
      · exact String.lt_trans before (behind other member)
    split
    next => exact sorted
    next notBefore notSame =>
      refine List.pairwise_cons.mpr ⟨fun other member => ?_,ih later⟩
      rcases mem_insertWord.mp member with rfl | member
      · exact Std.lt_of_le_of_ne notBefore (Ne.symm notSame)
      · exact behind other member

theorem pairwise_insertWords {set : List String} (sorted : set.Pairwise (· < ·))
    (words : List String) : (insertWords words set).Pairwise (· < ·) := by
  induction words generalizing set with
  | nil => exact sorted
  | cons word rest ih => exact ih (pairwise_insertWord sorted word)

end Orthography.Text
