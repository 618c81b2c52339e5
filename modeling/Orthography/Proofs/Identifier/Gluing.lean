import Mathlib.Data.List.SplitBy
import Orthography.Proofs.Identifier.Acronym

/-! Gluing of any words, whether a scan yields them or not. Acronyms that stand in a row become one
word, all other words stay as they are, and it does not matter from which end this is done. -/
namespace Orthography.Identifier

/-- The words in groups. Acronyms that stand in a row are in one group, and every other word, be it
empty, is a group by itself. -/
structure Grouping (words : List (List Char)) (groups : List (List (List Char))) : Prop where
  whole : groups.flatten = words
  full : [] ∉ groups
  alike : ∀ group ∈ groups, group.all isAcronym = true ∨ ∃ word, group = [word]
  maximal : groups.IsChain fun front back =>
    ¬(front.all isAcronym = true ∧ back.all isAcronym = true)

/-- Of acronyms in a row there are neighbours only. -/
theorem isChain_acronyms (word next : List Char) (rest : List (List Char)) :
    (word :: next :: rest).IsChain (fun a b => (isAcronym a && isAcronym b) = true) ↔
      (word :: next :: rest).all isAcronym = true := by
  induction rest generalizing word next with
  | nil => simp
  | cons other rest ih =>
    rw [List.isChain_cons_cons,ih]
    simp only [List.all_cons,Bool.and_eq_true]
    exact ⟨fun chain => ⟨chain.1.1,chain.2⟩,fun all => ⟨⟨all.1,all.2.1⟩,all.2⟩⟩

section Group

variable {group : List (List Char)} (full : group ≠ [])

include full

theorem isChain_group : group.IsChain (fun a b => (isAcronym a && isAcronym b) = true) ↔
    group.all isAcronym = true ∨ ∃ word, group = [word] := by
  match group with
  | [word] => simp
  | word :: next :: rest =>
    rw [isChain_acronyms]
    simp

variable (alike : group.all isAcronym = true ∨ ∃ word, group = [word])

include alike

/-- The edges of a group tell whether it is made of acronyms. -/
theorem isAcronym_getLast : isAcronym (group.getLast full) = group.all isAcronym := by
  rcases alike with acronyms | ⟨word,rfl⟩
  · rw [acronyms,List.all_eq_true.mp acronyms _ (List.getLast_mem full)]
  · simp

theorem isAcronym_head : isAcronym (group.head full) = group.all isAcronym := by
  rcases alike with acronyms | ⟨word,rfl⟩
  · rw [acronyms,List.all_eq_true.mp acronyms _ (List.head_mem full)]
  · simp

/-- What a group is joined to is an acronym only if all of it is. -/
theorem isAcronym_flatten : isAcronym group.flatten = group.all isAcronym := by
  rcases alike with acronyms | ⟨word,rfl⟩
  · rw [acronyms]
    induction group with
    | nil => exact absurd rfl full
    | cons word rest ih =>
      rw [List.all_cons,Bool.and_eq_true] at acronyms
      cases rest with
      | nil => simpa using acronyms.1
      | cons next rest =>
        exact isAcronym_append acronyms.1 (ih (List.cons_ne_nil next rest) acronyms.2)
  · simp

end Group

theorem ends_apart_iff {front back : List (List Char)} (frontFull : front ≠ [])
    (frontAlike : front.all isAcronym = true ∨ ∃ word, front = [word]) (backFull : back ≠ [])
    (backAlike : back.all isAcronym = true ∨ ∃ word, back = [word]) :
    (∃ ha hb, (isAcronym (front.getLast ha) && isAcronym (back.head hb)) = false) ↔
      ¬(front.all isAcronym = true ∧ back.all isAcronym = true) := by
  rw [← Bool.and_eq_true,Bool.not_eq_true,← isAcronym_getLast frontFull frontAlike,
    ← isAcronym_head backFull backAlike]
  exact ⟨fun ⟨_,_,apart⟩ => apart,fun apart => ⟨frontFull,backFull,apart⟩⟩

/-- Groups are kept apart by their edges as they are by what is in them. -/
theorem isChain_ends_apart {groups : List (List (List Char))} (full : [] ∉ groups)
    (alike : ∀ group ∈ groups, group.all isAcronym = true ∨ ∃ word, group = [word]) :
    (groups.IsChain fun front back =>
      ∃ ha hb, (isAcronym (front.getLast ha) && isAcronym (back.head hb)) = false) ↔
      groups.IsChain fun front back =>
        ¬(front.all isAcronym = true ∧ back.all isAcronym = true) := by
  have filled : ∀ group ∈ groups, group ≠ [] := fun group member => ne_of_mem_of_not_mem member full
  apply List.IsChain.iff_of_mem_imp
  intro front back here next
  exact ends_apart_iff (filled front here) (alike front here) (filled back next) (alike back next)

/-- There is one grouping of any words: they are split where not both neighbours are acronyms. -/
theorem grouping_iff {words : List (List Char)} {groups : List (List (List Char))} :
    Grouping words groups ↔ words.splitBy (fun a b => isAcronym a && isAcronym b) = groups := by
  rw [List.splitBy_eq_iff]
  constructor
  · rintro ⟨rfl,full,alike,maximal⟩
    refine ⟨rfl,full,fun group member => ?_,(isChain_ends_apart full alike).mpr maximal⟩
    exact (isChain_group (ne_of_mem_of_not_mem member full)).mpr (alike group member)
  · rintro ⟨rfl,full,chained,apart⟩
    have alike : ∀ group ∈ groups, group.all isAcronym = true ∨ ∃ word, group = [word] :=
      fun group member =>
        (isChain_group (ne_of_mem_of_not_mem member full)).mp (chained group member)
    exact ⟨rfl,full,alike,(isChain_ends_apart full alike).mp apart⟩

theorem glueAcronyms_eq_foldr (words : List (List Char)) :
    glueAcronyms words = words.foldr attachFront [] := by
  induction words with
  | nil => rfl
  | cons word words ih => rw [glueAcronyms_cons,ih,List.foldr_cons]

/-- A word is put in front as it is, unless it and the next one are acronyms. -/
theorem attachFront_of_apart {word : List Char} {words : List (List Char)}
    (apart : ∀ next ∈ words.head?, ¬(isAcronym word = true ∧ isAcronym next = true)) :
    attachFront word words = word :: words := by
  cases words with
  | nil => rfl
  | cons next words =>
    rw [attachFront,if_neg]
    rw [Bool.and_eq_true]
    exact apart next rfl

theorem glueAcronyms_of_isChain {words : List (List Char)}
    (apart : words.IsChain fun a b => ¬(isAcronym a = true ∧ isAcronym b = true)) :
    glueAcronyms words = words := by
  induction words with
  | nil => rfl
  | cons word words ih =>
    rw [List.isChain_cons] at apart
    rw [glueAcronyms_cons,ih apart.2,attachFront_of_apart apart.1]

theorem foldr_attachFront_of_all {group : List (List Char)} (full : group ≠ [])
    (acronyms : group.all isAcronym = true) (words : List (List Char)) :
    group.foldr attachFront words = attachFront group.flatten words := by
  induction group with
  | nil => exact absurd rfl full
  | cons word rest ih =>
    cases rest with
    | nil => simp
    | cons next rest =>
      have both := acronyms
      rw [List.all_cons,Bool.and_eq_true] at both
      have others := List.cons_ne_nil next rest
      have joined : isAcronym (next :: rest).flatten = true := by
        rw [isAcronym_flatten others (.inl both.2),both.2]
      rw [List.foldr_cons,ih others both.2,← attachFront_append both.1 joined,← List.flatten_cons]

namespace Grouping

variable {words : List (List Char)} {groups : List (List (List Char))}
  (grouping : Grouping words groups)

include grouping

theorem isAcronym_of_mem {group : List (List Char)} (member : group ∈ groups) :
    isAcronym group.flatten = group.all isAcronym :=
  isAcronym_flatten (ne_of_mem_of_not_mem member grouping.full) (grouping.alike group member)

theorem isChain_flatten : (groups.map List.flatten).IsChain fun a b =>
    ¬(isAcronym a = true ∧ isAcronym b = true) := by
  rw [List.isChain_map]
  refine (List.IsChain.iff_of_mem_imp fun front back here next => ?_).mpr grouping.maximal
  rw [grouping.isAcronym_of_mem here,grouping.isAcronym_of_mem next]

omit grouping in
theorem tail {group : List (List Char)} {rest : List (List (List Char))}
    (grouping : Grouping words (group :: rest)) : Grouping rest.flatten rest :=
  ⟨rfl,fun member => grouping.full (List.mem_cons_of_mem group member),
    fun other member => grouping.alike other (List.mem_cons_of_mem group member),
    grouping.maximal.tail⟩

/-- Gluing joins each group. -/
theorem glueAcronyms_eq : glueAcronyms words = groups.map List.flatten := by
  induction groups generalizing words with
  | nil =>
    obtain rfl := grouping.whole
    rfl
  | cons group rest ih =>
    have behind := ih grouping.tail
    have apart := (List.isChain_cons.mp grouping.isChain_flatten).1
    have joined : group.foldr attachFront (rest.map List.flatten) =
        attachFront group.flatten (rest.map List.flatten) := by
      rcases grouping.alike group List.mem_cons_self with acronyms | ⟨word,rfl⟩
      · have full := ne_of_mem_of_not_mem List.mem_cons_self grouping.full
        exact foldr_attachFront_of_all full acronyms _
      · simp
    rw [glueAcronyms_eq_foldr] at behind
    rw [glueAcronyms_eq_foldr,← grouping.whole,List.flatten_cons,List.foldr_append,behind,joined,
      attachFront_of_apart apart,List.map_cons]

end Grouping

/-- Words of any kind are glued group by group, where the groups are the one grouping there is.
Nothing of the words is lost, no two acronyms are left side by side, gluing once more changes
nothing, and gluing from the right is the same. -/
theorem glueAcronyms_grouping (words : List (List Char)) :
    ∃ groups, Grouping words groups ∧ (∀ other, Grouping words other → other = groups) ∧
      glueAcronyms words = groups.map List.flatten ∧
      (glueAcronyms words).flatten = words.flatten ∧
      ((glueAcronyms words).IsChain fun a b => ¬(isAcronym a = true ∧ isAcronym b = true)) ∧
      glueAcronyms (glueAcronyms words) = glueAcronyms words ∧
      glueAcronyms words = words.foldr attachFront [] := by
  have grouping := grouping_iff.mpr (Eq.refl (words.splitBy fun a b => isAcronym a && isAcronym b))
  have glued := grouping.glueAcronyms_eq
  have apart := grouping.isChain_flatten
  rw [← glued] at apart
  refine ⟨_,grouping,fun other also => ((grouping_iff.mp also).symm),glued,?_,apart,
    glueAcronyms_of_isChain apart,glueAcronyms_eq_foldr words⟩
  rw [glued,← List.flatten_flatten,grouping.whole]

/-- An empty word is no acronym, so it keeps those around it apart. -/
example : glueAcronyms [['A'],['B'],[],['C'],['d'],['E'],['F']] =
    [['A','B'],[],['C'],['d'],['E','F']] := by
  decide

end Orthography.Identifier
