import Mathlib.Data.List.DropRight
import Orthography.Text.Blank

/-! Texts cut at a separator, and trimmed. Either is done to the two sides of a separator apart,
so that what is known of parts and of blanks is known of the whole. -/
namespace Orthography.Text

section Parts

variable {separator : Char}

theorem splitAt_of_not_mem {cs : List Char} (absent : separator ∉ cs) :
    splitAt separator cs = [cs] := by
  induction cs with
  | nil => rfl
  | cons c rest ih =>
    rw [List.mem_cons,not_or] at absent
    simp [splitAt,Ne.symm absent.1,ih absent.2]

/-- What is in front of a separator and what is behind it are cut independently. -/
theorem splitAt_append_cons (front back : List Char) :
    splitAt separator (front ++ separator :: back) =
      splitAt separator front ++ splitAt separator back := by
  induction front with
  | nil => simp [splitAt]
  | cons c front ih =>
    obtain ⟨part,parts,cut⟩ := List.exists_cons_of_ne_nil (splitAt_ne_nil separator front)
    by_cases here : c = separator
    · simp [splitAt,here,ih]
    · simp [splitAt,here,ih,cut]

theorem not_mem_of_mem_splitAt {cs part : List Char} (member : part ∈ splitAt separator cs) :
    separator ∉ part := by
  induction cs generalizing part with
  | nil =>
    obtain rfl := List.mem_singleton.mp member
    exact List.not_mem_nil
  | cons c rest ih =>
    obtain ⟨first,others,cut⟩ := List.exists_cons_of_ne_nil (splitAt_ne_nil separator rest)
    by_cases here : c = separator
    · rw [splitAt,if_pos here] at member
      rcases List.mem_cons.mp member with rfl | later
      · exact List.not_mem_nil
      · exact ih later
    · simp only [splitAt,if_neg here,cut] at member
      rcases List.mem_cons.mp member with rfl | later
      · rw [List.mem_cons,not_or]
        exact ⟨Ne.symm here,ih (cut ▸ List.mem_cons_self)⟩
      · exact ih (cut ▸ List.mem_cons_of_mem first later)

theorem length_splitAt (cs : List Char) :
    (splitAt separator cs).length = cs.count separator + 1 := by
  induction cs with
  | nil => rfl
  | cons c rest ih =>
    obtain ⟨part,parts,cut⟩ := List.exists_cons_of_ne_nil (splitAt_ne_nil separator rest)
    rw [cut] at ih
    by_cases here : c = separator
    · simp [splitAt,here,cut,← ih]
    · simpa [splitAt,here,cut] using ih

/-- Lines that are each ended by a separator are cut into the parts of all lines. Behind the last
separator there is nothing. -/
theorem splitAt_flatMap_lines (lines : List (List Char)) :
    splitAt separator (lines.flatMap (· ++ [separator])) =
      lines.flatMap (splitAt separator) ++ [[]] := by
  induction lines with
  | nil => rfl
  | cons line rest ih =>
    rw [List.flatMap_cons,List.append_assoc,List.singleton_append,splitAt_append_cons,ih,
      List.flatMap_cons,List.append_assoc]

theorem flatMap_splitAt {lines : List (List Char)} (whole : ∀ line ∈ lines, separator ∉ line) :
    lines.flatMap (splitAt separator) = lines := by
  induction lines with
  | nil => rfl
  | cons line rest ih =>
    obtain ⟨here,later⟩ := List.forall_mem_cons.mp whole
    rw [List.flatMap_cons,splitAt_of_not_mem here,ih later,List.singleton_append]

theorem length_le_length_flatMap_splitAt (lines : List (List Char)) :
    lines.length ≤ (lines.flatMap (splitAt separator)).length := by
  induction lines with
  | nil => rfl
  | cons line rest ih =>
    rw [List.flatMap_cons,List.length_append,length_splitAt,List.length_cons]
    omega

/-- Lines with a separator in them have more parts than there are lines. -/
theorem length_flatMap_splitAt_le_iff {lines : List (List Char)} :
    (lines.flatMap (splitAt separator)).length ≤ lines.length ↔
      ∀ line ∈ lines, separator ∉ line := by
  refine ⟨fun few => ?_,fun whole => (congrArg List.length (flatMap_splitAt whole)).le⟩
  induction lines with
  | nil => exact List.forall_mem_nil _
  | cons line rest ih =>
    rw [List.flatMap_cons,List.length_append,length_splitAt,List.length_cons] at few
    have others := @length_le_length_flatMap_splitAt separator rest
    have here : line.count separator = 0 := by omega
    exact List.forall_mem_cons.mpr ⟨List.count_eq_zero.mp here,ih (by omega)⟩

theorem not_mem_toDigits (other : separator.isDigit = false) (n : Nat) :
    separator ∉ Nat.toDigits 10 n := by
  intro member
  rw [Nat.isDigit_of_mem_toDigits (by decide) (by decide) member] at other
  exact nomatch other

theorem not_mem_toString (other : separator.isDigit = false) (n : Nat) :
    separator ∉ (toString n).toList := by
  rw [Nat.toString_eq_repr,Nat.toList_repr]
  exact not_mem_toDigits other n

/-- What stands in joined texts stands in one of them, or between them. -/
theorem mem_or_of_mem_intercalate {between : String} {texts : List String} {c : Char}
    (member : c ∈ (between.intercalate texts).toList) :
    c ∈ between.toList ∨ ∃ text ∈ texts, c ∈ text.toList := by
  induction texts with
  | nil => simp at member
  | cons text rest ih =>
    cases rest with
    | nil =>
      rw [String.intercalate_singleton] at member
      exact .inr ⟨text,List.mem_cons_self,member⟩
    | cons next rest =>
      simp only [String.intercalate_cons_cons,String.toList_append,List.mem_append] at member
      rcases member with (here | separating) | later
      · exact .inr ⟨text,List.mem_cons_self,here⟩
      · exact .inl separating
      · exact (ih later).imp id fun ⟨other,among,inside⟩ =>
          ⟨other,List.mem_cons_of_mem text among,inside⟩

end Parts

theorem allBlank_iff {cs : List Char} : allBlank cs = true ↔ ∀ c ∈ cs, isBlank c = true :=
  List.all_eq_true

theorem allBlank_reverse (cs : List Char) : allBlank cs.reverse = allBlank cs := by
  simp [allBlank]

theorem trimChars_blanks_append {front : List Char} (blank : allBlank front = true)
    (cs : List Char) : trimChars (front ++ cs) = trimChars cs := by
  rw [trimChars,List.dropWhile_append_of_pos (allBlank_iff.mp blank),trimChars]

theorem trimChars_append_blanks (cs : List Char) {back : List Char}
    (blank : allBlank back = true) : trimChars (cs ++ back) = trimChars cs := by
  have nothing : back.dropWhile isBlank = [] :=
    List.dropWhile_eq_nil_iff.mpr (allBlank_iff.mp blank)
  have backwards : ∀ c ∈ back.reverse, isBlank c = true :=
    allBlank_iff.mp ((allBlank_reverse back).trans blank)
  rw [trimChars,trimChars,List.dropWhile_append]
  by_cases hidden : (cs.dropWhile isBlank).isEmpty
  · simp [nothing,List.isEmpty_iff.mp hidden]
  · rw [if_neg hidden,List.reverse_append,List.dropWhile_append_of_pos backwards]

theorem exists_blanks_trimChars (cs : List Char) :
    ∃ front back, allBlank front = true ∧ allBlank back = true ∧
      cs = front ++ trimChars cs ++ back := by
  let rest := cs.dropWhile isBlank
  refine ⟨cs.takeWhile isBlank,(rest.reverse.takeWhile isBlank).reverse,?_,?_,?_⟩
  · exact allBlank_iff.mpr fun c member => List.mem_takeWhile_imp member
  · rw [allBlank_reverse]
    exact allBlank_iff.mpr fun c member => List.mem_takeWhile_imp member
  · rw [trimChars,List.append_assoc,← List.reverse_append,List.takeWhile_append_dropWhile,
      List.reverse_reverse,List.takeWhile_append_dropWhile]

theorem trimChars_trimChars (cs : List Char) : trimChars (trimChars cs) = trimChars cs := by
  obtain ⟨front,back,before,behind,whole⟩ := exists_blanks_trimChars cs
  conv_rhs => rw [whole]
  rw [trimChars_append_blanks _ behind,trimChars_blanks_append before]

theorem trimChars_of_allBlank {cs : List Char} (blank : allBlank cs = true) :
    trimChars cs = [] := by
  rw [← List.append_nil cs,trimChars_blanks_append blank]
  rfl

/-- A trimmed text does not begin with a blank. -/
theorem dropWhile_trimChars (cs : List Char) :
    (trimChars cs).dropWhile isBlank = trimChars cs := by
  have front : trimChars cs <+: cs.dropWhile isBlank := List.rdropWhile_prefix isBlank _
  cases trimmed : trimChars cs with
  | nil => rfl
  | cons c rest =>
    rw [trimmed] at front
    obtain ⟨behind,whole⟩ := front
    have settled : (c :: (rest ++ behind)).dropWhile isBlank = c :: (rest ++ behind) := by
      rw [← List.cons_append,whole,List.dropWhile_idempotent]
    by_cases blank : isBlank c = true
    · rw [List.dropWhile_cons_of_pos blank] at settled
      have shorter := (List.dropWhile_sublist isBlank (l := rest ++ behind)).length_le
      rw [settled,List.length_cons] at shorter
      omega
    · exact List.dropWhile_cons_of_neg blank

/-- What is shown stays, with all that is in front of it but the leading blanks. -/
theorem exists_trimChars_append_cons (cs : List Char) {c : Char} (shown : isBlank c = false)
    (rest : List Char) :
    ∃ kept, trimChars (cs ++ c :: rest) = cs.dropWhile isBlank ++ c :: kept := by
  have dropped (front back : List Char) :
      (front ++ c :: back).dropWhile isBlank = front.dropWhile isBlank ++ c :: back := by
    rw [List.dropWhile_append,List.dropWhile_cons_of_neg (by simp [shown])]
    split
    next hidden => rw [List.isEmpty_iff.mp hidden,List.nil_append]
    next => rfl
  refine ⟨(rest.reverse.dropWhile isBlank).reverse,?_⟩
  rw [trimChars,dropped]
  simp [dropped]

end Orthography.Text
