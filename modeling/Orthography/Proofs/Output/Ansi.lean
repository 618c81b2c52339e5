import Mathlib.Data.List.Forall2
import Orthography.Output.Ansi

/-! Styles erased from a text. What was put in styles is left as it was before, whatever stands
around it, as long as it had no escape characters of its own. -/
namespace Orthography.Output

def isStyleNumber (c : Char) : Bool := c.isDigit || c = ';'

def behindStyle? : List Char → Option (List Char)
  | '\x1b' :: '[' :: rest =>
    match rest.dropWhile isStyleNumber with
    | 'm' :: behind => some behind
    | _ => none
  | _ => none

theorem length_lt_of_behindStyle? {cs behind : List Char} (begins : behindStyle? cs = some behind) :
    behind.length < cs.length := by
  unfold behindStyle? at begins
  split at begins
  next rest =>
    have shorter := (List.dropWhile_sublist isStyleNumber (l := rest)).length_le
    split at begins
    next after =>
      obtain rfl := Option.some.inj begins
      rw [after] at shorter
      simp only [List.length_cons] at shorter ⊢
      omega
    next => cases begins
  next => cases begins

def unstyled (cs : List Char) : List Char :=
  match cs with
  | [] => []
  | c :: rest =>
    match _ : behindStyle? (c :: rest) with
    | some behind => unstyled behind
    | none => c :: unstyled rest
termination_by cs.length
decreasing_by
  · exact length_lt_of_behindStyle? ‹_›
  · exact Nat.lt_succ_self _

def escape : Char := '\x1b'

theorem unstyled_cons_of_ne {c : Char} (other : c ≠ escape) (rest : List Char) :
    unstyled (c :: rest) = c :: unstyled rest := by
  have begins : behindStyle? (c :: rest) = none := by
    unfold behindStyle?
    split
    next same => exact absurd (List.cons.inj same).1 other
    next => rfl
  rw [unstyled]
  split
  next found => cases begins.symm.trans found
  next => rfl

theorem unstyled_append_of_not_mem {cs : List Char} (free : escape ∉ cs) (behind : List Char) :
    unstyled (cs ++ behind) = cs ++ unstyled behind := by
  induction cs with
  | nil => rfl
  | cons c rest ih =>
    obtain ⟨other,free⟩ := not_or.mp (List.mem_cons.not.mp free)
    rw [List.cons_append,unstyled_cons_of_ne (Ne.symm other),ih free,List.cons_append]

/-- A style sequence is erased, whatever follows it. -/
theorem unstyled_sequence {numbers : List Char} (each : ∀ c ∈ numbers, isStyleNumber c = true)
    (behind : List Char) :
    unstyled (escape :: '[' :: (numbers ++ 'm' :: behind)) = unstyled behind := by
  have upTo : (numbers ++ 'm' :: behind).dropWhile isStyleNumber = 'm' :: behind := by
    rw [List.dropWhile_append_of_pos each]
    rfl
  have begins : behindStyle? (escape :: '[' :: (numbers ++ 'm' :: behind)) = some behind := by
    simp only [behindStyle?,escape,upTo]
  rw [unstyled]
  split
  next found => rw [Option.some.inj (found.symm.trans begins)]
  next found => cases begins.symm.trans found

/-- A text that is another one with style sequences put into it. The other one has no escape
characters, and it is what is left when the sequences are erased, whatever follows. -/
structure Styles (written plain : String) : Prop where
  free : escape ∉ plain.toList
  erased : ∀ behind, unstyled (written.toList ++ behind) = plain.toList ++ unstyled behind

namespace Styles

variable {written plain : String}

theorem refl (free : escape ∉ plain.toList) : Styles plain plain :=
  ⟨free,unstyled_append_of_not_mem free⟩

theorem append {after afterPlain : String} (front : Styles written plain)
    (back : Styles after afterPlain) : Styles (written ++ after) (plain ++ afterPlain) := by
  constructor
  · simp [front.free,back.free]
  · intro behind
    simp only [String.toList_append,List.append_assoc,front.erased,back.erased]

theorem intercalate {separator : String} (free : escape ∉ separator.toList)
    {texts plainTexts : List String} (each : List.Forall₂ Styles texts plainTexts) :
    Styles (separator.intercalate texts) (separator.intercalate plainTexts) := by
  induction each with
  | nil => exact refl (@List.not_mem_nil _ escape)
  | @cons text plainText rest plainRest first others ih =>
    cases others with
    | nil => simpa using first
    | cons _ _ =>
      simp only [String.intercalate_cons_cons]
      exact (first.append (refl free)).append ih

theorem intercalate_map {α : Type} {separator : String} (free : escape ∉ separator.toList)
    {shown shownPlain : α → String} {items : List α}
    (each : ∀ item ∈ items, Styles (shown item) (shownPlain item)) :
    Styles (separator.intercalate (items.map shown))
      (separator.intercalate (items.map shownPlain)) := by
  apply intercalate free
  rw [List.forall₂_map_left_iff,List.forall₂_map_right_iff,List.forall₂_same]
  exact each

theorem unstyled_eq (styles : Styles written plain) :
    String.ofList (unstyled written.toList) = plain := by
  have whole := styles.erased []
  rw [List.append_nil] at whole
  rw [whole,unstyled,List.append_nil,String.ofList_toList]

end Styles

namespace Ink

theorem isStyleNumber_code (ink : Ink) : ∀ c ∈ ink.code.toList, isStyleNumber c = true :=
  List.all_eq_true.mp (by cases ink <;> decide +kernel)

theorem isStyleNumber_codes (inks : List Ink) :
    ∀ c ∈ (";".intercalate (inks.map code)).toList, isStyleNumber c = true := by
  induction inks with
  | nil => exact List.forall_mem_nil _
  | cons ink rest ih =>
    cases rest with
    | nil => simpa using isStyleNumber_code ink
    | cons next rest =>
      simp only [List.map_cons,String.intercalate_cons_cons,String.toList_append] at ih ⊢
      exact List.forall_mem_append.mpr ⟨List.forall_mem_append.mpr
        ⟨isStyleNumber_code ink,List.forall_mem_singleton.mpr rfl⟩,ih⟩

theorem toList_opening (inks : List Ink) (behind : List Char) :
    (opening inks).toList ++ behind =
      escape :: '[' :: ((";".intercalate (inks.map code)).toList ++ 'm' :: behind) := by
  simp [opening,escape]

theorem toList_closing : closing.toList = [escape,'[','0','m'] := by decide +kernel

/-- A text without escape characters never turns styles off. -/
theorem reopen_of_not_mem (opening : List Char) {cs : List Char} (free : escape ∉ cs) (fuel : Nat) :
    reopen opening fuel cs = cs := by
  induction fuel generalizing cs with
  | zero => rfl
  | succ fuel ih =>
    cases cs with
    | nil => rfl
    | cons c rest =>
      obtain ⟨other,free⟩ := not_or.mp (List.mem_cons.not.mp free)
      have begins : closing.toList.isPrefixOf (c :: rest) = false := by
        rw [toList_closing,List.isPrefixOf_cons_cons,beq_eq_false_iff_ne.mpr other,Bool.false_and]
      rw [reopen,begins,ih free]
      rfl

theorem styles_paint (colored : Bool) (inks : List Ink) {text : String}
    (free : escape ∉ text.toList) : Styles (paint colored inks text) text := by
  cases colored with
  | false => exact .refl free
  | true =>
    refine ⟨free,fun behind => ?_⟩
    have zero : ∀ c ∈ ['0'], isStyleNumber c = true := List.forall_mem_singleton.mpr rfl
    simp only [paint,if_true,String.toList_append,String.toList_ofList,reopen_of_not_mem _ free,
      toList_closing,List.append_assoc]
    rw [toList_opening,unstyled_sequence (isStyleNumber_codes inks),
      unstyled_append_of_not_mem free]
    exact congrArg _ (unstyled_sequence zero behind)

end Ink
end Orthography.Output
