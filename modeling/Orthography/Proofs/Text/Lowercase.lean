import Mathlib
import Orthography.Text.Blank
import Orthography.Text.Letter
import Orthography.Text.Lowercase

/-! Lower case. Taken once more it changes nothing, whether a text has a letter can be told from
it, and it is the same for texts that differ in the case of ASCII letters only. -/
namespace Orthography.Text

section Run

def Run.isAlternate (run : Run) : Bool := run.step == 2 || run.first == run.last

/-- Runs that do not meet: one lies behind the other, or one is even and the other odd. -/
def Run.isApart (a b : Run) : Bool :=
  a.last.blt b.first || b.last.blt a.first ||
    (a.isAlternate && b.isAlternate && a.first % 2 != b.first % 2)

/-- A table has all of a run, mostly by one run of its own without gaps. -/
def Run.isWithin (run : Run) (table : List Run) : Bool :=
  table.any (fun whole => run.last.ble whole.last && whole.first.ble run.first && whole.step == 1) ||
    (List.range' run.first ((run.last - run.first) / run.step + 1) run.step).all (among table)

theorem Run.has_iff {run : Run} {code : Nat} : run.has code = true ↔
    run.first ≤ code ∧ code ≤ run.last ∧ (code - run.first) % run.step = 0 := by
  simp [Run.has,and_assoc]

theorem Run.mod_two_of_has {run : Run} {code : Nat} (alternate : run.isAlternate = true)
    (inside : run.has code = true) : code % 2 = run.first % 2 := by
  obtain ⟨low,high,step⟩ := has_iff.mp inside
  simp only [isAlternate,Bool.or_eq_true,beq_iff_eq] at alternate
  rcases alternate with two | single
  · rw [two] at step
    omega
  · omega

theorem Run.has_of_isApart {a b : Run} {code : Nat} (apart : a.isApart b = true)
    (inside : a.has code = true) : b.has code = false := by
  apply Bool.eq_false_iff.mpr
  intro other
  have first := has_iff.mp inside
  have second := has_iff.mp other
  simp only [isApart,Bool.or_eq_true,Bool.and_eq_true,Nat.blt_eq,bne_iff_ne] at apart
  rcases apart with (behind | before) | ⟨⟨firstAlternate,secondAlternate⟩,differ⟩
  · omega
  · omega
  · rw [← mod_two_of_has firstAlternate inside,mod_two_of_has secondAlternate other] at differ
    exact differ rfl

theorem Run.among_of_isApart {run : Run} {table : List Run} {code : Nat}
    (apart : table.all run.isApart = true) (inside : run.has code = true) :
    among table code = false :=
  List.any_eq_false.mpr fun other member =>
    Bool.eq_false_iff.mp (has_of_isApart (List.all_eq_true.mp apart other member) inside)

theorem Run.among_of_isWithin {run : Run} {table : List Run} {code : Nat}
    (within : run.isWithin table = true) (inside : run.has code = true) :
    among table code = true := by
  obtain ⟨low,high,step⟩ := has_iff.mp inside
  simp only [isWithin,Bool.or_eq_true,List.any_eq_true,Bool.and_eq_true,Nat.ble_eq,
    beq_iff_eq] at within
  rcases within with ⟨whole,member,⟨last,first⟩,dense⟩ | listed
  · refine among_iff.mpr ⟨whole,member,has_iff.mpr ⟨by omega,by omega,?_⟩⟩
    rw [dense,Nat.mod_one]
  · apply List.all_eq_true.mp listed
    refine List.mem_range'.mpr ⟨(code - run.first) / run.step,?_,?_⟩
    · have := Nat.div_le_div_right (c := run.step) (Nat.sub_le_sub_right high run.first)
      omega
    · have := Nat.mul_div_cancel' (Nat.dvd_of_mod_eq_zero step)
      omega

end Run

section Ascii

theorem isUpper_iff {c : Char} : c.isUpper = true ↔ 0x41 ≤ c.toNat ∧ c.toNat ≤ 0x5A := by
  simp only [Char.isUpper,decide_eq_true_eq]
  rfl

/-- What is the same for the two cases of each ASCII letter is the same after a change of case. -/
theorem congr_toLower {α : Type} {f : Char → α}
    (alike : ∀ n < 26, f (Char.ofNat (0x41 + n + 32)) = f (Char.ofNat (0x41 + n))) (c : Char) :
    f c.toLower = f c := by
  by_cases upper : c.isUpper
  · obtain ⟨low,high⟩ := isUpper_iff.mp upper
    have same := alike (c.toNat - 0x41) (by omega)
    rwa [Nat.add_sub_cancel' low,Char.ofNat_toNat,← Char.toLower_eq_of_isUpper upper] at same
  · rw [Char.toLower_eq_of_not_isUpper upper]

theorem ascii_alike : ∀ n < 26, let capital := Char.ofNat (0x41 + n)
    let small := Char.ofNat (0x41 + n + 32)
    isBlank small = isBlank capital ∧ isLetter small = isLetter capital ∧
      isCased small = isCased capital ∧ lowerChar small = lowerChar capital := by
  decide +kernel

theorem isBlank_toLower (c : Char) : isBlank c.toLower = isBlank c :=
  congr_toLower (fun n bound => (ascii_alike n bound).1) c

theorem isLetter_toLower (c : Char) : isLetter c.toLower = isLetter c :=
  congr_toLower (fun n bound => (ascii_alike n bound).2.1) c

theorem isCased_toLower (c : Char) : isCased c.toLower = isCased c :=
  congr_toLower (fun n bound => (ascii_alike n bound).2.2.1) c

theorem lowerChar_toLower (c : Char) : lowerChar c.toLower = lowerChar c :=
  congr_toLower (fun n bound => (ascii_alike n bound).2.2.2) c

/-- A letter of ASCII is never skipped, whatever its case. -/
theorem isCaseIgnorable_toLower (c : Char) : isCaseIgnorable c.toLower = isCaseIgnorable c := by
  have ⟨capitals,smalls⟩ : caseIgnorable.all (Run.isApart ⟨0x41,0x5A,1⟩) = true ∧
      caseIgnorable.all (Run.isApart ⟨0x61,0x7A,1⟩) = true := by decide +kernel
  apply congr_toLower
  intro n bound
  have inRun (first : Nat) : Run.has ⟨first,first + 25,1⟩ (first + n) = true :=
    Run.has_iff.mpr ⟨by simp only; omega,by simp only; omega,Nat.mod_one _⟩
  have code (first : Nat) (ascii : first ≤ 0x61) : (Char.ofNat (first + n)).toNat = first + n := by
    rw [Char.toNat_ofNat,if_pos (.inl (by omega))]
  rw [Nat.add_right_comm,isCaseIgnorable,isCaseIgnorable,code _ (by decide),code _ (by decide),
    Run.among_of_isApart capitals (inRun 0x41),Run.among_of_isApart smalls (inRun 0x61)]

end Ascii

section Special

/-- What the dotted capital and a sigma become is left as it is. -/
theorem lowerChar_special : lowerChar 'i' = ['i'] ∧ lowerChar '\u0307' = ['\u0307'] ∧
    lowerChar 'ς' = ['ς'] ∧ lowerChar 'σ' = ['σ'] ∧ lowerChar 'Σ' ≠ ['Σ'] := by
  decide +kernel

theorem isLetter_special : ['i','\u0307'].any isLetter = isLetter 'İ' ∧
    isLetter 'ς' = isLetter 'Σ' ∧ isLetter 'σ' = isLetter 'Σ' := by
  decide +kernel

theorem lowerSigma_cases (before after : List Char) :
    lowerSigma before after = 'ς' ∨ lowerSigma before after = 'σ' := by
  unfold lowerSigma
  split <;> simp

end Special

section Shift

def Shift.target (shift : Shift) : Run :=
  ⟨(shift.run.first + shift.offset).toNat,(shift.run.last + shift.offset).toNat,shift.run.step⟩

/-- Shifts lead from letters to letters, and to none that is lowered itself. One leads back into
ASCII, to a small letter. -/
theorem shifts_checked :
    shifts.all (fun shift => 0 ≤ shift.run.first + shift.offset && 0x61 ≤ shift.target.first &&
      (shift.target.last < 0xD800 ||
        (0xDFFF < shift.target.first && shift.target.last < 0x110000))) = true ∧
    shifts.all (fun shift => !shift.target.has 'İ'.toNat &&
      shifts.all fun other => shift.target.isApart other.run) = true ∧
    shifts.all (fun shift => shift.run.isWithin letters && (shift.target.last ≤ 0x7A ||
      (0x80 ≤ shift.target.first && shift.target.isWithin letters))) = true := by
  decide +kernel

variable {shift : Shift} (member : shift ∈ shifts) {c : Char}

include member

theorem Shift.has_target (inside : shift.run.has c.toNat = true) :
    shift.target.has (Char.ofNat (c.toNat + shift.offset).toNat).toNat = true := by
  have scalar := List.all_eq_true.mp shifts_checked.1 shift member
  simp only [Bool.and_eq_true,Bool.or_eq_true,decide_eq_true_eq] at scalar
  simp only [target] at scalar
  obtain ⟨low,high,step⟩ := Run.has_iff.mp inside
  have code : (Char.ofNat (c.toNat + shift.offset).toNat).toNat = (c.toNat + shift.offset).toNat := by
    rw [Char.toNat_ofNat,if_pos]
    rcases scalar.2 with below | above
    · exact .inl (by omega)
    · exact .inr (by omega)
  have same : (c.toNat + shift.offset).toNat - (shift.run.first + shift.offset).toNat =
      c.toNat - shift.run.first := by
    omega
  rw [code]
  refine Run.has_iff.mpr ⟨?_,?_,?_⟩
  · simp only [target]
    omega
  · simp only [target]
    omega
  · rw [target,same,step]

theorem Shift.isLetter_of_run (inside : shift.run.has c.toNat = true)
    (beyond : ¬c.toNat < 0x80) : isLetter c = true := by
  have within := List.all_eq_true.mp shifts_checked.2.2 shift member
  rw [Bool.and_eq_true] at within
  rw [isLetter,if_neg beyond,Run.among_of_isWithin within.1 inside]

theorem Shift.isLetter_of_target (there : shift.target.has c.toNat = true) :
    isLetter c = true := by
  have within := List.all_eq_true.mp shifts_checked.2.2 shift member
  have scalar := List.all_eq_true.mp shifts_checked.1 shift member
  simp only [Bool.and_eq_true,Bool.or_eq_true,decide_eq_true_eq] at within scalar
  obtain ⟨low,high,-⟩ := Run.has_iff.mp there
  unfold isLetter
  split
  next ascii =>
    have small : 'a' ≤ c ∧ c ≤ 'z' := ⟨show 0x61 ≤ c.toNat by omega,show c.toNat ≤ 0x7A by omega⟩
    simp [small]
  next beyond =>
    rcases within.2 with ascii | inLetters
    · omega
    · exact Run.among_of_isWithin inLetters.2 there

/-- Where a shift leads nothing is left to lower. -/
theorem Shift.lowerChar_of_target (there : shift.target.has c.toNat = true) :
    lowerChar c = [c] := by
  have apart := List.all_eq_true.mp shifts_checked.2.1 shift member
  have scalar := List.all_eq_true.mp shifts_checked.1 shift member
  simp only [Bool.and_eq_true,decide_eq_true_eq,Bool.not_eq_true'] at apart scalar
  unfold lowerChar
  split
  next ascii =>
    obtain ⟨low,-,-⟩ := Run.has_iff.mp there
    have small : ¬c.isUpper = true := by
      rw [isUpper_iff]
      omega
    rw [Char.toLower_eq_of_not_isUpper small]
  next beyond =>
    have undotted : c ≠ 'İ' := by
      rintro rfl
      rw [apart.1] at there
      cases there
    have unmoved : shifts.find? (fun other => other.run.has c.toNat) = none :=
      List.find?_eq_none.mpr fun other found =>
        Bool.eq_false_iff.mp (Run.has_of_isApart (List.all_eq_true.mp apart.2 other found) there)
    rw [if_neg undotted,unmoved]

end Shift

inductive Lowers (c : Char) : List Char → Prop
  | ascii (within : c.toNat < 0x80) : Lowers c [c.toLower]
  | dotted (capital : c = 'İ') : Lowers c ['i','\u0307']
  | moved {shift : Shift} {d : Char} (member : shift ∈ shifts) (beyond : ¬c.toNat < 0x80)
      (inside : shift.run.has c.toNat = true) (there : shift.target.has d.toNat = true) :
      Lowers c [d]
  | kept (own : lowerChar c = [c]) : Lowers c [c]

theorem lowers_lowerChar (c : Char) : Lowers c (lowerChar c) := by
  by_cases within : c.toNat < 0x80
  · rw [lowerChar,if_pos within]
    exact .ascii within
  by_cases capital : c = 'İ'
  · rw [lowerChar,if_neg within,if_pos capital]
    exact .dotted capital
  cases found : shifts.find? (·.run.has c.toNat) with
  | none =>
    have own : lowerChar c = [c] := by rw [lowerChar,if_neg within,if_neg capital,found]
    rw [own]
    exact .kept own
  | some shift =>
    have member := List.mem_of_find?_eq_some found
    have inside := List.find?_some found
    rw [lowerChar,if_neg within,if_neg capital,found]
    exact .moved member within inside (Shift.has_target member inside)

/-- What a character is lowered to is its own lower case. -/
theorem Lowers.lowerChar_of_mem {c d : Char} {lowered : List Char} (lowers : Lowers c lowered)
    (member : d ∈ lowered) : lowerChar d = [d] := by
  cases lowers with
  | ascii within =>
    rw [List.mem_singleton.mp member,lowerChar_toLower,lowerChar,if_pos within]
  | dotted capital =>
    rcases List.mem_pair.mp member with rfl | rfl
    · exact lowerChar_special.1
    · exact lowerChar_special.2.1
  | moved found beyond inside there =>
    rw [List.mem_singleton.mp member,Shift.lowerChar_of_target found there]
  | kept own => rw [List.mem_singleton.mp member,own]

/-- There is a letter in it exactly if the character is one. -/
theorem Lowers.any_isLetter {c : Char} {lowered : List Char} (lowers : Lowers c lowered) :
    lowered.any isLetter = isLetter c := by
  cases lowers with
  | ascii within => simp [isLetter_toLower]
  | dotted capital =>
    rw [capital]
    exact isLetter_special.1
  | moved found beyond inside there =>
    simp [Shift.isLetter_of_run found inside beyond,Shift.isLetter_of_target found there]
  | kept own => simp

/-- A lowered text is made of characters that are their own lower case. -/
theorem lowerChar_of_mem_lowerAfter {before cs : List Char} {d : Char}
    (member : d ∈ lowerAfter before cs) : lowerChar d = [d] := by
  induction cs generalizing before with
  | nil => cases member
  | cons c rest ih =>
    rw [lowerAfter,List.mem_append] at member
    rcases member with here | later
    · by_cases sigma : c = 'Σ'
      · rw [if_pos sigma,List.mem_singleton] at here
        obtain ⟨-,-,last,inside,-⟩ := lowerChar_special
        rcases lowerSigma_cases before rest with final | inner
        · rw [here,final,last]
        · rw [here,inner,inside]
      · rw [if_neg sigma] at here
        exact (lowers_lowerChar c).lowerChar_of_mem here
    · exact ih later

/-- They are kept, for none of them is a capital sigma, which alone looks around. -/
theorem lowerAfter_of_forall {before cs : List Char} (own : ∀ c ∈ cs, lowerChar c = [c]) :
    lowerAfter before cs = cs := by
  induction cs generalizing before with
  | nil => rfl
  | cons c rest ih =>
    obtain ⟨first,others⟩ := List.forall_mem_cons.mp own
    have noSigma : c ≠ 'Σ' := by
      rintro rfl
      exact lowerChar_special.2.2.2.2 first
    rw [lowerAfter_cons_of_ne noSigma,first,ih others,List.singleton_append]

theorem lower_lower (text : String) : lower (lower text) = lower text := by
  apply String.toList_injective
  rw [toList_lower,toList_lower]
  exact lowerAfter_of_forall fun c member => lowerChar_of_mem_lowerAfter member

theorem any_isLetter_lowerAfter (before cs : List Char) :
    (lowerAfter before cs).any isLetter = cs.any isLetter := by
  induction cs generalizing before with
  | nil => rfl
  | cons c rest ih =>
    rw [lowerAfter,List.any_append,ih,List.any_cons]
    congr 1
    by_cases sigma : c = 'Σ'
    · rw [if_pos sigma,sigma,List.any_cons,List.any_nil,Bool.or_false]
      rcases lowerSigma_cases before rest with final | inner
      · rw [final,isLetter_special.2.1]
      · rw [inner,isLetter_special.2.2]
    · rw [if_neg sigma,(lowers_lowerChar c).any_isLetter]

theorem any_isLetter_lower (text : String) :
    (lower text).toList.any isLetter = text.toList.any isLetter := by
  rw [toList_lower,lowerChars,any_isLetter_lowerAfter]

section Recased

theorem toList_toLower (text : String) : text.toLower.toList = text.toList.map Char.toLower :=
  String.toList_map

theorem toLower_eq_iff {c d : Char} (noLetter : ¬d.isAlpha) : c.toLower = d ↔ c = d := by
  by_cases upper : c.isUpper
  · have letter : c.isAlpha = true := by simp [Char.isAlpha,upper]
    constructor
    · rintro rfl
      rw [Char.isAlpha_toLower_eq_isAlpha] at noLetter
      exact absurd letter noLetter
    · rintro rfl
      exact absurd letter noLetter
  · rw [Char.toLower_eq_of_not_isUpper upper]

theorem any_isLetter_toLower (text : String) :
    text.toLower.toList.any isLetter = text.toList.any isLetter := by
  have same : isLetter ∘ Char.toLower = isLetter := funext isLetter_toLower
  rw [toList_toLower,List.any_map,same]

theorem meetsCased_map_toLower (cs : List Char) :
    meetsCased (cs.map Char.toLower) = meetsCased cs := by
  have same : isCaseIgnorable ∘ Char.toLower = isCaseIgnorable := funext isCaseIgnorable_toLower
  rw [meetsCased,List.dropWhile_map,same,meetsCased]
  cases cs.dropWhile isCaseIgnorable with
  | nil => rfl
  | cons c rest => exact isCased_toLower c

/-- A sigma sees the same around it, whatever the case of its neighbours. -/
theorem lowerAfter_map_toLower (before cs : List Char) :
    lowerAfter (before.map Char.toLower) (cs.map Char.toLower) = lowerAfter before cs := by
  induction cs generalizing before with
  | nil => rfl
  | cons c rest ih =>
    have sigma : c.toLower = 'Σ' ↔ c = 'Σ' := toLower_eq_iff (by decide)
    simp only [List.map_cons,lowerAfter,lowerSigma,meetsCased_map_toLower,sigma,lowerChar_toLower]
    rw [← List.map_cons,ih]

theorem lower_toLower (text : String) : lower text.toLower = lower text := by
  apply String.toList_injective
  rw [toList_lower,toList_lower,toList_toLower]
  exact lowerAfter_map_toLower [] text.toList

theorem trimChars_map_toLower (cs : List Char) :
    trimChars (cs.map Char.toLower) = (trimChars cs).map Char.toLower := by
  have same : isBlank ∘ Char.toLower = isBlank := funext isBlank_toLower
  simp only [trimChars,List.dropWhile_map,← List.map_reverse,same]

theorem trim_toLower (text : String) : trim text.toLower = (trim text).toLower := by
  apply String.toList_injective
  rw [trim,String.toList_ofList,toList_toLower,trimChars_map_toLower,toList_toLower,trim,
    String.toList_ofList]

theorem splitAt_map_toLower {separator : Char} (noLetter : ¬separator.isAlpha) (cs : List Char) :
    splitAt separator (cs.map Char.toLower) =
      (splitAt separator cs).map fun part => part.map Char.toLower := by
  induction cs with
  | nil => rfl
  | cons c rest ih =>
    rw [List.map_cons,splitAt,splitAt,ih]
    by_cases here : c = separator
    · rw [if_pos ((toLower_eq_iff noLetter).mpr here),if_pos here]
      rfl
    · rw [if_neg (mt (toLower_eq_iff noLetter).mp here),if_neg here]
      cases splitAt separator rest <;> rfl

/-- Texts that differ in the case of ASCII letters only, each of which may be of either case. -/
def Recased (text other : String) : Prop :=
  List.Forall₂ (fun c d => d = c ∨ d = c.toUpper ∨ d = c.toLower) text.toList other.toList

theorem Recased.toLower_eq {text other : String} (recased : Recased text other) :
    other.toLower = text.toLower := by
  apply String.toList_injective
  rw [toList_toLower,toList_toLower,eq_comm,← List.forall₂_eq_eq_eq,List.forall₂_map_left_iff,
    List.forall₂_map_right_iff]
  refine recased.imp fun c d cases => ?_
  rcases cases with rfl | rfl | rfl
  · rfl
  · exact (Char.toLower_toUpper_eq_toLower c).symm
  · exact (Char.toLower_toLower_eq_toLower c).symm

/-- What takes no notice of the case of ASCII letters is the same for words that are recased. -/
theorem Recased.map_toLower_eq {words others : List String}
    (recased : List.Forall₂ Recased words others) :
    others.map String.toLower = words.map String.toLower := by
  rw [eq_comm,← List.forall₂_eq_eq_eq,List.forall₂_map_left_iff,List.forall₂_map_right_iff]
  exact recased.imp fun word other alike => alike.toLower_eq.symm

end Recased

end Orthography.Text
