import Orthography.Proofs.Identifier.Acronym

/-! Where an identifier is cut. The scan looks at all of the pending word and the gluing at
whole words, but a place is decided by the characters around it: the one in front, the one at
the place and the one behind. -/
namespace Orthography.Identifier

open Text

def holdsAt (test : Char → Bool) (name : List Char) (i : Nat) : Bool := name[i]?.any test

/-- Whether a word starts at a place that is not the beginning: at the first digit of a
number, and at a capital unless it continues an acronym that goes on or ends behind it. -/
def startsAt (name : List Char) (i : Nat) : Bool :=
  (holdsAt isDigit name i && !holdsAt isDigit name (i - 1)) ||
    (holdsAt isCapital name i &&
      !(holdsAt isCapital name (i - 1) &&
        (i + 1 == name.length || holdsAt isCapital name (i + 1) ||
          holdsAt isDigit name (i + 1))))

def bounds (cut : Nat → Bool) (length : Nat) : List Nat :=
  ((List.range length).filter fun i => i == 0 || cut i) ++ [length]

def between {α : Type} (items : List α) (bounds : List Nat) : List (List α) :=
  bounds.zipWith (fun first last => (items.take last).drop first) bounds.tail

def cutAt {α : Type} (cut : Nat → Bool) (items : List α) : List (List α) :=
  between items (bounds cut items.length)

def extend {α : Type} (front : List α) : List (List α) → List (List α)
  | [] => [front]
  | first :: rest => (front ++ first) :: rest

/-- Puts an item in front of segments, as a segment of its own or in the first of them. -/
def push {α : Type} (cut : Bool) (item : α) (segments : List (List α)) : List (List α) :=
  if cut then [item] :: segments else extend [item] segments

section Bounds

variable {α : Type}

theorem bounds_succ (cut : Nat → Bool) (length : Nat) :
    bounds cut (length + 1) =
      0 :: (((List.range length).filter fun i => cut (i + 1)) ++ [length]).map (· + 1) := by
  simp only [bounds,List.range_succ_eq_map,List.filter_cons,List.filter_map]
  simp [Function.comp_def]

/-- Behind the beginning the bounds are those of the rest, of which the first one only
counts if it is a cut. -/
theorem bounds_succ_succ (cut : Nat → Bool) (length : Nat) :
    bounds cut (length + 2) =
      let later := bounds (fun i => cut (i + 1)) (length + 1)
      0 :: (if cut 1 then later else later.tail).map (· + 1) := by
  simp only [bounds_succ (fun i => cut (i + 1)),bounds_succ cut (length + 1),
    List.range_succ_eq_map,List.filter_cons,List.filter_map]
  cases cut 1 <;> simp [Function.comp_def]

@[simp] theorem cutAt_singleton (cut : Nat → Bool) (item : α) :
    cutAt cut [item] = [[item]] := rfl

theorem between_map_succ (item : α) (items : List α) (bounds : List Nat) :
    between (item :: items) (bounds.map (· + 1)) = between items bounds := by
  simp only [between,← List.map_tail,List.zipWith_map,List.take_succ_cons,List.drop_succ_cons]

/-- Cutting as a recursion on the items. -/
theorem cutAt_cons_cons (cut : Nat → Bool) (item next : α) (rest : List α) :
    cutAt cut (item :: next :: rest) =
      push (cut 1) item (cutAt (fun i => cut (i + 1)) (next :: rest)) := by
  have shifted := between_map_succ item (next :: rest)
  simp only [cutAt,List.length_cons,bounds_succ_succ cut rest.length]
  cases h : cut 1 with
  | true =>
    rw [← shifted,bounds_succ]
    simp [push,between]
  | false =>
    cases ends : bounds (fun i => cut (i + 1)) (rest.length + 1) with
    | nil => simp [bounds] at ends
    | cons first others =>
      obtain rfl : first = 0 := by simp [bounds_succ] at ends; exact ends.1.symm
      cases others with
      | nil => simp [bounds_succ] at ends
      | cons last others =>
        have tail := shifted (last :: others)
        simp [between] at tail
        simp [push,extend,between,tail]

theorem ne_nil_of_mem_push {cut : Bool} {item : α} {segments : List (List α)} {segment : List α}
    (full : ∀ other ∈ segments, other ≠ []) (member : segment ∈ push cut item segments) :
    segment ≠ [] := by
  cases segments <;> cases cut <;> simp [push,extend] at member full <;> grind

/-- Only the places behind the beginning matter. -/
theorem cutAt_congr {cut other : Nat → Bool} (same : ∀ i, cut (i + 1) = other (i + 1))
    (items : List α) : cutAt cut items = cutAt other items := by
  have tests : ∀ i, (i == 0 || cut i) = (i == 0 || other i) := by
    intro i
    cases i with
    | zero => rfl
    | succ i => simp [same]
  simp only [cutAt,bounds,tests]

theorem extend_extend (front back : List α) (segments : List (List α)) :
    extend front (extend back segments) = extend (front ++ back) segments := by
  cases segments <;> simp [extend]

end Bounds

/-- No capital is a digit, for no run of the one table meets a run of the other. -/
theorem isDigit_of_isCapital {c : Char} (capital : isCapital c = true) : isDigit c = false := by
  have apart : capitals.all (fun a => digits.all fun b =>
      decide (a.last < b.first ∨ b.last < a.first)) = true := by decide +kernel
  by_cases ascii : c.toNat < 0x80
  · simp only [isCapital,isDigit,if_pos ascii,Bool.and_eq_true,decide_eq_true_eq] at capital ⊢
    have low := capital.1
    have high : ¬c ≤ '9' := fun h => absurd (Char.le_trans low h) (by decide)
    simp [high]
  · simp only [isCapital,isDigit,if_neg ascii,among_iff] at capital ⊢
    apply Bool.eq_false_iff.mpr
    intro digit
    obtain ⟨a,inCapitals,hasA⟩ := capital
    obtain ⟨b,inDigits,hasB⟩ := among_iff.mp digit
    have fromAll := List.all_eq_true.mp apart a inCapitals
    have sides := of_decide_eq_true (List.all_eq_true.mp fromAll b inDigits)
    simp only [Run.has,Bool.and_eq_true,decide_eq_true_eq] at hasA hasB
    omega

def endsAcronym : List Char → Bool
  | [] => true
  | c :: _ => isCapital c || isDigit c

def startsBetween (before c : Char) (behind : List Char) : Bool :=
  (isDigit c && !isDigit before) ||
    (isCapital c && !(isCapital before && endsAcronym behind))

theorem startsAt_one (before c : Char) (behind : List Char) :
    startsAt (before :: c :: behind) 1 = startsBetween before c behind := by
  cases behind <;> simp [startsAt,startsBetween,holdsAt,endsAcronym]

theorem startsAt_succ (c : Char) (name : List Char) (i : Nat) :
    startsAt (c :: name) (i + 2) = startsAt name (i + 1) := by
  simp [startsAt,holdsAt]

/-- Cutting at the starts of words as a recursion on the identifier. -/
theorem cutAt_startsAt (before c : Char) (behind : List Char) :
    cutAt (startsAt (before :: c :: behind)) (before :: c :: behind) =
      push (startsBetween before c behind) before (cutAt (startsAt (c :: behind)) (c :: behind)) := by
  rw [cutAt_cons_cons,startsAt_one]
  congr 1
  exact cutAt_congr (startsAt_succ before (c :: behind)) _

theorem startsWord_append (front : List Char) (c d : Char) :
    startsWord (front ++ [c]) d = (isCapital d || (isDigit d && !isNumeral (front ++ [c]))) := by
  cases capital : isCapital d <;> cases digit : isDigit d <;> simp [startsWord,capital,digit]

theorem startsWord_singleton (c d : Char) :
    startsWord [c] d = (isCapital d || (isDigit d && !isDigit c)) := by
  simpa [isNumeral] using startsWord_append [] c d

/-- Of a pending word only the last character matters: it ends in a digit only if it is a
numeral. -/
theorem scan_append (front : List Char) (c : Char) (name : List Char)
    (numeral : isDigit c = true → front.all isDigit = true) :
    scan (front ++ [c]) name = extend front (scan [c] name) := by
  induction name generalizing front c with
  | nil => simp [scan,extend]
  | cons d rest ih =>
    have same : isNumeral (front ++ [c]) = isDigit c := by
      cases digit : isDigit c with
      | false => simp [isNumeral,digit]
      | true => simpa [isNumeral,digit] using numeral digit
    have alike : startsWord (front ++ [c]) d = startsWord [c] d := by
      rw [startsWord_append,startsWord_singleton,same]
    simp only [scan,alike]
    split
    next => simp [extend]
    next continues =>
      have digits : isDigit d = true → isDigit c = true := by
        intro digit
        simp [startsWord_singleton,digit] at continues
        exact continues.2
      have long := ih (front ++ [c]) d fun digit => by
        simpa [isNumeral,digits digit] using same
      have short := ih [c] d fun digit => by simpa using digits digit
      rw [long,short,extend_extend]

/-- The scan as a recursion on the identifier. -/
theorem scan_cons (c d : Char) (name : List Char) :
    scan [c] (d :: name) = push (startsWord [c] d) c (scan [d] name) := by
  simp only [scan,push]
  split
  next => rfl
  next continues =>
    apply scan_append [c] d
    intro digit
    simp [startsWord_singleton,digit] at continues
    simpa using continues.2

theorem segments_cons (c : Char) (name : List Char) :
    segments (c :: name) = glueAcronyms (scan [c] name) := by
  simp [segments,scan,startsWord]

@[simp] theorem segments_singleton (c : Char) : segments [c] = [[c]] := by
  simp [segments_cons,scan,glueAcronyms_cons,attachFront]

/-- The first word that is scanned begins with the pending character. If that is a capital,
the word is an acronym exactly if what follows ends one. -/
theorem scan_eq_cons (c : Char) (name : List Char) :
    ∃ tail rest, scan [c] name = (c :: tail) :: rest ∧
      (isCapital c = true → isAcronym (c :: tail) = endsAcronym name) := by
  induction name generalizing c with
  | nil => exact ⟨[],[],rfl,by simp [isAcronym,endsAcronym]⟩
  | cons d name ih =>
    rw [scan_cons]
    cases starts : startsWord [c] d with
    | true =>
      refine ⟨[],scan [d] name,rfl,fun capital => ?_⟩
      have noDigit := isDigit_of_isCapital capital
      simp only [startsWord_singleton,noDigit] at starts
      simpa [isAcronym,capital,endsAcronym] using starts
    | false =>
      obtain ⟨tail,rest,eq,_⟩ := ih d
      refine ⟨d :: tail,rest,by simp [push,extend,eq],fun capital => ?_⟩
      have noDigit := isDigit_of_isCapital capital
      simp only [startsWord_singleton,noDigit,Bool.not_false,Bool.and_true,
        Bool.or_eq_false_iff] at starts
      rw [isAcronym_of_mem (by simp) starts.1]
      simp [endsAcronym,starts]

/-- The words of an identifier as a recursion that sees three neighbouring characters. -/
theorem segments_cons_cons (before c : Char) (behind : List Char) :
    segments (before :: c :: behind) =
      push (startsBetween before c behind) before (segments (c :: behind)) := by
  obtain ⟨tail,rest,scanned,ends⟩ := scan_eq_cons c behind
  obtain ⟨first,others,glued,same⟩ := attachFront_eq_cons (c :: tail) (glueAcronyms rest)
  have inner : segments (c :: behind) = first :: others := by
    rw [segments_cons,scanned,glueAcronyms_cons,glued]
  have outer : segments (before :: c :: behind) =
      glueAcronyms (push (startsWord [before] c) before ((c :: tail) :: rest)) := by
    rw [segments_cons,scan_cons,scanned]
  cases capital : isCapital c with
  | true =>
    have starts : startsWord [before] c = true := by simp [startsWord_singleton,capital]
    have last : isAcronym first = endsAcronym behind := same.trans (ends capital)
    have alone : isAcronym [before] = isCapital before := by simp [isAcronym]
    rw [outer,starts,push,if_pos rfl,glueAcronyms_cons,glueAcronyms_cons,glued,inner]
    simp only [attachFront,alone,last,startsBetween,capital,isDigit_of_isCapital capital]
    cases isCapital before && endsAcronym behind <;> simp [push,extend]
  | false =>
    have small : isAcronym (c :: tail) = false := isAcronym_of_mem (by simp) capital
    have rule : startsWord [before] c = startsBetween before c behind := by
      simp [startsWord_singleton,startsBetween,capital]
    have plain : first :: others = (c :: tail) :: glueAcronyms rest := by
      rw [← glued,attachFront_of_not_acronym small]
    rw [outer,rule,inner,plain]
    cases startsBetween before c behind with
    | true =>
      rw [push,if_pos rfl,glueAcronyms_cons,glueAcronyms_cons,attachFront_of_not_acronym small]
      simp [push,attachFront,small]
    | false =>
      have long : isAcronym (before :: c :: tail) = false := isAcronym_of_mem (by simp) capital
      simp [push,extend,glueAcronyms_cons,attachFront_of_not_acronym long]

theorem segments_eq_cutAt (name : List Char) : segments name = cutAt (startsAt name) name := by
  induction name with
  | nil => rfl
  | cons before name ih =>
    cases name with
    | nil => simp
    | cons c behind => rw [segments_cons_cons,cutAt_startsAt,ih]

theorem ne_nil_of_mem_segments {name word : List Char} (member : word ∈ segments name) :
    word ≠ [] := by
  induction name generalizing word with
  | nil => simp at member
  | cons before name ih =>
    cases name with
    | nil =>
      rw [segments_singleton,List.mem_singleton] at member
      simp [member]
    | cons c behind =>
      rw [segments_cons_cons] at member
      exact ne_nil_of_mem_push (fun segment inner => ih inner) member

theorem segments_eq_nil_iff (name : List Char) : segments name = [] ↔ name = [] := by
  constructor
  · intro none
    rw [← flatten_segments name,none,List.flatten_nil]
  · rintro rfl
    rfl

theorem toList_join_map_ofList (parts : List (List Char)) :
    (String.join (parts.map String.ofList)).toList = parts.flatten := by
  rw [String.toList_join,List.flatMap_map]
  simp [List.flatMap]

theorem join_words (name : String) : String.join (words name) = name := by
  apply String.toList_injective
  rw [words,toList_join_map_ofList,flatten_segments]

theorem ne_empty_of_mem_words {name word : String} (member : word ∈ words name) : word ≠ "" := by
  obtain ⟨segment,inner,rfl⟩ := List.mem_map.mp member
  simpa using ne_nil_of_mem_segments inner

theorem exists_split_of_mem_words {name word : String} (member : word ∈ words name) :
    ∃ front back, name.toList = front ++ word.toList ++ back := by
  obtain ⟨segment,inner,rfl⟩ := List.mem_map.mp member
  obtain ⟨before,after,cut⟩ := List.append_of_mem inner
  refine ⟨before.flatten,after.flatten,?_⟩
  rw [← flatten_segments name.toList,cut]
  simp

theorem mem_of_mem_words {name word : String} {c : Char} (member : word ∈ words name)
    (inside : c ∈ word.toList) : c ∈ name.toList := by
  obtain ⟨front,back,cut⟩ := exists_split_of_mem_words member
  rw [cut]
  exact List.mem_append_left back (List.mem_append_right front inside)

theorem words_eq_nil_iff (name : String) : words name = [] ↔ name = "" := by
  simp [words,segments_eq_nil_iff]

/-- The words of an identifier are what is left when it is cut at the starts of words, each of
which three neighbouring characters decide. Nothing is lost, and no word is empty. -/
theorem words_eq_cutAt (name : String) :
    words name = (cutAt (startsAt name.toList) name.toList).map String.ofList ∧
    String.join (words name) = name ∧ (∀ word ∈ words name, word ≠ "") ∧
    (words name = [] ↔ name = "") := by
  refine ⟨?_,join_words name,fun word member => ne_empty_of_mem_words member,
    words_eq_nil_iff name⟩
  rw [words,segments_eq_cutAt]

example : words "HTTPServer2Go" = ["HTTP","Server","2","Go"] := by decide

end Orthography.Identifier
