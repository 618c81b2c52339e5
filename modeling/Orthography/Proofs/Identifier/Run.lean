import Orthography.Proofs.Identifier.Cut

/-! Words in a row. When they are taken out of an identifier, the first of them loses what stood in
front of it and the last one what followed. Neither was needed to cut them. -/
namespace Orthography.Identifier

open Text

def endsAt (c : Char) : List Char → Bool
  | [] => true
  | d :: behind => startsBetween c d behind

theorem segments_cons_eq_push (c : Char) (name : List Char) :
    segments (c :: name) = push (endsAt c name) c (segments name) := by
  cases name with
  | nil => simp [push,endsAt]
  | cons d behind => exact segments_cons_cons c d behind

theorem flatten_push {α : Type} (cut : Bool) (item : α) (segments : List (List α)) :
    (push cut item segments).flatten = item :: segments.flatten := by
  cases cut <;> cases segments <;> simp [push,extend]

/-- A beginning of pushed segments is an item that was pushed to a beginning of those before. -/
theorem exists_append_of_push {α : Type} {cut : Bool} {item : α}
    {segments front back : List (List α)} (full : front ≠ [])
    (split : push cut item segments = front ++ back) :
    ∃ inner, segments = inner ++ back ∧ front = push cut item inner ∧
      (inner = [] → cut = true ∨ back = []) := by
  obtain ⟨first,rest,rfl⟩ := List.exists_cons_of_ne_nil full
  cases cut with
  | true =>
    simp only [push,if_true,List.cons_append,List.cons.injEq] at split
    obtain ⟨rfl,rfl⟩ := split
    exact ⟨rest,rfl,rfl,fun _ => .inl rfl⟩
  | false =>
    cases segments with
    | nil =>
      simp only [push,Bool.false_eq_true,if_false,extend,List.cons_append,List.cons.injEq,
        List.nil_eq,List.append_eq_nil_iff] at split
      obtain ⟨rfl,rfl,rfl⟩ := split
      exact ⟨[],rfl,rfl,fun _ => .inr rfl⟩
    | cons next others =>
      simp only [push,Bool.false_eq_true,if_false,extend,List.cons_append,List.cons.injEq] at split
      obtain ⟨rfl,rfl⟩ := split
      exact ⟨next :: rest,rfl,rfl,by simp⟩

/-- What is behind the end of a word can also end an acronym. -/
theorem endsAcronym_of_endsAt {c : Char} {behind : List Char} (ends : endsAt c behind = true) :
    endsAcronym behind = true := by
  cases behind with
  | nil => rfl
  | cons d behind =>
    simp only [endsAt,startsBetween,Bool.or_eq_true,Bool.and_eq_true] at ends
    rcases ends with starts | starts <;> simp [endsAcronym,starts.1]

/-- Where a word ends is not changed by what is further behind, if an acronym can end there. -/
theorem endsAt_append (c d : Char) (behind : List Char) {later : List Char}
    (ends : endsAcronym later = true) :
    endsAt c (d :: behind ++ later) = endsAt c (d :: behind) := by
  cases behind with
  | nil =>
    have nothing : endsAcronym [] = true := rfl
    simp [endsAt,startsBetween,ends,nothing]
  | cons => rfl

section Edge

variable {name : List Char} {front back : List (List Char)} (split : segments name = front ++ back)

include split

theorem flatten_append_of_segments : front.flatten ++ back.flatten = name := by
  rw [← List.flatten_append,← split,flatten_segments]

theorem endsAcronym_flatten_back (full : front ≠ []) : endsAcronym back.flatten = true := by
  induction name generalizing front with
  | nil => simp_all
  | cons c name ih =>
    rw [segments_cons_eq_push] at split
    obtain ⟨inner,behind,-,alone⟩ := exists_append_of_push full split
    by_cases nothing : inner = []
    · -- the first character is a word by itself, unless nothing is behind it
      rcases alone nothing with ends | rfl
      · rw [← flatten_append_of_segments behind,nothing] at ends
        exact endsAcronym_of_endsAt ends
      · rfl
    · exact ih behind nothing

/-- What is behind an edge between words is cut as if nothing were in front of it. -/
theorem segments_flatten_back : segments back.flatten = back := by
  induction name generalizing front with
  | nil => simp_all
  | cons c name ih =>
    cases front with
    | nil => rw [← List.nil_append back,← split,flatten_segments]
    | cons first rest =>
      rw [segments_cons_eq_push] at split
      obtain ⟨inner,behind,-,-⟩ := exists_append_of_push (by simp) split
      exact ih behind

/-- What is in front of an edge between words is cut as if nothing were behind it. -/
theorem segments_flatten_front : segments front.flatten = front := by
  induction name generalizing front with
  | nil => simp_all
  | cons c name ih =>
    by_cases full : front = []
    · simp [full]
    rw [segments_cons_eq_push] at split
    obtain ⟨inner,behind,rfl,-⟩ := exists_append_of_push full split
    rw [flatten_push,segments_cons_eq_push,ih behind]
    cases shown : inner.flatten with
    | nil =>
      have nothing : inner = [] := by rw [← ih behind,shown,segments_nil]
      simp [nothing,push,extend]
    | cons d more =>
      -- what is cut off stood behind two characters at least, where only an acronym looks
      have later := endsAcronym_flatten_back behind fun nothing => by simp [nothing] at shown
      rw [← flatten_append_of_segments behind,shown,endsAt_append c d more later]

end Edge

theorem segments_flatten_extract (name : List Char) (first last : Nat) :
    segments ((segments name).extract first last).flatten = (segments name).extract first last := by
  have behind : segments ((segments name).drop first).flatten = (segments name).drop first :=
    segments_flatten_back (List.take_append_drop first _).symm
  apply segments_flatten_front
  rw [behind]
  exact (List.take_append_drop (last - first) _).symm

theorem words_join_map_ofList (parts : List (List Char)) :
    words (String.join (parts.map String.ofList)) = (segments parts.flatten).map String.ofList := by
  rw [words,toList_join_map_ofList]

/-- Any words of an identifier that stand in a row are the words of the text that they make; in
particular all of them are, and each of them. -/
theorem words_join_extract (name : String) :
    (∀ first last, words (String.join ((words name).extract first last)) =
      (words name).extract first last) ∧
    words (String.join (words name)) = words name ∧
    ∀ word ∈ words name, words word = [word] := by
  have runs : ∀ first last, words (String.join ((words name).extract first last)) =
      (words name).extract first last := by
    intro first last
    have own : (words name).extract first last =
        ((segments name.toList).extract first last).map String.ofList := by
      simp [words,List.extract]
    rw [own,words_join_map_ofList,segments_flatten_extract]
  refine ⟨runs,by rw [join_words],fun word member => ?_⟩
  obtain ⟨place,within,rfl⟩ := List.getElem_of_mem member
  have alone : (words name).extract place (place + 1) = [(words name)[place]] := by
    rw [List.extract,Nat.add_sub_cancel_left,List.drop_eq_getElem_cons within]
    rfl
  simpa [alone] using runs place (place + 1)

end Orthography.Identifier
