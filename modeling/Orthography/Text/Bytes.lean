/-! Lengths and places in bytes of UTF-8, the unit of every reported offset. -/
namespace Orthography.Text

def byteLength : List Char → Nat
  | [] => 0
  | c :: cs => c.utf8Size + byteLength cs

/-- The byte offset of the first occurrence of a text in another. -/
def occurrence? (needle : List Char) : List Char → Option Nat
  | [] => if needle.isEmpty then some 0 else none
  | c :: rest =>
    if needle.isPrefixOf (c :: rest) then some 0
    else (occurrence? needle rest).map (c.utf8Size + ·)

@[simp] theorem byteLength_nil : byteLength [] = 0 := rfl

@[simp] theorem byteLength_cons (c : Char) (cs : List Char) :
    byteLength (c :: cs) = c.utf8Size + byteLength cs := rfl

@[simp] theorem byteLength_append (a b : List Char) :
    byteLength (a ++ b) = byteLength a + byteLength b := by
  induction a with
  | nil => simp
  | cons c rest ih => simp [ih, Nat.add_assoc]

/-- What stands in front counts in bytes: a found text has such a front. -/
theorem occurrence?_eq_some {needle text : List Char} {offset : Nat}
    (found : occurrence? needle text = some offset) :
    ∃ front back, text = front ++ needle ++ back ∧ byteLength front = offset := by
  induction text generalizing offset with
  | nil =>
    cases needle with
    | nil => exact ⟨[],[],rfl,by simpa [occurrence?] using found⟩
    | cons => simp [occurrence?] at found
  | cons c rest ih =>
    rw [occurrence?] at found
    split at found
    next here =>
      obtain ⟨back,eq⟩ := List.isPrefixOf_iff_prefix.mp here
      exact ⟨[],back,by simp [eq],by simpa using found⟩
    next =>
      obtain ⟨inner,inRest,rfl⟩ := Option.map_eq_some_iff.mp found
      obtain ⟨front,back,rfl,rfl⟩ := ih inRest
      exact ⟨c :: front,back,by simp,by simp⟩

@[simp] theorem utf8ByteSize_ofList (cs : List Char) :
    (String.ofList cs).utf8ByteSize = byteLength cs := by
  induction cs with
  | nil => rfl
  | cons c rest ih =>
    rw [byteLength_cons,← ih,String.ofList_cons,String.utf8ByteSize_append,
      String.utf8ByteSize_singleton]

@[simp] theorem byteLength_toList (text : String) : byteLength text.toList = text.utf8ByteSize := by
  rw [← utf8ByteSize_ofList,String.ofList_toList]

theorem occurrence?_append (needle back : List Char) :
    occurrence? needle (needle ++ back) = some 0 := by
  have here : needle.isPrefixOf (needle ++ back) = true :=
    List.isPrefixOf_iff_prefix.mpr (List.prefix_append needle back)
  cases whole : needle ++ back with
  | nil =>
    obtain ⟨rfl,rfl⟩ := List.append_eq_nil_iff.mp whole
    rfl
  | cons c rest => rw [occurrence?,if_pos (by rw [← whole]; exact here)]

/-- A text that occurs is found, and not behind the place where it is known to occur. -/
theorem exists_occurrence?_le (front needle back : List Char) :
    ∃ offset, occurrence? needle (front ++ needle ++ back) = some offset ∧
      offset ≤ byteLength front := by
  induction front with
  | nil => exact ⟨0,occurrence?_append needle back,Nat.zero_le _⟩
  | cons c front ih =>
    obtain ⟨offset,found,le⟩ := ih
    rw [List.cons_append,List.cons_append,occurrence?]
    split
    · exact ⟨0,rfl,Nat.zero_le _⟩
    · rw [found]
      exact ⟨c.utf8Size + offset,rfl,Nat.add_le_add_left le _⟩

end Orthography.Text
