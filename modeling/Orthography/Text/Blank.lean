import Orthography.Text.Run

/-! White space by the property White_Space, and what is cut at it: trimmed texts and the
pieces of a phrase. -/
namespace Orthography.Text

def blanks : List Run :=
  [⟨0x9,0xD,1⟩, ⟨0x20,0x20,1⟩, ⟨0x85,0x85,1⟩, ⟨0xA0,0xA0,1⟩, ⟨0x1680,0x1680,1⟩,
   ⟨0x2000,0x200A,1⟩, ⟨0x2028,0x2029,1⟩, ⟨0x202F,0x202F,1⟩, ⟨0x205F,0x205F,1⟩,
   ⟨0x3000,0x3000,1⟩]

def isBlank (c : Char) : Bool := among blanks c.toNat

def allBlank (cs : List Char) : Bool := cs.all isBlank

def trimChars (cs : List Char) : List Char :=
  ((cs.dropWhile isBlank).reverse.dropWhile isBlank).reverse

def trim (text : String) : String := String.ofList (trimChars text.toList)

theorem dropWhile_isBlank {cs : List Char} (plain : ∀ c ∈ cs, isBlank c = false) :
    cs.dropWhile isBlank = cs := by
  cases cs with
  | nil => rfl
  | cons c rest => rw [List.dropWhile_cons,plain c List.mem_cons_self]; rfl

/-- Nothing is trimmed from a text without blanks. -/
theorem trim_of_noBlank {text : String} (plain : ∀ c ∈ text.toList, isBlank c = false) :
    trim text = text := by
  have backwards : ∀ c ∈ text.toList.reverse, isBlank c = false :=
    fun c member => plain c (List.mem_reverse.mp member)
  rw [trim,trimChars,dropWhile_isBlank plain,dropWhile_isBlank backwards,List.reverse_reverse,
    String.ofList_toList]

/-- The maximal runs without blanks; `pending` is the run at hand, from its end. -/
def piecesAfter (pending : List Char) : List Char → List (List Char)
  | [] => if pending.isEmpty then [] else [pending.reverse]
  | c :: rest =>
    if isBlank c then
      if pending.isEmpty then piecesAfter [] rest else pending.reverse :: piecesAfter [] rest
    else piecesAfter (c :: pending) rest

def pieces (text : String) : List String :=
  (piecesAfter [] text.toList).map String.ofList

/-- The parts between occurrences of a separator; one more part than separators. -/
def splitAt (separator : Char) : List Char → List (List Char)
  | [] => [[]]
  | c :: rest =>
    if c = separator then [] :: splitAt separator rest
    else match splitAt separator rest with
      | [] => [[c]]
      | part :: parts => (c :: part) :: parts

@[simp] theorem splitAt_ne_nil (separator : Char) (cs : List Char) :
    splitAt separator cs ≠ [] := by
  cases cs with
  | nil => simp [splitAt]
  | cons c rest =>
    simp only [splitAt]
    split
    · simp
    · split <;> simp

end Orthography.Text
