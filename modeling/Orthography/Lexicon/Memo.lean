import Orthography.Lexicon

/-! Verdicts that are remembered. A verdict is kept under the language and the word as it
was spelled; a failed question leaves nothing behind. -/
namespace Orthography.Lexicon

structure Memo where
  verdicts : Std.HashMap (String × String) Bool

namespace Memo

def empty : Memo := ⟨∅⟩

def size (memo : Memo) : Nat := memo.verdicts.size

def isEmpty (memo : Memo) : Bool := memo.size == 0

def verdict? (memo : Memo) (language word : String) : Option Bool :=
  memo.verdicts[(language,word)]?

def remember (memo : Memo) (language word : String) (unknown : Bool) : Memo :=
  ⟨memo.verdicts.insert (language,word) unknown⟩

@[simp] theorem verdict?_empty (language word : String) : empty.verdict? language word = none := by
  simp [empty, verdict?]

theorem verdict?_remember (memo : Memo) (language word other otherWord : String) (unknown : Bool) :
    (memo.remember language word unknown).verdict? other otherWord =
      if (language,word) = (other,otherWord) then some unknown
      else memo.verdict? other otherWord := by
  by_cases h : (language,word) = (other,otherWord) <;>
    simp [remember, verdict?, Std.HashMap.getElem?_insert, h]

end Memo

abbrev Recalling := ExceptT Fault (StateM Memo)

/-- Answers from the memo, else by the inner question, whose answer is remembered. -/
def Memo.ask (inner : Inquiry (Except Fault)) : Inquiry Recalling :=
  fun language word memo =>
    match memo.verdict? language word with
    | some unknown => (.ok unknown,memo)
    | none =>
      match inner language word with
      | .ok unknown => (.ok unknown,memo.remember language word unknown)
      | .error fault => (.error fault,memo)

end Orthography.Lexicon
