import Orthography.Text.Capital
import Orthography.Text.Digit

/-! Words of an identifier. A word starts at a capital or at the first digit of a number;
runs of capitals are then glued into acronyms, as in `my|URL|Variable`. -/
namespace Orthography.Identifier

open Text

def isAcronym (word : List Char) : Bool := !word.isEmpty && word.all isCapital

def isNumeral (word : List Char) : Bool := word.all isDigit

/-- Whether a character starts a new word after the pending one. -/
def startsWord (pending : List Char) (c : Char) : Bool :=
  if isCapital c then !pending.isEmpty
  else if isDigit c then !pending.isEmpty && !isNumeral pending
  else false

/-- The words of what is left, the first of them begun by `pending`. -/
def scan (pending : List Char) : List Char → List (List Char)
  | [] => if pending.isEmpty then [] else [pending]
  | c :: rest =>
    if startsWord pending c then pending :: scan [c] rest else scan (pending ++ [c]) rest

/-- Adds a word behind those before it, which are given from the last one. -/
def attach (before : List (List Char)) (word : List Char) : List (List Char) :=
  match before with
  | last :: earlier =>
    if isAcronym last && isAcronym word then (last ++ word) :: earlier else word :: before
  | [] => [word]

def glueAcronyms (words : List (List Char)) : List (List Char) :=
  (words.foldl attach []).reverse

def segments (name : List Char) : List (List Char) := glueAcronyms (scan [] name)

def words (name : String) : List String := (segments name.toList).map String.ofList

@[simp] theorem segments_nil : segments [] = [] := rfl

@[simp] theorem words_empty : words "" = [] := rfl

theorem flatten_scan (pending name : List Char) :
    (scan pending name).flatten = pending ++ name := by
  induction name generalizing pending with
  | nil => cases pending <;> simp [scan]
  | cons c rest ih => simp only [scan]; split <;> simp [ih]

theorem flatten_foldl_attach (before words : List (List Char)) :
    (words.foldl attach before).reverse.flatten = before.reverse.flatten ++ words.flatten := by
  induction words generalizing before with
  | nil => simp
  | cons word rest ih =>
    rw [List.foldl_cons, ih]
    cases before with
    | nil => simp [attach]
    | cons last earlier => simp only [attach]; split <;> simp

/-- Nothing of the identifier is lost. -/
@[simp] theorem flatten_segments (name : List Char) : (segments name).flatten = name := by
  simp [segments, glueAcronyms, flatten_foldl_attach, flatten_scan]

end Orthography.Identifier
