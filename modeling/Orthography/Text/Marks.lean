/-! Matching a pattern against a sequence in one pass over the pattern. The places that a
part of the pattern may begin at are marked, and each part moves the marks to the places
where it may end. -/
namespace Orthography.Text

/-- A mark for each place: in front of every item, and at the end. -/
abbrev Marks := List Bool

namespace Marks

variable {α : Type}

def start (items : List α) : Marks := true :: items.map fun _ => false

def cleared (marks : Marks) : Marks := marks.map fun _ => false

def step (test : α → Bool) (items : List α) (marks : Marks) : Marks :=
  false :: (marks.zip items).map fun (mark,item) => mark && test item

/-- Marks all places from the first marked one on. -/
def spread : Marks → Marks
  | [] => []
  | true :: rest => true :: rest.map fun _ => true
  | false :: rest => false :: spread rest

def either (a b : Marks) : Marks := a.zipWith (· || ·) b

def steps [BEq α] (expected items : List α) (marks : Marks) : Marks :=
  expected.foldl (fun marks item => step (· == item) items marks) marks

def atEnd (marks : Marks) : Bool := marks.getLastD false

end Marks
end Orthography.Text
