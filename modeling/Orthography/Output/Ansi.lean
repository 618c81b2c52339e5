/-! Colors and other styles of terminal output, by escape sequences. -/
namespace Orthography.Output

inductive Ink
  | bold
  | underline
  | red
  | green
  | yellow
  | blue
  | cyan
  deriving DecidableEq

namespace Ink

def code : Ink → String
  | bold => "1"
  | underline => "4"
  | red => "31"
  | green => "32"
  | yellow => "33"
  | blue => "34"
  | cyan => "36"

def opening (inks : List Ink) : String := "\x1b[" ++ ";".intercalate (inks.map code) ++ "m"

def closing : String := "\x1b[0m"

/-- Turns styles on again behind each place where a text turns them off; at most `fuel`
characters are looked at. -/
def reopen (opening : List Char) : Nat → List Char → List Char
  | 0, cs => cs
  | _ + 1, [] => []
  | fuel + 1, c :: rest =>
    if closing.toList.isPrefixOf (c :: rest) then
      closing.toList ++ opening ++
        reopen opening fuel ((c :: rest).drop closing.toList.length)
    else c :: reopen opening fuel rest

/-- A text in styles, or plain where output is not colored. -/
def paint (colored : Bool) (inks : List Ink) (text : String) : String :=
  if colored then
    let cs := text.toList
    opening inks ++ String.ofList (reopen (opening inks).toList cs.length cs) ++ closing
  else text

end Ink
end Orthography.Output
