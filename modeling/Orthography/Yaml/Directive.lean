import Orthography.Yaml.Property

/-! Directives: lines in front of a document that begin with a percent sign. -/
namespace Orthography.Yaml.Directive

def readNumber (input : Input) : Except Fault (Nat × Input) :=
  let (digits,input) := input.takeWhile Numeral.isDecimalDigit
  if digits.length > 9 then .error .version
  else match Numeral.read? 10 digits with
    | some n => .ok (n,input)
    | none => .error (.expected "a version number")

def readVersion (input : Input) : Except Fault (Token × Input) := do
  let (major,input) ← readNumber (input.skipWhile isBlank)
  if !input.starts '.' then .error (.expected "a point") else
  let (minor,input) ← readNumber (input.skip 1)
  .ok (.version major minor,input)

/-- A handle is a single mark, or a name between two. -/
def readTagHandle (input : Input) : Except Fault (Token × Input) := do
  let (handle,input) ← Property.readHandle (input.skipWhile isBlank)
  if handle != ['!'] && handle.getLast? != some '!' then
    .error (.expected "an exclamation mark")
  else if !input.atBlank then .error (.expected "a blank")
  else
    let (uri,input) ← Property.readUri true (input.skipWhile isBlank)
    if uri.isEmpty then .error (.expected "a tag")
    else if endsWord (input.peek 0) then .ok (.tagHandle (String.ofList handle) (.ofBytes uri),input)
    else .error (.expected "the end of a tag")

def read (input : Input) : Except Fault (Token × Input) := do
  let (name,input) := (input.skip 1).takeWhile isNameChar
  if name.isEmpty || !endsWord (input.peek 0) then .error (.expected "a directive") else
  let (token,input) ← (
    if name = "YAML".toList then readVersion input
    else if name = "TAG".toList then readTagHandle input
    else .error (.expected "a known directive"))
  .ok (token,← input.skipComment)

end Orthography.Yaml.Directive
