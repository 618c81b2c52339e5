import Orthography.Yaml.Block
import Orthography.Yaml.Directive
import Orthography.Yaml.Plain
import Orthography.Yaml.Quoted

/-! The tokens of a text. A key shows itself only by the colon behind it, so each place
where one may have begun is remembered for as long as it stays on its line; the tokens that
open a key, and a mapping if need be, are put in there later. -/
namespace Orthography.Yaml

/-- A place where a key may have begun. -/
structure KeyStart where
  /-- Nothing but a key can stand here. -/
  required : Bool
  /-- The number of tokens in front of it. -/
  before : Nat
  offset : Nat
  line : Nat
  column : Nat

structure TokenStream where
  input : Input
  /-- The tokens so far, from the last one, and their number. -/
  tokens : List Token
  count : Nat
  /-- Whether a key may begin here. -/
  keyAllowed : Bool
  /-- The column of the innermost block collection, one less than zero outside of all, and
  the columns of those around it. -/
  indent : Int
  outerIndents : List Int
  /-- The key that may have begun in the innermost flow collection, and in those around. -/
  keyStart : Option KeyStart
  outerStarts : List (Option KeyStart)

namespace TokenStream

def ofChars (cs : List Char) : TokenStream :=
  ⟨Input.ofChars cs,[],0,true,-1,[],none,[]⟩

def inFlow (s : TokenStream) : Bool := !s.outerStarts.isEmpty

def add (s : TokenStream) (token : Token) : TokenStream :=
  { s with tokens := token :: s.tokens, count := s.count + 1 }

def insert (s : TokenStream) (place : Nat) (token : Token) : TokenStream :=
  let later := s.count - place
  { s with
    tokens := s.tokens.take later ++ token :: s.tokens.drop later
    count := s.count + 1 }

/-- Begins a block collection at a column deeper than the innermost one, with its token
behind the first `place` tokens. -/
def openBlock (s : TokenStream) (column place : Nat) (token : Token) : TokenStream :=
  if !s.inFlow && s.indent < column then
    { s.insert place token with indent := column, outerIndents := s.indent :: s.outerIndents }
  else s

def closeBlocksIn : Nat → Int → TokenStream → TokenStream
  | 0, _, s => s
  | fuel + 1, column, s =>
    if s.indent ≤ column then s
    else
      let s := s.add .closeBlock
      match s.outerIndents with
      | outer :: rest =>
        closeBlocksIn fuel column { s with indent := outer, outerIndents := rest }
      | [] => s

def closeBlocks (s : TokenStream) (column : Int) : TokenStream :=
  if s.inFlow then s else closeBlocksIn s.outerIndents.length column s

def dropKey (s : TokenStream) : Except Fault TokenStream :=
  match s.keyStart with
  | some start =>
    if start.required then .error (.expected "a colon") else .ok { s with keyStart := none }
  | none => .ok s

/-- Remembers that a key may begin here, if it may. -/
def startKey (s : TokenStream) : Except Fault TokenStream :=
  if s.keyAllowed then do
    let s ← s.dropKey
    let place := s.input
    .ok { s with keyStart := some ⟨!s.inFlow && s.indent == place.column,s.count,
      place.offset,place.line,place.column⟩ }
  else .ok s

/-- A key ends on its line, within 1024 bytes. -/
def isStale (input : Input) (start : KeyStart) : Bool :=
  start.line < input.line || start.offset + 1024 < input.offset

def refresh (input : Input) : Option KeyStart → Except Fault (Option KeyStart)
  | some start =>
    if !isStale input start then .ok (some start)
    else if start.required then .error (.expected "a colon")
    else .ok none
  | none => .ok none

def dropStale (s : TokenStream) : Except Fault TokenStream := do
  let keyStart ← refresh s.input s.keyStart
  let outerStarts ← s.outerStarts.mapM (refresh s.input)
  .ok { s with keyStart, outerStarts }

/-- Skips blanks, comments and line breaks, in at most `fuel` steps. A tab is skipped only
where no key may begin, and a byte order mark at the beginning of any line. -/
def skipBetweenIn : Nat → TokenStream → TokenStream
  | 0, s => s
  | fuel + 1, s =>
    let input := s.input
    let input := if input.column == 0 && input.starts '\ufeff' then input.skip 1 else input
    let input := input.skipWhile fun c => c = ' ' || ((s.inFlow || !s.keyAllowed) && c = '\t')
    let input := if input.starts '#' then input.skipWhile (!isBreak ·) else input
    match input.lineBreak? with
    | some (_,next) =>
      skipBetweenIn fuel { s with input := next, keyAllowed := s.keyAllowed || !s.inFlow }
    | none => { s with input }

def skipBetween (s : TokenStream) : TokenStream :=
  skipBetweenIn (s.input.size + 1) s

def mark (s : TokenStream) (length : Nat) (token : Token) : TokenStream :=
  { s with input := s.input.skip length }.add token

/-- Leaves all blocks, as directives and document marks do. -/
def leaveBlocks (s : TokenStream) : Except Fault TokenStream := do
  let s ← (s.closeBlocks (-1)).dropKey
  .ok { s with keyAllowed := false }

def takeDirective (s : TokenStream) : Except Fault TokenStream := do
  let s ← s.leaveBlocks
  let (token,input) ← Directive.read s.input
  .ok ({ s with input }.add token)

def takeDocumentMark (s : TokenStream) (token : Token) : Except Fault TokenStream := do
  .ok ((← s.leaveBlocks).mark 3 token)

def openFlow (s : TokenStream) (token : Token) : Except Fault TokenStream := do
  let s ← s.startKey
  let outerStarts := s.keyStart :: s.outerStarts
  .ok ({ s with keyStart := none, outerStarts, keyAllowed := true }.mark 1 token)

def closeFlow (s : TokenStream) (token : Token) : Except Fault TokenStream := do
  let s ← s.dropKey
  let s := match s.outerStarts with
    | start :: rest => { s with keyStart := start, outerStarts := rest }
    | [] => s
  .ok ({ s with keyAllowed := false }.mark 1 token)

def takeComma (s : TokenStream) : Except Fault TokenStream := do
  let s ← s.dropKey
  .ok ({ s with keyAllowed := true }.mark 1 .comma)

def openBlockHere (s : TokenStream) (what : String) (token : Token) :
    Except Fault TokenStream :=
  if s.inFlow then .ok s
  else if s.keyAllowed then .ok (s.openBlock s.input.column s.count token)
  else .error (.misplaced what)

def takeEntry (s : TokenStream) : Except Fault TokenStream := do
  let s ← s.openBlockHere "an entry of a list" .openBlockList
  let s ← s.dropKey
  .ok ({ s with keyAllowed := true }.mark 1 .entry)

def takeKey (s : TokenStream) : Except Fault TokenStream := do
  let s ← s.openBlockHere "a key" .openBlockMapping
  let s ← s.dropKey
  .ok ({ s with keyAllowed := !s.inFlow }.mark 1 .key)

def takeValue (s : TokenStream) : Except Fault TokenStream :=
  match s.keyStart with
  | some start =>
    let s := s.insert start.before .key
    let s := s.openBlock start.column start.before .openBlockMapping
    .ok ({ s with keyStart := none, keyAllowed := false }.mark 1 .value)
  | none => do
    let s ← s.openBlockHere "a value" .openBlockMapping
    .ok ({ s with keyAllowed := !s.inFlow }.mark 1 .value)

def takeName (s : TokenStream) (token : String → Token) : Except Fault TokenStream := do
  let s ← s.startKey
  let (name,input) ← Property.readName s.input
  .ok ({ s with input, keyAllowed := false }.add (token name))

def takeTag (s : TokenStream) : Except Fault TokenStream := do
  let s ← s.startKey
  let (token,input) ← Property.readTag s.inFlow s.input
  .ok ({ s with input, keyAllowed := false }.add token)

def takeBlockScalar (s : TokenStream) (folded : Bool) : Except Fault TokenStream := do
  let s ← s.dropKey
  let (text,input) ← Block.read folded s.indent s.input
  .ok ({ s with input, keyAllowed := true }.add
    (.scalar (String.ofList text) (if folded then .folded else .literal)))

def takeQuoted (s : TokenStream) (quote : Char) : Except Fault TokenStream := do
  let s ← s.startKey
  let (text,input) ← Quoted.read quote s.input
  .ok ({ s with input, keyAllowed := false }.add (.scalar (String.ofList text) .quoted))

def takePlain (s : TokenStream) : Except Fault TokenStream := do
  let s ← s.startKey
  let outcome ← Plain.read s.inFlow (s.indent + 1).toNat s.input
  .ok ({ s with input := outcome.input, keyAllowed := outcome.broken }.add
    (.scalar (String.ofList outcome.text) .plain))

def takeToken (s : TokenStream) (c : Char) : Except Fault TokenStream :=
  let next := s.input.peek 1
  if s.input.column == 0 && c = '%' then s.takeDirective
  else if s.input.hasMark '-' then s.takeDocumentMark .documentStart
  else if s.input.hasMark '.' then s.takeDocumentMark .documentEnd
  else if c = '[' then s.openFlow .openFlowList
  else if c = '\x7b' then s.openFlow .openFlowMapping
  else if c = ']' then s.closeFlow .closeFlowList
  else if c = '\x7d' then s.closeFlow .closeFlowMapping
  else if c = ',' then s.takeComma
  else if c = '-' && endsWord next then s.takeEntry
  else if c = '?' && (s.inFlow || endsWord next) then s.takeKey
  else if c = ':' && (s.inFlow || endsWord next) then s.takeValue
  else if c = '*' then s.takeName .aliasOf
  else if c = '&' then s.takeName .anchor
  else if c = '!' then s.takeTag
  else if c = '|' && !s.inFlow then s.takeBlockScalar false
  else if c = '>' && !s.inFlow then s.takeBlockScalar true
  else if c = '\'' || c = '"' then s.takeQuoted c
  else if Plain.starts s.inFlow s.input then s.takePlain
  else .error (.misplaced "a character")

def finishIn : Nat → TokenStream → Except Fault TokenStream
  | 0, s => .ok s
  | fuel + 1, s => do
    let s ← s.skipBetween.dropStale
    let s := s.closeBlocks s.input.column
    match s.input.peek 0 with
    | some c => finishIn fuel (← s.takeToken c)
    | none => (s.closeBlocks (-1)).dropKey

def scan (text : String) : Except Fault (List Token) := do
  let cs := text.toList
  match cs.find? (!isAllowed ·) with
  | some c => .error (.forbidden c)
  | none => .ok (← finishIn (cs.length + 1) (ofChars cs)).tokens.reverse

end TokenStream
end Orthography.Yaml
