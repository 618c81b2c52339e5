import Orthography.Yaml.Document
import Orthography.Yaml.Resolution

/-! Typed values from YAML. The text of a scalar is what a text is read from, however it
would resolve; an empty plain scalar is an empty collection; a case may also be a tag over
nothing. Collections nest at most 128 deep, and aliases are followed at most a hundred times
for each event of the document. -/
namespace Orthography.Yaml

open Schema

/-- Reading that counts the aliases followed so far. -/
abbrev Tally := StateT Nat (Except Mismatch)

structure Cursor where
  node : Node
  document : Document
  room : Nat

namespace Cursor

def ofDocument (document : Document) : Cursor := ⟨document.root,document,128⟩

def ofText (text : String) : Except Fault Cursor := ofDocument <$> Document.ofText text

/-- The node that carries an anchor, unless too many aliases have been followed. -/
def follow (document : Document) (anchor : Nat) : Tally Node := do
  let followed := (← get) + 1
  if 100 * document.events < followed then throw .tooLong
  set followed
  return (document.target? anchor).getD .empty

def resolve (document : Document) : Node → Tally Node
  | .aliasOf anchor => follow document anchor
  | node => pure node

def target (cursor : Cursor) : Tally Node := resolve cursor.document cursor.node

def inside (room : Nat) : Tally Nat :=
  match room with
  | 0 => throw .tooDeep
  | inner + 1 => pure inner

/-- Plain and empty, as the value of a key without one. -/
def isBare : Node → Bool
  | .scalar _ _ .plain "" => true
  | _ => false

def keyText (document : Document) (key : Node) : Tally String := do
  match ← resolve document key with
  | .scalar _ _ _ text => return text
  | _ => throw (.expected "a text as a key")

def entries (cursor : Cursor) : Tally (List (String × Cursor)) := do
  match ← cursor.target with
  | .mapping _ _ entries =>
    let room ← inside cursor.room
    entries.mapM fun (key,value) => do
      return (← keyText cursor.document key,⟨value,cursor.document,room⟩)
  | node => if isBare node then return [] else throw (.expected "a mapping")

/-- A wanted field that occurs twice, given those that have occurred. -/
def repeated? (wanted seen : List String) : List (String × Cursor) → Option String
  | [] => none
  | (key,_) :: fields =>
    if !wanted.contains key then repeated? wanted seen fields
    else if seen.contains key then some key
    else repeated? wanted (key :: seen) fields

def record (names : List String) (cursor : Cursor) : Tally (String → Option Cursor) := do
  let fields ← cursor.entries
  match repeated? names [] fields with
  | some field => throw (.repeated field)
  | none => return fun name => fields.lookup name

def items (cursor : Cursor) : Tally (List Cursor) := do
  match ← cursor.target with
  | .list _ _ items =>
    let room ← inside cursor.room
    return items.map (⟨·,cursor.document,room⟩)
  | node => if isBare node then return [] else throw (.expected "a list")

def text (cursor : Cursor) : Tally String := do
  match ← cursor.target with
  | .scalar _ _ _ text => return text
  | _ => throw (.expected "a text")

/-- The text of a scalar that may stand for a value other than a text: a plain one, or a
literal one under the tag of that value. -/
def resolvable? (tagName : String) : Node → Option String
  | .scalar _ _ .plain text => some text
  | .scalar _ (some tag) .literal text =>
    if tag == .standard tagName then some text else none
  | _ => none

def natural (cursor : Cursor) : Tally Nat := do
  match (resolvable? "int" (← cursor.target)).bind Resolution.natural? with
  | some n => return n
  | none => throw (.expected "a natural number")

def truth (cursor : Cursor) : Tally Bool := do
  match (resolvable? "bool" (← cursor.target)).bind Resolution.truth? with
  | some truth => return truth
  | none => throw (.expected "a truth value")

/-- What a tag that names a case stands over: nothing, or a null. -/
def isNothing : Node → Bool
  | .scalar _ _ .plain text => text.isEmpty || Resolution.isNull text
  | _ => false

def tagOf : Node → Option Tag
  | .scalar _ tag .. => tag
  | .list _ tag _ => tag
  | .mapping _ tag _ => tag
  | .aliasOf _ => none

def choice (cursor : Cursor) : Tally String := do
  let node ← cursor.target
  match (tagOf node).bind Tag.ownName?, node with
  | some name, _ =>
    if isNothing node then return name else throw (.expected "a case without contents")
  | none, .scalar _ _ _ text => return text
  | none, _ => throw (.expected "a text")

def isNull : Node → Except Mismatch Bool
  | .scalar _ none .plain text => .ok (text.isEmpty || Resolution.isNull text)
  | .scalar _ (some tag) .plain text =>
    if tag != .standard "null" then .ok false
    else if Resolution.isNull text then .ok true
    else .error (.expected "a null")
  | _ => .ok false

def optional (cursor : Cursor) : Tally (Option Cursor) := do
  let node ← cursor.target
  if ← isNull node then return none else return some { cursor with node }

def repeatedKey (entries : List (Untyped × Untyped)) : Bool :=
  match entries with
  | [] => false
  | (key,_) :: rest => rest.any (key.same ·.1) || repeatedKey rest

def underOwnTag (tag : Option Tag) (value : Untyped) : Untyped :=
  match tag.bind Tag.ownName? with
  | some name => Resolution.underName name value
  | none => value

/-- The value of a node; `fuel` bounds the steps from a node into another, and is used up
only where collections nest too deep. -/
def untypedFrom (document : Document) : Nat → (room : Nat) → Node → Tally Untyped
  | 0, _, _ => throw .tooDeep
  | fuel + 1, room, node => do
    match node with
    | .aliasOf anchor => untypedFrom document fuel room (← follow document anchor)
    | .scalar _ tag style text => Resolution.scalar tag style text
    | .list _ tag items =>
      let room ← inside room
      return underOwnTag tag (.list (← items.mapM (untypedFrom document fuel room)))
    | .mapping _ tag entries =>
      let room ← inside room
      let entries ← entries.mapM fun (key,value) => do
        return (← untypedFrom document fuel room key,← untypedFrom document fuel room value)
      if repeatedKey entries then throw (.repeated "in a mapping")
      return underOwnTag tag (.mapping entries)

def untyped (cursor : Cursor) : Tally Untyped :=
  untypedFrom cursor.document (2 * cursor.room + 2) cursor.room cursor.node

end Cursor

instance : Source Tally Cursor where
  record := Cursor.record
  entries := Cursor.entries
  items := Cursor.items
  text := Cursor.text
  natural := Cursor.natural
  truth := Cursor.truth
  choice := Cursor.choice
  optional := Cursor.optional
  untyped := Cursor.untyped

end Orthography.Yaml
