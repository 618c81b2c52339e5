import Orthography.Yaml.Node
import Orthography.Yaml.TokenStream

/-! The one document of a text, as the tree that its tokens spell. -/
namespace Orthography.Yaml

/-- The tokens that are left, the numbers of the anchors met, and what the tag handles stand
for. -/
structure Remaining where
  tokens : List Token
  anchors : List (String × Nat)
  handles : List (String × Tag)

abbrev Reading := StateT Remaining (Except Fault)

namespace Reading

def next : Reading (Option Token) := do return (← get).tokens.head?

def advance : Reading Unit :=
  modify fun remaining => { remaining with tokens := remaining.tokens.drop 1 }

def take (token : Token) : Reading Bool := do
  if (← next) == some token then advance; return true else return false

def takeComma (first : Bool) : Reading Unit := do
  if !first then
    if !(← take .comma) then throw (.expected "a comma")

def fail {α : Type} (fault : Fault) : Reading α := throw fault

/-- Gives an anchor the number of the different anchors before it. -/
def number (name : String) : Reading Nat := do
  let remaining ← get
  let id := remaining.anchors.length
  set { remaining with
    anchors := (name,id) :: remaining.anchors.filter fun known => known.1 != name }
  return id

def takeAnchor : Reading (Option String) := do
  match ← next with
  | some (.anchor name) => advance; return some name
  | _ => return none

def takeTag : Reading (Option Tag) := do
  match ← next with
  | some (.tag "" suffix) => advance; return some suffix
  | some (.tag handle suffix) =>
    advance
    match (← get).handles.lookup handle with
    | some stem => return some (stem.append suffix)
    | none => fail (.unknownHandle handle)
  | _ => return none

def takeProperties : Reading (Option String × Option Tag) := do
  match ← takeAnchor with
  | some name => return (some name,← takeTag)
  | none =>
    match ← takeTag with
    | some tag => return (← takeAnchor,some tag)
    | none => return (none,none)

def endsListItem : Option Token → Bool
  | some .entry | some .closeBlock => true
  | _ => false

def endsBlockNode : Option Token → Bool
  | some .entry | some .key | some .value | some .closeBlock => true
  | _ => false

def endsBlockKey : Option Token → Bool
  | some .key | some .value | some .closeBlock => true
  | _ => false

/-- The end of a node in a flow list or mapping, or of the key in front of its colon. -/
def endsFlowNode (close : Token) (asKey : Bool) : Option Token → Bool
  | some token => token == .comma || token == close || (asKey && token == .value)
  | none => false

mutual

/-- Reads a node in at most `fuel` nested steps. Outside of flow collections it may be a
block, and behind a key a list that is not indented. -/
def node : Nat → (block unindented : Bool) → Reading Node
  | 0, _, _ => fail (.expected "a node")
  | fuel + 1, block, unindented => do
    match ← next with
    | some (.aliasOf name) =>
      advance
      match (← get).anchors.lookup name with
      | some id => return .aliasOf id
      | none => fail (.unknownAnchor name)
    | _ =>
      let (anchor,tag) ← takeProperties
      match ← next, block, unindented with
      | some (.scalar text style), _, _ =>
        advance
        let anchor ← anchor.mapM number
        return .scalar anchor tag style text
      | some .openFlowList, _, _ =>
        advance
        let anchor ← anchor.mapM number
        return .list anchor tag (← flowItems fuel true)
      | some .openFlowMapping, _, _ =>
        advance
        let anchor ← anchor.mapM number
        return .mapping anchor tag (← flowEntries fuel true)
      | some .openBlockList, true, _ =>
        advance
        let anchor ← anchor.mapM number
        return .list anchor tag (← blockItems fuel)
      | some .openBlockMapping, true, _ =>
        advance
        let anchor ← anchor.mapM number
        return .mapping anchor tag (← blockEntries fuel)
      | some .entry, _, true =>
        let anchor ← anchor.mapM number
        return .list anchor tag (← unindentedItems fuel)
      | _, _, _ =>
        if anchor.isNone && tag.isNone then fail (.expected "a node")
        else
          let anchor ← anchor.mapM number
          return .scalar anchor tag .plain ""

/-- Reads a node, which is empty if the next token ends it. -/
def nodeUnless : Nat → (Option Token → Bool) → (block unindented : Bool) → Reading Node
  | 0, _, _, _ => fail (.expected "a node")
  | fuel + 1, ended, block, unindented => do
    if ended (← next) then return .empty else node fuel block unindented

def blockItems : Nat → Reading (List Node)
  | 0 => fail (.expected "an entry of a list")
  | fuel + 1 => do
    if ← take .entry then
      let item ← nodeUnless fuel endsListItem true false
      return item :: (← blockItems fuel)
    else if ← take .closeBlock then return []
    else fail (.expected "an entry of a list")

def unindentedItems : Nat → Reading (List Node)
  | 0 => fail (.expected "an entry of a list")
  | fuel + 1 => do
    if ← take .entry then
      let item ← nodeUnless fuel endsBlockNode true false
      return item :: (← unindentedItems fuel)
    else return []

def blockEntries : Nat → Reading (List (Node × Node))
  | 0 => fail (.expected "a key")
  | fuel + 1 => do
    if ← take .key then
      let key ← nodeUnless fuel endsBlockKey true true
      let value ← blockValue fuel
      return (key,value) :: (← blockEntries fuel)
    else if ← take .closeBlock then return []
    else fail (.expected "a key")

def blockValue : Nat → Reading Node
  | 0 => fail (.expected "a value")
  | fuel + 1 => do
    if ← take .value then nodeUnless fuel endsBlockKey true true else return .empty

/-- Reads the items behind the opening bracket, or behind an item. -/
def flowItems : Nat → (first : Bool) → Reading (List Node)
  | 0, _ => fail (.expected "an item")
  | fuel + 1, first => do
    if ← take .closeFlowList then return []
    takeComma first
    if ← take .key then
      let entry ← flowPair fuel
      return .mapping none none [entry] :: (← flowItems fuel false)
    else if ← take .closeFlowList then return []
    else
      let item ← node fuel false false
      return item :: (← flowItems fuel false)

/-- Reads the single entry of a mapping without brackets, behind its key mark. An empty key
swallows the token that ends it. -/
def flowPair : Nat → Reading (Node × Node)
  | 0 => fail (.expected "a key")
  | fuel + 1 => do
    if endsFlowNode .closeFlowList true (← next) then
      advance
      return (.empty,← flowValue fuel .closeFlowList)
    else
      let key ← node fuel false false
      return (key,← flowValue fuel .closeFlowList)

def flowEntries : Nat → (first : Bool) → Reading (List (Node × Node))
  | 0, _ => fail (.expected "a key")
  | fuel + 1, first => do
    if ← take .closeFlowMapping then return []
    takeComma first
    if ← take .key then
      let key ← nodeUnless fuel (endsFlowNode .closeFlowMapping true) false false
      let value ← flowValue fuel .closeFlowMapping
      return (key,value) :: (← flowEntries fuel false)
    else if ← take .closeFlowMapping then return []
    else
      let key ← node fuel false false
      return (key,.empty) :: (← flowEntries fuel false)

def flowValue : Nat → (close : Token) → Reading Node
  | 0, _ => fail (.expected "a value")
  | fuel + 1, close => do
    if ← take .value then nodeUnless fuel (endsFlowNode close false) false false
    else return .empty

end

/-- The directives in front of a document; each may occur once, tag handles once each. -/
def directives : List Token → (version : Bool) → List (String × Tag) →
    Except Fault (List (String × Tag) × List Token)
  | .version major minor :: rest, version, handles =>
    if version then .error .repeatedDirective
    else if major == 1 && (minor == 1 || minor == 2) then directives rest true handles
    else .error .version
  | .tagHandle handle stem :: rest, version, handles =>
    if handles.any (·.1 == handle) then .error .repeatedDirective
    else directives rest version (handles ++ [(handle,stem)])
  | tokens, _, handles => .ok (handles,tokens)

def standardHandles : List (String × Tag) :=
  [("!",.bare),("!!",.standard "")]

def endsDocument : Option Token → Bool
  | none | some (.version ..) | some (.tagHandle ..) | some .documentStart
  | some .documentEnd => true
  | _ => false

def document : Reading Node := do
  let remaining ← get
  let fuel := 4 * remaining.tokens.length + 4
  match remaining.tokens with
  | [] => return .empty
  | .version .. :: _ | .tagHandle .. :: _ | .documentStart :: _ =>
    let (handles,tokens) ← directives remaining.tokens false []
    set { remaining with tokens, handles := handles ++ standardHandles }
    if ← take .documentStart then nodeUnless fuel endsDocument true false
    else fail (.expected "a document")
  | _ => node fuel true false

end Reading

structure Document where
  root : Node
  /-- The nodes that carry anchors; of two with one number the latter is meant. -/
  anchored : List (Nat × Node)
  events : Nat

namespace Document

def ofTokens (tokens : List Token) : Except Fault Document := do
  let (root,remaining) ← Reading.document.run ⟨tokens,[],Reading.standardHandles⟩
  if (remaining.tokens.dropWhile (· == .documentEnd)).isEmpty then
    .ok ⟨root,root.anchored.reverse,root.events⟩
  else .error .manyDocuments

def ofText (text : String) : Except Fault Document := do
  ofTokens (← TokenStream.scan text)

def target? (document : Document) (anchor : Nat) : Option Node :=
  document.anchored.lookup anchor

end Document
end Orthography.Yaml
