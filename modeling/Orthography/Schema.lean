import Orthography.Untyped

/-! Reading typed values from documents. A source is a node of some document format; it can
be asked for a record, a list, a text and so on, and refuses what it is not. Field rules
are written once, over any source and whatever reading it may cost. -/
namespace Orthography

namespace Schema

inductive Mismatch
  | expected (what : String)
  | missing (field : String)
  | repeated (field : String)
  | tooLong
  | tooDeep
  deriving DecidableEq

def Mismatch.message : Mismatch → String
  | expected what => "expected " ++ what
  | missing field => "missing field " ++ field
  | repeated field => "repeated field " ++ field
  | tooLong => "too many elements"
  | tooDeep => "nested too deeply"

end Schema

open Schema

/-- Nodes of a document from which typed values are read in steps of `m`. -/
class Source (m : outParam (Type → Type)) (ν : Type) where
  /-- The fields of a record among the given names, each at most once; others are skipped. -/
  record : List String → ν → m (String → Option ν)
  /-- The entries of a mapping from texts, in order, keys possibly repeated. -/
  entries : ν → m (List (String × ν))
  items : ν → m (List ν)
  text : ν → m String
  natural : ν → m Nat
  truth : ν → m Bool
  /-- The name of one of several cases without contents. -/
  choice : ν → m String
  /-- Nothing for a null, else the node itself. -/
  optional : ν → m (Option ν)
  untyped : ν → m Untyped

namespace Schema

variable {m : Type → Type} {ν α : Type} [Monad m] [MonadExcept Mismatch m]

def required (field : String) (read : ν → m α) : Option ν → m α
  | some node => read node
  | none => throw (.missing field)

def defaulting (fallback : α) (read : ν → m α) : Option ν → m α
  | some node => read node
  | none => pure fallback

variable [Source m ν]

def optionally (read : ν → m α) : Option ν → m (Option α)
  | none => pure none
  | some node => do
    match ← Source.optional node with
    | none => pure none
    | some inner => some <$> read inner

def listOf (read : ν → m α) (node : ν) : m (List α) := do
  (← Source.items node).mapM read

def texts (node : ν) : m (List String) := listOf Source.text node

def oneOf (what : String) (ofName? : String → Option α) (node : ν) : m α := do
  match ofName? (← Source.choice node) with
  | some value => pure value
  | none => throw (.expected what)

end Schema
end Orthography
