import Orthography.Declaration
import Orthography.Files.Fault
import Orthography.Format

/-! Files of declarations: how declarations are written in JSON and read from it or from
YAML. -/
namespace Orthography

open Schema

namespace Declaration

variable {m : Type → Type} {ν : Type} [Monad m] [MonadExcept Mismatch m] [Source m ν]

def readNested : Nat → ν → m Declaration
  | 0, _ => throw .tooDeep
  | fuel + 1, node => do
    let field ← Source.record
      ["kind","name","local_name","local_name_offset","offset","name_offset","attributes",
       "accessibility","substructure"] node
    pure ⟨← required "kind" (fun node => Kind.ofName <$> Source.choice node) (field "kind"),
      ← optionally Source.text (field "name"),
      ← optionally Source.text (field "local_name"),
      ← optionally Source.natural (field "local_name_offset"),
      ← optionally Source.natural (field "offset"),
      ← optionally Source.natural (field "name_offset"),
      ← defaulting [] texts (field "attributes"),
      ← defaulting .internal (oneOf "an accessibility" Accessibility.ofName?)
          (field "accessibility"),
      ← defaulting [] (listOf (readNested fuel)) (field "substructure")⟩

def greatestDepth : Nat := 128

def read (node : ν) : m Declaration :=
  readNested greatestDepth node

mutual

def toJson (declaration : Declaration) : Json.Value :=
  match declaration with
  | ⟨kind,name,localName,localNameOffset,offset,nameOffset,attributes,accessibility,
      substructure⟩ =>
    .record [("kind",.text kind.name),("name",.ofOption .text name),
      ("local_name",.ofOption .text localName),
      ("local_name_offset",.ofOption .natural localNameOffset),
      ("offset",.ofOption .natural offset),("name_offset",.ofOption .natural nameOffset),
      ("attributes",.ofTexts attributes),("accessibility",.text accessibility.name),
      ("substructure",.list (allToJson substructure))]

def allToJson : List Declaration → List Json.Value
  | [] => []
  | declaration :: rest => toJson declaration :: allToJson rest

end

structure Document where
  file : Option String
  declarations : List Declaration

namespace Document

inductive Fault
  | unreadable (cause : Files.Fault)
  | malformed (cause : Format.Fault)
  | unknownFormat (extension : String)
  deriving DecidableEq

def Fault.message : Fault → String
  | unreadable cause => "IO error: " ++ cause.message
  | malformed cause => cause.message
  | unknownFormat name => "Unknown declaration file format: " ++ name

def read (node : ν) : m Document := do
  let field ← Source.record ["file","declarations"] node
  pure ⟨← optionally Source.text (field "file"),
    ← defaulting [] (listOf Declaration.read) (field "declarations")⟩

def toJson (document : Document) : Json.Value :=
  .record [("file",.ofOption .text document.file),
    ("declarations",.list (allToJson document.declarations))]

def ofText (text extension : String) : Except Fault Document :=
  match Format.ofExtension? extension with
  | some format => (format.decode read text).mapError .malformed
  | none => .error (.unknownFormat extension)

def walk (document : Document) : List Declaration := walkAll document.declarations

end Document
end Declaration
end Orthography
