import Orthography.Yaml.Input
import Orthography.Yaml.Tag

/-! Tokens of YAML text. Indentation has become brackets around block collections. -/
namespace Orthography.Yaml

/-- How a scalar is written; only a plain one may stand for something but a text. -/
inductive Style
  | plain
  | quoted
  | literal
  | folded
  deriving DecidableEq

inductive Token
  | version (major minor : Nat)
  | tagHandle (handle : String) (stem : Tag)
  | documentStart
  | documentEnd
  | openBlockList
  | openBlockMapping
  | closeBlock
  | openFlowList
  | closeFlowList
  | openFlowMapping
  | closeFlowMapping
  | entry
  | comma
  | key
  | value
  | aliasOf (name : String)
  | anchor (name : String)
  | tag (handle : String) (suffix : Tag)
  | scalar (text : String) (style : Style)
  deriving DecidableEq

end Orthography.Yaml
