/-! What a declaration declares, and who may see it. -/
namespace Orthography.Declaration

inductive Kind
  | varGlobal
  | varLocal
  | varInstance
  | varStatic
  | varClass
  | varParameter
  | functionFree
  | functionMethodInstance
  | functionMethodStatic
  | functionMethodClass
  | functionOperator
  | functionConstructor
  | functionSubscript
  | classType
  | struct
  | enum
  | protocol
  | typeAlias
  | enumElement
  | extension
  | other
  deriving DecidableEq

namespace Kind

def name : Kind → String
  | varGlobal => "var_global"
  | varLocal => "var_local"
  | varInstance => "var_instance"
  | varStatic => "var_static"
  | varClass => "var_class"
  | varParameter => "var_parameter"
  | functionFree => "function_free"
  | functionMethodInstance => "function_method_instance"
  | functionMethodStatic => "function_method_static"
  | functionMethodClass => "function_method_class"
  | functionOperator => "function_operator"
  | functionConstructor => "function_constructor"
  | functionSubscript => "function_subscript"
  | classType => "class"
  | struct => "struct"
  | enum => "enum"
  | protocol => "protocol"
  | typeAlias => "type_alias"
  | enumElement => "enum_element"
  | .extension => "extension"
  | other => "other"

def named : List Kind :=
  [varGlobal,varLocal,varInstance,varStatic,varClass,varParameter,functionFree,
   functionMethodInstance,functionMethodStatic,functionMethodClass,functionOperator,
   functionConstructor,functionSubscript,classType,struct,enum,protocol,typeAlias,enumElement,
   .extension]

/-- A name that is not known stands for another kind of declaration. -/
def ofName (name : String) : Kind :=
  (named.find? (·.name == name)).getD other

@[simp] theorem ofName_name (kind : Kind) : ofName kind.name = kind := by
  cases kind <;> rfl

/-- Variables and constants, parameters apart. -/
def isVariable : Kind → Bool
  | varGlobal | varLocal | varInstance | varStatic | varClass => true
  | _ => false

def isParameter : Kind → Bool
  | varParameter => true
  | _ => false

def isFunction : Kind → Bool
  | functionFree | functionMethodInstance | functionMethodStatic | functionMethodClass
  | functionOperator | functionConstructor | functionSubscript => true
  | _ => false

def isType : Kind → Bool
  | classType | struct | enum | protocol | typeAlias => true
  | _ => false

def label (kind : Kind) : String :=
  match kind with
  | typeAlias => "Type alias"
  | struct => "Struct"
  | enum => "Enum"
  | _ => if kind.isType then "Class" else if kind.isFunction then "Function" else "Variable"

end Kind

inductive Accessibility
  | «private»
  | fileprivate
  | internal
  | «public»
  | «open»
  deriving DecidableEq

namespace Accessibility

def name : Accessibility → String
  | .private => "private"
  | fileprivate => "fileprivate"
  | internal => "internal"
  | .public => "public"
  | .open => "open"

def all : List Accessibility := [.private,fileprivate,internal,.public,.open]

def ofName? (name : String) : Option Accessibility := all.find? (·.name == name)

@[simp] theorem ofName?_name (level : Accessibility) : ofName? level.name = some level := by
  cases level <;> rfl

/-- Seen at most in the file that declares it. -/
def isPrivate : Accessibility → Bool
  | .private | fileprivate => true
  | _ => false

end Accessibility
end Orthography.Declaration
