import Orthography.Settings
import Orthography.Text.Blank

/-! The arguments of the program. An option's value waits until something else follows it,
so that of two mistakes the one that is noticed first is reported: a name that is not known,
then a value that cannot be taken. -/
namespace Orthography.CommandLine

inductive Command
  | explain
  | tokenize (identifiers : List String)
  | init (format : String)
  deriving DecidableEq

structure Arguments where
  files : List String
  config : Option String
  /-- Word lists as language and path. -/
  dictionaries : List (String × String)
  language : Option String
  minLength : Option Nat
  exclude : Option (List String)
  severity : Option Severity
  format : Option Settings.OutputFormat
  noColor : Bool
  jobs : Option Nat
  verbose : Bool
  exitZero : Bool
  command : Option Command
  deriving DecidableEq

def Arguments.blank : Arguments :=
  ⟨[],none,[],none,none,none,none,none,false,none,false,false,none⟩

inductive Refusal
  | usage
  /-- A value that cannot be taken, with the reason. -/
  | value (reason : String)
  | help
  | version
  deriving DecidableEq

inductive Setting
  | config
  | dictionary
  | language
  | minLength
  | exclude
  | severity
  | format
  | jobs
  deriving DecidableEq

inductive Switch
  | noColor
  | verbose
  | exitZero
  | help
  | version
  deriving DecidableEq

inductive Name
  | setting (setting : Setting)
  | switch (switch : Switch)
  deriving DecidableEq

def Name.ofLong? : String → Option Name
  | "config" => some (.setting .config)
  | "dictionary" => some (.setting .dictionary)
  | "language" => some (.setting .language)
  | "min-length" => some (.setting .minLength)
  | "exclude" => some (.setting .exclude)
  | "severity" => some (.setting .severity)
  | "format" => some (.setting .format)
  | "jobs" => some (.setting .jobs)
  | "no-color" => some (.switch .noColor)
  | "verbose" => some (.switch .verbose)
  | "exit-zero" => some (.switch .exitZero)
  | "help" => some (.switch .help)
  | "version" => some (.switch .version)
  | _ => none

def Name.ofShort? : Char → Option Name
  | 'c' => some (.setting .config)
  | 'd' => some (.setting .dictionary)
  | 'l' => some (.setting .language)
  | 'f' => some (.setting .format)
  | 'j' => some (.setting .jobs)
  | 'v' => some (.switch .verbose)
  | 'h' => some (.switch .help)
  | 'V' => some (.switch .version)
  | _ => none

/-- A language and a path around the first equals sign, neither of them empty. -/
def dictionary? (value : String) : Option (String × String) :=
  let cs := value.toList
  let language := cs.takeWhile (· != '=')
  let path := (cs.dropWhile (· != '=')).drop 1
  if language.isEmpty || path.isEmpty then none
  else some (String.ofList language,String.ofList path)

/-- Why a text is no natural number of 64 bits. -/
inductive NumberFault
  | empty
  | digit
  | large
  deriving DecidableEq

def NumberFault.message : NumberFault → String
  | empty => "cannot parse integer from empty string"
  | digit => "invalid digit found in string"
  | large => "number too large to fit in target type"

/-- Reads digits from the left until one is no digit or the number grows too large. -/
def numberAfter (value : Nat) : List Char → Except NumberFault Nat
  | [] => .ok value
  | c :: rest =>
    if !Numeral.isDecimalDigit c then .error .digit
    else
      let value := 10 * value + (c.toNat - '0'.toNat)
      if value < Numeral.bound 64 then numberAfter value rest else .error .large

def number (text : String) : Except NumberFault Nat :=
  match text.toList with
  | [] => .error .empty
  | ['+'] => .error .digit
  | '+' :: digits => numberAfter 0 digits
  | digits => numberAfter 0 digits

/-- A severity that misspellings can be reported with. -/
def severity? (value : String) : Option Severity :=
  (Severity.ofWord? value).filter (· ≠ .info)

/-- An option that was not given before. -/
def once {α : Type} (before : Option α) (arguments : Arguments) : Except Refusal Arguments :=
  if before.isSome then .error .usage else .ok arguments

namespace Arguments

/-- Takes an option with its value. Only word lists and excluded words may be given more
than once. -/
def set (arguments : Arguments) (setting : Setting) (value : String) :
    Except Refusal Arguments :=
  match setting with
  | .config =>
    if value.isEmpty then .error .usage
    else once arguments.config { arguments with config := some value }
  | .dictionary =>
    match dictionary? value with
    | some entry => .ok { arguments with dictionaries := arguments.dictionaries ++ [entry] }
    | none => .error (.value s!"expected LANG=PATH, got '{value}'")
  | .language => once arguments.language { arguments with language := some value }
  | .minLength => do
    let arguments ← once arguments.minLength arguments
    match number value with
    | .ok n => .ok { arguments with minLength := some n }
    | .error fault => .error (.value fault.message)
  | .exclude =>
    let words := (Text.splitAt ',' value.toList).map String.ofList
    .ok { arguments with exclude := some (arguments.exclude.getD [] ++ words) }
  | .severity => do
    let arguments ← once arguments.severity arguments
    match severity? value with
    | some severity => .ok { arguments with severity := some severity }
    | none => .error (.value s!"invalid severity '{value}' (warning, error)")
  | .format => do
    let arguments ← once arguments.format arguments
    match Settings.OutputFormat.ofName? value with
    | some format => .ok { arguments with format := some format }
    | none => .error .usage
  | .jobs => do
    let arguments ← once arguments.jobs arguments
    match number value with
    | .ok n => .ok { arguments with jobs := some n }
    | .error fault => .error (.value fault.message)

def turnOn (arguments : Arguments) : Switch → Except Refusal Arguments
  | .noColor =>
    if arguments.noColor then .error .usage else .ok { arguments with noColor := true }
  | .verbose =>
    if arguments.verbose then .error .usage else .ok { arguments with verbose := true }
  | .exitZero =>
    if arguments.exitZero then .error .usage else .ok { arguments with exitZero := true }
  | .help => .error .help
  | .version => .error .version

end Arguments

/-- What an argument looks like. -/
inductive Shape
  | escape
  /-- A long option, with the text behind its equals sign. -/
  | long (name : String) (value : Option String)
  /-- Short options, at least one. -/
  | short (options : List Char)
  | value

def shapeOf (argument : String) : Shape :=
  match argument.toList with
  | '-' :: '-' :: [] => .escape
  | '-' :: '-' :: rest =>
    .long (String.ofList (rest.takeWhile (· != '=')))
      (match rest.dropWhile (· != '=') with
        | [] => none
        | _ :: value => some (String.ofList value))
  | '-' :: c :: rest => .short (c :: rest)
  | _ => .value

/-- Where reading stands. -/
inductive Mode
  /-- The next argument may be a command. -/
  | open
  /-- A file came last, so that names of commands are files. -/
  | files
  /-- The option that came last lacks its value. -/
  | wanting
  /-- Behind a double hyphen all arguments are files. -/
  | escaped
  deriving DecidableEq

structure ArgumentReading where
  arguments : Arguments
  /-- An option whose value is still to be taken, or to come. -/
  pending : Option (Setting × Option String)
  mode : Mode

namespace ArgumentReading

def start : ArgumentReading := ⟨.blank,none,.open⟩

/-- Takes the value that waits. -/
def settle (reading : ArgumentReading) : Except Refusal ArgumentReading :=
  match reading.pending with
  | none => .ok reading
  | some (_,none) => .error .usage
  | some (setting,some value) => do
    .ok { reading with arguments := ← reading.arguments.set setting value, pending := none }

/-- Meets an option with a value behind it or in the next argument. -/
def meet (reading : ArgumentReading) (setting : Setting) (attached : Option String) :
    Except Refusal ArgumentReading := do
  let reading ← reading.settle
  match attached with
  | some value => .ok ⟨← reading.arguments.set setting value,none,.open⟩
  | none => .ok ⟨reading.arguments,some (setting,none),.wanting⟩

def turnOn (reading : ArgumentReading) (switch : Switch) :
    Except Refusal ArgumentReading := do
  let reading ← reading.settle
  .ok ⟨← reading.arguments.turnOn switch,none,.open⟩

def takeLong (reading : ArgumentReading) (name : String) (value : Option String) :
    Except Refusal ArgumentReading :=
  match Name.ofLong? name, value with
  | some (.setting setting), value => reading.meet setting value
  | some (.switch switch), none => reading.turnOn switch
  | _, _ => .error .usage

def attachedValue : List Char → Option String
  | [] => none
  | '=' :: value => some (String.ofList value)
  | value => some (String.ofList value)

def takeShort (reading : ArgumentReading) : List Char → Except Refusal ArgumentReading
  | [] => .ok reading
  | c :: rest =>
    match Name.ofShort? c with
    | some (.switch switch) => do takeShort (← reading.turnOn switch) rest
    | some (.setting setting) => reading.meet setting (attachedValue rest)
    | none => .error .usage

def addFile (reading : ArgumentReading) (file : String) (mode : Mode) :
    Except Refusal ArgumentReading := do
  let reading ← reading.settle
  .ok { reading with
    arguments := { reading.arguments with files := reading.arguments.files ++ [file] }
    mode }

/-- Takes an argument that is no command. -/
def take (reading : ArgumentReading) (argument : String) : Except Refusal ArgumentReading :=
  if reading.mode = .escaped then reading.addFile argument .escaped
  else match shapeOf argument, reading.mode, reading.pending with
    | .escape, _, _ => .ok { reading with mode := .escaped }
    | .long name value, _, _ => reading.takeLong name value
    | .short options, _, _ => reading.takeShort options
    | .value, .wanting, some (setting,_) =>
      .ok { reading with pending := some (setting,some argument), mode := .open }
    | .value, _, _ => reading.addFile argument .files

def allowsCommand (reading : ArgumentReading) : Bool := reading.mode = .open

end ArgumentReading

/-- Whether an argument asks for help on a command, which is the only option that all
commands have. -/
def asksHelp (argument : String) : Bool :=
  argument == "--help" || (argument.toList.take 2 == ['-','h'])

/-- The identifiers behind the command that splits them, at least one. -/
def readIdentifiers (identifiers : List String) (escaped : Bool) :
    List String → Except Refusal (List String)
  | [] => if identifiers.isEmpty then .error .usage else .ok identifiers
  | argument :: rest =>
    if escaped then readIdentifiers (identifiers ++ [argument]) true rest
    else match shapeOf argument with
      | .escape => readIdentifiers identifiers true rest
      | .value => readIdentifiers (identifiers ++ [argument]) false rest
      | _ => .error (if asksHelp argument then .help else .usage)

def readFormat (format : Option String) : List String → Except Refusal String
  | [] => .ok (format.getD "yaml")
  | argument :: rest =>
    match shapeOf argument, rest with
    | .long "output-format" (some value), rest =>
      if format.isSome then .error .usage else readFormat (some value) rest
    | .long "output-format" none, value :: rest =>
      match shapeOf value with
      | .value => if format.isSome then .error .usage else readFormat (some value) rest
      | _ => .error .usage
    | .escape, [] => .ok (format.getD "yaml")
    | _, _ => .error (if asksHelp argument then .help else .usage)

def readCommand (name : String) (rest : List String) : Except Refusal (Option Command) :=
  match name with
  | "explain" =>
    match rest with
    | [] => .ok (some .explain)
    | argument :: others =>
      if argument == "--" && others.isEmpty then .ok (some .explain)
      else .error (if asksHelp argument then .help else .usage)
  | "tokenize" => do .ok (some (.tokenize (← readIdentifiers [] false rest)))
  | "init" => do .ok (some (.init (← readFormat none rest)))
  | "help" =>
    match rest with
    | [] => .error .help
    | [topic] =>
      .error (if ["explain","tokenize","init","help"].contains topic then .help else .usage)
    | _ => .error .usage
  | _ => .ok none

/-- Reads arguments up to a command, and the command with its own. -/
def readArguments (reading : ArgumentReading) : List String → Except Refusal Arguments
  | [] => do .ok (← reading.settle).arguments
  | argument :: rest => do
    let command ←
      if reading.allowsCommand then readCommand argument rest else .ok none
    match command with
    | some command => do .ok { (← reading.settle).arguments with command := some command }
    | none => readArguments (← reading.take argument) rest

def Arguments.read (arguments : List String) : Except Refusal Arguments :=
  readArguments .start arguments

end Orthography.CommandLine
