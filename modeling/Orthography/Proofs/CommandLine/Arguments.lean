import Orthography.CommandLine.Arguments

/-! What reading arguments keeps. A property of the arguments so far that no option, file or
command breaks holds of all arguments that are accepted. -/
namespace Orthography.CommandLine

def Yields {α : Type} (holds : α → Prop) (result : Except Refusal α) : Prop :=
  ∀ value, result = .ok value → holds value

section Yields

variable {α β : Type} {holds : α → Prop} {other : β → Prop}

theorem yields_ok {value : α} (given : holds value) : Yields holds (.ok value) := by
  rintro _ ⟨⟩
  exact given

theorem yields_error (refusal : Refusal) : Yields holds (.error refusal) := nofun

theorem Yields.bind {result : Except Refusal α} {next : α → Except Refusal β}
    (first : Yields holds result) (later : ∀ value, holds value → Yields other (next value)) :
    Yields other (result >>= next) := by
  cases result with
  | error refusal => exact yields_error refusal
  | ok value => exact later value (first value rfl)

end Yields

structure Kept (holds : Arguments → Prop) : Prop where
  blank : holds .blank
  set : ∀ {arguments : Arguments} (setting : Setting) (value : String), holds arguments →
    Yields holds (arguments.set setting value)
  turnOn : ∀ {arguments : Arguments} (switch : Switch), holds arguments →
    Yields holds (arguments.turnOn switch)
  addFile : ∀ {arguments : Arguments} (file : String), holds arguments →
    holds { arguments with files := arguments.files ++ [file] }
  setCommand : ∀ {arguments : Arguments} (command : Command), holds arguments →
    holds { arguments with command := some command }

abbrev Reads (holds : Arguments → Prop) : Except Refusal ArgumentReading → Prop :=
  Yields fun reading => holds reading.arguments

namespace Kept

variable {holds : Arguments → Prop} (kept : Kept holds) {reading : ArgumentReading}

include kept

theorem settle (given : holds reading.arguments) : Reads holds reading.settle := by
  unfold ArgumentReading.settle
  split
  · exact yields_ok given
  · exact yields_error _
  · exact (kept.set _ _ given).bind fun _ later => yields_ok later

theorem meet (given : holds reading.arguments) (setting : Setting) (attached : Option String) :
    Reads holds (reading.meet setting attached) := by
  refine (kept.settle given).bind fun settled given => ?_
  cases attached with
  | some value => exact (kept.set setting value given).bind fun _ later => yields_ok later
  | none => exact yields_ok given

theorem meetSwitch (given : holds reading.arguments) (switch : Switch) :
    Reads holds (reading.turnOn switch) := by
  refine (kept.settle given).bind fun settled given => ?_
  exact (kept.turnOn switch given).bind fun _ later => yields_ok later

theorem takeLong (given : holds reading.arguments) (name : String) (value : Option String) :
    Reads holds (reading.takeLong name value) := by
  unfold ArgumentReading.takeLong
  split
  · exact kept.meet given _ _
  · exact kept.meetSwitch given _
  · exact yields_error _

theorem takeShort (given : holds reading.arguments) (options : List Char) :
    Reads holds (reading.takeShort options) := by
  induction options generalizing reading with
  | nil => exact yields_ok given
  | cons c rest ih =>
    unfold ArgumentReading.takeShort
    split
    · exact (kept.meetSwitch given _).bind fun _ later => ih later
    · exact kept.meet given _ _
    · exact yields_error _

theorem meetFile (given : holds reading.arguments) (file : String) (mode : Mode) :
    Reads holds (reading.addFile file mode) := by
  refine (kept.settle given).bind fun settled given => ?_
  exact yields_ok (kept.addFile file given)

theorem take (given : holds reading.arguments) (argument : String) :
    Reads holds (reading.take argument) := by
  unfold ArgumentReading.take
  split
  · exact kept.meetFile given _ _
  split
  · exact yields_ok given
  · exact kept.takeLong given _ _
  · exact kept.takeShort given _
  · exact yields_ok given
  · exact kept.meetFile given _ _

theorem readArguments (given : holds reading.arguments) (arguments : List String) :
    Yields holds (CommandLine.readArguments reading arguments) := by
  induction arguments generalizing reading with
  | nil => exact (kept.settle given).bind fun _ later => yields_ok later
  | cons argument rest ih =>
    unfold CommandLine.readArguments
    have goOn : Yields holds (do CommandLine.readArguments (← reading.take argument) rest) :=
      (kept.take given argument).bind fun _ later => ih later
    split
    · have anything : Yields (fun _ => True) (readCommand argument rest) := fun _ _ => trivial
      refine anything.bind fun command _ => ?_
      cases command with
      | none => exact goOn
      | some command =>
        exact (kept.settle given).bind fun _ later => yields_ok (kept.setCommand command later)
    · exact goOn

/-- Arguments that are accepted have the property. -/
theorem read {given : List String} {arguments : Arguments}
    (accepted : Arguments.read given = .ok arguments) : holds arguments := by
  have start : holds ArgumentReading.start.arguments := kept.blank
  exact kept.readArguments start given arguments accepted

end Kept

theorem yields_once {α : Type} (before : Option α) (arguments : Arguments) :
    Yields (· = arguments) (once before arguments) := by
  unfold once
  split
  · exact yields_error _
  · exact yields_ok rfl

theorem severity?_ne_info (value : String) : severity? value ≠ some .info := by
  simp [severity?,Option.filter_eq_some_iff]

/-- No argument asks for remarks. -/
theorem kept_severity : Kept fun arguments => arguments.severity ≠ some .info where
  blank := by simp [Arguments.blank]
  set {arguments} setting value given := by
    cases setting with
    | config =>
      simp only [Arguments.set]
      split
      · exact yields_error _
      · rintro later accepted
        rwa [yields_once _ _ later accepted]
    | dictionary =>
      simp only [Arguments.set]
      split
      · exact yields_ok given
      · exact yields_error _
    | language =>
      rintro later accepted
      rwa [yields_once _ _ later accepted]
    | exclude => exact yields_ok given
    | severity =>
      refine (yields_once _ _).bind ?_
      rintro _ rfl
      cases named : CommandLine.severity? value with
      | none => exact yields_error _
      | some severity =>
        apply yields_ok
        rw [← named]
        exact severity?_ne_info value
    | minLength | format | jobs =>
      refine (yields_once _ _).bind ?_
      rintro _ rfl
      split
      · exact yields_ok given
      · exact yields_error _
  turnOn {arguments} switch given := by
    cases switch with
    | noColor | verbose | exitZero =>
      simp only [Arguments.turnOn]
      split
      · exact yields_error _
      · exact yields_ok given
    | help | version => exact yields_error _
  addFile _ given := given
  setCommand _ given := given

end Orthography.CommandLine
