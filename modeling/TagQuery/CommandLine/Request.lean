import TagQuery.CommandLine.Switch

/-!
What a command line asks for. A word or a switch that cannot be understood is misuse, but a request
for help or for the version is granted as soon as it is read, whatever came before it and whatever
follows.
-/
namespace TagQuery

inductive Command where
  | check
  | test
  | filter
  deriving DecidableEq, Repr

namespace Command

def all : List Command := [check, test, filter]

def name : Command → Text
  | check => "check".toList
  | test => "match".toList
  | filter => "filter".toList

def ofName? (name : Text) : Option Command := all.find? fun command => command.name = name

def switches : Command → List Switch
  | check => [.help, .version]
  | test => [.text, .help, .version]
  | filter => [.file, .raw, .help, .version]

end Command

inductive Action where
  | check
  | test (text : Text)
  | filter (file? : Option Text) (raw : Bool)
  deriving DecidableEq, Repr

structure Request where
  debug : Bool
  query : Text
  action : Action
  deriving DecidableEq, Repr

inductive Invocation where
  | request (request : Request)
  | help (command? : Option Command)
  | version (command? : Option Command)
  | misuse
  deriving DecidableEq, Repr

inductive Halt where
  | help
  | version
  | misuse
  deriving DecidableEq, Repr

namespace Halt

def invocation (command? : Option Command) : Halt → Invocation
  | help => .help command?
  | version => .version command?
  | misuse => .misuse

end Halt

/-- The switches and words read so far, the latest first, and whether the latest switch still waits
for its value. -/
structure Gathered where
  switches : List (Switch × Option Text)
  words : List Text
  waiting : Bool
  deriving DecidableEq, Repr

namespace Gathered

def empty : Gathered := ⟨[], [], false⟩

def mention (gathered : Gathered) : Mention → Except Halt Gathered
  | .unknown => .error .misuse
  | .known .help _ => .error .help
  | .known .version _ => .error .version
  | .known switch value? =>
    .ok { gathered with
      switches := (switch, value?) :: gathered.switches
      waiting := switch.takesValue && value?.isNone }

/-- A word is the value of the switch that waits for one. -/
def word (gathered : Gathered) (text : Text) : Gathered :=
  match gathered.waiting, gathered.switches with
  | true, (switch, _) :: switches =>
    { gathered with switches := (switch, some text) :: switches, waiting := false }
  | _, _ => { gathered with words := text :: gathered.words }

def read (switches : List Switch) : List Text → Gathered → Except Halt Gathered
  | [], gathered => .ok gathered
  | argument :: arguments, gathered =>
    match Argument.read switches argument with
    | .endOfSwitches => .ok { gathered with words := arguments.reverse ++ gathered.words }
    | .word text => read switches arguments (gathered.word text)
    | .mentions mentions => mentions.foldlM mention gathered >>= read switches arguments

def sound (gathered : Gathered) : Bool :=
  decide (gathered.switches.map Prod.fst).Nodup &&
    gathered.switches.all fun (switch, value?) => value?.isSome || !switch.takesValue

def has (gathered : Gathered) (switch : Switch) : Bool :=
  gathered.switches.any fun named => named.1 = switch

def value? (gathered : Gathered) (switch : Switch) : Option Text :=
  (gathered.switches.lookup switch).join

def query (gathered : Gathered) : Text := [' '].intercalate gathered.words.reverse

def action? (gathered : Gathered) : Command → Option Action
  | .check => some .check
  | .test => (gathered.value? .text).map Action.test
  | .filter => some (.filter (gathered.value? .file) (gathered.has .raw))

def request? (program : Gathered) (command : Command) (gathered : Gathered) : Option Request :=
  if program.sound && gathered.sound && !gathered.words.isEmpty then
    (gathered.action? command).map fun action => ⟨program.has .debug, gathered.query, action⟩
  else none

end Gathered

namespace Invocation

def ofHelp : List Text → Invocation
  | [] => help none
  | [name] =>
    if name = Switch.name .help then help none
    else match Command.ofName? name with
      | some command => help (some command)
      | none => misuse
  | _ => misuse

def ofCommand (program : Gathered) (command : Command) (arguments : List Text) : Invocation :=
  match Gathered.read command.switches arguments .empty with
  | .error halt => halt.invocation command
  | .ok gathered =>
    match Gathered.request? program command gathered with
    | some made => request made
    | none => misuse

def read (program : Gathered) : List Text → Invocation
  | [] => misuse
  | argument :: arguments =>
    match Argument.read [.debug, .help, .version] argument with
    | .endOfSwitches => misuse
    | .word name =>
      if name = Switch.name .help then ofHelp arguments
      else match Command.ofName? name with
        | some command => ofCommand program command arguments
        | none => misuse
    | .mentions mentions =>
      match mentions.foldlM Gathered.mention program with
      | .error halt => halt.invocation none
      | .ok program => read program arguments

def ofArguments (arguments : List Text) : Invocation := read .empty arguments

end Invocation
end TagQuery
