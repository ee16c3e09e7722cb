import TagQuery.CommandLine.Session

namespace TagQuery

namespace Help

def programName : Text := "fontcat".toList

def programVersion : Text := "0.1.0".toList

def title (command? : Option Command) : Text :=
  programName ++ (match command? with
    | some command => ['-'] ++ command.name
    | none => []) ++ [' '] ++ programVersion ++ ['\n']

def aboutProgram : Text := "Tag-query engine for font catalogs".toList

def aboutCommand : Command → Text
  | .check => "Checks that a query is well-formed".toList
  | .test => "Tests a query against a single searchable text".toList
  | .filter => "Prints catalog items matching a query".toList

def aboutQuery : Text := "Query, words are joined with spaces".toList

def aboutSwitch? : Switch → Option Text
  | .debug => some "Print scanned symbols and trace evaluation".toList
  | .text => some "Searchable text of the item, e.g. \"Fira Sans : {sans},{ui}\"".toList
  | .file => some "Read items from file instead of standard input".toList
  | .raw => some "Treat every line as searchable text instead of `name<TAB>tag,tag`".toList
  | .help => none
  | .version => none

def entry (name about : Text) : Text := "    ".toList ++ name ++ "    ".toList ++ about ++ ['\n']

def switchEntry (switch : Switch) : Text :=
  match aboutSwitch? switch with
  | some about => entry ("--".toList ++ switch.name) about
  | none => []

def page : Option Command → Text
  | none =>
    title none ++ aboutProgram ++ ['\n'] ++ switchEntry .debug ++
      Command.all.flatMap fun command => entry command.name (aboutCommand command)
  | some command =>
    title command ++ aboutCommand command ++ ['\n'] ++ entry "<QUERY>...".toList aboutQuery ++
      command.switches.flatMap switchEntry

end Help

namespace Program

def source? : Invocation → Option (Option Text)
  | .request request => Session.source? request
  | _ => none

/-- The answer of the program; `input` is what its source holds. -/
def run (colored : Bool) (input : Except ReadError ByteArray) (invocation : Invocation)
    (layout : Log.Layout := Log.Layout.plain) : Report :=
  match invocation with
  | .request request => Session.run colored layout input request
  | .help command? => ⟨Help.page command?, [], 0⟩
  | .version command? => ⟨Help.title command?, [], 0⟩
  | .misuse => ⟨[], [], 2⟩

/-- Whether output is colored. The environment may force it or forbid it, in this order; otherwise
it is colored on a terminal, unless the environment turns that off. -/
def colored (force? forbid? automatic? : Option String) (terminal : Bool) : Bool :=
  let isOn (value : String) : Bool := value != "0"
  if force?.any isOn then true
  else if forbid?.isSome then false
  else terminal && automatic?.all isOn

end Program
end TagQuery
