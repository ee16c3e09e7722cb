import TagQuery.CommandLine.Diagnostic
import TagQuery.CommandLine.Log
import TagQuery.CommandLine.Request
import TagQuery.Item

namespace TagQuery

inductive ReadError where
  | system (message : Text) (code : Nat)
  | notUtf8
  deriving DecidableEq, Repr

namespace ReadError

def message : ReadError → Text
  | system message code => message ++ " (os error ".toList ++ Text.decimal code ++ [')']
  | notUtf8 => "stream did not contain valid UTF-8".toList

end ReadError

structure Settings where
  debug : Bool
  colored : Bool
  layout : Log.Layout

structure Report where
  out : Text
  err : Text
  exit : Nat
  deriving DecidableEq, Repr

namespace Report

def andThen (first second : Report) : Report :=
  ⟨first.out ++ second.out, first.err ++ second.err, second.exit⟩

end Report

namespace Session

/-- The events as they are logged, from the record `first` on; without debugging none is. -/
def logged (settings : Settings) (first : Nat) (events : List Event) : Text :=
  if settings.debug then
    (events.zipIdx first).flatMap fun (event, number) => settings.layout number (Log.record event)
  else []

def symbolListing (debug colored : Bool) (query : Text) : Text :=
  if debug then
    Style.strong.paint colored "Symbols:".toList ++ ['\n'] ++
      (Query.symbols query).flatMap Log.symbolLine ++ ['\n']
  else []

def warning (colored : Bool) (query : Text) : Text :=
  match Diagnostic.pending? query with
  | some diagnostic => diagnostic.rendered colored query true
  | none => []

def complaint (colored : Bool) (query : Text) (fault : Fault) : Text :=
  (Diagnostic.ofFault query fault).rendered colored query (Query.pending? query).isNone

def check (settings : Settings) (query : Text) : Report :=
  let evaluation := Query.evaluate query []
  let listing := symbolListing settings.debug settings.colored query
  let notes := warning settings.colored query ++ logged settings 0 evaluation.events
  match evaluation.verdict with
  | .value _ => ⟨listing, notes, 0⟩
  | .malformed fault => ⟨listing, notes ++ complaint settings.colored query fault, 1⟩

def loggedLater (settings : Settings) (query : Text) (events : List Event) : Text :=
  logged settings (Query.evaluate query []).events.length events

def announcement (colored : Bool) (style : Style) (message : String) : Text :=
  style.paint colored message.toList ++ ['\n']

def test (settings : Settings) (query text : Text) : Report :=
  let log := loggedLater settings query (Query.events query text)
  if Query.selects query text then
    ⟨announcement settings.colored (.strongTinted .green) "Text matches the query", log, 0⟩
  else
    ⟨announcement settings.colored (.strongTinted .red) "Text does not match the query", log, 1⟩

def itemLine (colored : Bool) (item : Item) : Text :=
  let tags := item.tags.map ((Style.tinted .blue).paint colored)
  Style.strong.paint colored item.name ++
    (if tags = [] then [] else [' '] ++ [',', ' '].intercalate tags) ++ ['\n']

def emptyNotice (colored : Bool) (selected : List α) : Text :=
  if selected.isEmpty then announcement colored (.strongTinted .blue) "No item matched this query"
  else []

def filterLines (settings : Settings) (query : Text) (lines : List Text) : Report :=
  let selected := lines.filter (Query.selects query)
  ⟨Text.ofLines selected,
    loggedLater settings query (lines.flatMap (Query.events query)) ++
      emptyNotice settings.colored selected, 0⟩

def filterItems (settings : Settings) (query : Text) (items : List Item) : Report :=
  let selected := Catalog.select query items
  ⟨selected.flatMap (itemLine settings.colored),
    loggedLater settings query (items.flatMap fun item => Query.events query item.searchedText) ++
      emptyNotice settings.colored selected, 0⟩

def linesOf (input : Except ReadError ByteArray) : Except ReadError (List Text) :=
  match input with
  | .error error => .error error
  | .ok bytes =>
    match Text.decode? bytes with
    | some text => .ok text.lines
    | none => .error .notUtf8

def filter (settings : Settings) (query : Text) (raw : Bool)
    (input : Except ReadError ByteArray) : Report :=
  match linesOf input with
  | .error error => ⟨[], (Diagnostic.ofMessage error.message).sentence settings.colored, 1⟩
  | .ok lines =>
    if raw then filterLines settings query lines
    else filterItems settings query (Catalog.ofLines lines)

def act (settings : Settings) (query : Text) (input : Except ReadError ByteArray) :
    Action → Report
  | .check =>
    ⟨announcement settings.colored (.strongTinted .green) "Query is well-formed", [], 0⟩
  | .test text => test settings query text
  | .filter _ raw => filter settings query raw input

def run (colored : Bool) (layout : Log.Layout) (input : Except ReadError ByteArray)
    (request : Request) : Report :=
  let settings : Settings := ⟨request.debug, colored, layout⟩
  let checked := check settings request.query
  if checked.exit = 0 then checked.andThen (act settings request.query input request.action)
  else checked

/-- The source that a request has to read before it is carried out, where `some none` is the
standard input. A malformed query reads nothing. -/
def source? (request : Request) : Option (Option Text) :=
  match request.action, Query.verdict request.query [] with
  | .filter file? _, .value _ => some file?
  | _, _ => none

end Session
end TagQuery
