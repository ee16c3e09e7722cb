import TagQuery.Text

namespace TagQuery

inductive Switch where
  | debug
  | help
  | version
  | text
  | file
  | raw
  deriving DecidableEq, Repr

namespace Switch

def name : Switch → Text
  | debug => "debug".toList
  | help => "help".toList
  | version => "version".toList
  | text => "text".toList
  | file => "file".toList
  | raw => "raw".toList

def letter? : Switch → Option Char
  | debug => some 'd'
  | help => some 'h'
  | version => some 'V'
  | text => some 't'
  | file => some 'f'
  | raw => none

def takesValue : Switch → Bool
  | text => true
  | file => true
  | _ => false

end Switch

inductive Mention where
  | known (switch : Switch) (value? : Option Text)
  | unknown
  deriving DecidableEq, Repr

namespace Mention

def ofName (switches : List Switch) (text : Text) : Mention :=
  let name := text.takeWhile (· ≠ '=')
  let value? := if '=' ∈ text then some (text.dropWhile (· ≠ '=')).tail else none
  match switches.find? fun switch => switch.name = name with
  | none => unknown
  | some switch =>
    if value?.isSome && !switch.takesValue then unknown else known switch value?

/-- What is attached to the letter of a switch; an equals sign in front is not part of it. -/
def attached? : Text → Option Text
  | [] => none
  | '=' :: value => some value
  | value => some value

/-- The switches named by their letters. All that follows the letter of a switch that takes a value
is the value. -/
def ofLetters (switches : List Switch) : Text → List Mention
  | [] => []
  | letter :: rest =>
    match switches.find? fun switch => switch.letter? = some letter with
    | none => [unknown]
    | some switch =>
      if switch.takesValue then [known switch (attached? rest)]
      else known switch none :: ofLetters switches rest

end Mention

inductive Argument where
  | word (text : Text)
  | mentions (mentions : List Mention)
  | endOfSwitches
  deriving DecidableEq, Repr

namespace Argument

def read (switches : List Switch) : Text → Argument
  | ['-', '-'] => endOfSwitches
  | '-' :: '-' :: name => mentions [Mention.ofName switches name]
  | '-' :: letter :: letters => mentions (Mention.ofLetters switches (letter :: letters))
  | text => word text

end Argument
end TagQuery
