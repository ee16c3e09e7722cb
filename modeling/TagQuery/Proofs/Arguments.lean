import Mathlib.Data.List.Permutation
import TagQuery.CommandLine.Request

namespace TagQuery

namespace Argument

/-- The argument names no switch: a hyphen is all of it or does not begin it. -/
def Bare (text : Text) : Prop := text.head? = some '-' → text = ['-']

instance (text : Text) : Decidable (Bare text) := inferInstanceAs (Decidable (_ → _))

theorem read_of_bare {text : Text} (bare : Bare text) (switches : List Switch) :
    read switches text = .word text := by
  unfold read
  split
  · cases bare rfl
  · cases bare rfl
  · cases bare rfl
  · rfl

end Argument

inductive Switch.Written (switch : Switch) : Option Text → List Text → Prop
  | named (alone : switch.takesValue = false) : Written switch none ["--".toList ++ switch.name]
  | lettered {letter : Char} (alone : switch.takesValue = false)
      (short : switch.letter? = some letter) : Written switch none [['-', letter]]
  | attached (value : Text) (takes : switch.takesValue = true) :
      Written switch (some value) ["--".toList ++ switch.name ++ '=' :: value]
  | apart {value : Text} (takes : switch.takesValue = true) (bare : Argument.Bare value) :
      Written switch (some value) ["--".toList ++ switch.name, value]
  | joined {letter : Char} {value : Text} (takes : switch.takesValue = true)
      (short : switch.letter? = some letter) (filled : value ≠ [])
      (plain : value.head? ≠ some '=') : Written switch (some value) ['-' :: letter :: value]
  | equated {letter : Char} (value : Text) (takes : switch.takesValue = true)
      (short : switch.letter? = some letter) :
      Written switch (some value) ['-' :: letter :: '=' :: value]
  | letteredApart {letter : Char} {value : Text} (takes : switch.takesValue = true)
      (short : switch.letter? = some letter) (bare : Argument.Bare value) :
      Written switch (some value) [['-', letter], value]

namespace Command

def options : Command → List Switch
  | .check => []
  | .test => [.text]
  | .filter => [.file, .raw]

/-- Arguments behind the command, with the switches that they name and the words of the query. -/
inductive Written (command : Command) :
    List (Switch × Option Text) → List Text → List Text → Prop
  | done : Written command [] [] []
  | rest (words : List Text) : Written command [] words ("--".toList :: words)
  | word {switches : List (Switch × Option Text)} {words arguments : List Text} {text : Text}
      (bare : Argument.Bare text) (behind : Written command switches words arguments) :
      Written command switches (text :: words) (text :: arguments)
  | switch {switches : List (Switch × Option Text)} {words arguments named : List Text}
      {switch : Switch} {value? : Option Text} (own : switch ∈ command.options)
      (names : switch.Written value? named) (behind : Written command switches words arguments) :
      Written command ((switch, value?) :: switches) words (named ++ arguments)

section Names

variable {command : Command} {switch : Switch} (own : switch ∈ command.options)
include own

theorem eq_of_mem_options :
    command = .test ∧ switch = .text ∨ command = .filter ∧ switch = .file ∨
      command = .filter ∧ switch = .raw := by
  cases command <;> simp_all [options]

theorem read_name :
    Argument.read command.switches ("--".toList ++ switch.name) =
      .mentions [.known switch none] := by
  rcases eq_of_mem_options own with ⟨rfl, rfl⟩ | ⟨rfl, rfl⟩ | ⟨rfl, rfl⟩ <;> rfl

theorem read_name_with (takes : switch.takesValue = true) (value : Text) :
    Argument.read command.switches ("--".toList ++ switch.name ++ '=' :: value) =
      .mentions [.known switch (some value)] := by
  rcases eq_of_mem_options own with ⟨rfl, rfl⟩ | ⟨rfl, rfl⟩ | ⟨rfl, rfl⟩
  · rfl
  · rfl
  · cases takes

theorem read_letter (takes : switch.takesValue = true) {letter : Char}
    (short : switch.letter? = some letter) (letters : Text) :
    Argument.read command.switches ('-' :: letter :: letters) =
      .mentions [.known switch (Mention.attached? letters)] := by
  rcases eq_of_mem_options own with ⟨rfl, rfl⟩ | ⟨rfl, rfl⟩ | ⟨rfl, rfl⟩
  · cases short
    rfl
  · cases short
    rfl
  · cases takes

end Names

end Command

namespace Gathered

def withSwitch (gathered : Gathered) (switch : Switch) (value? : Option Text) : Gathered :=
  ⟨(switch, value?) :: gathered.switches, gathered.words, false⟩

section Switches

variable {command : Command} {switch : Switch} (own : switch ∈ command.options) {argument : Text}
include own

theorem read_switch {value? : Option Text}
    (names : Argument.read command.switches argument = .mentions [.known switch value?])
    (settled : switch.takesValue = value?.isSome) (rest : List Text) (gathered : Gathered) :
    read command.switches (argument :: rest) gathered =
      read command.switches rest (gathered.withSwitch switch value?) := by
  have mentioned : mention gathered (.known switch value?) =
      .ok (gathered.withSwitch switch value?) := by
    rcases Command.eq_of_mem_options own with ⟨-, rfl⟩ | ⟨-, rfl⟩ | ⟨-, rfl⟩ <;>
      cases value? <;> first | rfl | cases settled
  rw [read, names]
  simp only [List.foldlM_cons, List.foldlM_nil, mentioned]
  rfl

theorem read_switch_apart {value : Text}
    (names : Argument.read command.switches argument = .mentions [.known switch none])
    (takes : switch.takesValue = true) (bare : Argument.Bare value) (rest : List Text)
    (gathered : Gathered) :
    read command.switches (argument :: value :: rest) gathered =
      read command.switches rest (gathered.withSwitch switch (some value)) := by
  have mentioned : mention gathered (.known switch none) =
      .ok ⟨(switch, none) :: gathered.switches, gathered.words, true⟩ := by
    rcases Command.eq_of_mem_options own with ⟨-, rfl⟩ | ⟨-, rfl⟩ | ⟨-, rfl⟩
    · rfl
    · rfl
    · cases takes
  rw [read, names]
  simp only [List.foldlM_cons, List.foldlM_nil, mentioned]
  calc
    read command.switches (value :: rest)
        ⟨(switch, none) :: gathered.switches, gathered.words, true⟩
    _ = read command.switches rest (gathered.withSwitch switch (some value)) := by
      rw [read, Argument.read_of_bare bare]
      rfl

theorem read_written {value? : Option Text} {named : List Text}
    (names : switch.Written value? named) (rest : List Text) (gathered : Gathered) :
    read command.switches (named ++ rest) gathered =
      read command.switches rest (gathered.withSwitch switch value?) := by
  cases names with
  | named alone => exact read_switch own (Command.read_name own) alone rest gathered
  | lettered alone short =>
      rcases Command.eq_of_mem_options own with ⟨-, rfl⟩ | ⟨-, rfl⟩ | ⟨-, rfl⟩
      · cases alone
      · cases alone
      · cases short
  | attached value takes =>
      exact read_switch own (Command.read_name_with own takes value) takes rest gathered
  | apart takes bare =>
      exact read_switch_apart own (Command.read_name own) takes bare rest gathered
  | @joined letter value takes short filled plain =>
      have attached : Mention.attached? value = some value := by
        unfold Mention.attached?
        split
        · exact absurd rfl filled
        · exact absurd rfl plain
        · rfl
      have names := Command.read_letter own takes short value
      rw [attached] at names
      exact read_switch own names takes rest gathered
  | equated value takes short =>
      exact read_switch own (Command.read_letter own takes short ('=' :: value)) takes rest gathered
  | letteredApart takes short bare =>
      exact read_switch_apart own (Command.read_letter own takes short []) takes bare rest gathered

end Switches

theorem read_of_written {command : Command} {switches : List (Switch × Option Text)}
    {words arguments : List Text} (written : command.Written switches words arguments)
    {gathered : Gathered} (idle : gathered.waiting = false) :
    read command.switches arguments gathered =
      .ok ⟨switches.reverse ++ gathered.switches, words.reverse ++ gathered.words, false⟩ := by
  induction written generalizing gathered with
  | done => simp [read, ← idle]
  | rest words => simp [read, Argument.read, ← idle]
  | @word switches words arguments text bare behind ih =>
      have taken : gathered.word text = ⟨gathered.switches, text :: gathered.words, false⟩ := by
        simp only [word, idle]
      calc
        read command.switches (text :: arguments) gathered =
            read command.switches arguments (gathered.word text) := by
          rw [read, Argument.read_of_bare bare]
        _ = _ := by
          rw [taken, ih rfl]
          simp
  | switch own names behind ih =>
      rw [read_written own names, ih rfl]
      simp [withSwitch]

end Gathered

namespace Action

def command : Action → Command
  | .check => .check
  | .test _ => .test
  | .filter _ _ => .filter

def switches : Action → List (Switch × Option Text)
  | .check => []
  | .test text => [(.text, some text)]
  | .filter file? raw =>
    (file?.map fun path => (Switch.file, some path)).toList ++ if raw then [(.raw, none)] else []

/-- Command lines that ask for the action on the query of the words, with and without debugging. The
switches may stand in any order. -/
inductive Written (action : Action) (words : List Text) : Bool → List Text → Prop
  | quiet {switches : List (Switch × Option Text)} {arguments : List Text}
      (asked : switches.Perm action.switches)
      (written : action.command.Written switches words arguments) :
      Written action words false (action.command.name :: arguments)
  | debugging {switches : List (Switch × Option Text)} {first arguments : List Text}
      (names : Switch.debug.Written none first) (asked : switches.Perm action.switches)
      (written : action.command.Written switches words arguments) :
      Written action words true (first ++ action.command.name :: arguments)

theorem request?_of_switches {switches : List (Switch × Option Text)} {action : Action}
    (asked : switches.Perm action.switches) {program : Gathered} (sound : program.sound = true)
    {words : List Text} (filled : words ≠ []) :
    Gathered.request? program action.command ⟨switches.reverse, words.reverse, false⟩ =
      some ⟨program.has .debug, [' '].intercalate words, action⟩ := by
  have complete : (Gathered.mk switches.reverse words.reverse false).sound = true ∧
      (Gathered.mk switches.reverse words.reverse false).action? action.command = some action := by
    cases action with
    | check =>
        obtain rfl := List.perm_nil.mp asked
        exact ⟨rfl, rfl⟩
    | test text =>
        obtain rfl := List.perm_singleton.mp asked
        exact ⟨rfl, rfl⟩
    | filter file? raw =>
        cases file? <;> cases raw
        · obtain rfl := List.perm_nil.mp asked
          exact ⟨rfl, rfl⟩
        · obtain rfl := List.perm_singleton.mp asked
          exact ⟨rfl, rfl⟩
        · obtain rfl := List.perm_singleton.mp asked
          exact ⟨rfl, rfl⟩
        · rcases List.perm_pair.mp asked with rfl | rfl
          · exact ⟨rfl, rfl⟩
          · exact ⟨rfl, rfl⟩
  simp only [Gathered.request?, sound, complete, Gathered.query, List.reverse_reverse]
  simp [filled]

theorem ofCommand_of_written {action : Action} {switches : List (Switch × Option Text)}
    {words arguments : List Text} (asked : switches.Perm action.switches)
    (written : action.command.Written switches words arguments) (filled : words ≠ [])
    {program : Gathered} (sound : program.sound = true) :
    Invocation.ofCommand program action.command arguments =
      .request ⟨program.has .debug, [' '].intercalate words, action⟩ := by
  have gathered : Gathered.read action.command.switches arguments .empty =
      .ok ⟨switches.reverse, words.reverse, false⟩ := by
    simpa [Gathered.empty] using Gathered.read_of_written written (Eq.refl Gathered.empty.waiting)
  rw [Invocation.ofCommand, gathered]
  simp only [request?_of_switches asked sound filled]

theorem ofArguments_of_written {action : Action} {words arguments : List Text} {debug : Bool}
    (written : action.Written words debug arguments) (filled : words ≠ []) :
    Invocation.ofArguments arguments = .request ⟨debug, [' '].intercalate words, action⟩ := by
  have reaches (program : Gathered) (rest : List Text) :
      Invocation.read program (action.command.name :: rest) =
        Invocation.ofCommand program action.command rest := by
    cases action <;> rfl
  cases written with
  | quiet asked written =>
      rw [Invocation.ofArguments, reaches]
      exact ofCommand_of_written asked written filled rfl
  | @debugging switches first arguments names asked written =>
      have named : Invocation.ofArguments (first ++ action.command.name :: arguments) =
          Invocation.read ⟨[(.debug, none)], [], false⟩ (action.command.name :: arguments) := by
        cases names with
        | named => rfl
        | lettered alone short =>
            cases short
            rfl
      rw [named, reaches]
      exact ofCommand_of_written asked written filled rfl

end Action
end TagQuery
