import MeshDoctor.CommandLine.Basic
import MeshDoctor.Text.Pieces

/-!
# Command lines — reading

Arguments are read from the left. A word selects a command as long as commands are to choose from, and
is an operand afterwards. Options may stand everywhere. The value of an option or an operand is
judged when the next argument shows that it is complete, so an argument that cannot be placed at all
is reported before a bad value to the left of it.

* `Switch`, `Group`, `Action`: the grammar.
* `Argument.of`: what an argument looks like.
* `Progress`: what was read at one place of the grammar.
* `CommandLine.read`: the command line that arguments denote.
-/

namespace MeshDoctor

/-! ## The grammar -/

/-- The options. -/
inductive Switch where
  | config
  | verbose
  | kubeconfig
  | context
  | failOnError
  | output
  | help
  deriving DecidableEq, Repr

namespace Switch

/-- The name after two dashes. -/
def long : Switch → String
  | config => "config"
  | verbose => "verbose"
  | kubeconfig => "kubeconfig"
  | context => "context"
  | failOnError => "fail-on-error"
  | output => "output"
  | help => "help"

/-- The letter after one dash. -/
def short? : Switch → Option Char
  | config => some 'c'
  | verbose => some 'v'
  | output => some 'o'
  | help => some 'h'
  | _ => none

/-- Does the option take a value? -/
def takesValue : Switch → Bool
  | config => true
  | kubeconfig => true
  | context => true
  | output => true
  | _ => false

/-- Is the value a path, which may not be empty? -/
def isPath : Switch → Bool
  | config => true
  | kubeconfig => true
  | output => true
  | _ => false

/-- The options that every command takes. -/
def common : List Switch := [config, verbose, kubeconfig, context, failOnError, help]

end Switch

/-- What an operand has to be. -/
inductive OperandKind where
  | pod
  | url
  deriving DecidableEq, Repr

/-- An operand. -/
inductive Operand where
  | pod (ref : PodRef)
  | url (url : Url)
  deriving DecidableEq, Repr

/-- The operand that a text denotes. -/
def OperandKind.read? : OperandKind → String → Option Operand
  | .pod, text => (PodRef.read? text).map .pod
  | .url, text => (Url.read? text).map .url

/-- The commands without their operands. -/
inductive Action where
  | podToPod
  | podToUrl
  | status
  | toPod
  | validate
  | collect
  | init
  deriving DecidableEq, Repr

/-- The operands of a command. -/
def Action.operandKinds : Action → List OperandKind
  | .podToPod => [.pod, .pod]
  | .podToUrl => [.pod, .url]
  | .toPod => [.pod]
  | _ => []

/-- The command with its operands, if none is missing. -/
def Action.command? (output : String) : Action → List Operand → Option Command
  | .podToPod, [.pod source, .pod destination] => some (.podToPod source destination)
  | .podToUrl, [.pod source, .url url] => some (.podToUrl source url)
  | .status, [] => some .controlPlaneStatus
  | .toPod, [.pod destination] => some (.ingressToPod destination)
  | .validate, [] => some .validate
  | .collect, [] => some (.collect output)
  | .init, [] => some .init
  | _, _ => none

/-- The groups of commands; the first holds all the others. -/
inductive Group where
  | program
  | connectivity
  | controlPlane
  | ingress
  deriving DecidableEq, Repr

/-- A place in the grammar: in a group, or behind the words of a command. -/
inductive Place where
  | group (g : Group)
  | action (a : Action)
  deriving DecidableEq, Repr

/-- What a word leads to. -/
inductive Turn where
  | place (p : Place)
  | help
  deriving DecidableEq, Repr

namespace Place

/-- The words to choose from. -/
def turns : Place → List (String × Turn)
  | group .program =>
    [("connectivity", .place (group .connectivity)), ("control-plane", .place (group .controlPlane)),
      ("ingress", .place (group .ingress)), ("validate", .place (action .validate)),
      ("collect", .place (action .collect)), ("init", .place (action .init)), ("help", .help)]
  | group .connectivity =>
    [("pod-to-pod", .place (action .podToPod)), ("pod-to-url", .place (action .podToUrl)),
      ("help", .help)]
  | group .controlPlane => [("status", .place (action .status)), ("help", .help)]
  | group .ingress => [("to-pod", .place (action .toPod)), ("help", .help)]
  | action _ => []

/-- The options that may stand here. -/
def switches : Place → List Switch
  | action .collect => .output :: Switch.common
  | _ => Switch.common

/-- The option of a long name. -/
def long? (p : Place) (name : String) : Option Switch :=
  p.switches.find? (·.long = name)

/-- The option of a letter. -/
def short? (p : Place) (letter : Char) : Option Switch :=
  p.switches.find? (·.short? = some letter)

/-- The operand that is due after `count` of them. -/
def operandAt? (count : Nat) : Place → Option OperandKind
  | group _ => none
  | action a => a.operandKinds[count]?

/-- The error for a word that has no meaning here; `trailing` says that options are over. -/
def strayWord (trailing : Bool) (word : String) : Place → UsageError
  | action _ => .unknownArgument
  | group g =>
    if trailing && (turns (group g)).any (·.1 = word) then .unknownArgument else .unknownCommand

/-- Follows the words after a request for help. -/
def seekHelp (p : Place) : List String → UsageError
  | [] => .helpRequested
  | word :: rest =>
    match p.turns.lookup word with
    | some (.place next) => seekHelp next rest
    | some .help => if rest = [] then .helpRequested else .unknownCommand
    | none => .unknownCommand

end Place

/-! ## Arguments -/

/-- What an argument looks like. -/
inductive Argument where
  /-- Two dashes: options are over. -/
  | separator
  | long (name : String) (value : Option String)
  /-- Letters after one dash. -/
  | letters (cs : List Char)
  | word
  deriving DecidableEq, Repr

/-- What an argument looks like. -/
def Argument.of (argument : String) : Argument :=
  match argument.toList with
  | ['-', '-'] => .separator
  | '-' :: '-' :: rest =>
    match Text.cutFirst '=' rest with
    | some (name, value) => .long (String.ofList name) (some (String.ofList value))
    | none => .long (String.ofList rest) none
  | '-' :: c :: rest => .letters (c :: rest)
  | _ => .word

/-! ## Progress at one place -/

/-- What is not judged yet. -/
inductive Pending where
  | nothing
  /-- An option that still waits for its value. -/
  | waiting (s : Switch)
  | value (s : Switch) (text : String)
  | operand (kind : OperandKind) (text : String)
  deriving DecidableEq, Repr

/-- What was read at one place. -/
structure Progress where
  given : List (Switch × String) := []
  operands : List Operand := []
  pending : Pending := .nothing
  deriving DecidableEq, Repr

namespace Progress

/-- Takes an option with its value, empty for a flag. -/
def accept (p : Progress) (s : Switch) (value : String) : Except UsageError Progress :=
  if p.given.any (·.1 = s) then .error .repeatedOption
  else if s.isPath && value.isEmpty then .error .missingValue
  else .ok { p with given := p.given ++ [(s, value)], pending := .nothing }

/-- Judges what is pending. -/
def settle (p : Progress) : Except UsageError Progress :=
  match p.pending with
  | .nothing => .ok p
  | .waiting _ => .error .missingValue
  | .value s text => p.accept s text
  | .operand kind text =>
    match kind.read? text with
    | some operand =>
      .ok { p with operands := p.operands ++ [operand], pending := .nothing }
    | none => .error .malformedOperand

/-- The operands read so far, with one that is pending. -/
def operandCount (p : Progress) : Nat :=
  match p.pending with
  | .operand _ _ => p.operands.length + 1
  | _ => p.operands.length

/-- Goes on with an option that has its value, or is a flag. -/
def complete (p : Progress) (s : Switch) (value : String) : Except UsageError Progress := do
  let p ← p.settle
  if s = .help then throw .helpRequested else p.accept s value

/-- Goes on with an option that waits for its value. -/
def await (p : Progress) (s : Switch) : Except UsageError Progress := do
  let p ← p.settle
  pure { p with pending := .waiting s }

/-- Goes on with a long option. -/
def takeLong (p : Progress) (place : Place) (name : String) (value : Option String) :
    Except UsageError Progress :=
  match place.long? name, value with
  | none, _ => .error .unknownArgument
  | some s, some value =>
    if s.takesValue then p.complete s value else .error .unexpectedValue
  | some s, none => if s.takesValue then p.await s else p.complete s ""

/-- A value without the sign that may join it to its letter. -/
def joinedValue : List Char → String
  | '=' :: rest => String.ofList rest
  | cs => String.ofList cs

/-- Goes on with letters: flags, of which the last may be an option whose value follows. -/
def takeLetters (p : Progress) (place : Place) : List Char → Except UsageError Progress
  | [] => .ok p
  | c :: rest =>
    match place.short? c with
    | none => .error .unknownArgument
    | some s =>
      if !s.takesValue then do
        let p ← p.complete s ""
        p.takeLetters place rest
      else if rest.isEmpty then p.await s
      else p.complete s (joinedValue rest)

/-- Goes on with a word that is no value. -/
def takeOperand (p : Progress) (place : Place) (trailing : Bool) (word : String) :
    Except UsageError Progress :=
  match place.operandAt? p.operandCount with
  | none => .error (place.strayWord trailing word)
  | some kind => do
    let p ← p.settle
    pure { p with pending := .operand kind word }

/-- The last value given for an option. -/
def valueOf (given : List (Switch × String)) (s : Switch) : Option String :=
  given.reverse.lookup s

/-- The command at the end of the arguments. -/
def finish (p : Progress) : Place → Except UsageError Command
  | .group _ => .error (if p.given.isEmpty then .nothingGiven else .missingCommand)
  | .action a =>
    match a.command? ((valueOf p.given .output).getD ".") p.operands with
    | some command => .ok command
    | none => .error .missingOperand

end Progress

/-! ## Reading -/

/-- A command and the options given on the way to it, the outer ones first. -/
structure Reading where
  command : Command
  given : List (Switch × String)
  deriving DecidableEq, Repr

/-- Where a word leads that is not a value or an operand. -/
def turnAt? (place : Place) (p : Progress) (word : String) : Option Turn :=
  match p.pending with
  | .waiting _ => none
  | _ => place.turns.lookup word

/-- Reads the operands after options are over. -/
def readTrailing (place : Place) (p : Progress) : List String → Except UsageError Reading
  | [] => do
    let p ← p.settle
    pure ⟨← p.finish place, p.given⟩
  | word :: rest => do
    let p ← p.takeOperand place true word
    readTrailing place p rest

/-- Reads arguments at a place. A command is read to its end before an option in front of it is
judged. -/
def readFrom (place : Place) (p : Progress) : List String → Except UsageError Reading
  | [] => do
    let p ← p.settle
    pure ⟨← p.finish place, p.given⟩
  | argument :: rest =>
    match turnAt? place p argument with
    | some .help => .error (place.seekHelp rest)
    | some (.place next) => do
      let inner ← readFrom next {} rest
      let p ← p.settle
      pure { inner with given := p.given ++ inner.given }
    | none =>
      match Argument.of argument with
      | .separator => readTrailing place p rest
      | .long name value => do
        let p ← p.takeLong place name value
        readFrom place p rest
      | .letters cs => do
        let p ← p.takeLetters place cs
        readFrom place p rest
      | .word =>
        match p.pending with
        | .waiting s => readFrom place { p with pending := .value s argument } rest
        | _ => do
          let p ← p.takeOperand place false argument
          readFrom place p rest

namespace CommandLine

/-- The settings of a reading; of an option given more than once, the innermost counts. -/
def ofReading (r : Reading) : CommandLine :=
  let value := Progress.valueOf r.given
  { command := r.command
    config := (value .config).getD "osm-doctor.yaml"
    verbose := (value .verbose).isSome
    kubeconfig := value .kubeconfig
    context := value .context
    failOnError := (value .failOnError).isSome }

/-- The command line that arguments denote. -/
def read (arguments : List String) : Except UsageError CommandLine :=
  (readFrom (.group .program) {} arguments).map ofReading

end CommandLine

end MeshDoctor
