import MeshDoctor.Text.Numeral

/-!
# Failures

A failed request is a cause together with the contexts that were added on the way out, the
outermost first.

* `Cause`: what went wrong at the bottom, `Cause.message` its wording.
* `Failure.chain`: the messages from the outermost context to the cause.
* `Failure.isNotFound`: did the cluster answer that the resource does not exist?
-/

namespace MeshDoctor

/-- What the operating system answers to a refused operation. -/
inductive SystemError where
  | missing
  | denied
  | alreadyExists
  | notADirectory
  | isADirectory
  | nameTooLong
  /-- A path with a NUL character, which ends a path for the system. -/
  | nulInPath
  /-- A run of a tool with a NUL character in a word. -/
  | nulInWord
  deriving DecidableEq, Repr

/-- The wording of a refused operation. -/
def SystemError.message : SystemError → String
  | .missing => "No such file or directory (os error 2)"
  | .denied => "Permission denied (os error 13)"
  | .alreadyExists => "File exists (os error 17)"
  | .notADirectory => "Not a directory (os error 20)"
  | .isADirectory => "Is a directory (os error 21)"
  | .nameTooLong => "File name too long (os error 36)"
  | .nulInPath => "file name contained an unexpected NUL byte"
  | .nulInWord => "nul byte found in provided data"

/-- What a failure goes back to. -/
inductive Cause where
  /-- The cluster has no resource of this kind and name. -/
  | notFound (kind name : String)
  /-- A text or value that is not the JSON document it should be. -/
  | malformedJson
  /-- A text that is not the YAML document it should be. -/
  | malformedYaml
  /-- An HTTP exchange that broke down. -/
  | brokenExchange
  /-- Nothing came before the deadline. -/
  | elapsed
  | system (error : SystemError)
  | numeral (error : Text.NumeralError)
  | note (text : String)
  deriving DecidableEq, Repr

/-- The wording of a cause. -/
def Cause.message : Cause → String
  | .notFound kind name => kind ++ " " ++ name ++ " not found"
  | .malformedJson => "<json>"
  | .malformedYaml => "<yaml>"
  | .brokenExchange => "<http>"
  | .elapsed => "deadline has elapsed"
  | .system error => error.message
  | .numeral error => error.message
  | .note text => text

/-- A cause with the contexts added to it, the outermost first. -/
structure Failure where
  contexts : List String
  cause : Cause
  deriving DecidableEq, Repr

namespace Failure

/-- A failure without context. -/
def of (cause : Cause) : Failure := ⟨[], cause⟩

/-- A failure that says only this. -/
def say (text : String) : Failure := of (.note text)

/-- The failure with one more context around it. -/
def within (context : String) (f : Failure) : Failure :=
  { f with contexts := context :: f.contexts }

/-- The messages from the outermost context to the cause. -/
def chain (f : Failure) : List String :=
  f.contexts ++ [f.cause.message]

/-- The chain on one line. -/
def text (f : Failure) : String :=
  String.intercalate ": " f.chain

/-- The outermost message. -/
def headline (f : Failure) : String :=
  f.contexts.headD f.cause.message

/-- Did the cluster answer that the resource does not exist? -/
def isNotFound (f : Failure) : Bool :=
  match f.cause with
  | .notFound _ _ => true
  | _ => false

@[simp] theorem isNotFound_within (context : String) (f : Failure) :
    (f.within context).isNotFound = f.isNotFound := rfl

@[simp] theorem chain_within (context : String) (f : Failure) :
    (f.within context).chain = context :: f.chain := rfl

end Failure

/-- Adds a context to the failure of a result. -/
def addContext {α : Type} (context : String) : Except Failure α → Except Failure α
  | .ok a => .ok a
  | .error f => .error (f.within context)

end MeshDoctor
