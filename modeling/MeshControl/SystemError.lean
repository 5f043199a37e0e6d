import MeshControl.SystemError.Kind
import MeshControl.Text.Inspection

/-!
Errors of files and sockets.

Most are numbers of the operating system, which gives each a text. The others never reached it:
an error that is only a kind, one with an own text, and a refusal of the arguments.
-/

namespace MeshControl

inductive SystemError where
  /-- The operating system reported this number. -/
  | numbered (code : Nat)
  /-- Nothing but the kind is known. -/
  | simple (kind : ErrorKind)
  /-- A library of the program reported this text. -/
  | custom (text : String)
  /-- A path with a null character cannot be handed to the operating system. -/
  | nullInPath
deriving DecidableEq

namespace SystemError

/-- The operating system found nothing at the path. -/
def notFound : SystemError := numbered 2

/-- The path names a socket, which cannot be opened as a file. -/
def noDevice : SystemError := numbered 6

/-- Something else is at the path already. -/
def alreadyExists : SystemError := numbered 17

/-- No interface of the machine has the number. -/
def noSuchDevice : SystemError := numbered 19

/-- A path goes through, or has to be, a directory and is not. -/
def notADirectory : SystemError := numbered 20

/-- A directory cannot be read as a file. -/
def isADirectory : SystemError := numbered 21

/-- The arguments make no sense together. -/
def invalidArgument : SystemError := numbered 22

/-- A name or a path is longer than a file system takes. -/
def nameTooLong : SystemError := numbered 36

/-- Somebody else listens on the address. -/
def addressInUse : SystemError := numbered 98

/-- No interface of the machine has the address. -/
def addressNotAvailable : SystemError := numbered 99

def kind : SystemError → ErrorKind
  | numbered code => ErrorKind.ofCode code
  | simple kind => kind
  | custom _ => .other
  | nullInPath => .invalidInput

/-- What the operating system calls an error number. -/
def codeText (code : Nat) : String :=
  match systemErrorTexts.find? (·.1 = code) with
  | some (_, text) => text
  | none => "Unknown error " ++ Text.decimalText code

/-- The text of a refusal of a path with a null character. -/
def nullInPathText : String := "file name contained an unexpected NUL byte"

def message : SystemError → String
  | numbered code => codeText code ++ " (os error " ++ Text.decimalText code ++ ")"
  | simple kind => kind.description
  | custom text => text
  | nullInPath => nullInPathText

def inspect : SystemError → String
  | numbered code =>
    Text.inspectRecord "Os" [("code", Text.decimalText code),
      ("kind", (ErrorKind.ofCode code).inspect), ("message", Text.quoted (codeText code))]
  | simple kind => Text.inspectCase "Kind" kind.inspect
  | custom text =>
    Text.inspectRecord "Custom" [("kind", ErrorKind.other.inspect), ("error", Text.quoted text)]
  | nullInPath =>
    Text.inspectRecord "Error" [("kind", ErrorKind.invalidInput.inspect),
      ("message", Text.quoted nullInPathText)]

end SystemError

end MeshControl
