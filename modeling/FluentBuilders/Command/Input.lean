/-
  Input — getting from a file to a descriptor, with words for what can go wrong on the way.
-/
import FluentBuilders.Command.Run
import FluentBuilders.Descriptor.Reader

namespace FluentBuilders.Command

/-- Why the bytes of a file are not to be had, with what the system says. -/
inductive FileError
  /-- The file does not open. -/
  | unopened (reason : String)
  /-- What opens has no bytes that could be mapped into memory, like a directory. -/
  | unmapped (reason : String)
  deriving DecidableEq, Repr

/-- What became of opening a file: its bytes, or why there are none. -/
abbrev Contents := Except FileError (List UInt8)

/-- What the system says of a file that is not there. -/
def noSuchFile : String := "No such file or directory (os error 2)"

/-- What the system says of a file that cannot be mapped. -/
def noSuchDevice : String := "No such device (os error 19)"

/-- What the system says of a name that is too long. -/
def nameTooLong : String := "File name too long (os error 36)"

/-- What the system says of a file on the way to another. -/
def notDirectory : String := "Not a directory (os error 20)"

/-- What the system says of a directory in the place of a file. -/
def isDirectory : String := "Is a directory (os error 21)"

/-- What the system says of a file in the place of a directory. -/
def fileExists : String := "File exists (os error 17)"

/-- The causes of a file's bytes not being there. -/
def FileError.causes (path : String) : FileError → List String
  | .unopened reason =>
    [path ++ ": unable to open file: " ++ reason ++ ": IO error", reason ++ ": IO error", reason]
  | .unmapped reason => [reason ++ ": mmap failed", reason]

/-- The complaint about a file that cannot be opened. -/
def openComplaint (path : String) (e : FileError) : Complaint where
  message := "failed to open descriptor `" ++ path ++ "`"
  causes := e.causes path

/-- The complaint about a file that gives no descriptor. -/
def loadComplaint (e : Descriptor.LoadError) : Complaint where
  message := e.message
  causes := e.reason?.toList

/-- The descriptor in a file. -/
def loadFile (path : String) (contents : Contents) : Except Complaint Descriptor :=
  match contents with
  | .error e => .error (openComplaint path e)
  | .ok bytes =>
    match Descriptor.load bytes with
    | .error e => .error (loadComplaint e)
    | .ok d => .ok d

end FluentBuilders.Command
