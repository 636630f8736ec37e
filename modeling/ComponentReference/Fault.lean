import ComponentReference.Document.OfJson
import ComponentReference.Json.Reader
import ComponentReference.Text.Half
import ComponentReference.Text.Quoted

/-!
# Faults

Everything that can stop an operation, by cause.  `Fault.message` gives the
wording.
-/

namespace ComponentReference

/-- Why the system refuses an operation on a path. -/
inductive Errno where
  | notPermitted
  | missing
  | noDevice
  | unknownFormat
  | badStream
  | denied
  | present
  | notDirectory
  | isDirectory
  | invalid
  | inUse
  | busy
  | noSpace
  | brokenPipe
  | nameTooLong
  | notEmpty
  | linkLoop
deriving DecidableEq, Repr

namespace Errno

/-- The number of a refusal. -/
def number : Errno → Nat
  | notPermitted => 1
  | missing => 2
  | noDevice => 6
  | unknownFormat => 8
  | badStream => 9
  | denied => 13
  | present => 17
  | notDirectory => 20
  | isDirectory => 21
  | invalid => 22
  | inUse => 16
  | busy => 26
  | noSpace => 28
  | brokenPipe => 32
  | nameTooLong => 36
  | notEmpty => 39
  | linkLoop => 40

/-- The wording of a refusal. -/
def message : Errno → String
  | notPermitted => "Operation not permitted"
  | missing => "No such file or directory"
  | noDevice => "No such device or address"
  | unknownFormat => "Exec format error"
  | badStream => "Bad file descriptor"
  | denied => "Permission denied"
  | present => "File exists"
  | notDirectory => "Not a directory"
  | isDirectory => "Is a directory"
  | invalid => "Invalid argument"
  | inUse => "Device or resource busy"
  | busy => "Text file busy"
  | noSpace => "No space left on device"
  | brokenPipe => "Broken pipe"
  | nameTooLong => "File name too long"
  | notEmpty => "Directory not empty"
  | linkLoop => "Too many levels of symbolic links"

end Errno

/-- What can stop an operation. -/
inductive Fault where
  /-- The system refused an operation on the path. -/
  | system (errno : Errno) (path : String)
  /-- The system refused an operation on what is no longer known by its path. -/
  | pathless (errno : Errno)
  /-- There is nothing where components are looked for. -/
  | componentsMissing (root : String)
  /-- What is to be searched for components is no directory. -/
  | componentsNotDirectory (root : String)
  /-- A path holds a NUL character. -/
  | embeddedNul
  /-- Where a path should be, there is none. -/
  | notAPath
  /-- Symbolic links lead back to themselves. -/
  | linkCycle (path : String)
  /-- A path begins at the home directory of nobody. -/
  | unknownHome
  /-- Bytes are no UTF-8. -/
  | undecodable (fault : Utf8.Fault)
  /-- A text holds halves of surrogate pairs, which cannot be written. -/
  | unencodable (fault : Utf8.EncodeFault)
  /-- A whole number has more digits than are read. -/
  | longInteger (digits : Nat)
  /-- What should describe a component is no object. -/
  | notAnObject (fault : NotAnObject)
  /-- The program that runs the parser is not there. -/
  | parserMissing (program : String)
  /-- The parser failed and said why. -/
  | parserFailed (reason : String)
  /-- The parser failed without a word. -/
  | parserExit (code : Int)
  /-- The parser's report is no JSON. -/
  | reportMalformed (fault : Json.ReadFault)
  /-- The parser's report is no object. -/
  | reportNotAnObject
deriving DecidableEq, Repr

namespace Fault

/-- The wording of a refusal of the system. -/
def refusal (errno : Errno) : String :=
  "[Errno " ++ toString errno.number ++ "] " ++ errno.message

/-- The wording of a fault. -/
def message : Fault → String
  | system errno path => refusal errno ++ ": " ++ Text.quoted path
  | pathless errno => refusal errno
  | componentsMissing root => "Components directory not found: " ++ root
  | componentsNotDirectory root => "Components path is not a directory: " ++ root
  | embeddedNul => "embedded null byte"
  | notAPath => "expected str, bytes or os.PathLike object, not list"
  | linkCycle path => "Symlink loop from " ++ Text.quoted path
  | unknownHome => "Could not determine home directory."
  | undecodable fault => fault.message
  | unencodable fault => fault.message
  | longInteger digits => (Json.ReadFault.longInteger digits).message
  | notAnObject fault => fault.message
  | parserMissing program =>
    "Unable to locate '" ++ program ++ "'. Install Node.js and vue-docgen-api."
  | parserFailed reason => reason
  | parserExit code => "exit code " ++ code.repr
  | reportMalformed fault => "Parser returned invalid JSON: " ++ fault.message
  | reportNotAnObject => "Parser returned a non-object document"

/-- Whether the fault is one of the file system. -/
def ofFiles : Fault → Bool
  | system _ _ | pathless _ | componentsMissing _ | componentsNotDirectory _ => true
  | _ => false

end Fault

end ComponentReference
