import ComponentReference.Host.World
import ComponentReference.Page.Basic

/-!
# Writing pages

Pages are written as UTF-8 into the output directory, over what is there.  A text with half
of a surrogate pair in it has no bytes: it is refused once its file has been opened, and
the file is left empty.
-/

namespace ComponentReference

/-- Makes the output directory, with those that it lies in. -/
def ensureDirectory (outDir : Path) : Action Unit :=
  Action.changePartly fun fs here =>
    FileSystem.makeDirectories here outDir.names.length outDir fs

namespace Environment

/-- Whether a half stands for a byte in the name of a file that is no UTF-8. -/
def isNameByte (half : Nat) : Bool :=
  0xDC80 ≤ half && half ≤ 0xDCFF

/-- Why a path cannot be handed to the system, if it is for halves in it. -/
def pathRefusal? (env : Environment) (path : String) : Option Utf8.EncodeFault :=
  Utf8.refusedFrom env.half? isNameByte 0 path.toList

/-- Why a text cannot be written, if it is for halves in it. -/
def textRefusal? (env : Environment) (text : String) : Option Utf8.EncodeFault :=
  Utf8.refusedFrom env.half? (fun _ => false) 0 text.toList

/-- Opens the file that a path leads to, which empties it or makes it, and writes a text to
it. -/
def writeFile (env : Environment) (fs : FileSystem) (here : Location) (path text : String) :
    Except Fault Unit × FileSystem :=
  match env.pathRefusal? path with
  | some refusal => (.error (.unencodable refusal), fs)
  | none =>
    let (outcome, content) : Except Fault Unit × Bytes :=
      match env.textRefusal? text with
      | some refusal => (.error (.unencodable refusal), [])
      | none => (.ok (), Utf8.encode text.toList)
    match fs.write here path content with
    | .ok fs => (outcome, fs)
    | .error fault => (.error fault, fs)

end Environment

/-- Writes a text to a file of the output directory. -/
def writeText (env : Environment) (outDir : Path) (filename body : String) : Action Path := do
  let path := outDir ++ Path.ofString filename
  Action.changePartly fun fs here => env.writeFile fs here path.text body
  Action.report .debug .output
    ("Wrote " ++ path.text ++ " (" ++ toString body.length ++ " chars)")
  return path

/-- Writes a page. -/
def writePage (env : Environment) (outDir : Path) (page : Page) : Action Path :=
  writeText env outDir page.filename page.body

end ComponentReference
