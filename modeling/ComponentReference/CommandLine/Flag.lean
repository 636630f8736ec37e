import ComponentReference.Text.Basic

/-!
# Flags

What can be asked for on the command line besides the path of the project.
Every flag has a long spelling, and some have a letter too.
-/

namespace ComponentReference.CommandLine

/-- What a flag asks for. -/
inductive Flag where
  | help
  | docType
  | docName
  | docDescription
  | componentsDir
  | outDir
  | nodeExecutable
  | verbose
  | logFile
deriving DecidableEq, Repr

namespace Flag

/-- All flags, in the order in which they are offered. -/
def all : List Flag :=
  [help, docType, docName, docDescription, componentsDir, outDir, nodeExecutable, verbose, logFile]

theorem mem_all (f : Flag) : f ∈ all := by
  cases f <;> simp [all]

/-- The long spelling of a flag. -/
def long : Flag → String
  | help => "--help"
  | docType => "--format"
  | docName => "--title"
  | docDescription => "--description"
  | componentsDir => "--components-dir"
  | outDir => "--out-dir"
  | nodeExecutable => "--node"
  | verbose => "--verbose"
  | logFile => "--log-file"

/-- The letter of a flag. -/
def letter? : Flag → Option Char
  | help => some 'h'
  | docType => some 'f'
  | verbose => some 'v'
  | _ => none

/-- Whether a flag comes with a value. -/
def takesValue : Flag → Bool
  | help | verbose => false
  | _ => true

/-- The configuration key that a flag sets. -/
def key? : Flag → Option String
  | docType => some "docType"
  | docName => some "docName"
  | docDescription => some "docDescription"
  | componentsDir => some "componentsDir"
  | outDir => some "outDir"
  | nodeExecutable => some "nodeExecutable"
  | help | verbose | logFile => none

/-- How a flag is called in a message. -/
def label (f : Flag) : String :=
  match f.letter? with
  | some c => String.ofList ['-', c, '/'] ++ f.long
  | none => f.long

/-- The flag with the letter `c`. -/
def ofLetter? (c : Char) : Option Flag :=
  all.find? fun f => f.letter? = some c

/-- The flag with the long spelling `s`. -/
def ofLong? (s : String) : Option Flag :=
  all.find? fun f => f.long = s

/-- The flags whose long spellings begin with `s`. -/
def completions (s : String) : List Flag :=
  all.filter fun f => Text.beginsWith s f.long

theorem ofLetter?_letter (f : Flag) {c : Char} (h : f.letter? = some c) :
    ofLetter? c = some f := by
  cases f <;> simp [letter?] at h <;> subst h <;> rfl

theorem ofLong?_long (f : Flag) : ofLong? f.long = some f := by
  cases f <;> decide +kernel

end Flag

end ComponentReference.CommandLine
