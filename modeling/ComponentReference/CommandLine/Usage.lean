import ComponentReference.CommandLine.Options
import ComponentReference.Fault

/-!
# Usage

What is shown to someone who asks for help or gives a command line that cannot be
read.
-/

namespace ComponentReference.CommandLine

/-- The name of the program. -/
def programName : String := "compdoc"

/-- How the program is called. -/
def usage : String :=
  "usage: compdoc [-h] [-f DOC_TYPE] [--title DOC_NAME]\n" ++
  "               [--description DOC_DESCRIPTION]\n" ++
  "               [--components-dir COMPONENTS_DIR] [--out-dir OUT_DIR]\n" ++
  "               [--node NODE_EXECUTABLE] [-v] [--log-file LOG_FILE]\n" ++
  "               [path]\n"

/-- What the program and its options are for. -/
def helpText : String :=
  usage ++ "\n" ++
  "Generate API reference pages for a Vue component library.\n" ++
  "\n" ++
  "positional arguments:\n" ++
  "  path                  Project root containing component.doc.json (defaults\n" ++
  "                        to current directory).\n" ++
  "\n" ++
  "options:\n" ++
  "  -h, --help            show this help message and exit\n" ++
  "  -f DOC_TYPE, --format DOC_TYPE\n" ++
  "                        Output format (html or md).\n" ++
  "  --title DOC_NAME      Title of the generated documentation.\n" ++
  "  --description DOC_DESCRIPTION\n" ++
  "                        Introductory text shown on the index page.\n" ++
  "  --components-dir COMPONENTS_DIR\n" ++
  "                        Directory searched for .vue files.\n" ++
  "  --out-dir OUT_DIR     Directory the pages are written to.\n" ++
  "  --node NODE_EXECUTABLE\n" ++
  "                        Node.js executable used by the parser.\n" ++
  "  -v, --verbose         Increase log verbosity for troubleshooting.\n" ++
  "  --log-file LOG_FILE   Also write logs to this file.\n"

/-- How the program ends. -/
inductive Exit where
  | normal
  | status (code : Nat)
  /-- A fault that nothing is done about. -/
  | fault (fault : Fault)
deriving DecidableEq, Repr

/-- How the program ended, and what it wrote to its two streams. -/
structure Outcome where
  exit : Exit := .normal
  output : String := ""
  errors : String := ""
deriving DecidableEq, Repr

/-- The outcome of a command line that leads to no run. -/
def Stop.outcome : Stop → Outcome
  | help => { exit := .status 0, output := helpText }
  | refused fault =>
    { exit := .status 2
      errors := usage ++ programName ++ ": error: " ++ fault.message ++ "\n" }

end ComponentReference.CommandLine
