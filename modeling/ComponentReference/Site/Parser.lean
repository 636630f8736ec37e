import ComponentReference.Site.Run

/-!
# The parser

Reports come from a parser that runs under Node.js.  The program is given a script,
and the path of the component's file as the script's argument.
-/

namespace ComponentReference

/-- The script that parses a component and writes the report. -/
def parserScript : String :=
  "\nconst \x7b parse \x7d = require('vue-docgen-api');\n" ++
  "parse(process.argv[1]).then(\n" ++
  "    (doc) => process.stdout.write(JSON.stringify(doc)),\n" ++
  "    (err) => \x7b\n" ++
  "        process.stderr.write(String((err && err.message) || err));\n" ++
  "        process.exit(1);\n" ++
  "    \x7d\n" ++
  ");\n"

/-- The source of reports that has the parser run by `program`. -/
def parserReports (call : Caller) (program : String) (directory : Option String) : ReportSource :=
  fun world path =>
    let (ending, world) := call world ⟨program, ["-e", parserScript, path.text], directory⟩
    (Json.ofEnding program ending, world)

/-- The source of reports of a run: the configured program, in the project's
directory. -/
def configuredReports (call : Caller) (config : Config) (root : Path) : ReportSource :=
  parserReports call config.nodeExecutable (some root.text)

end ComponentReference
