import ComponentReference.Machine.Tool.Arguments
import ComponentReference.Text.Quoted

/-!
# Scripts that require modules

The program that runs the parser's scripts has none of the modules that a script may
require, and says so with the place of the requirement.
-/

namespace ComponentReference.Tool

/-- A requirement in a script: the module, and its line and column, from one on. -/
structure Requirement where
  module : List Char
  line : Nat
  column : Nat

/-- The first requirement in a script. -/
def requirement? : (line column : Nat) → List Char → Option Requirement
  | _, _, [] => none
  | line, column, c :: rest =>
    let front := "require(".toList
    if front.isPrefixOf (c :: rest) then
      match (c :: rest).drop front.length with
      | quote :: name =>
        if quote = '"' ∨ quote = '\'' then
          some { module := name.takeWhile (· ≠ quote), line, column }
        else none
      | [] => none
    else if c = '\n' then requirement? (line + 1) 1 rest
    else requirement? line (column + 1) rest

/-- The longest path that is listed in the line of its list. -/
def listedInLine : Nat := 63

/-- What is said about a requirement of a script that runs at a place. -/
def requirementFailure (place : String) (r : Requirement) : String :=
  let loader := "node:internal/modules/cjs/loader:"
  let listed := if place.length ≤ listedInLine then "[ " ++ Text.quoted place ++ " ]"
    else "[\n    " ++ Text.quoted place ++ "\n  ]"
  loader ++ "1433\n  throw err;\n  ^\n\n" ++
  "Error: Cannot find module '" ++ String.ofList r.module ++ "'\n" ++
  "Require stack:\n- " ++ place ++ "\n" ++
  "    at Function._resolveFilename (" ++ loader ++ "1430:15)\n" ++
  "    at defaultResolveImpl (" ++ loader ++ "1040:19)\n" ++
  "    at resolveForCJSWithHooks (" ++ loader ++ "1045:22)\n" ++
  "    at Function._load (" ++ loader ++ "1216:25)\n" ++
  "    at wrapModuleLoad (" ++ loader ++ "254:19)\n" ++
  "    at Module.require (" ++ loader ++ "1527:12)\n" ++
  "    at require (node:internal/modules/helpers:147:16)\n" ++
  "    at [eval]:" ++ toString r.line ++ ":" ++ toString r.column ++ "\n" ++
  "    at runScriptInThisContext (node:internal/vm:209:10)\n" ++
  "    at node:internal/process/execution:446:12 \x7b\n" ++
  "  code: 'MODULE_NOT_FOUND',\n" ++
  "  requireStack: " ++ listed ++ "\n\x7d\n\nNode.js v22.23.3\n"

/-- Runs a script among the arguments, up to its first requirement. -/
def runScript : Program := do
  let p ← read
  let evaluated : List String := ["-e", "--eval", "-p", "--print", "-pe"]
  match p.arguments with
  | option :: script :: _ =>
    if !evaluated.contains (String.ofList option) then return 0
    let here := (Location.path p.directory).text
    let place := (if here = "/" then "" else here) ++ "/[eval]"
    match (Octets.toString? script).bind fun s => requirement? 1 1 s.toList with
    | none => return 0
    | some r =>
      Task.tell (Octets.ofString (requirementFailure place r))
      return 1
  | [['-', 'v']] | [['-', '-', 'v', 'e', 'r', 's', 'i', 'o', 'n']] =>
    Task.print "v22.23.3\n"
    return 0
  | _ => return 0

end ComponentReference.Tool
