import ComponentReference.Config.Load

/-!
# Custom content of the index page
-/

namespace ComponentReference

/-- The content for the index page in the configured format.  A file that is not
there or cannot be read is reported, and leaves the content empty. -/
def readCustomContent (env : Environment) (config : Config) (root : Path) : Action String := do
  if config.customPath.isEmpty then return ""
  let path ← Action.look fun fs here => env.resolvePath fs here root config.customPath
  match ← Action.look fun fs _ => fs.stat? [] path.text with
  | none =>
    Action.report .info .index ("Custom content file not found: " ++ path.text)
    return ""
  | some _ =>
    let world ← get
    match world.files.read [] path.text >>= Text.ofBytes with
    | .ok content => return String.ofList content
    | .error fault =>
      Action.report .error .index
        ("Failed to read custom content " ++ path.text ++ ": " ++ fault.message)
      return ""

end ComponentReference
