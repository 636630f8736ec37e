import ComponentReference.Host.World

/-!
# Calling programs

A program is called with arguments in a directory, and leaves behind a status and
what it wrote to its two streams.
-/

namespace ComponentReference

/-- A call of a program. -/
structure Command where
  program : String
  arguments : List String
  /-- The directory that the program is to work in, unless it is the caller's. -/
  directory : Option String := none
deriving DecidableEq, Repr

/-- How a program ended: its status, which is negative if a signal ended it, and
what it wrote to its two streams. -/
structure Ending where
  status : Int
  output : Bytes := []
  errors : Bytes := []
deriving DecidableEq, Repr

/-- What becomes of a call, and of the world in which the program ran. -/
abbrev Caller := World → Command → Except Fault Ending × World

end ComponentReference
