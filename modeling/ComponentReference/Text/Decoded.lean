import ComponentReference.Fault

/-!
# Text in files and streams

Text comes as UTF-8 with any kind of line break, and is worked on with line
feeds alone.
-/

namespace ComponentReference.Text

/-- The text that bytes stand for. -/
def ofBytes (bytes : Bytes) : Except Fault (List Char) :=
  match Utf8.decode bytes with
  | .ok s => .ok (unifyBreaks s)
  | .error fault => .error (.undecodable fault)

end ComponentReference.Text
