import ComponentReference.Machine.Tool.Moments
import ComponentReference.Machine.Tool.Reading

/-!
# The program that tells the date

It tells the present or another moment, in a format of its own or in a given one.
-/

namespace ComponentReference.Tool

/-- The formats that have a name, by how much they tell. -/
def preciseFormat (front between zone : String) (precision : String) : Option String :=
  let time := [("hours", "%H"), ("minutes", "%H:%M"), ("seconds", "%H:%M:%S"),
    ("ns", "%H:%M:%S" ++ between ++ "%N")]
  if precision = "date" then some front
  else (time.find? fun (name, _) => precision ≠ "" && Text.beginsWith precision name).map fun (_, format) =>
    front ++ (if zone = "%z" then "T" else " ") ++ format ++ "%:z"

/-- A choice among names that may be cut short; others are refused with all of them. -/
def chosenOf (word : String) (names : List String) (given : Octets) : Task String := do
  let text := String.ofList given
  match names.filter (Text.beginsWith text) with
  | [name] => if text = "" then refuse else return name
  | _ => if names.contains text then return text else refuse
where
  /-- Refuses what is no choice. -/
  refuse : Task String :=
    refuseOperands (Octets.ofString "invalid argument " ++ quoted given ++
      Octets.ofString (" for ‘" ++ word ++ "’\nValid arguments are:") ++
      names.flatMap fun name => Octets.ofString ("\n  - ‘" ++ name ++ "’"))

/-- Tells the date. -/
def date : Program := do
  let a ← Options.taken { letters := "Ru", valued := "dfrsX", attached := "I", words :=
    [("date", 'd'), ("debug", 'D'), ("file", 'f'), ("iso-8601", 'I'), ("reference", 'r'),
      ("rfc-email", 'R'), ("rfc-822", 'R'), ("rfc-2822", 'R'), ("rfc-3339", 'X'), ("set", 's'),
      ("utc", 'u'), ("uct", 'u'), ("universal", 'u')] }
  let present : Moment := (← get).clock
  let named ← a.options.filterMapM fun (letter, value) => do
    match letter with
    | 'R' => return some "%a, %d %b %Y %H:%M:%S %z"
    | 'I' =>
      let precision ← if value.isEmpty then pure "date"
        else chosenOf "--iso-8601" ["hours", "minutes", "date", "seconds", "ns"] value
      return preciseFormat "%Y-%m-%d" "," "%z" precision
    | 'X' =>
      let precision ← chosenOf "--rfc-3339" ["date", "seconds", "ns"] value
      return preciseFormat "%Y-%m-%d" "." "" precision
    | _ => return none
  let sources := (a.options.filter fun (c, _) => "dfr".toList.contains c).map Prod.fst
  if 1 < sources.eraseDups.length then
    refuseOperands (Octets.ofString
      "the options to specify dates for printing are mutually exclusive")
  if !sources.isEmpty ∧ a.has 's' then
    refuseOperands (Octets.ofString
      "the options to print and set the time may not be used together")
  if 1 < named.length then Task.refuse 1 (Octets.ofString "multiple output formats specified")
  let invalid (text : Octets) : Task Unit :=
    Task.complain (Octets.ofString "invalid date " ++ quoted text)
  let format ← match a.operands with
    | [] => pure none
    | ('+' :: format) :: [] =>
      if !named.isEmpty then Task.refuse 1 (Octets.ofString "multiple output formats specified")
      pure (some format)
    | text :: [] =>
      if !sources.isEmpty then
        refuseOperands (Octets.ofString "the argument " ++ quoted text ++ Octets.ofString
          " lacks a leading '+';\nwhen using an option to specify date(s), any non-option\nargument must be a format string beginning with '+'")
      let isStamp := text.all fun c => c.isDigit ∨ c = '.'
      if isStamp ∧ 8 ≤ text.length then
        Task.complain (Octets.ofString "cannot set date: Operation not permitted")
        Task.finish 1
      invalid text
      Task.finish 1
    | _ :: extra :: _ => refuseExtra extra
  let format : Octets := (format.orElse fun _ => named.head?.map String.toList).getD
    "%a %b %e %H:%M:%S %Z %Y".toList
  let show' (moment : Moment) : Task Unit := Task.write (moment.shownAs format ++ ['\n'])
  match a.value? 's' with
  | some text =>
    match Moment.ofText? present text with
    | none =>
      invalid text
      return 1
    | some moment =>
      Task.complain (Octets.ofString "cannot set date: Operation not permitted")
      show' moment
      return 1
  | none =>
    match a.value? 'd', a.value? 'f', a.value? 'r' with
    | some text, _, _ =>
      match Moment.ofText? present text with
      | none =>
        invalid text
        return 1
      | some moment =>
        show' moment
        return 0
    | _, some name, _ =>
      match ← Task.readOperand name with
      | .error errno => Task.refuse 1 (shownName name ++ Octets.ofString (": " ++ errno.message))
      | .ok content =>
        Task.worst (Octets.lines content) fun line => do
          match Moment.ofText? present (Octets.chomp line) with
          | none =>
            invalid (Octets.chomp line)
            return 1
          | some moment =>
            show' moment
            return 0
    | _, _, some name =>
      match ← Task.find name with
      | .error errno => Task.refuse 1 (shownName name ++ Octets.ofString (": " ++ errno.message))
      | .ok (place, _) =>
        show' ((← get).files.attributesAt place).changed
        return 0
    | none, none, none =>
      show' present
      return 0

end ComponentReference.Tool
