import ComponentReference.Json.Basic
import ComponentReference.Text.Half

/-!
# Reading JSON

`Json.parse` reads one value from a text and refuses the text at the first
place where no value can go on.  Besides the standard grammar it knows the three
numbers `NaN`, `Infinity` and `-Infinity`.  A repeated key of an object keeps its
first position and takes its last value.

A reading function gets the text that is left and gives back what it read with
the text that is left then.  Where reading stops for good, the rest of the text
says where that was.
-/

namespace ComponentReference.Json

/-! ## What can go wrong -/

/-- What is wrong at the place where reading stopped. -/
inductive Complaint where
  | value
  | propertyName
  | colon
  | comma
  | extraData
  | unterminatedString
  | controlCharacter
  | escape
  | unicodeEscape
  | byteOrderMark
deriving DecidableEq, Repr

/-- The wording of a complaint. -/
def Complaint.message : Complaint → String
  | .value => "Expecting value"
  | .propertyName => "Expecting property name enclosed in double quotes"
  | .colon => "Expecting ':' delimiter"
  | .comma => "Expecting ',' delimiter"
  | .extraData => "Extra data"
  | .unterminatedString => "Unterminated string starting at"
  | .controlCharacter => "Invalid control character at"
  | .escape => "Invalid \\escape"
  | .unicodeEscape => "Invalid \\uXXXX escape"
  | .byteOrderMark => "Unexpected UTF-8 BOM (decode using utf-8-sig)"

/-- Why a text was refused. -/
inductive ReadFault where
  /-- The text is no JSON; it was given up at the character with this offset,
  which stands in this column of this line. -/
  | malformed (complaint : Complaint) (line column offset : Nat)
  /-- A whole number has more digits than are read. -/
  | longInteger (digits : Nat)
deriving DecidableEq, Repr

/-- The greatest number of digits of a whole number. -/
def maxDigits : Nat := 4300

/-- The wording of a fault. -/
def ReadFault.message : ReadFault → String
  | .malformed complaint line column offset =>
    complaint.message ++ ": line " ++ toString line ++ " column " ++ toString column ++
      " (char " ++ toString offset ++ ")"
  | .longInteger digits =>
    "Exceeds the limit (" ++ toString maxDigits ++
      " digits) for integer string conversion: value has " ++ toString digits ++
      " digits; use sys.set_int_max_str_digits() to increase the limit"

/-- A fault on the way: the complaint and the text left at its place. -/
inductive Stop where
  | here (complaint : Complaint) (rest : List Char)
  | longInteger (digits : Nat)

/-- The fault of a stop in `text`: lines and columns count from one. -/
def Stop.fault (text : List Char) : Stop → ReadFault
  | .longInteger digits => .longInteger digits
  | .here complaint rest =>
    let before := text.take (text.length - rest.length)
    .malformed complaint (before.count '\n' + 1)
      ((before.reverse.takeWhile (· ≠ '\n')).length + 1) before.length

/-- What a reading function gives: a result and the text that is left. -/
abbrev Reading (α : Type) := Except Stop (α × List Char)

/-! ## Blanks and numbers -/

/-- Whether the character may stand between the parts of a value. -/
def isGap (c : Char) : Bool :=
  c = ' ' || c = '\t' || c = '\n' || c = '\r'

/-- The text after the gap that it begins with. -/
def skipGap (text : List Char) : List Char :=
  text.dropWhile isGap

/-- The number that a list of digits writes. -/
def digitsValue (digits : List Char) : Nat :=
  digits.foldl (fun n c => 10 * n + (c.toNat - '0'.toNat)) 0

/-- The digits after a point, if at least one follows. -/
def fraction (text : List Char) : List Char × List Char :=
  match text with
  | '.' :: rest =>
    match rest.takeWhile Char.isDigit with
    | [] => ([], text)
    | digits => (digits, rest.dropWhile Char.isDigit)
  | _ => ([], text)

/-- The exponent after its mark, if it has at least one digit. -/
def exponent? (text : List Char) : Option (Int × List Char) :=
  match text with
  | mark :: rest =>
    if mark = 'e' ∨ mark = 'E' then
      let (negative, rest) := match rest with
        | '-' :: rest => (true, rest)
        | '+' :: rest => (false, rest)
        | _ => (false, rest)
      match rest.takeWhile Char.isDigit with
      | [] => none
      | digits =>
        let size : Int := digitsValue digits
        some (if negative then -size else size, rest.dropWhile Char.isDigit)
    else none
  | [] => none

/-- The number that the text begins with; `start` is the text from its sign on.
Without a fraction and an exponent it is whole. -/
def number (start : List Char) (negative : Bool) (text : List Char) : Reading Json :=
  let whole := match text with
    | '0' :: _ => ['0']
    | _ => text.takeWhile Char.isDigit
  if whole.isEmpty then .error (.here .value start)
  else
    let (decimals, rest) := fraction (text.drop whole.length)
    match exponent? rest with
    | some (e, rest) =>
      .ok (.double (.ofDecimal negative (digitsValue (whole ++ decimals)) (e - decimals.length)),
        rest)
    | none =>
      if !decimals.isEmpty then
        .ok (.double (.ofDecimal negative (digitsValue (whole ++ decimals)) (-decimals.length)),
          rest)
      else if maxDigits < whole.length then .error (.longInteger whole.length)
      else
        let size : Int := digitsValue whole
        .ok (.int (if negative then -size else size), rest)

/-! ## Strings -/

/-- The code unit that four hexadecimal digits write.  A character has to follow
them. -/
def codeUnit? : List Char → Option (Nat × List Char)
  | a :: b :: c :: d :: next :: rest => do
    let a ← Text.hexValue? a
    let b ← Text.hexValue? b
    let c ← Text.hexValue? c
    let d ← Text.hexValue? d
    some (((a * 16 + b) * 16 + c) * 16 + d, next :: rest)
  | _ => none

/-- The first of the two units of a character beyond the basic plane. -/
def isHighUnit (n : Nat) : Bool := 0xD800 ≤ n && n < 0xDC00

/-- The second of the two units of a character beyond the basic plane. -/
def isLowUnit (n : Nat) : Bool := 0xDC00 ≤ n && n < 0xE000

/-- The character of a single unit.  Half of a pair alone is none, and another character
stands for it. -/
def unitChar (n : Nat) : Char :=
  if isHighUnit n || isLowUnit n then Text.ofHalf n else Char.ofNat n

/-- The character written by the units after `u`. -/
def unicodeEscape (text : List Char) : Reading Char :=
  match codeUnit? text with
  | none => .error (.here .unicodeEscape ('u' :: text))
  | some (unit, rest) =>
    match isHighUnit unit, rest with
    | true, '\\' :: 'u' :: more =>
      match codeUnit? more with
      | none => .error (.here .unicodeEscape ('u' :: more))
      | some (low, rest') =>
        if isLowUnit low then
          .ok (Char.ofNat (0x10000 + (unit - 0xD800) * 0x400 + (low - 0xDC00)), rest')
        else .ok (unitChar unit, rest)
    | _, _ => .ok (unitChar unit, rest)

/-- The character that an escape stands for, read after its backslash in the
string that begins at `opening`. -/
def escape (opening : List Char) : List Char → Reading Char
  | [] => .error (.here .unterminatedString opening)
  | '"' :: rest => .ok ('"', rest)
  | '\\' :: rest => .ok ('\\', rest)
  | '/' :: rest => .ok ('/', rest)
  | 'b' :: rest => .ok (Char.ofNat 0x8, rest)
  | 'f' :: rest => .ok (Char.ofNat 0xC, rest)
  | 'n' :: rest => .ok ('\n', rest)
  | 'r' :: rest => .ok ('\r', rest)
  | 't' :: rest => .ok ('\t', rest)
  | 'u' :: rest => unicodeEscape rest
  | rest => .error (.here .escape ('\\' :: rest))

/-- The characters up to the closing quote of the string that begins at
`opening`.  Every step reads a character, so as many steps as there are
characters suffice. -/
def string (opening : List Char) : (steps : Nat) → List Char → Reading (List Char)
  | 0, _ | _, [] => .error (.here .unterminatedString opening)
  | steps + 1, c :: rest =>
    if c = '"' then .ok ([], rest)
    else if c = '\\' then
      match escape opening rest with
      | .error stop => .error stop
      | .ok (c, rest) => (string opening steps rest).map fun (s, rest) => (c :: s, rest)
    else if c.toNat < 0x20 then .error (.here .controlCharacter (c :: rest))
    else (string opening steps rest).map fun (s, rest) => (c :: s, rest)

/-- The string whose opening quote has been read. -/
def stringAfterQuote (steps : Nat) (rest : List Char) : Reading String :=
  (string ('"' :: rest) steps rest).map fun (s, rest) => (String.ofList s, rest)

/-! ## Values -/

/-- The value that the text begins with, if it is one of the named ones. -/
def named? (text : List Char) : Option (Json × List Char) :=
  [("null", Json.null), ("true", .bool true), ("false", .bool false), ("NaN", .double (.nan false)),
    ("Infinity", .double (.infinite false)), ("-Infinity", .double (.infinite true))].findSome?
    fun (name, value) =>
      if name.toList.isPrefixOf text then some (value, text.drop name.length) else none

mutual

/-- The value that the text begins with. -/
def value : (steps : Nat) → List Char → Reading Json
  | 0, text => .error (.here .value text)
  | steps + 1, text =>
    match named? text with
    | some found => .ok found
    | none =>
      match text with
      | '"' :: rest => (stringAfterQuote steps rest).map fun (s, rest) => (.str s, rest)
      | '[' :: rest =>
        match skipGap rest with
        | ']' :: rest => .ok (.arr [], rest)
        | rest => (list steps rest).map fun (items, rest) => (.arr items, rest)
      | '{' :: rest =>
        match skipGap rest with
        | '}' :: rest => .ok (.obj [], rest)
        | rest => (members steps [] rest).map fun (fields, rest) => (.obj fields, rest)
      | '-' :: rest => number text true rest
      | _ => number text false text

/-- The items of a list up to its closing bracket. -/
def list : (steps : Nat) → List Char → Reading (List Json)
  | 0, text => .error (.here .value text)
  | steps + 1, text =>
    match value steps text with
    | .error stop => .error stop
    | .ok (item, rest) =>
      match skipGap rest with
      | ']' :: rest => .ok ([item], rest)
      | ',' :: rest => (list steps (skipGap rest)).map fun (items, rest) => (item :: items, rest)
      | rest => .error (.here .comma rest)

/-- The fields of an object up to its closing brace, after the fields `sofar`. -/
def members : (steps : Nat) → (sofar : Fields) → List Char → Reading Fields
  | 0, _, text => .error (.here .value text)
  | steps + 1, sofar, text =>
    match text with
    | '"' :: rest =>
      match stringAfterQuote steps rest with
      | .error stop => .error stop
      | .ok (key, rest) =>
        match skipGap rest with
        | ':' :: rest =>
          match value steps (skipGap rest) with
          | .error stop => .error stop
          | .ok (field, rest) =>
            let sofar := sofar.put key field
            match skipGap rest with
            | '}' :: rest => .ok (sofar, rest)
            | ',' :: rest => members steps sofar (skipGap rest)
            | rest => .error (.here .comma rest)
        | rest => .error (.here .colon rest)
    | _ => .error (.here .propertyName text)

end

/-- The one value that the text holds, before its faults are placed. -/
def parseText (text : List Char) : Except Stop Json :=
  if text.head? = some (Char.ofNat 0xFEFF) then .error (.here .byteOrderMark text)
  else
    -- a character costs two steps at most, and a value may take two more than it has characters
    match value (2 * text.length + 2) (skipGap text) with
    | .error stop => .error stop
    | .ok (result, rest) =>
      match skipGap rest with
      | [] => .ok result
      | rest => .error (.here .extraData rest)

/-- The value that a text holds. -/
def parse (text : List Char) : Except ReadFault Json :=
  (parseText text).mapError (Stop.fault text)

end ComponentReference.Json
