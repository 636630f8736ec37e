import ComponentReference.Machine.Number.Calendar
import ComponentReference.Machine.Text.Octets

/-!
# Texts of moments

A moment is counted in microseconds since 1970.  A text names one by a date, a time, the
zone that they are of, and by how much that is to be moved; what it does not name is
taken from the present.
-/

namespace ComponentReference.Tool

/-- A moment, in microseconds since 1970. -/
abbrev Moment := Int

/-- The microseconds of a second. -/
def secondSize : Int := 1000000

namespace Moment

/-! ## Reading -/

/-- A piece of the text of a moment. -/
inductive Token where
  /-- A number, with its digits and those behind a point. -/
  | number (isNegative : Bool) (hasSign : Bool) (digits : Octets) (fraction : Octets)
  | word (letters : String)
  | sign (c : Char)
deriving DecidableEq

/-- The pieces of a text.  What stands in brackets is passed over. -/
def tokens : (fuel : Nat) → Octets → List Token
  | 0, _ => []
  | _, [] => []
  | fuel + 1, c :: rest =>
    if c = ' ' ∨ ('\t' ≤ c ∧ c ≤ '\r') then tokens fuel rest
    else if c = '(' then tokens fuel ((rest.dropWhile (· ≠ ')')).drop 1)
    else if c.isAlpha then
      let (letters, rest) := (c :: rest).span fun c => c.isAlpha || c = '.'
      .word (String.ofList ((letters.filter (· ≠ '.')).map Char.toLower)) :: tokens fuel rest
    else
      let behind := rest.dropWhile (· = ' ')
      let hasSign := (c = '-' || c = '+') && behind.head?.any Char.isDigit
      if hasSign || c.isDigit then
        let (digits, rest) := (if hasSign then behind else c :: rest).span Char.isDigit
        let (fraction, rest) : Octets × Octets := match rest with
          | '.' :: d :: _ => if d.isDigit then (rest.drop 1).span Char.isDigit else ([], rest)
          | ',' :: d :: _ => if d.isDigit then (rest.drop 1).span Char.isDigit else ([], rest)
          | _ => ([], rest)
        .number (c = '-') hasSign digits fraction :: tokens fuel rest
      else .sign c :: tokens fuel rest

/-- What a text has named so far. -/
structure Named where
  date? : Option (Int × Int × Int) := none
  /-- The second of the day, in microseconds. -/
  time? : Option Int := none
  /-- By how many minutes the zone is ahead. -/
  zone? : Option Int := none
  /-- A day of the week, and how many of them lie ahead. -/
  weekday? : Option (Int × Nat) := none
  years : Int := 0
  months : Int := 0
  days : Int := 0
  time : Int := 0
  isMoved : Bool := false

/-- The number of the name of a month or a day in a list of them, which may be cut
short to three letters. -/
def indexOf? (names : List String) (word : String) : Option Nat :=
  names.findIdx? fun name =>
    let name := name.map Char.toLower
    name = word || (word.length = 3 && Text.beginsWith word name) ||
      (word = "sept" && name = "september") || (word = "tues" && name = "tuesday") ||
      (word = "wednes" && name = "wednesday") || (word = "thur" && name = "thursday") ||
      (word = "thurs" && name = "thursday")

/-- The words that stand for numbers. -/
def ordinal? (word : String) : Option Int :=
  [("last", -1), ("this", 0), ("next", 1), ("first", 1), ("third", 3), ("fourth", 4),
    ("fifth", 5), ("sixth", 6), ("seventh", 7), ("eighth", 8), ("ninth", 9), ("tenth", 10),
    ("eleventh", 11), ("twelfth", 12)].lookup word

/-- The zones that have names, in minutes ahead. -/
def zoneOf? (word : String) : Option Int :=
  let hours := [("gmt", 0), ("ut", 0), ("utc", 0), ("z", 0), ("wet", 0), ("west", 1), ("bst", 1),
    ("cet", 1), ("cest", 2), ("met", 1), ("eet", 2), ("eest", 3), ("msk", 3), ("est", -5),
    ("edt", -4), ("cst", -6), ("cdt", -5), ("mst", -7), ("mdt", -6), ("pst", -8), ("pdt", -7),
    ("jst", 9)]
  -- single letters count from the first on, and from the thirteenth on the other way
  let letter? : Option Int := match word.toList with
    | [c] =>
      if 'a' ≤ c ∧ c ≤ 'i' then some (c.toNat - 96)
      else if 'k' ≤ c ∧ c ≤ 'm' then some (c.toNat - 97)
      else if 'n' ≤ c ∧ c ≤ 'y' then some (109 - c.toNat)
      else none
    | _ => none
  ((hours.lookup word).orElse fun _ => letter?).map (60 * ·)

namespace Named

/-- Moved by so many of a unit. -/
def moved (n : Named) (amount : Int) (fraction : Int) (word : String) : Option Named :=
  let unit := if word.length > 3 ∧ word.toList.getLast? = some 's' then
    String.ofList word.toList.dropLast else word
  let n := { n with isMoved := true }
  match unit with
  | "year" => some { n with years := n.years + amount }
  | "month" => some { n with months := n.months + amount }
  | "fortnight" => some { n with days := n.days + 14 * amount }
  | "week" => some { n with days := n.days + 7 * amount }
  | "day" => some { n with days := n.days + amount }
  | "hour" => some { n with time := n.time + 3600 * secondSize * amount }
  | "minute" | "min" => some { n with time := n.time + 60 * secondSize * amount }
  | "second" | "sec" => some { n with time := n.time + secondSize * amount + fraction }
  | _ => none

/-- Moved the other way. -/
def back (before after : Named) : Named :=
  { after with
    years := 2 * before.years - after.years
    months := 2 * before.months - after.months
    days := 2 * before.days - after.days
    time := 2 * before.time - after.time }

/-- With a date, unless there is one. -/
def withDate (n : Named) (year month day : Int) : Option Named :=
  if n.date?.isSome then none else some { n with date? := some (year, month, day) }

/-- With a time of the day, unless there is one. -/
def withTime (n : Named) (hour minute second micro : Int) : Option Named :=
  if n.time?.isSome ∨ 23 < hour ∨ 59 < minute ∨ 60 < second then none
  else some { n with time? := some (((hour * 60 + minute) * 60 + second) * secondSize + micro) }

/-- With a zone, unless there is one. -/
def withZone (n : Named) (minutes : Int) : Option Named :=
  if n.zone?.isSome then none else some { n with zone? := some minutes }

end Named

/-- The year that digits name. -/
def yearOf (digits : Octets) : Int :=
  let n := Octets.valueOf 10 digits
  if digits.length ≤ 2 then (if n < 69 then 2000 + n else 1900 + n) else n

/-- The microseconds that digits behind a point stand for. -/
def microOf (fraction : Octets) : Int :=
  Octets.valueOf 10 ((fraction ++ List.replicate 6 '0').take 6)

/-- The minutes by which a zone is ahead that is written in digits. -/
def zoneMinutes (isNegative : Bool) (digits : Octets) : Int :=
  let n := Octets.valueOf 10 digits
  let minutes : Int := if digits.length ≤ 2 then n * 60 else n / 100 * 60 + n % 100
  if isNegative then -minutes else minutes

/-- Reads what follows a time of the day: whether it is before noon or after it, and
the zone. -/
def readTimeEnd (n : Named) (hour minute second micro : Int) (rest : List Token) :
    Option (Named × List Token) :=
  let half (offset : Int) (rest : List Token) : Option (Named × List Token) :=
    if hour < 1 ∨ 12 < hour then none
    else (n.withTime (hour % 12 + offset) minute second micro).map (·, rest)
  match rest with
  | .word "am" :: rest => half 0 rest
  | .word "pm" :: rest => half 12 rest
  | .number isNegative true digits [] :: .sign ':' :: .number _ false minutes [] :: rest => do
    let n ← n.withTime hour minute second micro
    let ahead : Int := Octets.valueOf 10 digits * 60 + Octets.valueOf 10 minutes
    let n ← n.withZone (if isNegative then -ahead else ahead)
    return (n, rest)
  | .number isNegative true digits [] :: rest => do
    let n ← n.withTime hour minute second micro
    let n ← n.withZone (zoneMinutes isNegative digits)
    return (n, rest)
  | rest => (n.withTime hour minute second micro).map (·, rest)

/-- Reads one thing that a text names, given the year of the present. -/
def readOne (thisYear : Int) (n : Named) : List Token → Option (Named × List Token)
  | [] => none
  -- times
  | .number _ false h [] :: .sign ':' :: .number _ false m [] :: .sign ':' ::
      .number _ false s f :: rest =>
    readTimeEnd n (Octets.valueOf 10 h) (Octets.valueOf 10 m) (Octets.valueOf 10 s) (microOf f) rest
  | .number _ false h [] :: .sign ':' :: .number _ false m [] :: rest =>
    readTimeEnd n (Octets.valueOf 10 h) (Octets.valueOf 10 m) 0 0 rest
  | .number _ false h [] :: .word "am" :: rest =>
    readTimeEnd n (Octets.valueOf 10 h) 0 0 0 (.word "am" :: rest)
  | .number _ false h [] :: .word "pm" :: rest =>
    readTimeEnd n (Octets.valueOf 10 h) 0 0 0 (.word "pm" :: rest)
  -- dates
  | .number _ false y [] :: .number true true m [] :: .number true true d [] :: rest => do
    let n ← n.withDate (yearOf y) (Octets.valueOf 10 m) (Octets.valueOf 10 d)
    match rest with
    | .word "t" :: .number sign hasSign h f :: .sign ':' :: rest =>
      return (n, .number sign hasSign h f :: .sign ':' :: rest)
    | .word "t" :: _ => none
    | rest => return (n, rest)
  | .number _ false a [] :: .sign '/' :: .number _ false b [] :: .sign '/' ::
      .number _ false c [] :: rest => do
    let n ←
      if a.length ≥ 4 then n.withDate (yearOf a) (Octets.valueOf 10 b) (Octets.valueOf 10 c)
      else n.withDate (yearOf c) (Octets.valueOf 10 a) (Octets.valueOf 10 b)
    return (n, rest)
  | .number _ false a [] :: .sign '/' :: .number _ false b [] :: rest => do
    return (← n.withDate thisYear (Octets.valueOf 10 a) (Octets.valueOf 10 b), rest)
  | .number _ false d [] :: .sign '-' :: .word w :: .number true true y [] :: rest => do
    let month ← indexOf? Calendar.months w
    return (← n.withDate (yearOf y) (month + 1) (Octets.valueOf 10 d), rest)
  | .number isNegative hasSign digits fraction :: .word w :: rest =>
    let value : Int := Octets.valueOf 10 digits
    let amount := if isNegative then -value else value
    let micro := if isNegative then -microOf fraction else microOf fraction
    match n.moved amount micro w with
    | some after =>
      match rest with
      | .word "ago" :: rest => some (Named.back n after, rest)
      | .word "hence" :: rest => some (after, rest)
      | rest => some (after, rest)
    | none =>
      match indexOf? Calendar.months w, hasSign, rest with
      | some month, false, .number _ false y [] :: rest' =>
        if rest'.head? = some (.sign ':') then
          (n.withDate thisYear (month + 1) value).map (·, rest)
        else (n.withDate (yearOf y) (month + 1) value).map (·, rest')
      | some month, false, rest => (n.withDate thisYear (month + 1) value).map (·, rest)
      | none, false, rest => plainNumber digits (.word w :: rest)
      | _, _, _ => none
  | .number _ false digits [] :: rest => plainNumber digits rest
  -- words
  | .word w :: rest =>
    match indexOf? Calendar.months w, rest with
    | some month, .number _ false d [] :: .sign ',' :: .number _ false y [] :: rest =>
      (n.withDate (yearOf y) (month + 1) (Octets.valueOf 10 d)).map (·, rest)
    | some month, .number _ false d [] :: .number _ false y [] :: rest =>
      if rest.head? = some (.sign ':') then
        (n.withDate thisYear (month + 1) (Octets.valueOf 10 d)).map (·, .number false false y [] :: rest)
      else (n.withDate (yearOf y) (month + 1) (Octets.valueOf 10 d)).map (·, rest)
    | some month, .number _ false d [] :: rest =>
      (n.withDate thisYear (month + 1) (Octets.valueOf 10 d)).map (·, rest)
    | some _, _ => none
    | none, rest =>
      match w with
      | "now" | "today" => some ({ n with isMoved := true }, rest)
      | "yesterday" => some ({ n with days := n.days - 1, isMoved := true }, rest)
      | "tomorrow" => some ({ n with days := n.days + 1, isMoved := true }, rest)
      | w =>
        match indexOf? Calendar.weekdays w, ordinal? w, zoneOf? w, rest with
        | some day, _, _, rest =>
          let rest := if rest.head? = some (.sign ',') then rest.drop 1 else rest
          if n.weekday?.isSome then none else some ({ n with weekday? := some (0, day) }, rest)
        | _, some amount, _, .word unit :: rest =>
          match n.moved amount 0 unit, indexOf? Calendar.weekdays unit with
          | some after, _ =>
            match rest with
            | .word "ago" :: rest => some (Named.back n after, rest)
            | rest => some (after, rest)
          | none, some day =>
            if n.weekday?.isSome then none else some ({ n with weekday? := some (amount, day) }, rest)
          | none, none => none
        | _, _, some minutes, .number isNegative true digits [] :: rest =>
          (n.withZone (minutes + zoneMinutes isNegative digits)).map (·, rest)
        | _, _, some minutes, rest => (n.withZone minutes).map (·, rest)
        | _, _, none, rest =>
          match n.moved 1 0 w, rest with
          | some after, .word "ago" :: rest => some (Named.back n after, rest)
          | some after, rest => some (after, rest)
          | none, _ => none
  | _ => none
where
  /-- Reads digits that stand alone. -/
  plainNumber (digits : Octets) (rest : List Token) : Option (Named × List Token) :=
    let value := Octets.valueOf 10 digits
    match n.date?, n.time? with
    | some (_, month, day), some _ =>
      if digits.length = 4 then some ({ n with date? := some (yearOf digits, month, day) }, rest)
      else none
    | _, _ =>
      if 4 < digits.length then
        (n.withDate (yearOf (digits.take (digits.length - 4))) (value / 100 % 100) (value % 100)).map
          (·, rest)
      else if digits.length ≤ 2 then readTimeEnd n value 0 0 0 rest
      else readTimeEnd n (value / 100) (value % 100) 0 0 rest

/-- Reads all that a text names. -/
def readAll (thisYear : Int) : (fuel : Nat) → Named → List Token → Option Named
  | 0, _, _ => none
  | _, n, [] => some n
  | fuel + 1, n, tokens =>
    match readOne thisYear n tokens with
    | some (n, rest) => readAll thisYear fuel n rest
    | none => none

/-- The moment that a text names, seen from the present. -/
def ofText? (present : Moment) (text : Octets) : Option Moment :=
  let day := present.fdiv (86400 * secondSize)
  let today := Calendar.civilOfDays day
  match tokens (text.length + 1) text with
  | [.sign '@', .number isNegative _ digits fraction] =>
    let size : Int := Octets.valueOf 10 digits * secondSize + microOf fraction
    some (if isNegative then -size else size)
  | pieces => do
    let n ← readAll today.year (pieces.length + 1) {} pieces
    let (year, month, dayOfMonth) := n.date?.getD (today.year, today.month, today.day)
    let days := Calendar.daysOfCivil year month dayOfMonth
    let isDate := Calendar.civilOfDays days = ⟨year, month.toNat, dayOfMonth.toNat⟩
    if n.date?.isSome ∧ !isDate then none
    let isWhole := n.date?.isSome || n.weekday?.isSome || n.zone?.isSome || !n.isMoved
    let time := n.time?.getD (if isWhole then 0 else present.fmod (86400 * secondSize))
    let days := match n.weekday?, n.date? with
      | some (ordinal, weekday), none =>
        let today := Calendar.weekday days
        days + ((weekday : Int) - today + 7) % 7 +
          7 * (ordinal - (if 0 < ordinal ∧ today ≠ weekday then 1 else 0))
      | _, _ => days
    let civil := Calendar.civilOfDays days
    let days := if n.years = 0 ∧ n.months = 0 then days
      else Calendar.daysOfCivil (civil.year + n.years) (civil.month + n.months) civil.day
    let zone := n.zone?.getD 0
    return (days + n.days) * (86400 * secondSize) + time + n.time - zone * (60 * secondSize)

/-! ## Showing -/

/-- Pads to a width, behind a sign if there is one.  Where a plus is the pad, it stands in
front of more digits than there are in a year, and zeros behind it. -/
def padded (pad : Char) (width : Nat) (n : Int) : Octets :=
  let digits := Octets.ofNat n.natAbs
  if pad = '+' ∧ 0 ≤ n then
    if max digits.length width ≤ 4 then List.replicate (width - digits.length) '0' ++ digits
    else '+' :: (List.replicate (width - 1 - digits.length) '0' ++ digits)
  else
  let filled := List.replicate (width - digits.length - (if n < 0 then 1 else 0)) pad ++ digits
  if n < 0 then '-' :: filled else filled

/-- How a directive is filled in: what it is padded with, to which width, and in which
letters. -/
structure Style where
  pad? : Option Char := none
  width? : Option Nat := none
  upper : Bool := false
  swaps : Bool := false

/-- Reads the flags and the width of a directive. -/
def readStyle (style : Style) : Octets → Style × Octets
  | '_' :: rest => readStyle { style with pad? := some ' ' } rest
  | '-' :: rest => readStyle { style with pad? := some '-' } rest
  | '0' :: rest => readStyle { style with pad? := some '0' } rest
  | '+' :: rest => readStyle { style with pad? := some '+' } rest
  | '^' :: rest => readStyle { style with upper := true } rest
  | '#' :: rest => readStyle { style with swaps := true } rest
  | rest =>
    let (digits, after) := rest.span Char.isDigit
    if digits.isEmpty then (style, rest)
    else ({ style with width? := some (Octets.valueOf 10 digits) }, after)

/-- What one directive of a format stands for; others fill in the formats that it is
short for. -/
def directive (fill : Octets → Octets) (moment : Moment) (style : Style) (c : Char) : Option Octets :=
  let seconds := moment.fdiv secondSize
  let days := seconds.fdiv 86400
  let ofDay := seconds.fmod 86400
  let civil := Calendar.civilOfDays days
  let hour := ofDay / 3600
  let weekday := Calendar.weekday days
  let number (pad : Char) (width : Nat) (n : Int) : Octets :=
    match style.pad? with
    | some '-' => Octets.ofInt n
    | pad? => padded (pad?.getD pad) (style.width?.getD width) n
  let text (s : String) : Octets :=
    let s := Octets.ofString s
    let s := if style.upper || style.swaps then s.map Char.toUpper else s
    let pad := if style.pad? = some '0' then '0' else ' '
    List.replicate (style.width?.getD 0 - s.length) pad ++ s
  let composed (format : String) : Octets := text (String.ofList (fill format.toList))
  let name (names : List String) (i : Nat) : String := (names[i]?).getD ""
  let hour12 := if hour % 12 = 0 then 12 else hour % 12
  match c with
  | 'Y' => number '0' (if 9999 < civil.year then 1 else 4) civil.year
  | 'C' => number '0' 2 (civil.year.fdiv 100)
  | 'y' => number '0' 2 (civil.year.fmod 100)
  | 'm' => number '0' 2 civil.month
  | 'd' => number '0' 2 civil.day
  | 'e' => number ' ' 2 civil.day
  | 'H' => number '0' 2 hour
  | 'I' => number '0' 2 hour12
  | 'k' => number ' ' 2 hour
  | 'l' => number ' ' 2 hour12
  | 'M' => number '0' 2 (ofDay / 60 % 60)
  | 'S' => number '0' 2 (ofDay % 60)
  | 'N' =>
    let digits := padded '0' 6 (moment.fmod secondSize) ++ "000".toList
    match style.width?, style.pad? with
    | some width, _ => digits.take width
    | none, some '-' => (digits.reverse.dropWhile (· = '0')).reverse
    | none, _ => digits
  | 's' => number '0' 1 seconds
  | 'j' => number '0' 3 (Calendar.dayOfYear days + 1)
  | 'u' => number '0' 1 (if weekday = 0 then 7 else weekday)
  | 'w' => number '0' 1 weekday
  | 'U' => number '0' 2 ((Calendar.dayOfYear days + 7 - weekday) / 7)
  | 'W' => number '0' 2 ((Calendar.dayOfYear days + 7 - (weekday + 6) % 7) / 7)
  | 'V' => number '0' 2 (Calendar.weekOf days).2
  | 'G' => number '0' 4 (Calendar.weekOf days).1
  | 'g' => number '0' 2 ((Calendar.weekOf days).1.fmod 100)
  | 'q' => number '0' 1 ((civil.month - 1) / 3 + 1)
  | 'a' => text (String.ofList ((name Calendar.weekdays weekday).toList.take 3))
  | 'A' => text (name Calendar.weekdays weekday)
  | 'b' | 'h' => text (String.ofList ((name Calendar.months (civil.month - 1)).toList.take 3))
  | 'B' => text (name Calendar.months (civil.month - 1))
  | 'p' =>
    let half := if hour < 12 then "AM" else "PM"
    some (if style.swaps then (text half).map Char.toLower else text half)
  | 'P' => text (if hour < 12 then "am" else "pm")
  | 'Z' => some (if style.swaps then (text "UTC").map Char.toLower else text "UTC")
  | 'z' => "+0000".toList
  | 'D' | 'x' => composed "%m/%d/%y"
  | 'F' => composed "%Y-%m-%d"
  | 'T' | 'X' => composed "%H:%M:%S"
  | 'R' => composed "%H:%M"
  | 'r' => composed "%I:%M:%S %p"
  | 'c' => composed "%a %b %e %H:%M:%S %Y"
  | 'n' => ['\n']
  | 't' => ['\t']
  | '%' => ['%']
  | _ => none

/-- A format, filled in for a moment. -/
def inFormat (moment : Moment) : (fuel : Nat) → Octets → Octets
  | 0, _ => []
  | _, [] => []
  | fuel + 1, '%' :: rest =>
    let (style, after) := readStyle {} rest
    let after := match after with
      | 'E' :: c :: _ | 'O' :: c :: _ => if c.isAlpha then after.drop 1 else after
      | _ => after
    match after with
    | ':' :: 'z' :: after => "+00:00".toList ++ inFormat moment fuel after
    | ':' :: ':' :: 'z' :: after => "+00:00:00".toList ++ inFormat moment fuel after
    | ':' :: ':' :: ':' :: 'z' :: after => "+00".toList ++ inFormat moment fuel after
    | c :: after' =>
      match directive (inFormat moment fuel) moment style c with
      | some s => s ++ inFormat moment fuel after'
      | none => '%' :: inFormat moment fuel rest
    | [] => '%' :: rest
  | fuel + 1, c :: rest => c :: inFormat moment fuel rest

/-- A moment in a format. -/
def shownAs (format : Octets) (moment : Moment) : Octets :=
  inFormat moment (8 * (format.length + 8)) format

end Moment

end ComponentReference.Tool
