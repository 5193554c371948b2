/-
Date patterns.

A date pattern is text with conversions that start with a percent sign.  A conversion names a
part of a time; a sign after the percent chooses how a number is padded.  `DatePattern.read?`
reads a pattern, `DatePattern.print?` prints an instant by it.  One conversion can be read but
not printed, so a pattern may be accepted and still have no text; `isPrintable` tells which.
-/
import AuditReminder.Text.Decimal
import AuditReminder.Time.Text

namespace AuditReminder

namespace DatePattern

/-- What fills a number up to its width. -/
inductive Pad where
  | nothing
  | zeros
  | spaces
deriving DecidableEq

/-- The parts of a time that are numbers. -/
inductive NumberPart where
  | year | century | yearOfCentury
  | isoYear | isoYearOfCentury
  | quarter | month | day
  | weekFromSunday | weekFromMonday | isoWeek
  | weekdayFromSunday | weekdayFromMonday
  | ordinal
  | hour | hour12 | minute | second | nanosecond | timestamp
deriving DecidableEq

/-- The parts of a time that are words or have a layout of their own. -/
inductive WordPart where
  | shortMonth | longMonth | shortWeekday | longWeekday
  | lowerHalfDay | upperHalfDay
  /-- A fraction with its point, of as many digits as it takes. -/
  | fraction
  /-- A fraction of a fixed count of digits, with or without its point. -/
  | fractionOf (digits : Nat) (point : Bool)
  | zoneName
  /-- The offset from UTC with so many colons; three colons drop what is zero. -/
  | zoneOffset (colons : Nat)
  /-- An offset that may be read without minutes; there is no way to print it. -/
  | permissiveOffset
  | rfc3339
deriving DecidableEq

/-- A piece of a pattern. -/
inductive Item where
  | literal (text : List Char)
  | number (part : NumberPart) (pad : Pad)
  | word (part : WordPart)
deriving DecidableEq

/-! ## Reading -/

/-- The conversions of one letter that are a number, with the padding they have by themselves. -/
def numberLetter? : Char → Option (NumberPart × Pad)
  | 'C' => some (.century, .zeros)
  | 'G' => some (.isoYear, .zeros)
  | 'H' => some (.hour, .zeros)
  | 'I' => some (.hour12, .zeros)
  | 'M' => some (.minute, .zeros)
  | 'S' => some (.second, .zeros)
  | 'U' => some (.weekFromSunday, .zeros)
  | 'V' => some (.isoWeek, .zeros)
  | 'W' => some (.weekFromMonday, .zeros)
  | 'Y' => some (.year, .zeros)
  | 'd' => some (.day, .zeros)
  | 'e' => some (.day, .spaces)
  | 'f' => some (.nanosecond, .zeros)
  | 'g' => some (.isoYearOfCentury, .zeros)
  | 'j' => some (.ordinal, .zeros)
  | 'k' => some (.hour, .spaces)
  | 'l' => some (.hour12, .spaces)
  | 'm' => some (.month, .zeros)
  | 'q' => some (.quarter, .nothing)
  | 's' => some (.timestamp, .nothing)
  | 'u' => some (.weekdayFromMonday, .nothing)
  | 'w' => some (.weekdayFromSunday, .nothing)
  | 'y' => some (.yearOfCentury, .zeros)
  | _ => none

/-- The items of `month/day/year`. -/
def shortDate : List Item :=
  [.number .month .zeros, .literal ['/'], .number .day .zeros, .literal ['/'],
    .number .yearOfCentury .zeros]

/-- The items of `hour:minute:second`. -/
def plainTime : List Item :=
  [.number .hour .zeros, .literal [':'], .number .minute .zeros, .literal [':'],
    .number .second .zeros]

/-- The other conversions of one letter. -/
def wordLetter? : Char → Option (List Item)
  | 'A' => some [.word .longWeekday]
  | 'B' => some [.word .longMonth]
  | 'D' => some shortDate
  | 'F' => some [.number .year .zeros, .literal ['-'], .number .month .zeros, .literal ['-'],
      .number .day .zeros]
  | 'P' => some [.word .lowerHalfDay]
  | 'R' => some [.number .hour .zeros, .literal [':'], .number .minute .zeros]
  | 'T' => some plainTime
  | 'X' => some plainTime
  | 'Z' => some [.word .zoneName]
  | 'a' => some [.word .shortWeekday]
  | 'b' => some [.word .shortMonth]
  | 'c' => some ([.word .shortWeekday, .literal [' '], .word .shortMonth, .literal [' '],
      .number .day .spaces, .literal [' ']] ++ plainTime ++ [.literal [' '], .number .year .zeros])
  | 'h' => some [.word .shortMonth]
  | 'n' => some [.literal ['\n']]
  | 'p' => some [.word .upperHalfDay]
  | 'r' => some [.number .hour12 .zeros, .literal [':'], .number .minute .zeros, .literal [':'],
      .number .second .zeros, .literal [' '], .word .upperHalfDay]
  | 't' => some [.literal ['\t']]
  | 'v' => some [.number .day .spaces, .literal ['-'], .word .shortMonth, .literal ['-'],
      .number .year .zeros]
  | 'x' => some shortDate
  | 'z' => some [.word (.zoneOffset 0)]
  | '+' => some [.word .rfc3339]
  | '%' => some [.literal ['%']]
  | _ => none

/-- The pad that a sign after the percent chooses. -/
def padSign? : Char → Option Pad
  | '-' => some .nothing
  | '0' => some .zeros
  | '_' => some .spaces
  | _ => none

/-- The digits of a fraction in the conversions that count them. -/
def fractionDigits? : Char → Option Nat
  | '3' => some 3
  | '6' => some 6
  | '9' => some 9
  | _ => none

/-- Reads the rest of a conversion after its percent sign. -/
def conversion? : List Char → Option (List Item × List Char)
  | '#' :: 'z' :: rest => some ([.word .permissiveOffset], rest)
  | '.' :: 'f' :: rest => some ([.word .fraction], rest)
  | '.' :: n :: 'f' :: rest =>
      (fractionDigits? n).map fun digits => ([.word (.fractionOf digits true)], rest)
  | ':' :: ':' :: ':' :: 'z' :: rest => some ([.word (.zoneOffset 3)], rest)
  | ':' :: ':' :: 'z' :: rest => some ([.word (.zoneOffset 2)], rest)
  | ':' :: 'z' :: rest => some ([.word (.zoneOffset 1)], rest)
  | c :: rest =>
      match padSign? c with
      | some pad =>
          match rest with
          | letter :: rest => (numberLetter? letter).map fun (part, _) => ([.number part pad], rest)
          | [] => none
      | none =>
          match numberLetter? c, wordLetter? c with
          | some (part, pad), _ => some ([.number part pad], rest)
          | none, some items => some (items, rest)
          | none, none =>
              match fractionDigits? c, rest with
              | some digits, 'f' :: rest => some ([.word (.fractionOf digits false)], rest)
              | _, _ => none
  | [] => none

theorem length_of_conversion? {cs rest : List Char} {items : List Item}
    (h : conversion? cs = some (items, rest)) : rest.length < cs.length := by
  unfold conversion? at h
  grind [Option.map_eq_some_iff]

/-- Reads a pattern: conversions, and the characters between them as they stand. -/
def read? (pattern : List Char) : Option (List Item) :=
  match pattern with
  | [] => some []
  | '%' :: rest =>
      match h : conversion? rest with
      | none => none
      | some (items, after) =>
          have := length_of_conversion? h
          (read? after).map (items ++ ·)
  | c :: rest => (read? rest).map (.literal [c] :: ·)
termination_by pattern.length
decreasing_by
  · simp only [List.length_cons]; omega
  · simp

/-! ## Printing -/

/-- Two places of a number below 256, the first of which runs on past nine. -/
def twoPlaces (pad : Pad) (n : Nat) : List Char :=
  let tens := n / 10
  let first : List Char :=
    if tens = 0 then
      match pad with
      | .nothing => []
      | .zeros => ['0']
      | .spaces => [' ']
    else [Char.ofNat (48 + tens)]
  first ++ [Decimal.digit n]

/-- A number filled up to a width. -/
def filled (pad : Pad) (width n : Nat) : List Char :=
  match pad with
  | .nothing => Decimal.digits n
  | .zeros => Decimal.padded width n
  | .spaces => Decimal.spaced width n

/-- A signed number filled up to a width, which the sign is part of; the zeros come after the
sign and the spaces before it. -/
def filledSigned (pad : Pad) (width : Nat) (always : Bool) (n : Int) : List Char :=
  let sign : List Char := if n < 0 then ['-'] else if always then ['+'] else []
  let body := Decimal.digits n.natAbs
  match pad with
  | .nothing => sign ++ body
  | .zeros => sign ++ Decimal.padded (width - sign.length) n.natAbs
  | .spaces =>
      List.replicate (width - (sign.length + body.length)) ' ' ++ (sign ++ body)

/-- A year: four places, or with its sign in five where it lies outside 0 to 9999. -/
def yearPlaces (pad : Pad) (year : Int) : List Char :=
  if 1000 ≤ year ∧ year ≤ 9999 then Decimal.digits year.natAbs
  else if 0 ≤ year ∧ year ≤ 9999 then filledSigned pad 4 false year
  else filledSigned pad 5 true year

/-- The hour of the clock with twelve hours. -/
def clockHour (hour : Nat) : Nat := if hour % 12 = 0 then 12 else hour % 12

/-- Prints a part that is a number. -/
def printNumber (t : Instant) (c : Instant.Civil) (pad : Pad) : NumberPart → List Char
  | .year => yearPlaces pad c.date.year
  | .century => twoPlaces pad (c.date.year / 100 % 256).toNat
  | .yearOfCentury => twoPlaces pad (c.date.year % 100).toNat
  | .isoYear => yearPlaces pad c.date.isoYear
  | .isoYearOfCentury => twoPlaces pad (c.date.isoYear % 100).toNat
  | .quarter => [Decimal.digit c.date.quarter]
  | .month => twoPlaces pad c.date.month
  | .day => twoPlaces pad c.date.day
  | .weekFromSunday => twoPlaces pad c.date.weekFromSunday
  | .weekFromMonday => twoPlaces pad c.date.weekFromMonday
  | .isoWeek => twoPlaces pad c.date.isoWeek
  | .weekdayFromSunday => [Decimal.digit c.date.daysFromSunday]
  | .weekdayFromMonday => [Decimal.digit (c.date.daysFromMonday + 1)]
  | .ordinal => filled pad 3 c.date.ordinal
  | .hour => twoPlaces pad c.hour
  | .hour12 => twoPlaces pad (clockHour c.hour)
  | .minute => twoPlaces pad c.minute
  | .second => twoPlaces pad c.second
  | .nanosecond => filled pad 9 c.nano
  | .timestamp => filledSigned pad 9 false t.second

def monthNames : List String :=
  ["January", "February", "March", "April", "May", "June", "July", "August", "September",
    "October", "November", "December"]

def weekdayNames : List String :=
  ["Sunday", "Monday", "Tuesday", "Wednesday", "Thursday", "Friday", "Saturday"]

def nameAt (names : List String) (index : Nat) : List Char := (names.getD index "").toList

/-- Prints a part that is a word, where it can be printed. -/
def printWord? (t : Instant) (c : Instant.Civil) : WordPart → Option (List Char)
  | .shortMonth => some ((nameAt monthNames (c.date.month - 1)).take 3)
  | .longMonth => some (nameAt monthNames (c.date.month - 1))
  | .shortWeekday => some ((nameAt weekdayNames c.date.daysFromSunday).take 3)
  | .longWeekday => some (nameAt weekdayNames c.date.daysFromSunday)
  | .lowerHalfDay => some (if c.hour < 12 then ['a', 'm'] else ['p', 'm'])
  | .upperHalfDay => some (if c.hour < 12 then ['A', 'M'] else ['P', 'M'])
  | .fraction => some (Time.fractionText .asNeeded c.nano)
  | .fractionOf digits point =>
      some ((if point then ['.'] else [])
        ++ Decimal.padded digits (c.nano / Nat.pow 10 (9 - digits)))
  | .zoneName => some ['U', 'T', 'C']
  | .zoneOffset 0 => some "+0000".toList
  | .zoneOffset 1 => some "+00:00".toList
  | .zoneOffset 2 => some "+00:00:00".toList
  | .zoneOffset _ => some "+00".toList
  | .permissiveOffset => none
  | .rfc3339 => some (Time.isoText .asNeeded "+00:00".toList t)

/-- Prints one piece of a pattern. -/
def printItem? (t : Instant) (c : Instant.Civil) : Item → Option (List Char)
  | .literal text => some text
  | .number part pad => some (printNumber t c pad part)
  | .word part => printWord? t c part

/-- Prints an instant by a pattern, where each piece of it can be printed. -/
def print? (items : List Item) (t : Instant) : Option (List Char) :=
  items.foldr (fun item tail? => do
    let here ← printItem? t t.civil item
    let tail ← tail?
    return here ++ tail) (some [])

/-- A pattern without the one piece that cannot be printed. -/
def isPrintable (items : List Item) : Bool :=
  items.all fun item => item != .word .permissiveOffset

end DatePattern

end AuditReminder
