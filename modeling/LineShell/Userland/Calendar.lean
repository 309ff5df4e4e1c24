import LineShell.Userland.Utility.Options

/-!
# The calendar

Times are counted in billionths of a second from the start of 1970, in the time of Greenwich. `Moment` is what a
calendar and a clock show.

- `Moment.ofTime` and `Moment.seconds` go from times to moments and back;
- `Moment.render` writes a moment by a format, `Calendar.read` reads a time as people write it.
-/

namespace LineShell.Host

/-- What a calendar and a clock show. -/
structure Moment where
  year : Int
  month : Nat
  day : Nat
  hour : Nat := 0
  minute : Nat := 0
  second : Nat := 0
  nanosecond : Nat := 0
deriving DecidableEq, Repr

namespace Moment

/-- The number of a day, counted from the start of 1970. A year is taken to start in March, so that a leap day is its
last. -/
def dayNumber (year : Int) (month day : Nat) : Int :=
  let year := if month ≤ 2 then year - 1 else year
  let era := year / 400
  let yearOfEra := year % 400
  let monthsOn : Nat := (month + 9) % 12
  let dayOfYear : Int := ((153 * monthsOn + 2) / 5 + day : Nat) - 1
  let dayOfEra := yearOfEra * 365 + yearOfEra / 4 - yearOfEra / 100 + dayOfYear
  era * 146097 + dayOfEra - 719468

/-- The day with a number. -/
def ofDayNumber (n : Int) : Moment :=
  let shifted := n + 719468
  let era := shifted / 146097
  let dayOfEra := shifted % 146097
  let yearOfEra := (dayOfEra - dayOfEra / 1460 + dayOfEra / 36524 - dayOfEra / 146096) / 365
  let dayOfYear := dayOfEra - (365 * yearOfEra + yearOfEra / 4 - yearOfEra / 100)
  let monthsOn := (5 * dayOfYear + 2) / 153
  let day := dayOfYear - (153 * monthsOn + 2) / 5 + 1
  let month := if monthsOn < 10 then monthsOn + 3 else monthsOn - 9
  { year := yearOfEra + era * 400 + (if month ≤ 2 then 1 else 0), month := month.toNat, day := day.toNat }

/-- The moment at a time. -/
def ofTime (time : Int) : Moment :=
  let seconds := time / 1000000000
  let ofDay := (seconds % 86400).toNat
  { ofDayNumber (seconds / 86400) with
    hour := ofDay / 3600, minute := ofDay / 60 % 60, second := ofDay % 60
    nanosecond := (time % 1000000000).toNat }

/-- The whole seconds from the start of 1970 to a moment. -/
def seconds (m : Moment) : Int :=
  dayNumber m.year m.month m.day * 86400 + (m.hour * 3600 + m.minute * 60 + m.second : Nat)

/-- The day of the week, from Sunday on. -/
def weekday (m : Moment) : Nat :=
  ((dayNumber m.year m.month m.day + 4) % 7).toNat

/-- The day of the year, from 0 on. -/
def yearDay (m : Moment) : Nat :=
  (dayNumber m.year m.month m.day - dayNumber m.year 1 1).toNat

/-- The year and the week in it, counted by weeks that start on Monday and belong to the year that has most of them. -/
def week (m : Moment) : Int × Nat :=
  let fromMonday := (m.weekday + 6) % 7
  let thursday := ofDayNumber (dayNumber m.year m.month m.day - fromMonday + 3)
  (thursday.year, thursday.yearDay / 7 + 1)

def dayNames : List String :=
  ["Sunday", "Monday", "Tuesday", "Wednesday", "Thursday", "Friday", "Saturday"]

def monthNames : List String :=
  ["January", "February", "March", "April", "May", "June", "July", "August", "September", "October", "November",
    "December"]

def dayName (m : Moment) : String :=
  (dayNames[m.weekday]?).getD ""

def monthName (m : Moment) : String :=
  (monthNames[m.month - 1]?).getD ""

/-! ## Writing -/

/-- A number in a format: how wide, and what it is filled up with unless that is asked for otherwise. -/
def field (padding : Option Char) (fill : Char) (width : Nat) (n : Int) : Bytes :=
  let digits := decimal n.natAbs
  let text := match padding with
    | some '-' => digits
    | some '_' => padLeft width (byte ' ') digits
    | some '0' => padLeft width (byte '0') digits
    | _ => padLeft width (byte fill) digits
  if n < 0 then byte '-' :: text else text

/-- What a letter in a format stands for, if it stands for one thing. -/
def directive (m : Moment) (padding : Option Char) (letter : Char) : Option Bytes :=
  let zeros (width : Nat) (n : Int) : Option Bytes := some (field padding '0' width n)
  let blanks (width : Nat) (n : Int) : Option Bytes := some (field padding ' ' width n)
  let name (text : String) : Option Bytes :=
    some (Text.bytes (if padding = some '^' then text.toUpper else text))
  let hour12 : Nat := if m.hour % 12 = 0 then 12 else m.hour % 12
  match letter with
  | 'Y' => zeros 4 m.year
  | 'C' => zeros 2 (m.year / 100)
  | 'y' => zeros 2 (m.year % 100)
  | 'm' => zeros 2 m.month
  | 'd' => zeros 2 m.day
  | 'e' => blanks 2 m.day
  | 'H' => zeros 2 m.hour
  | 'I' => zeros 2 hour12
  | 'k' => blanks 2 m.hour
  | 'l' => blanks 2 hour12
  | 'M' => zeros 2 m.minute
  | 'S' => zeros 2 m.second
  | 'N' => zeros 9 m.nanosecond
  | 's' => some (field none '0' 1 m.seconds)
  | 'j' => zeros 3 (m.yearDay + 1)
  | 'u' => some (decimal (if m.weekday = 0 then 7 else m.weekday))
  | 'w' => some (decimal m.weekday)
  | 'U' => zeros 2 ((m.yearDay + 7 - m.weekday) / 7 : Nat)
  | 'W' => zeros 2 ((m.yearDay + 7 - (m.weekday + 6) % 7) / 7 : Nat)
  | 'V' => zeros 2 m.week.2
  | 'G' => zeros 4 m.week.1
  | 'g' => zeros 2 (m.week.1 % 100)
  | 'q' => some (decimal ((m.month + 2) / 3))
  | 'a' => name (String.ofList (m.dayName.toList.take 3))
  | 'A' => name m.dayName
  | 'b' | 'h' => name (String.ofList (m.monthName.toList.take 3))
  | 'B' => name m.monthName
  | 'p' => name (if m.hour < 12 then "AM" else "PM")
  | 'P' => name (if m.hour < 12 then "am" else "pm")
  | 'Z' => name "UTC"
  | 'z' => some (Text.bytes "+0000")
  | 'n' => some [newline]
  | 't' => some [9]
  | '%' => some [byte '%']
  | _ => none

/-- The format that a letter is short for. -/
def abbreviation? (letter : Char) : Option String :=
  [('F', "%Y-%m-%d"), ('T', "%H:%M:%S"), ('X', "%H:%M:%S"), ('R', "%H:%M"), ('D', "%m/%d/%y"), ('x', "%m/%d/%y"),
    ('c', "%a %b %e %H:%M:%S %Y"), ('r', "%I:%M:%S %p")].lookup letter

/-- Write a moment by a format. `fuel` is more than the length that the format comes to. -/
def renderFrom (m : Moment) : (fuel : Nat) → Bytes → Bytes
  | 0, text => text
  | _, [] => []
  | fuel + 1, b :: rest =>
    if b != byte '%' then b :: renderFrom m fuel rest
    else
      let (padding, rest) : Option Char × Bytes := match rest with
        | p :: more =>
          if (['-', '_', '0', '^', '#'].map byte).contains p then (some (Char.ofNat p.toNat), more) else (none, rest)
        | [] => (none, [])
      let colons := rest.takeWhile (· = byte ':')
      let width := (rest.drop colons.length).takeWhile isDigit
      match rest.drop (colons.length + width.length) with
      | [] => [b]
      | letter :: rest =>
        let letter := Char.ofNat letter.toNat
        if !colons.isEmpty then Text.bytes "+00:00" ++ renderFrom m fuel rest
        else
          match abbreviation? letter with
          | some format => renderFrom m fuel (Text.bytes format ++ rest)
          | none =>
            let text := if letter = 'N' && !width.isEmpty then
                (padLeft 9 (byte '0') (decimal m.nanosecond)).take (number width)
              else ((m.directive padding letter).map (padLeft (number width) (byte '0'))).getD [b, byte letter]
            text ++ renderFrom m fuel rest

def render (m : Moment) (format : Bytes) : Bytes :=
  m.renderFrom (24 * format.length + 24) format

end Moment

namespace Calendar

/-! ## Reading -/

/-- One piece of a written time. -/
inductive Piece
  | date (year : Int) (month day : Nat)
  | time (seconds : Nat) (nanoseconds : Nat)
  /-- A count of seconds from the start of 1970. -/
  | absolute (time : Int)
  /-- So many seconds east of Greenwich. -/
  | zone (seconds : Int)
  | month (n : Nat)
  | number (n : Int) (digits : Nat)
  | days (n : Int)
  | months (n : Int)
  | seconds (n : Int)
  | ago
  | weekday (n : Nat)
  | nothing
deriving DecidableEq, Repr

/-- Billionths of a second from the digits behind a point. -/
def nanoseconds (digits : Bytes) : Nat :=
  number ((padRight 9 (byte '0') digits).take 9)

/-- The hours, minutes and seconds written with colons, and what follows them. -/
def readClock (word : Bytes) : Option (Nat × Nat × Bytes) :=
  let hours := word.takeWhile isDigit
  match word.drop hours.length with
  | 58 :: rest =>
    let minutes := rest.takeWhile isDigit
    let after := rest.drop minutes.length
    if hours.isEmpty || minutes.isEmpty || 2 < hours.length || 2 < minutes.length || 23 < number hours ||
        59 < number minutes then none
    else
      match after with
      | 58 :: rest =>
        let seconds := rest.takeWhile isDigit
        let after := rest.drop seconds.length
        if seconds.isEmpty || 60 < number seconds then none
        else
          let fraction := if after.head? = some (byte '.') then after.tail.takeWhile isDigit else []
          let after := if fraction.isEmpty then after else after.drop (fraction.length + 1)
          some (number hours * 3600 + number minutes * 60 + number seconds, nanoseconds fraction, after)
      | _ => some (number hours * 3600 + number minutes * 60, 0, after)
  | _ => none

/-- A distance from Greenwich such as `+0100`, `-05:30` or `Z`. -/
def readZone (word : Bytes) : Option Int :=
  if [Text.bytes "Z", Text.bytes "z", Text.bytes "UTC", Text.bytes "utc", Text.bytes "GMT"].contains word then some 0
  else
    match word with
    | sign :: rest =>
      let digits := rest.filter (· != byte ':')
      if (sign = byte '+' || sign = byte '-') && digits.all isDigit && [1, 2, 4].contains digits.length then
        let (hours, minutes) := if digits.length = 4 then (number (digits.take 2), number (digits.drop 2))
          else (number digits, 0)
        let n : Int := (hours * 3600 + minutes * 60 : Nat)
        some (if sign = byte '-' then -n else n)
      else none
    | [] => none

/-- The days of a month. -/
def monthLength (year : Int) (month : Nat) : Nat :=
  let next := if month = 12 then Moment.dayNumber (year + 1) 1 1 else Moment.dayNumber year (month + 1) 1
  (next - Moment.dayNumber year month 1).toNat

/-- A date, if there is such a day. -/
def date? (year : Int) (month day : Nat) : Option Piece :=
  if 1 ≤ month && month ≤ 12 && 1 ≤ day && day ≤ monthLength year month then some (.date year month day) else none

/-- The pieces that a time with an optional zone behind it is. -/
def clockPieces (word : Bytes) : Option (List Piece) :=
  match readClock word with
  | none => none
  | some (seconds, nanoseconds, []) => some [.time seconds nanoseconds]
  | some (seconds, nanoseconds, zone) => (readZone zone).map fun z => [.time seconds nanoseconds, .zone z]

/-- The unit of a span of time. -/
def unit? (word : String) : Option (Int → Piece) :=
  let word := if word.endsWith "s" then String.ofList word.toList.dropLast else word
  match word with
  | "sec" | "second" => some fun n => .seconds n
  | "min" | "minute" => some fun n => .seconds (60 * n)
  | "hour" => some fun n => .seconds (3600 * n)
  | "day" => some .days
  | "week" => some fun n => .days (7 * n)
  | "fortnight" => some fun n => .days (14 * n)
  | "month" => some .months
  | "year" => some fun n => .months (12 * n)
  | _ => none

/-- The place of the name that a word is short for, if it has three letters or all. -/
def nameIndex? (names : List String) (word : String) : Option Nat :=
  names.findIdx? fun name =>
    let name := name.toLower
    name = word || (word.length = 3 && name.startsWith word)

/-- The pieces that a word is. -/
def pieces (word : Bytes) : Option (List Piece) :=
  let chars := letters word
  let lower := (String.ofList chars).toLower
  let parts (mark : Char) : List (Option Nat) := (word.splitOn (byte mark)).map number?
  match chars with
  | '@' :: _ =>
    let (negative, unsigned) := if word.tail.head? = some (byte '-') then (true, word.drop 2) else (false, word.tail)
    let whole := unsigned.takeWhile isDigit
    let rest := unsigned.drop whole.length
    let fraction := if rest.head? = some (byte '.') then rest.tail else []
    if whole.isEmpty || !fraction.all isDigit || (!rest.isEmpty && fraction.isEmpty) then none
    else
      let n : Int := (number whole * 1000000000 + nanoseconds fraction : Nat)
      some [.absolute (if negative then -n else n)]
  | _ =>
    match parts '-', parts '/' with
    | [some y, some m, some d], _ => (date? y m d).map fun p => [p]
    | _, [some m, some d, some y] =>
      let y := if y < 69 then 2000 + y else if y < 100 then 1900 + y else y
      (date? y m d).map fun p => [p]
    | _, _ =>
      match clockPieces word with
      | some found => some found
      | none =>
        let split := word.takeWhile fun b => b != byte 'T' && b != byte 't'
        match (split.splitOn (byte '-')).map number?, clockPieces (word.drop (split.length + 1)) with
        | [some y, some m, some d], some clock => (date? y m d).map fun p => p :: clock
        | _, _ =>
          let (sign, digits) : Int × Bytes := match word with
            | 43 :: rest => (1, rest)
            | 45 :: rest => (-1, rest)
            | _ => (1, word)
          match (if digits.length = 4 && digits.length < word.length then none else number? digits) with
          | some n => some [.number (sign * n) digits.length]
          | none =>
            match readZone word with
            | some z => some [.zone z]
            | none =>
              match lower with
              | "now" => some [.nothing]
              | "today" => some [.nothing]
              | "yesterday" => some [.days (-1)]
              | "tomorrow" => some [.days 1]
              | "midnight" => some [.time 0 0]
              | "noon" => some [.time 43200 0]
              | "ago" => some [.ago]
              | "next" => some [.number 1 1]
              | "last" => some [.number (-1) 1]
              | "at" | "on" | "," => some [.nothing]
              | _ =>
                match nameIndex? Moment.monthNames lower, nameIndex? Moment.dayNames lower with
                | some n, _ => some [.month (n + 1)]
                | none, some n => some [.weekday n]
                | none, none =>
                  match unit? lower with
                  | some make => some [make 1]
                  | none =>
                    /- A number with a unit right behind it. -/
                    let count := digits.takeWhile isDigit
                    match unit? (String.ofList (letters (digits.drop count.length))).toLower with
                    | some make => if count.isEmpty then none else some [make (sign * number count)]
                    | none => none

/-- Join numbers with the units behind them. -/
def joinUnits : List Piece → List Piece
  | .number n _ :: .days 1 :: rest => .days n :: joinUnits rest
  | .number n _ :: .days 7 :: rest => .days (7 * n) :: joinUnits rest
  | .number n _ :: .days 14 :: rest => .days (14 * n) :: joinUnits rest
  | .number n _ :: .months k :: rest => .months (k * n) :: joinUnits rest
  | .number n _ :: .seconds k :: rest => .seconds (k * n) :: joinUnits rest
  | p :: rest => p :: joinUnits rest
  | [] => []

/-- Turn spans of time round that are ago. -/
def turnRound : List Piece → List Piece
  | .days n :: .ago :: rest => .days (-n) :: turnRound rest
  | .months n :: .ago :: rest => .months (-n) :: turnRound rest
  | .seconds n :: .ago :: rest => .seconds (-n) :: turnRound rest
  | p :: rest => p :: turnRound rest
  | [] => []

/-- What is known of a time while its pieces are gone through. -/
structure Draft where
  date : Option (Int × Nat × Nat) := none
  month : Option Nat := none
  day : Option Nat := none
  year : Option Int := none
  clock : Option (Nat × Nat) := none
  zone : Int := 0
  days : Int := 0
  months : Int := 0
  seconds : Int := 0
  weekday : Option Nat := none
  absolute : Option Int := none

def Draft.add (d : Draft) : Piece → Option Draft
  | .date y m day => some { d with date := some (y, m, day) }
  | .time s n => some { d with clock := some (s, n) }
  | .absolute t => some { d with absolute := some t }
  | .zone z => some { d with zone := z }
  | .month m => some { d with month := some m }
  | .number n digits =>
    if digits = 8 && d.date.isNone then
      some { d with date := some (n / 10000, (n / 100 % 100).toNat, (n % 100).toNat) }
    else if digits ≤ 2 && d.month.isSome && d.day.isNone then some { d with day := some n.toNat }
    else if digits ≤ 2 && d.month.isNone && d.day.isNone then some { d with day := some n.toNat }
    else if digits = 4 && d.day.isSome && d.year.isNone then some { d with year := some n }
    else none
  | .days n => some { d with days := d.days + n }
  | .months n => some { d with months := d.months + n }
  | .seconds n => some { d with seconds := d.seconds + n }
  | .weekday n => some { d with weekday := some n }
  | .ago => none
  | .nothing => some d

/-- Read a time as people write it; what is left open is taken from `now`. -/
def read (now : Int) (text : Bytes) : Option Int :=
  let isBlank (b : UInt8) : Bool := b = byte ' ' || b = 9 || b = newline
  let words := (text.splitBy fun a b => isBlank a == isBlank b).filter fun word => !(word.head?.any isBlank)
  match words.mapM pieces with
  | none => none
  | some found =>
    match (turnRound (joinUnits found.flatten)).foldlM Draft.add {} with
    | none => none
    | some d =>
      let today := Moment.ofTime now
      let (y, m, day) := match d.date with
        | some date => date
        | none => (d.year.getD today.year, d.month.getD today.month, d.day.getD today.day)
      let whole := d.date.isSome || d.month.isSome || d.weekday.isSome
      let months := (m : Int) - 1 + d.months
      let start := Moment.dayNumber (y + months / 12) (months % 12 + 1).toNat day + d.days
      let start := match d.weekday with
        | some n => start + ((n : Int) - (start + 4)) % 7
        | none => start
      let (clock, nanoseconds) : Int × Nat := match d.clock with
        | some (s, n) => (s, n)
        | none => if whole then (0, 0) else ((now / 1000000000) % 86400, (now % 1000000000).toNat)
      match d.absolute with
      | some t => some (t + (d.days * 86400 + d.seconds) * 1000000000)
      | none =>
        if words.isEmpty then some ((Moment.dayNumber y m day * 86400) * 1000000000)
        else some ((start * 86400 + clock + d.seconds - d.zone) * 1000000000 + nanoseconds)

/-- Read a time as digits: month, day, hour and minute, perhaps with the year in front and seconds behind a point. -/
def readDigits (now : Int) (text : Bytes) : Option Int :=
  let main := text.takeWhile isDigit
  let rest := text.drop main.length
  let seconds? : Option Nat := match rest with
    | [] => some 0
    | 46 :: digits => if digits.length = 2 then number? digits else none
    | _ => none
  let two (n : Nat) : Nat := number ((main.drop n).take 2)
  let built (year : Int) (start : Nat) (seconds : Nat) : Option Int :=
    let m : Moment :=
      { year, month := two start, day := two (start + 2), hour := two (start + 4), minute := two (start + 6),
        second := seconds }
    if (date? year m.month m.day).isSome && m.hour < 24 && m.minute < 60 && m.second ≤ 60 then
      some (m.seconds * 1000000000)
    else none
  match seconds?, main.length with
  | some s, 8 => built (Moment.ofTime now).year 0 s
  | some s, 10 => built (if two 0 < 69 then 2000 + two 0 else 1900 + two 0) 2 s
  | some s, 12 => built (number (main.take 4)) 4 s
  | _, _ => none

end Calendar

end LineShell.Host
