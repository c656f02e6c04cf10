import TestAmplification.Shell.Utility.Options
import TestAmplification.Shell.Utility.Status

/-!
# Moments as dates

A moment is a number of nanoseconds since the start of 1970. As a date it has a year,
a month and a day, where a year starts in March for the count of days, so that the
odd day of February comes last. Every hour is the same everywhere.

A date in words names a day, a time, a zone, and steps away from them. What it does
not name is taken from the present.
-/

set_option autoImplicit false

namespace TestAmplification.Shell

/-! ## Days -/

/-- A day of the calendar. -/
structure CalendarDay where
  /-- The year. -/
  year : Int
  /-- The month, from one on. -/
  month : Nat
  /-- The day of the month, from one on. -/
  day : Nat
deriving DecidableEq, Inhabited

/-- The number of days between the start of 1970 and a day. Months may be more than
twelve, and days more than a month has. -/
def CalendarDay.number (date : CalendarDay) : Int :=
  let months := date.year * 12 + (date.month : Int) - 3
  let year := months.fdiv 12
  let month := (months.fmod 12).toNat
  let dayOfYear : Int := (153 * month + 2) / 5 + date.day - 1
  365 * year + year.fdiv 4 - year.fdiv 100 + year.fdiv 400 + dayOfYear - 719468

/-- The day that so many days after the start of 1970 is. -/
def CalendarDay.ofNumber (number : Int) : CalendarDay :=
  let shifted := number + 719468
  let era := shifted.fdiv 146097
  let dayOfEra := (shifted.fmod 146097).toNat
  let yearOfEra :=
    (dayOfEra - dayOfEra / 1460 + dayOfEra / 36524 - dayOfEra / 146096) / 365
  let dayOfYear := dayOfEra - (365 * yearOfEra + yearOfEra / 4 - yearOfEra / 100)
  let month := (5 * dayOfYear + 2) / 153
  { year := yearOfEra + era * 400 + (if month < 10 then 0 else 1)
    month := if month < 10 then month + 3 else month - 9
    day := dayOfYear - (153 * month + 2) / 5 + 1 }

/-- Is there such a day? -/
def CalendarDay.isThere (date : CalendarDay) : Bool :=
  1 ≤ date.month && date.month ≤ 12 && 1 ≤ date.day
    && CalendarDay.ofNumber date.number == date

example : CalendarDay.ofNumber 18628 = ⟨2021, 1, 1⟩ := by decide +kernel
example : CalendarDay.number ⟨2000, 2, 29⟩ = 11016 := by decide +kernel

/-- The names of the days of the week. -/
def weekdayNames : List String :=
  ["Sunday", "Monday", "Tuesday", "Wednesday", "Thursday", "Friday", "Saturday"]

/-- The names of the months. -/
def monthNames : List String :=
  ["January", "February", "March", "April", "May", "June", "July", "August", "September",
    "October", "November", "December"]

/-- Nanoseconds in a second. -/
def secondLength : Int := 1000000000

/-- Seconds in a day. -/
def dayLength : Int := 86400

/-- The index of the name that a word abbreviates to at least three letters. -/
def nameIndex? (names : List String) (word : Row) : Option Nat :=
  let word := word.map Char.toLower
  if word.length < 3 then none
  else names.findIdx? fun name => word.isPrefixOf (name.toList.map Char.toLower)

/-! ## Reading -/

/-- What the words of a date have said so far. -/
structure SpokenDate where
  /-- The day. -/
  day : Option CalendarDay := none
  /-- The time, in nanoseconds since midnight. -/
  time : Option Int := none
  /-- How far the zone is ahead, in seconds. -/
  zone : Int := 0
  /-- How many months to go on. -/
  months : Int := 0
  /-- How many nanoseconds to go on. -/
  offset : Int := 0
  /-- The day of the week. -/
  weekday : Option Nat := none
  /-- Was a day named that is said from the present? -/
  isRelative : Bool := false

/-- The day that is written with hyphens or slashes. -/
def writtenDay? (word : Row) : Option CalendarDay :=
  let shortYear (digits : Row) (year : Nat) : Int :=
    if digits.length ≤ 2 then (if year < 69 then 2000 + year else 1900 + year) else year
  let parts (mark : Char) : List Row := cutAtEach mark word
  match parts '-', parts '/' with
  | [year, month, day], _ => do
      return ⟨shortYear year (← Text.digits? year), ← Text.digits? month, ← Text.digits? day⟩
  | _, [first, second, third] => do
      let first' ← Text.digits? first
      let second ← Text.digits? second
      let third' ← Text.digits? third
      if first.length ≥ 4 then return ⟨first', second, third'⟩
      else return ⟨shortYear third third', first', second⟩
  | _, _ =>
      if word.length = 8 then do
        let number ← Text.digits? word
        return ⟨number / 10000, number / 100 % 100, number % 100⟩
      else none

/-- The fraction of a second that digits behind a point denote, in nanoseconds. -/
def nanosecondsOf (digits : Row) : Int :=
  Text.digitsValue ((digits ++ List.replicate 9 '0').take 9)

/-- The time of the day that is written with colons, in nanoseconds. -/
def writtenTime? (word : Row) : Option Int := do
  let parts := cutAtEach ':' word
  guard (parts.length = 2 || parts.length = 3)
  let hour ← Text.digits? ((parts[0]?).getD [])
  let minute ← Text.digits? ((parts[1]?).getD [])
  let (second, fraction) :=
    match cutAtEach '.' ((parts[2]?).getD ['0']) with
    | [second, fraction] => (second, fraction)
    | second :: _ => (second, [])
    | [] => ([], [])
  let second ← Text.digits? second
  guard (hour < 24 && minute < 60 && second < 61 && fraction.all Char.isDigit)
  return ((hour * 60 + minute) * 60 + second : Nat) * secondLength + nanosecondsOf fraction

/-- How far a zone is ahead, in seconds. -/
def zoneOf? (word : Row) : Option Int :=
  let zones : List (String × Int) :=
    [("Z", 0), ("UTC", 0), ("GMT", 0), ("EST", -5), ("EDT", -4), ("CST", -6), ("CDT", -5),
      ("MST", -7), ("MDT", -6), ("PST", -8), ("PDT", -7), ("CET", 1), ("CEST", 2)]
  match zones.lookup (String.ofList (word.map Char.toUpper)) with
  | some hours => some (hours * 3600)
  | none =>
      match word with
      | sign :: digits =>
          let digits := digits.filter (· != ':')
          if (sign = '+' || sign = '-') && digits.length ≤ 4 then
            (Text.digits? digits).map fun number =>
              let minutes : Nat := if digits.length ≤ 2 then number * 60 else number / 100 * 60 + number % 100
              (if sign = '-' then -1 else 1) * (minutes : Int) * 60
          else none
      | [] => none

/-- The time at the start of a word, and the zone behind it. -/
def timeAndZone? (word : Row) : Option (Int × Int) :=
  let time := word.takeWhile fun character =>
    character.isDigit || character == ':' || character == '.'
  let rest := word.drop time.length
  (writtenTime? time).bind fun time =>
    if rest.isEmpty then some (time, 0) else (zoneOf? rest).map (time, ·)

/-- The day, the time and the zone of a word that has all of them, with a letter before
the time. -/
def dayAndTime? (word : Row) : Option (CalendarDay × Int × Int) := do
  match cutAtEach 'T' word with
  | [day, time] => return (← writtenDay? day, ← timeAndZone? time)
  | _ => none

/-- The date after so many units. -/
def SpokenDate.goOn (date : SpokenDate) (count : Int) (unit : Row) : Option SpokenDate :=
  let unit := unit.map Char.toLower
  let unit := if unit.length > 3 && unit.getLast? == some 's' then unit.dropLast else unit
  let seconds (length : Int) : Option SpokenDate :=
    some { date with offset := date.offset + count * length * secondLength, isRelative := true }
  match String.ofList unit with
  | "second" | "sec" => seconds 1
  | "minute" | "min" => seconds 60
  | "hour" => seconds 3600
  | "day" => seconds dayLength
  | "week" => seconds (7 * dayLength)
  | "fortnight" => seconds (14 * dayLength)
  | "month" => some { date with months := date.months + count, isRelative := true }
  | "year" => some { date with months := date.months + 12 * count, isRelative := true }
  | _ => none

/-- What the words say, in at most so many steps. -/
def SpokenDate.hear : Nat → List Row → SpokenDate → Option SpokenDate
  | 0, _, _ => none
  | _ + 1, [], date => some date
  | steps + 1, word :: rest, date =>
      let word := word.filter (· != ',')
      let lower := String.ofList (word.map Char.toLower)
      let going (count : Int) (unit : Row) (rest : List Row) : Option SpokenDate :=
        match rest with
        | ago :: rest' =>
            if ago.map Char.toLower == "ago".toList then
              (date.goOn (-count) unit).bind (hear steps rest')
            else (date.goOn count unit).bind (hear steps rest)
        | [] => (date.goOn count unit).bind (hear steps rest)
      let meridian : Option Int :=
        if lower = "am" then some 0 else if lower = "pm" then some 12 else none
      if word.isEmpty then hear steps rest date
      else if lower = "now" || lower = "today" then hear steps rest { date with isRelative := true }
      else if lower = "yesterday" then (date.goOn (-1) "day".toList).bind (hear steps rest)
      else if lower = "tomorrow" then (date.goOn 1 "day".toList).bind (hear steps rest)
      else if lower = "t" then hear steps rest date
      else
        match meridian, date.time with
        | some noon, some time =>
            let hours := time.fdiv (3600 * secondLength)
            if hours < 1 || hours > 12 then none
            else
              hear steps rest { date with
                time := some (time + ((hours.fmod 12) + noon - hours) * 3600 * secondLength) }
        | _, _ =>
            match timeAndZone? word, zoneOf? word, rest with
            | some (time, zone), _, _ => hear steps rest { date with time := some time, zone }
            | none, some zone, [] =>
                if date.time.isNone && date.day.isNone then none
                else hear steps rest { date with zone }
            | none, _, _ =>
                match writtenDay? word, dayAndTime? word with
                | some day, _ => hear steps rest { date with day := some day }
                | none, some (day, time, zone) =>
                    hear steps rest { date with day := some day, time := some time, zone }
                | none, none =>
                    match nameIndex? monthNames word, nameIndex? weekdayNames word,
                        intOf? word, rest with
                    | some month, _, _, day :: rest => do
                        let dayNumber ← Text.digits? (day.filter (· != ','))
                        let date := { date with day := some ⟨1970, month + 1, dayNumber⟩ }
                        match rest with
                        | year :: rest' =>
                            match Text.digits? year with
                            | some year =>
                                hear steps rest' { date with day := some ⟨year, month + 1, dayNumber⟩ }
                            | none => hear steps rest date
                        | [] => hear steps rest date
                    | none, some weekday, _, _ => hear steps rest { date with weekday := some weekday }
                    | none, none, some count, next :: rest => do
                        match nameIndex? monthNames next, rest with
                        | some month, year :: rest' =>
                            match Text.digits? year with
                            | some year =>
                                hear steps rest' { date with day := some ⟨year, month + 1, count.toNat⟩ }
                            | none => none
                        | some month, [] =>
                            some { date with day := some ⟨1970, month + 1, count.toNat⟩ }
                        | none, _ => going count next rest
                    | none, none, none, next :: rest =>
                        if lower = "next" then (date.goOn 1 next).bind (hear steps rest)
                        else if lower = "last" then (date.goOn (-1) next).bind (hear steps rest)
                        else (date.goOn 1 word).bind (hear steps (next :: rest))
                    | none, none, none, [] =>
                        (date.goOn 1 word).bind (hear steps [])
                    | _, _, _, _ => none

/-- The moment that the words of a date name. -/
def SpokenDate.moment? (now : Int) (date : SpokenDate) : Option Int :=
  let today := now.fdiv (dayLength * secondLength)
  if (date.day.map CalendarDay.isThere).getD true then
    let day := (date.day.map CalendarDay.number).getD today
    let named := CalendarDay.ofNumber day
    let months := named.year * 12 + (named.month : Int) - 1 + date.months
    let day := CalendarDay.number ⟨months.fdiv 12, (months.fmod 12).toNat + 1, named.day⟩
    let day :=
      match date.weekday, date.day with
      | some weekday, none => day + ((weekday : Int) - (day + 4)).fmod 7
      | _, _ => day
    let time :=
      match date.time with
      | some time => time
      | none =>
          if date.day.isSome || date.weekday.isSome || !date.isRelative then 0
          else now.fmod (dayLength * secondLength)
    some (day * dayLength * secondLength + time - date.zone * secondLength + date.offset)
  else none

/-- The moment that a text names. -/
def readMoment? (now : Int) (text : Row) : Option Int :=
  match text with
  | '@' :: number =>
      let (sign, digits) :=
        match number with
        | '-' :: digits => ((-1 : Int), digits)
        | digits => (1, digits)
      match cutAtEach '.' digits with
      | [whole] => (Text.digits? whole).map fun whole => sign * (whole : Int) * secondLength
      | [whole, fraction] =>
          if fraction.all Char.isDigit then
            (Text.digits? whole).map fun whole =>
              sign * ((whole : Int) * secondLength + nanosecondsOf fraction)
          else none
      | _ => none
  | text =>
      let words := wordsOf text
      ((SpokenDate.hear (words.length + 1) words {}).bind (SpokenDate.moment? now))

/-- The moment that a stamp names: month, day, hour and minute in two digits each,
perhaps with a year in front and the second behind a point. -/
def readStamp? (now : Int) (text : Row) : Option Int := do
  let (digits, second) :=
    match cutAtEach '.' text with
    | [digits, second] => (digits, second)
    | _ => (text, ['0', '0'])
  guard (second.length = 2)
  let second ← Text.digits? second
  let number ← Text.digits? digits
  let year ←
    match digits.length with
    | 8 => some (CalendarDay.ofNumber (now.fdiv (dayLength * secondLength))).year
    | 10 => some (if number / 100000000 < 69 then 2000 + (number / 100000000 : Int)
        else 1900 + (number / 100000000 : Int))
    | 12 => some (number / 100000000 : Int)
    | _ => none
  let day : CalendarDay := ⟨year, number / 1000000 % 100, number / 10000 % 100⟩
  let hour := number / 100 % 100
  let minute := number % 100
  guard (day.isThere && hour < 24 && minute < 60 && second < 61)
  let seconds : Int := (hour * 60 + minute) * 60 + second
  return (day.number * dayLength + seconds) * secondLength

/-! ## Writing -/

/-- How a part of a date is filled up: the letter for that, and the width. -/
structure DateFill where
  /-- The flags in front of the letter. -/
  flags : Row := []
  /-- The width, if one is given. -/
  width : Option Nat := none

/-- A number filled up to a width. -/
def DateFill.number (fill : DateFill) (filler : Char) (width : Nat) (number : Int) : Row :=
  let row := intRow number
  let filler :=
    match fill.flags.find? fun flag => ['-', '_', '0'].contains flag with
    | some '-' => none
    | some '_' => some ' '
    | some '0' => some '0'
    | _ => some filler
  match filler with
  | none => row
  | some filler => List.replicate (fill.width.getD width - row.length) filler ++ row

/-- A text filled up, in great letters if wanted. -/
def DateFill.text (fill : DateFill) (text : String) : Row :=
  let row := rowOf text
  let row := if fill.flags.contains '^' || fill.flags.contains '#' then row.map Char.toUpper else row
  let filler := if fill.flags.contains '0' then '0' else ' '
  List.replicate (fill.width.getD 0 - row.length) filler ++ row

/-- The number of the week and the year that it counts for, where a week starts on
Monday and belongs to the year that most of it is in. -/
def weekOf (day : Int) : Int × Int :=
  let thursday := day - (day + 3).fmod 7 + 3
  let year := (CalendarDay.ofNumber thursday).year
  ((thursday - CalendarDay.number ⟨year, 1, 1⟩).fdiv 7 + 1, year)

/-- A moment in a format, in at most so many steps. -/
def formatMoment (moment : Int) : Nat → Row → Row
  | 0, _ => []
  | _ + 1, [] => []
  | steps + 1, '%' :: rest =>
      let day := moment.fdiv (dayLength * secondLength)
      let date := CalendarDay.ofNumber day
      let ofDay := moment.fmod (dayLength * secondLength)
      let nanoseconds := ofDay.fmod secondLength
      let second := ofDay.fdiv secondLength
      let hour := second.fdiv 3600
      let weekday := (day + 4).fmod 7
      let yearDay := day - CalendarDay.number ⟨date.year, 1, 1⟩
      let flags := rest.takeWhile fun flag => ['-', '_', '0', '^', '#'].contains flag
      let afterFlags := rest.drop flags.length
      let digits := afterFlags.takeWhile Char.isDigit
      let afterDigits := afterFlags.drop digits.length
      let colons := afterDigits.takeWhile (· == ':')
      let fill : DateFill := { flags, width := Text.digits? digits }
      let within (format : String) : Row := formatMoment moment steps format.toList
      let weekdayName := (weekdayNames[weekday.toNat]?).getD ""
      let monthName := (monthNames[date.month - 1]?).getD ""
      let halfHour := if hour.fmod 12 = 0 then 12 else hour.fmod 12
      match afterDigits.drop colons.length with
      | [] => '%' :: rest
      | letter :: more =>
          let shown : Option Row :=
            match letter with
            | 'a' => some (fill.text (String.ofList (weekdayName.toList.take 3)))
            | 'A' => some (fill.text weekdayName)
            | 'b' | 'h' => some (fill.text (String.ofList (monthName.toList.take 3)))
            | 'B' => some (fill.text monthName)
            | 'c' => some (within "%a %b %e %H:%M:%S %Y")
            | 'C' => some (fill.number '0' 2 (date.year.fdiv 100))
            | 'd' => some (fill.number '0' 2 date.day)
            | 'D' | 'x' => some (within "%m/%d/%y")
            | 'e' => some (fill.number ' ' 2 date.day)
            | 'F' => some (within "%Y-%m-%d")
            | 'g' => some (fill.number '0' 2 ((weekOf day).2.fmod 100))
            | 'G' => some (fill.number '0' 4 (weekOf day).2)
            | 'H' => some (fill.number '0' 2 hour)
            | 'I' => some (fill.number '0' 2 halfHour)
            | 'j' => some (fill.number '0' 3 (yearDay + 1))
            | 'k' => some (fill.number ' ' 2 hour)
            | 'l' => some (fill.number ' ' 2 halfHour)
            | 'm' => some (fill.number '0' 2 date.month)
            | 'M' => some (fill.number '0' 2 ((second.fdiv 60).fmod 60))
            | 'n' => some ['\n']
            | 'N' =>
                let row := padZeros 9 (intRow nanoseconds)
                some (row.take ((fill.width).getD 9))
            | 'p' =>
                let text := if hour < 12 then "AM" else "PM"
                some (if flags.contains '#' then rowOf text.toLower else rowOf text)
            | 'P' => some (rowOf (if hour < 12 then "am" else "pm"))
            | 'q' => some (fill.number '0' 1 ((date.month + 2) / 3 : Nat))
            | 'r' => some (within "%I:%M:%S %p")
            | 'R' => some (within "%H:%M")
            | 's' => some (fill.number '0' 1 (moment.fdiv secondLength))
            | 'S' => some (fill.number '0' 2 (second.fmod 60))
            | 't' => some ['\t']
            | 'T' | 'X' => some (within "%H:%M:%S")
            | 'u' => some (fill.number '0' 1 (if weekday = 0 then 7 else weekday))
            | 'U' => some (fill.number '0' 2 ((yearDay + 7 - weekday).fdiv 7))
            | 'V' => some (fill.number '0' 2 (weekOf day).1)
            | 'w' => some (fill.number '0' 1 weekday)
            | 'W' => some (fill.number '0' 2 ((yearDay + 7 - (weekday + 6).fmod 7).fdiv 7))
            | 'y' => some (fill.number '0' 2 (date.year.fmod 100))
            | 'Y' => some (fill.number '0' 4 date.year)
            | 'z' => some (rowOf (match colons.length with
                | 0 => "+0000"
                | 1 => "+00:00"
                | 2 => "+00:00:00"
                | _ => "+00"))
            | 'Z' => some (fill.text "UTC")
            | '%' => some ['%']
            | _ => none
          match shown with
          | some shown => shown ++ formatMoment moment steps more
          | none =>
              '%' :: (rest.take (rest.length - more.length)) ++ formatMoment moment steps more
  | steps + 1, character :: rest => character :: formatMoment moment steps rest

/-- A moment in a format. -/
def formattedMoment (moment : Int) (format : Row) : Row :=
  formatMoment moment (format.length + 40) format

open Tool in
/-- Writes the date. -/
def date : Utility := fun given => do
  let arguments ← parseArguments
    [long 'd' "date" .some, long 'u' "utc", long 'u' "universal", long 'u' "uct",
      long 'R' "rfc-email", long 'R' "rfc-2822", long 'I' "iso-8601" .maybe,
      long '3' "rfc-3339" .some, long 'r' "reference" .some, long 's' "set" .some,
      long 'f' "file" .some] given
  let disk ← disk
  let now := disk.clock
  let moment ←
    match arguments.value? 'd', arguments.value? 'r' with
    | some text, _ =>
        match readMoment? now text with
        | some moment => pure moment
        | none => fail (rowOf "invalid date " ++ quotedText text) 1
    | none, some path =>
        match statusOfPath disk (textOf path) with
        | .ok status => pure status.changed
        | .error fault => fail (quotedIfNeeded path ++ rowOf (": " ++ fault.reason)) 1
    | none, none => pure now
  let format ←
    match arguments.operands with
    | [] =>
        match arguments.last? ['R', 'I', '3'] with
        | some 'R' => pure (rowOf "%a, %d %b %Y %H:%M:%S %z")
        | some 'I' =>
            match String.ofList ((arguments.value? 'I').getD []) with
            | "" | "date" => pure (rowOf "%Y-%m-%d")
            | "hours" => pure (rowOf "%Y-%m-%dT%H%:z")
            | "minutes" => pure (rowOf "%Y-%m-%dT%H:%M%:z")
            | "ns" => pure (rowOf "%Y-%m-%dT%H:%M:%S,%N%:z")
            | _ => pure (rowOf "%Y-%m-%dT%H:%M:%S%:z")
        | some _ =>
            if arguments.value? '3' = some (rowOf "date") then pure (rowOf "%Y-%m-%d")
            else pure (rowOf "%Y-%m-%d %H:%M:%S%:z")
        | none => pure (rowOf "%a %b %e %H:%M:%S UTC %Y")
    | ('+' :: format) :: rest =>
        match rest with
        | [] => pure format
        | extra :: _ => usage (rowOf "extra operand " ++ quotedText extra)
    | [text] => fail (rowOf "invalid date " ++ quotedText text) 1
    | _ :: extra :: _ => usage (rowOf "extra operand " ++ quotedText extra)
  putLine (formattedMoment moment format)
  return 0

end TestAmplification.Shell
