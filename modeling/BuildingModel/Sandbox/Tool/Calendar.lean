import BuildingModel.Sandbox.Tool.Basic

/-!
# Calendar and clock

Days of the calendar, times in words, and words for times. Times are counted in seconds from the
start of the year 1970; the clock starts at a fixed time and goes on with the work.
-/

namespace BuildingModel.Sandbox.Tool

open Shell (Run)

/-! ## Days -/

/-- A day of the calendar. -/
structure Day where
  /-- The year. -/
  year : Int
  /-- The month, from one on. -/
  month : Nat
  /-- The day of the month, from one on. -/
  day : Nat
  /-- The day of the week, from Sunday on. -/
  weekday : Nat
  /-- The day of the year, from one on. -/
  yearday : Nat

/-- How many days are before a year, counted from the first of March in the year zero. -/
def daysBefore (year : Int) : Int := 365 * year + year / 4 - year / 100 + year / 400

/-- How many days are between the first of January 1970 and a day. -/
def daysTo (year : Int) (month day : Nat) : Int :=
  let shifted := if month ≤ 2 then year - 1 else year
  let months := (month + 9) % 12
  daysBefore shifted + (153 * months + 2) / 5 + day - 1 - 719468

/-- The day that is so many days after the first of January 1970. -/
def dayAfter (days : Int) : Day :=
  let z := days + 719468
  let era := z / 146097
  let within := (z % 146097).toNat
  let years := (within - within / 1460 + within / 36524 - within / 146096) / 365
  let rest := within - (365 * years + years / 4 - years / 100)
  let months := (5 * rest + 2) / 153
  let month := if months < 10 then months + 3 else months - 9
  let year := era * 400 + years + (if month ≤ 2 then 1 else 0)
  { year, month, day := rest - (153 * months + 2) / 5 + 1
    weekday := ((days + 4) % 7).toNat
    yearday := (days - daysTo year 1 1).toNat + 1 }

/-- The number of the week that has most of its days in one year, from Monday on, with that year. -/
def isoWeek (day : Day) : Int × Nat :=
  let monday := (day.weekday + 6) % 7
  let weeks (year : Int) : Nat :=
    let first := ((daysTo year 1 1 + 4) % 7).toNat
    let isLeap := daysTo (year + 1) 1 1 - daysTo year 1 1 == 366
    if first == 4 || (first == 3 && isLeap) then 53 else 52
  let n := (day.yearday + 9 - monday) / 7
  if n == 0 then (day.year - 1, weeks (day.year - 1))
  else if weeks day.year < n then (day.year + 1, 1)
  else (day.year, n)

/-- The names of the days of the week. -/
def weekdayNames : List String :=
  ["Sunday", "Monday", "Tuesday", "Wednesday", "Thursday", "Friday", "Saturday"]

/-- The names of the months. -/
def calendarNames : List String :=
  ["January", "February", "March", "April", "May", "June", "July", "August", "September",
   "October", "November", "December"]

/-- A number with so many digits at least. -/
def padded (fill : Char) (width : Nat) (n : Nat) : String :=
  let digits := Nat.toDigits 10 n
  String.ofList (List.replicate (width - digits.length) fill ++ digits)

/-! ## Times in words -/

/-- What a letter tells of a time in seconds, in a letter of its own or in others. -/
def timePiece (seconds : Int) (letter : Char) : String ⊕ String :=
  let day := dayAfter (seconds / 86400)
  let time := (seconds % 86400).toNat
  let hour := time / 3600
  let twelve := if hour % 12 == 0 then 12 else hour % 12
  let weekday := (weekdayNames[day.weekday]?).getD ""
  let month := (calendarNames[day.month - 1]?).getD ""
  let two := padded '0' 2
  let week (first : Nat) : Nat := (day.yearday + 6 - (day.weekday + 7 - first) % 7) / 7
  let (weekYear, weekNumber) := isoWeek day
  match letter with
  | 'U' => .inl (two (week 0))
  | 'W' => .inl (two (week 1))
  | 'V' => .inl (two weekNumber)
  | 'G' => .inl (toString weekYear)
  | 'g' => .inl (two (weekYear.toNat % 100))
  | 'Y' => .inl (toString day.year)
  | 'C' => .inl (two (day.year.toNat / 100))
  | 'y' => .inl (two (day.year.toNat % 100))
  | 'm' => .inl (two day.month)
  | 'd' => .inl (two day.day)
  | 'e' => .inl (padded ' ' 2 day.day)
  | 'H' => .inl (two hour)
  | 'k' => .inl (padded ' ' 2 hour)
  | 'I' => .inl (two twelve)
  | 'l' => .inl (padded ' ' 2 twelve)
  | 'M' => .inl (two (time / 60 % 60))
  | 'S' => .inl (two (time % 60))
  | 's' => .inl (toString seconds)
  | 'N' => .inl "000000000"
  | 'j' => .inl (padded '0' 3 day.yearday)
  | 'a' => .inl (weekday.take 3).toString
  | 'A' => .inl weekday
  | 'b' | 'h' => .inl (month.take 3).toString
  | 'B' => .inl month
  | 'u' => .inl (toString (if day.weekday == 0 then 7 else day.weekday))
  | 'w' => .inl (toString day.weekday)
  | 'p' => .inl (if hour < 12 then "AM" else "PM")
  | 'P' => .inl (if hour < 12 then "am" else "pm")
  | 'Z' => .inl "UTC"
  | 'z' => .inl "+0000"
  | 'n' => .inl "\n"
  | 't' => .inl "\t"
  | '%' => .inl "%"
  | 'F' => .inr "%Y-%m-%d"
  | 'T' | 'X' => .inr "%H:%M:%S"
  | 'D' | 'x' => .inr "%m/%d/%y"
  | 'R' => .inr "%H:%M"
  | 'r' => .inr "%I:%M:%S %p"
  | 'c' => .inr "%a %b %e %H:%M:%S %Y"
  | c => .inl ("%" ++ c.toString)

/-- A time in a format. There is a step for each character, also of what letters stand for. -/
def timeText (seconds : Int) : Nat → List Char → List Char
  | 0, s => s
  | _, [] => []
  | n + 1, '%' :: '-' :: c :: s =>
    let piece := match timePiece seconds c with
      | .inl text => text
      | .inr _ => "%-" ++ c.toString
    let short := piece.toList.dropWhile fun c => c == '0' || c == ' '
    (if short.isEmpty then ['0'] else short) ++ timeText seconds n s
  | n + 1, '%' :: c :: s =>
    match timePiece seconds c with
    | .inl text => text.toList ++ timeText seconds n s
    | .inr letters => timeText seconds n (letters.toList ++ s)
  | n + 1, c :: s => c :: timeText seconds n s

/-! ## Words for times -/

/-- The number of a text, if it is of digits only. -/
def digitsOf? (s : String) : Option Nat :=
  if s.isEmpty || !s.toList.all Char.isDigit then none else s.toNat?

/-- The time of day in seconds. -/
def timeOfDay? (s : String) : Option Nat := do
  let numbers ← ((s.splitOn ":").mapM digitsOf?)
  match numbers with
  | [h, m] => if h < 24 && m < 60 then some (h * 3600 + m * 60) else none
  | [h, m, t] => if h < 24 && m < 60 && t < 61 then some (h * 3600 + m * 60 + t) else none
  | _ => none

/-- What words have told of a time. -/
structure TimeWords where
  /-- The day. -/
  day : Option (Nat × Nat × Nat) := none
  /-- The time of the day in seconds. -/
  time : Option Nat := none
  /-- How many seconds are added. -/
  seconds : Int := 0
  /-- How many months are added. -/
  months : Int := 0

/-- The seconds or months that a unit has. -/
def unitOf? (s : String) : Option (Int × Int) :=
  let s := if s.length > 1 && s.endsWith "s" then (s.dropEnd 1).toString else s
  [("sec", ((1 : Int), (0 : Int))), ("second", (1, 0)), ("min", (60, 0)), ("minute", (60, 0)),
   ("hour", (3600, 0)), ("day", (86400, 0)), ("week", (604800, 0)), ("fortnight", (1209600, 0)),
   ("month", (0, 1)), ("year", (0, 12))].lookup s

namespace TimeWords

/-- With a number of units added. -/
def add (w : TimeWords) (count : Int) (unit : Int × Int) : TimeWords :=
  { w with seconds := w.seconds + count * unit.1, months := w.months + count * unit.2 }

/-- How many days a month has. -/
def daysIn (y m : Nat) : Nat :=
  (daysTo (if m == 12 then y + 1 else y) (m % 12 + 1) 1 - daysTo y m 1).toNat

/-- With a day, if it is one. -/
def withDay? (w : TimeWords) (y m d : Nat) : Option TimeWords :=
  if m == 0 || 12 < m || d == 0 || daysIn y m < d || w.day.isSome then none
  else some { w with day := some (y, m, d) }

/-- The number of a month that a word names. -/
def monthOf? (s : String) : Option Nat :=
  if s.length < 3 then none
  else (calendarNames.findIdx? fun name => name.toLower.startsWith s).map (· + 1)

/-- With what a word tells by itself. -/
def read? (w : TimeWords) (s : String) : Option TimeWords :=
  match (s.splitOn "-").map digitsOf?, (s.splitOn "/").map digitsOf?, digitsOf? s with
  | [some y, some m, some d], _, _ => w.withDay? y m d
  | _, [some m, some d, some y], _ => w.withDay? y m d
  | _, _, some n =>
    if s.length == 8 then w.withDay? (n / 10000) (n / 100 % 100) (n % 100) else none
  | _, _, none =>
    if ["now", "today", "utc", "gmt", "z", "+0000", "+00:00"].contains s then some w
    else if s == "yesterday" then some (w.add (-1) (86400, 0))
    else if s == "tomorrow" then some (w.add 1 (86400, 0))
    else if s == "ago" then some { w with seconds := -w.seconds, months := -w.months }
    else if s.contains ':' && w.time.isNone then
      let bare := if s.endsWith "z" then (s.dropEnd 1).toString else s
      (timeOfDay? bare).map fun n => { w with time := some n }
    else (unitOf? s).map (w.add 1)

/-- The number at the front of a word, with its sign, and what is after it. -/
def counted? (s : String) : Option (Int × String) :=
  let (negative, body) := match s.toList with
    | '+' :: rest => (false, rest)
    | '-' :: rest => (true, rest)
    | rest => (false, rest)
  let digits := body.takeWhile Char.isDigit
  if digits.isEmpty then none
  else
    let n : Int := ((String.ofList digits).toNat?).getD 0
    some (if negative then -n else n, String.ofList (body.drop digits.length))

/-- With what words tell. -/
def readAll? (w : TimeWords) : List String → Option TimeWords
  | [] => some w
  | word :: next :: rest =>
    match counted? word, unitOf? next, monthOf? word, monthOf? next with
    | some (n, ""), some unit, _, _ => readAll? (w.add n unit) rest
    | some (d, ""), none, _, some m =>
      match rest with
      | year :: rest =>
        match digitsOf? year with
        | some y => (w.withDay? y m d.toNat).bind fun w => readAll? w rest
        | none => none
      | [] => none
    | none, some unit, _, _ =>
      if word == "next" then readAll? (w.add 1 unit) rest
      else if word == "last" then readAll? (w.add (-1) unit) rest
      else (readOne? w word).bind fun w => readAll? w (next :: rest)
    | none, none, some m, _ =>
      match (digitsOf? (next.replace "," "")), rest with
      | some d, year :: rest =>
        match digitsOf? year with
        | some y => (w.withDay? y m d).bind fun w => readAll? w rest
        | none => none
      | _, _ => none
    | _, _, _, _ => (readOne? w word).bind fun w => readAll? w (next :: rest)
  | [word] => readOne? w word
where
  /-- With what a word tells by itself, or with a number and a unit in one word. -/
  readOne? (w : TimeWords) (word : String) : Option TimeWords :=
    (w.read? word) <|> do
      let (n, unit) ← counted? word
      return w.add n (← unitOf? unit)

end TimeWords

/-- Words with a space in place of the letter between a day and a time. -/
def apartAtT : List Char → List Char
  | a :: 'T' :: b :: rest =>
    if a.isDigit && b.isDigit then a :: ' ' :: apartAtT (b :: rest)
    else a :: 'T' :: apartAtT (b :: rest)
  | c :: rest => c :: apartAtT rest
  | [] => []

/-- Words in which a sign is not apart from its number. -/
def joinSigns : List String → List String
  | sign :: word :: rest =>
    if (sign == "+" || sign == "-") && word.front.isDigit then (sign ++ word) :: joinSigns rest
    else sign :: joinSigns (word :: rest)
  | rest => rest

/-- The time in seconds that words tell, given the present time. -/
def timeOf? (now : Int) (s : String) : Option Int := do
  match s.toList with
  | '@' :: '-' :: digits => (digitsOf? (String.ofList digits)).map fun n => -(n : Int)
  | '@' :: digits => (digitsOf? (String.ofList digits)).map fun n => (n : Int)
  | _ =>
    let words := ((String.ofList (apartAtT s.toList)).toLower.splitOn " ").filter (!·.isEmpty)
    let w ← TimeWords.readAll? {} (joinSigns words)
    let today := dayAfter (now / 86400)
    let (y, m, d) := match w.day with
      | some (y, m, d) => ((y : Int), m, d)
      | none => (today.year, today.month, today.day)
    let time : Int := match w.time, w.day with
      | some n, _ => n
      | none, some _ => 0
      | none, none => if s.isEmpty then 0 else now % 86400
    let month := y * 12 + m - 1 + w.months
    let start := daysTo (month / 12) ((month % 12).toNat + 1) 1 + d - 1
    return start * 86400 + time + w.seconds

/-- The time in seconds that digits tell: month, day, hour and minute, with the year before them and
the second after a point if they are told, given the present time. -/
def timeOfDigits? (now : Int) (s : String) : Option Int := do
  let (front, second) ← match s.splitOn "." with
    | [front] => some (front, 0)
    | [front, t] => (digitsOf? t).map fun n => (front, n)
    | _ => none
  let _ ← digitsOf? front
  let part (i n : Nat) : Nat := ((String.ofList ((front.toList.drop i).take n)).toNat?).getD 0
  let (year, rest) ← match front.length with
    | 8 => some ((dayAfter (now / 86400)).year, 0)
    | 10 => some (((if part 0 2 < 69 then 2000 else 1900) + part 0 2 : Nat), 2)
    | 12 => some ((part 0 4 : Nat), 4)
    | _ => none
  let (m, d, hour, minute) := (part rest 2, part (rest + 2) 2, part (rest + 4) 2, part (rest + 6) 2)
  if m == 0 || 12 < m || d == 0 || 31 < d || 23 < hour || 59 < minute then none
  return daysTo year m d * 86400 + ((hour * 3600 + minute * 60 + second : Nat) : Int)

/-! ## The clock -/

/-- The time at which the clock starts: the start of the year 2025. -/
def clockStart : Int := 1735689600

/-- The time in seconds. -/
def presentTime : Run Int := return clockStart + (((← get).clock / 1000000 : Nat) : Int)

/-- A time in seconds as files are given it. -/
def fileTime (seconds : Int) : Int := (seconds - clockStart) * 1000000

/-- The seconds of a time that files are given. -/
def secondsOf (time : Int) : Int := clockStart + time / 1000000

end BuildingModel.Sandbox.Tool
