import BillOfMaterials.Sql.Format

/-!
# Dates and times

The date and time functions `date`, `time`, `datetime`, `julianday`, `unixepoch` and
`strftime` read a moment and then modifiers, each changing it, and write the result:

* a moment is read from `YYYY-MM-DD`, optionally followed by a time, from `HH:MM[:SS[.SSS]]`
  (on 2000-01-01), both with an optional zone `Z` or `±HH:MM`, from `now`, or from a number,
  a julian day unless a modifier says it counts seconds since 1970;
* `Moment` carries it as the functions do: milliseconds since the julian epoch, or a calendar
  date and a time of day, whichever was computed last;
* modifiers: `±N days|hours|minutes|seconds|months|years`, `±HH:MM[:SS]`, `±YYYY-MM-DD`,
  `start of day|month|year`, `weekday N`, `unixepoch`, `julianday`, `auto`, `localtime`,
  `utc`, `subsec`, `ceiling`, `floor`; one that does not read makes the result `NULL`;
* "now" is one fixed moment, `nowMoment`, so that evaluation stays a function of its
  arguments; the zone of local time is UTC.
-/

namespace BillOfMaterials.Sql

/-- A moment as the date functions carry it between modifiers. -/
structure Moment where
  /-- Milliseconds since noon of the julian epoch, when computed. -/
  jd : Int := 0
  hasJd : Bool := false
  year : Int := 2000
  month : Int := 1
  day : Int := 1
  hasDate : Bool := false
  hour : Int := 0
  minute : Int := 0
  /-- The seconds, in milliseconds. -/
  millis : Int := 0
  hasTime : Bool := false
  /-- Minutes east of UTC the time was written in. -/
  zone : Int := 0
  /-- A bare number not yet read as a julian day or as unix time. -/
  raw : Option Float := none
  /-- Whether the seconds are written with milliseconds. -/
  subsec : Bool := false
  failed : Bool := false
  /-- How many days a date overflowed its month by, for `floor`. -/
  overflow : Int := 0
  /-- Whether the moment is in UTC rather than local time. -/
  isUtc : Bool := false
  deriving Inhabited

/-- Milliseconds in a day. -/
def dayMillis : Int := 86400000

/-- Whether a count of milliseconds is a julian day the functions handle: years 4713 BC to
9999. -/
def validJd (jd : Int) : Bool := 0 ≤ jd && jd ≤ 464269060799999

namespace Moment

/-- Computes the milliseconds since the julian epoch from the date and time (2000-01-01 when
no date was given); a date out of range, or a bare number, fails. -/
def withJd (m : Moment) : Moment :=
  if m.hasJd then m
  else
    let (y, mo, d) := if m.hasDate then (m.year, m.month, m.day) else (2000, 1, 1)
    if y < -4713 || y > 9999 || m.raw.isSome then { m with failed := true }
    else
      let (y, mo) := if mo ≤ 2 then (y - 1, mo + 12) else (y, mo)
      let a := y.tdiv 100
      let b := 2 - a + a.tdiv 4
      let x1 := (36525 * (y + 4716)).tdiv 100
      let x2 := (306001 * (mo + 1)).tdiv 10000
      let jd := (x1 + x2 + d + b) * dayMillis - 131716800000
      if m.hasTime then
        let jd := jd + m.hour * 3600000 + m.minute * 60000 + m.millis
        if m.zone ≠ 0 then
          { m with jd := jd - m.zone * 60000, hasJd := true, hasDate := false, hasTime := false,
                   zone := 0, isUtc := true }
        else { m with jd, hasJd := true }
      else { m with jd, hasJd := true }

/-- Computes the calendar date from the milliseconds (2000-01-01 when there are none). -/
def withDate (m : Moment) : Moment :=
  if m.hasDate then m
  else if !m.hasJd then { m with year := 2000, month := 1, day := 1, hasDate := true }
  else if !validJd m.jd then { m with failed := true }
  else
    let z := (m.jd + 43200000).tdiv dayMillis
    let a := (4 * z - 7468865).tdiv 146097
    let a := z + 1 + a - a.tdiv 4
    let b := a + 1524
    let c := (20 * b - 2442).tdiv 7305
    let d := (36525 * (c % 32768)).tdiv 100
    let e := (10000 * (b - d)).tdiv 306001
    let x1 := (306001 * e).tdiv 10000
    let month := if e < 14 then e - 1 else e - 13
    { m with day := b - d - x1, month, year := if month > 2 then c - 4716 else c - 4715,
             hasDate := true }

/-- Computes the time of day from the milliseconds. -/
def withTime (m : Moment) : Moment :=
  if m.hasTime then m
  else
    let m := m.withJd
    let ms := (m.jd + 43200000) % dayMillis
    let minutes := ms / 60000
    { m with millis := ms % 60000, minute := minutes % 60, hour := minutes / 60, raw := none,
             hasTime := true }

/-- Computes both the date and the time of day. -/
def withDateTime (m : Moment) : Moment := m.withDate.withTime

/-- Forgets the date, the time and the zone, keeping the milliseconds. -/
def clear (m : Moment) : Moment := { m with hasDate := false, hasTime := false, zone := 0 }

/-- Notes how far the day overflows its month. -/
def withOverflow (m : Moment) : Moment :=
  let leap := m.year % 4 = 0 && (m.year % 100 ≠ 0 || m.year % 400 = 0)
  let overflow :=
    if m.day ≤ 28 then 0
    else if [1, 3, 5, 7, 8, 10, 12].contains m.month then 0
    else if m.month ≠ 2 then (if m.day = 31 then 1 else 0)
    else if !leap then m.day - 28
    else m.day - 29
  { m with overflow }

/-- A bare number: a julian day when it is one in range. -/
def ofNumber (r : Float) : Moment :=
  if 0.0 ≤ r && r < 5373484.5 then
    { raw := some r, jd := (Binary64.ofFloat (r * 86400000.0 + 0.5)).truncate, hasJd := true }
  else { raw := some r }

end Moment

/-- The fixed moment "now" stands for: 2025-01-01 00:00:00 UTC. -/
def nowMoment : Moment :=
  ({ year := 2025, month := 1, day := 1, hasDate := true, hasTime := true, isUtc := true } :
    Moment).withJd.clear

/-- The value of a run of digits. -/
def fieldValue (cs : List Char) : Int := cs.foldl (fun n c => n * 10 + (c.toNat - '0'.toNat : Nat)) 0

/-- Reads fields of fixed digit counts, each within its bounds and followed by its separator
(the last by anything): `fields` lists digit count, least, greatest and separator. -/
def readFields (fields : List (Nat × Int × Int × Option Char)) (cs : List Char) :
    Option (List Int × List Char) :=
  match fields with
  | [] => some ([], cs)
  | (n, lo, hi, sep) :: more =>
    let ds := cs.take n
    if ds.length < n || !ds.all Char.isDigit then none
    else
      let v := fieldValue ds
      let rest := cs.drop n
      if v < lo || v > hi then none
      else
        match sep with
        | some s =>
          match rest with
          | c :: after => if c = s then (readFields more after).map fun (vs, r) => (v :: vs, r) else none
          | [] => none
        | none => some ([v], rest)

/-- Whether a character is an ASCII blank. -/
def isAsciiSpace (c : Char) : Bool := c = ' ' || ('\t' ≤ c && c ≤ '\r')

/-- Reads a zone after a time: nothing, `Z`, or `±HH:MM`, blanks around it; the minutes east
of UTC, and whether it was `Z`. -/
def readZone (cs : List Char) : Option (Int × Bool) :=
  let cs := cs.dropWhile isAsciiSpace
  let rest (cs : List Char) := (cs.dropWhile isAsciiSpace).isEmpty
  match cs with
  | [] => some (0, false)
  | c :: more =>
    if c = 'Z' || c = 'z' then if rest more then some (0, true) else none
    else if c = '-' || c = '+' then
      match readFields [(2, 0, 14, some ':'), (2, 0, 59, none)] more with
      | some ([h, m], after) =>
        if rest after then some ((if c = '-' then -1 else 1) * (m + h * 60), false) else none
      | _ => none
    else none

/-- Reads `HH:MM[:SS[.SSS]]` and a zone into a moment. -/
def readClock (m : Moment) (cs : List Char) : Option Moment := do
  let ([h, mi], rest) ← readFields [(2, 0, 24, some ':'), (2, 0, 59, none)] cs | none
  let (s, frac, rest) ← match rest with
    | ':' :: more =>
      match readFields [(2, 0, 59, none)] more with
      | some ([s], after) =>
        match after with
        | '.' :: d :: _ =>
          if d.isDigit then
            let ds := (after.drop 1).takeWhile Char.isDigit
            let scale : Nat := Nat.pow 10 ds.length
            let v := (fieldValue ds).toNat
            let ms := if 1000 * v > 999 * scale then 999 else (2000 * v + scale) / (2 * scale)
            some (s, (ms : Int), (after.drop 1).drop ds.length)
          else some (s, 0, after)
        | _ => some (s, 0, after)
      | _ => none
    | _ => some (0, 0, rest)
  let (zone, utc) ← readZone rest
  pure { m with hour := h, minute := mi, millis := s * 1000 + frac, hasTime := true, hasJd := false,
                raw := none, zone, isUtc := m.isUtc || utc }

/-- Reads `[-]YYYY-MM-DD`, then optionally blanks or `T` and a time. -/
def readDate (cs : List Char) : Option Moment := do
  let (neg, cs) := match cs with
    | '-' :: more => (true, more)
    | _ => (false, cs)
  let ([y, mo, d], rest) ← readFields [(4, 0, 14712, some '-'), (2, 1, 12, some '-'), (2, 1, 31, none)] cs
    | none
  let rest := rest.dropWhile fun c => isAsciiSpace c || c = 'T'
  let m : Moment := { year := if neg then -y else y, month := mo, day := d, hasDate := true }
  let m ← if rest.isEmpty then some m else readClock m rest
  let m := m.withOverflow
  pure (if m.zone ≠ 0 then m.withJd else m)

/-- Reads the text of a moment: a date, a time, `now`, a number or `subsec`. -/
def readMoment (s : String) : Option Moment :=
  let cs := s.toList
  match readDate cs with
  | some m => some m
  | none =>
    match readClock {} cs with
    | some m => some m
    | none =>
      if lower s = "now" then some nowMoment
      else
        let (r, code) := readReal s
        if code > 0 then some (Moment.ofNumber r.toFloat)
        else if lower s = "subsec" || lower s = "subsecond" then some { nowMoment with subsec := true }
        else none

/-- A real truncated toward zero, as an integer. -/
def truncFloat (f : Float) : Int := (Binary64.ofFloat f).truncate

/-- The units a modifier may add: name, the bound on the amount, and milliseconds per unit
over a thousand. -/
def timeUnits : List (String × Float × Float) :=
  [("second", 4.6427e14, 1.0), ("minute", 7.7379e12, 60.0), ("hour", 1.2897e11, 3600.0),
   ("day", 5373485.0, 86400.0), ("month", 176546.0, 2592000.0), ("year", 14713.0, 31536000.0)]

/-- Months normalized into 1 to 12, the years they overflow into carried. -/
def Moment.carryMonths (m : Moment) : Moment :=
  let x := if m.month > 0 then (m.month - 1).tdiv 12 else (m.month - 12).tdiv 12
  { m with year := m.year + x, month := m.month - x * 12 }

/-- Applies `±N unit`: months and years move the calendar date by their whole part, the rest
is added as a count of milliseconds. -/
def addUnits (m : Moment) (r : Float) (unit : String) : Option Moment := do
  let (_, limit, factor) ← timeUnits.find? fun (n, _, _) => n = unit
  if !(r > -limit && r < limit) then none
  let m := m.withJd
  let rounder := if r < 0.0 then -0.5 else 0.5
  let (m, r) :=
    if unit = "month" then
      let m := m.withDateTime
      let whole := truncFloat r
      ({ (({ m with month := m.month + whole } : Moment).carryMonths).withOverflow with hasJd := false },
        r - Float.ofInt whole)
    else if unit = "year" then
      let m := m.withDateTime
      let whole := truncFloat r
      ({ ({ m with year := m.year + whole } : Moment).withOverflow with hasJd := false }, r - Float.ofInt whole)
    else (m, r)
  let m := m.withJd
  pure ({ m with jd := m.jd + truncFloat (r * 1000.0 * factor + rounder) }).clear

/-- Applies a modifier that starts with a sign or a digit. -/
def numericModifier (m : Moment) (cs : List Char) : Option Moment := do
  let z0 := cs.headD ' '
  let n := ((List.range cs.length).drop 1).find? fun i =>
    let c := cs.getD i ' '
    c = ':' || isAsciiSpace c ||
      (c = '-' && ((i = 5 && (readFields [(4, 0, 14712, none)] (cs.drop 1)).isSome) ||
        (i = 6 && (readFields [(5, 0, 14712, none)] (cs.drop 1)).isSome)))
  let n := n.getD cs.length
  let (r, code) := readReal (String.ofList (cs.take n))
  if code ≤ 0 then none
  let r := r.toFloat
  let atSep := cs.drop n
  let (m, z2, n2, viaDate) ← match atSep with
    | '-' :: _ =>
      if z0 ≠ '+' && z0 ≠ '-' then none
      else
        let digits := if n = 5 then 4 else 5
        let body := cs.drop 1
        let ([y, mo, d], _) ← readFields [(digits, 0, 14712, some '-'), (2, 0, 12, some '-'), (2, 0, 31, none)] body
          | none
        if mo ≥ 12 || d ≥ 31 then none
        let m := m.withDateTime
        let (m, d) := if z0 = '-' then ({ m with year := m.year - y, month := m.month - mo }, -d)
          else ({ m with year := m.year + y, month := m.month + mo }, d)
        let m := ({ m with hasJd := false } : Moment).carryMonths.withOverflow.withJd
        let m := { m with hasTime := false, hasDate := false, jd := m.jd + d * dayMillis }
        let z := if n = 5 then cs else cs.drop 1
        match z.drop 11 with
        | [] => some (m, [], 0, true)
        | c :: more =>
          if isAsciiSpace c && (readFields [(2, 0, 24, some ':'), (2, 0, 59, none)] more).isSome then
            some (m, more, 2, true)
          else none
    | _ => some (m, cs, n, false)
  if viaDate && z2.isEmpty then return m
  if z2.getD n2 ' ' = ':' then
    let clock := if (z2.headD ' ').isDigit then z2 else z2.drop 1
    let tx ← readClock {} clock
    let tx := tx.withJd
    let v := tx.jd - 43200000
    let dayCount := v.tdiv dayMillis
    let v := v - dayCount * dayMillis
    let v := if z0 = '-' then -v else v
    let m := m.withJd
    return ({ m with jd := m.jd + v } : Moment).clear
  if viaDate then none
  let unit := (cs.drop n).dropWhile isAsciiSpace
  if unit.length < 3 || unit.length > 10 then none
  let unit := if (unit.getLastD ' ').toLower = 's' then unit.dropLast else unit
  addUnits m r (lower (String.ofList unit))

/-- Applies one modifier; `first` tells whether it is the first. `none` when it does not
apply. -/
def applyModifier (m : Moment) (text : String) (first : Bool) : Option Moment :=
  let t := lower text
  let cs := text.toList
  if t = "auto" then
    if !first then none
    else
      match m.raw with
      | none => some m
      | some r =>
        if m.hasJd then some { m with raw := none }
        else if r ≥ -210866760000.0 && r ≤ 253402300799.0 then
          some ({ m with raw := none, jd := truncFloat (r * 1000.0 + 210866760000000.0 + 0.5),
                         hasJd := true } : Moment).clear
        else none
  else if t = "ceiling" then some ({ m.withJd with overflow := 0 } : Moment).clear
  else if t = "floor" then
    let m := m.withJd
    some ({ m with jd := m.jd - m.overflow * dayMillis } : Moment).clear
  else if t = "julianday" then
    if !first then none
    else if m.hasJd && m.raw.isSome then some { m with raw := none } else none
  else if t = "localtime" then some { m with isUtc := false }
  else if t = "unixepoch" && m.raw.isSome then
    if !first then none
    else
      let r := (m.raw.getD 0.0) * 1000.0 + 210866760000000.0
      if r ≥ 0.0 && r < 464269060800000.0 then
        some ({ m with raw := none, jd := truncFloat (r + 0.5), hasJd := true } : Moment).clear
      else none
  else if t = "utc" then
    if m.isUtc then some m
    else
      let m := m.withJd
      some { jd := m.jd, hasJd := true, isUtc := true, subsec := m.subsec }
  else if t.startsWith "weekday " then
    let (r, code) := readReal (String.ofList (cs.drop 8))
    let r := r.toFloat
    let n := truncFloat r
    if code > 0 && r ≥ 0.0 && r < 7.0 && Float.ofInt n = r then
      let m := ({ m.withDateTime with zone := 0, hasJd := false } : Moment).withJd
      let z := ((m.jd + 129600000).tdiv dayMillis) % 7
      let z := if z > n then z - 7 else z
      some ({ m with jd := m.jd + (n - z) * dayMillis } : Moment).clear
    else none
  else if t.startsWith "start of " then
    if !m.hasJd && !m.hasDate && !m.hasTime then none
    else
      let m := m.withDate
      let m := { m with hasTime := true, hour := 0, minute := 0, millis := 0, raw := none, zone := 0,
                        hasJd := false }
      let what := String.ofList (t.toList.drop 9)
      if what = "month" then some { m with day := 1 }
      else if what = "year" then some { m with month := 1, day := 1 }
      else if what = "day" then some m
      else none
  else if t = "subsec" || t = "subsecond" then some { m with subsec := true }
  else
    match cs with
    | c :: _ => if c = '+' || c = '-' || c.isDigit then numericModifier m cs else none
    | [] => none

/-- Whether a modifier reads the clock of the machine. -/
def readsClock (modifier : String) : Bool := lower modifier = "localtime" || lower modifier = "utc"

/-- Reads the arguments of a date function: a moment, then modifiers. The moment is `none` (a
`NULL`) when one does not read or the result is out of range; with it comes whether "now" or
the local clock was consulted before that. -/
def readArguments (args : List Value) : Bool × Option Moment :=
  let start : Bool × Option Moment :=
    match args with
    | [] => (true, some nowMoment)
    | v :: _ =>
      match v with
      | .int _ | .real _ => (false, some (Moment.ofNumber v.toReal.toFloat))
      | _ =>
        match v.textForm with
        | some s => (["now", "subsec", "subsecond"].contains (lower s), readMoment s)
        | none => (false, none)
  let (clock, m) := (args.drop 1).zipIdx.foldl (fun (acc : Bool × Option Moment) (v, i) =>
    match acc with
    | (c, some m) =>
      match v.textForm with
      | some t => (c || readsClock t, applyModifier m t (i = 0))
      | none => (c, none)
    | (c, none) => (c, none)) start
  let m := m.bind fun m =>
    let m := m.withJd
    if m.failed || !validJd m.jd then none
    else if args.length = 1 && m.hasDate && m.day > 28 then some { m with hasDate := false }
    else some m
  (clock, m)

/-- A number of at least `width` digits, zeros in front. -/
def padded (width : Nat) (n : Int) : String :=
  let s := toString n.natAbs
  (if n < 0 then "-" else "") ++ String.ofList (List.replicate (width - s.length) '0') ++ s

/-- A number of at least `width` characters, blanks in front. -/
def spaced (width : Nat) (n : Int) : String :=
  let s := toString n
  String.ofList (List.replicate (width - s.length) ' ') ++ s

/-- The date part: four digits of the year (a `-` before a year BC), month and day. -/
def Moment.dateText (m : Moment) : String :=
  let y := m.year.natAbs % 10000
  (if m.year < 0 then "-" else "") ++ padded 4 y ++ "-" ++ padded 2 m.month ++ "-" ++ padded 2 m.day

/-- The time part, with milliseconds when asked for. -/
def Moment.timeText (m : Moment) : String :=
  padded 2 m.hour ++ ":" ++ padded 2 m.minute ++ ":" ++ padded 2 (m.millis / 1000) ++
    (if m.subsec then "." ++ padded 3 (m.millis % 1000) else "")

/-- Days since the first of January of the moment's year. -/
def Moment.dayOfYear (m : Moment) : Int :=
  let jan : Moment := ({ m with hasJd := false, month := 1, day := 1 } : Moment).withJd
  (m.jd - jan.jd + 43200000).tdiv dayMillis

/-- Days since the last Monday. -/
def Moment.sinceMonday (m : Moment) : Int := ((m.jd + 43200000).tdiv dayMillis) % 7

/-- Days since the last Sunday. -/
def Moment.sinceSunday (m : Moment) : Int := ((m.jd + 129600000).tdiv dayMillis) % 7

/-- The Thursday of the moment's week, which decides its ISO year and week. -/
def Moment.thursday (m : Moment) : Moment :=
  ({ m with jd := m.jd + (3 - m.sinceMonday) * dayMillis, hasDate := false } : Moment).withDate

/-- The text `strftime` makes of a format; `none` (a `NULL`) at an unknown conversion. -/
def strftimeText (m : Moment) : List Char → Option String
  | [] => some ""
  | '%' :: rest =>
    match rest with
    | c :: more =>
      let piece : Option String :=
        match c with
        | 'd' => some (padded 2 m.day)
        | 'e' => some (spaced 2 m.day)
        | 'f' => some (padded 2 (m.millis / 1000) ++ "." ++ padded 3 (m.millis % 1000))
        | 'F' => some (padded 4 m.year ++ "-" ++ padded 2 m.month ++ "-" ++ padded 2 m.day)
        | 'G' => some (padded 4 m.thursday.year)
        | 'g' => some (padded 2 (m.thursday.year % 100))
        | 'H' => some (padded 2 m.hour)
        | 'k' => some (spaced 2 m.hour)
        | 'I' | 'l' =>
          let h := if m.hour > 12 then m.hour - 12 else m.hour
          let h := if h = 0 then 12 else h
          some (if c = 'I' then padded 2 h else spaced 2 h)
        | 'j' => some (padded 3 (m.dayOfYear + 1))
        | 'J' => formatText "%.16g" [.real (Binary64.ofFloat (Float.ofInt m.jd / 86400000.0))]
        | 'm' => some (padded 2 m.month)
        | 'M' => some (padded 2 m.minute)
        | 'p' => some (if m.hour ≥ 12 then "PM" else "AM")
        | 'P' => some (if m.hour ≥ 12 then "pm" else "am")
        | 'R' => some (padded 2 m.hour ++ ":" ++ padded 2 m.minute)
        | 's' =>
          if m.subsec then
            formatText "%.3f" [.real (Binary64.ofFloat (Float.ofInt (m.jd - 210866760000000) / 1000.0))]
          else some (toString (m.jd.tdiv 1000 - 210866760000))
        | 'S' => some (padded 2 (m.millis / 1000))
        | 'T' => some (padded 2 m.hour ++ ":" ++ padded 2 m.minute ++ ":" ++ padded 2 (m.millis / 1000))
        | 'u' => some (toString (if m.sinceSunday = 0 then 7 else m.sinceSunday))
        | 'w' => some (toString m.sinceSunday)
        | 'U' => some (padded 2 ((m.dayOfYear - m.sinceSunday + 7).tdiv 7))
        | 'V' => some (padded 2 (m.thursday.dayOfYear.tdiv 7 + 1))
        | 'W' => some (padded 2 ((m.dayOfYear - m.sinceMonday + 7).tdiv 7))
        | 'Y' => some (padded 4 m.year)
        | '%' => some "%"
        | _ => none
      match piece with
      | some p => (strftimeText m more).map (p ++ ·)
      | none => none
    | [] => none
  | c :: rest => (strftimeText m rest).map (String.singleton c ++ ·)

/-- Calls a date function, its name in lower case, with whether "now" or the local clock was
consulted; `none` when the name is not one. The `current_` names read "now". -/
def calendarFunction (fn : String) (args : List Value) : Option (Bool × Value) :=
  let result (f : Moment → Value) : Bool × Value :=
    let (clock, m) := readArguments args
    (clock, (m.map f).getD .null)
  let datetimeText (m : Moment) : Value := .text (m.withDateTime.dateText ++ " " ++ m.withDateTime.timeText)
  match fn with
  | "date" => some (result fun m => .text m.withDate.dateText)
  | "time" => some (result fun m => .text m.withTime.timeText)
  | "datetime" => some (result datetimeText)
  | "current_date" => some (true, .text nowMoment.withDate.dateText)
  | "current_time" => some (true, .text nowMoment.withTime.timeText)
  | "current_timestamp" => some (true, datetimeText nowMoment)
  | "julianday" => some (result fun m => .real (Binary64.ofFloat (Float.ofInt m.jd / 86400000.0)))
  | "unixepoch" => some (result fun m =>
      if m.subsec then .real (Binary64.ofFloat (Float.ofInt (m.jd - 210866760000000) / 1000.0))
      else .int (m.jd.tdiv 1000 - 210866760000))
  | "strftime" =>
    match args with
    | [] => some (false, .null)
    | f :: rest =>
      let (clock, m) := readArguments rest
      match f.textForm, m with
      | some f, some m => some (clock, (strftimeText m.withDateTime f.toList).map Value.text |>.getD .null)
      | _, _ => some (clock, .null)
  | _ => none

/-- Whether a name is a date function's. -/
def isCalendarFunction (fn : String) : Bool :=
  ["date", "time", "datetime", "julianday", "unixepoch", "strftime"].contains fn

end BillOfMaterials.Sql
