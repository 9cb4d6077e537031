import Compositor.App.Folders
import Compositor.Notice

/-!
# The log

The log is a text with one record after the other: when, how important, who and what.  It is set up
with a level; what is less important is not written, and neither is what has no level.

Times are counted in seconds since the beginning of 1970 and written in the calendar.
-/

namespace Compositor.App

/-! ## 1. Times -/

/-- A day of the calendar. -/
structure Date where
  year : Int
  month : Int
  day : Int
deriving DecidableEq, Repr

namespace Date

/-- Days from the first of March of the year zero to the beginning of 1970. -/
def daysBefore1970 : Int := 719468

/-- Days in four hundred years. -/
def daysOfEra : Int := 146097

/-- The year, counted from the first of March, that holds a day of an era. -/
def yearOfEra (day : Int) : Int :=
  (day - day / 1460 + day / 36524 - day / 146096) / 365

/-- The day of a number of days since the beginning of 1970.  Years are counted from the first of
March on, so that a leap day is the last day of its year. -/
def ofDays (days : Int) : Date :=
  let shifted := days + daysBefore1970
  let dayOfEra := shifted % daysOfEra
  let year := yearOfEra dayOfEra
  let dayOfYear := dayOfEra - (365 * year + year / 4 - year / 100)
  let month := (5 * dayOfYear + 2) / 153
  let day := dayOfYear - (153 * month + 2) / 5 + 1
  let start := year + 400 * (shifted / daysOfEra)
  if month < 10 then ⟨start, month + 3, day⟩ else ⟨start + 1, month - 9, day⟩

end Date

/-- Days are counted from the first of January 1970. -/
example : Date.ofDays 0 = ⟨1970, 1, 1⟩ := by decide

/-- A year that four hundred divides has a leap day. -/
example : (Date.ofDays 11016, Date.ofDays 11017) = (⟨2000, 2, 29⟩, ⟨2000, 3, 1⟩) := by decide

/-- A number with at least two digits. -/
def twoDigits (n : Int) : String :=
  if n < 10 then "0" ++ toString n else toString n

/-- A time as records bear it. -/
def timeText (seconds : Int) : String :=
  let date := Date.ofDays (seconds / 86400)
  let rest := seconds % 86400
  toString date.year ++ "-" ++ twoDigits date.month ++ "-" ++ twoDigits date.day ++ " "
    ++ twoDigits (rest / 3600) ++ ":" ++ twoDigits (rest / 60 % 60) ++ ":" ++ twoDigits (rest % 60)

/-! ## 2. Records -/

/-- One record: like a notice, but from anybody. -/
structure Record where
  level : Level
  channel : String
  message : String
deriving DecidableEq, Repr

namespace Record

/-- A notice as a record. -/
def ofNotice (n : Notice) : Record := ⟨n.level, n.channel.word, n.message⟩

/-- The channel of somebody who may give no name. -/
def channelOf : Option String → String
  | none | some "" => App.name
  | some name => name

/-- The level's word, with blanks up to eight characters. -/
def levelText (l : Level) : String :=
  l.word ++ String.ofList (List.replicate (8 - l.word.length) ' ')

/-- The record as it is written. -/
def text (seconds : Int) (r : Record) : String :=
  timeText seconds ++ " | " ++ levelText r.level ++ " | " ++ r.channel ++ " | " ++ r.message ++ "\n"

/-- Whether the record is important enough. -/
def passes (threshold : Level) (r : Record) : Bool :=
  decide (0 < r.level.rank) && decide (threshold.rank ≤ r.level.rank)

end Record

/-- The record with which a log begins; it names the log's file. -/
def openingRecord (file : Option String) : Record :=
  ⟨.info, Channel.root.word,
    App.name ++ " logging initialised • " ++ company ++ " • " ++ file.getD "console only"⟩

/-- The text of a log. -/
def logText (threshold : Level) (seconds : Int) (records : List Record) : String :=
  String.join ((records.filter (·.passes threshold)).map (·.text seconds))

end Compositor.App
