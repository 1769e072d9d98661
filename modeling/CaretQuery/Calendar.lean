/-!
# Calendar values

Dates, and moments of a day with an optional offset from universal time. A query writes a moment
without its fraction and offset, and with a year of as many digits as it needs, whereas the plain
text of a date always has four digits for the year.
-/
namespace CaretQuery

structure Date where
  year : Nat
  month : Nat
  day : Nat
  deriving DecidableEq, Repr

/-- The offset from universal time is in minutes. -/
structure DateTime where
  date : Date
  hour : Nat
  minute : Nat
  second : Nat
  microsecond : Nat
  offset : Option Int
  deriving DecidableEq, Repr

/-- A number with leading zeros up to a width. -/
def padded (width n : Nat) : List Char :=
  let digits := Nat.toDigits 10 n
  List.replicate (width - digits.length) '0' ++ digits

def paddedText (width n : Nat) : String := String.ofList (padded width n)

namespace Date

def isLeap (year : Nat) : Bool := year % 4 == 0 && (year % 100 != 0 || year % 400 == 0)

def daysIn (year month : Nat) : Nat :=
  if month = 2 then (if isLeap year then 29 else 28)
  else if month = 4 ∨ month = 6 ∨ month = 9 ∨ month = 11 then 30
  else 31

/-- A day that exists, in the years 1 to 9999. -/
def IsValid (d : Date) : Prop :=
  (1 ≤ d.year ∧ d.year ≤ 9999) ∧ (1 ≤ d.month ∧ d.month ≤ 12) ∧
    (1 ≤ d.day ∧ d.day ≤ daysIn d.year d.month)

instance (d : Date) : Decidable d.IsValid := inferInstanceAs (Decidable (_ ∧ _))

def text (d : Date) : String :=
  paddedText 4 d.year ++ "-" ++ paddedText 2 d.month ++ "-" ++ paddedText 2 d.day

def quoted (d : Date) : String := s!"datetime.date({d.year}, {d.month}, {d.day})"

end Date

namespace DateTime

def IsValid (t : DateTime) : Prop :=
  t.date.IsValid ∧ t.hour < 24 ∧ t.minute < 60 ∧ t.second < 60 ∧ t.microsecond < 1000000

instance (t : DateTime) : Decidable t.IsValid := inferInstanceAs (Decidable (_ ∧ _))

def clockText (t : DateTime) : String :=
  paddedText 2 t.hour ++ ":" ++ paddedText 2 t.minute ++ ":" ++ paddedText 2 t.second

def offsetText (minutes : Int) : String :=
  (if minutes < 0 then "-" else "+") ++ paddedText 2 (minutes.natAbs / 60) ++ ":" ++
    paddedText 2 (minutes.natAbs % 60)

def text (t : DateTime) : String :=
  t.date.text ++ " " ++ t.clockText ++
    (if t.microsecond = 0 then "" else "." ++ paddedText 6 t.microsecond) ++
    (t.offset.map offsetText).getD ""

/-- The form in a query: no fraction, no offset, and no leading zeros in the year. -/
def queryText (t : DateTime) : String :=
  toString t.date.year ++ "-" ++ paddedText 2 t.date.month ++ "-" ++ paddedText 2 t.date.day ++
    " " ++ t.clockText

def quotedOffset (minutes : Int) : String :=
  if minutes = 0 then "datetime.timezone.utc"
  else
    let days := if minutes < 0 then "days=-1, " else ""
    s!"datetime.timezone(datetime.timedelta({days}seconds={(minutes * 60) % 86400}))"

/-- Seconds and microseconds are listed only as far as they are not zero. -/
def quoted (t : DateTime) : String :=
  let clock := if t.microsecond ≠ 0 then [t.hour, t.minute, t.second, t.microsecond]
    else if t.second ≠ 0 then [t.hour, t.minute, t.second]
    else [t.hour, t.minute]
  let fields := ([t.date.year, t.date.month, t.date.day] ++ clock).map toString ++
    (t.offset.map fun minutes => "tzinfo=" ++ quotedOffset minutes).toList
  "datetime.datetime(" ++ ", ".intercalate fields ++ ")"

end DateTime
end CaretQuery
