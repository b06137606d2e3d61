/-!
# Dates, times of day and timestamps

Days of the proleptic Gregorian calendar with years of any sign within the supported range, times of
day with nanoseconds and with leap seconds, and the two together.
-/

namespace AttributeRelease.Calendar

/-- A year divisible by four is a leap year, unless it is a century not divisible by 400. -/
def isLeapYear (year : Int) : Bool := year % 4 == 0 && (year % 100 != 0 || year % 400 == 0)

/-- The number of days of a month. -/
def daysIn (year : Int) (month : Nat) : Nat :=
  if month = 2 then (if isLeapYear year then 29 else 28)
  else if month = 4 ∨ month = 6 ∨ month = 9 ∨ month = 11 then 30 else 31

/-- Whether year, month and day name a supported day. -/
def isDay (year : Int) (month day : Nat) : Bool :=
  -262143 ≤ year && year ≤ 262142 && 1 ≤ month && month ≤ 12 && 1 ≤ day && day ≤ daysIn year month

/-- A day. -/
structure Date where
  year : Int
  month : Nat
  day : Nat
  valid : isDay year month day = true
deriving DecidableEq

/-- Whether the parts name a time of day. A second may have another one after it, as a leap second;
its nanoseconds go on from those of the second. -/
def isTimeOfDay (hour minute second nano : Nat) : Bool :=
  hour < 24 && minute < 60 && second < 60 && nano < 2000000000

/-- A time of day. -/
structure Time where
  hour : Nat
  minute : Nat
  second : Nat
  nano : Nat
  valid : isTimeOfDay hour minute second nano = true
deriving DecidableEq

/-- A day and a time of day. -/
structure Timestamp where
  date : Date
  time : Time
deriving DecidableEq

def Date.ofParts? (year : Int) (month day : Nat) : Option Date :=
  if h : isDay year month day = true then some ⟨year, month, day, h⟩ else none

def Time.ofParts? (hour minute second nano : Nat) : Option Time :=
  if h : isTimeOfDay hour minute second nano = true then some ⟨hour, minute, second, nano, h⟩
  else none

/-- The time of day that shows a second and a fraction of it; second 60 is the leap second that ends
a minute. -/
def Time.ofShown? (hour minute second fraction : Nat) : Option Time :=
  if second = 60 then ofParts? hour minute 59 (fraction + 1000000000)
  else ofParts? hour minute second fraction

def Time.midnight : Time := ⟨0, 0, 0, 0, by decide⟩

/-- The second that is shown: a leap second counts as one more. -/
def Time.shownSecond (t : Time) : Nat := t.second + t.nano / 1000000000

/-- The nanoseconds that are shown. -/
def Time.fraction (t : Time) : Nat := t.nano % 1000000000

/-! ## Texts -/

/-- The decimal digits of a number, filled up with zeros at the front. -/
def padded (width n : Nat) : List Char :=
  let ds := Nat.toDigits 10 n
  List.replicate (width - ds.length) '0' ++ ds

/-- A year has four digits; outside 0 to 9999 it also has a sign. -/
def yearChars (year : Int) : List Char :=
  if 0 ≤ year ∧ year ≤ 9999 then padded 4 year.natAbs
  else (if year < 0 then '-' else '+') :: padded 4 year.natAbs

def Date.chars (d : Date) : List Char :=
  yearChars d.year ++ '-' :: padded 2 d.month ++ '-' :: padded 2 d.day

/-- A fraction of a second is shown with three, six or nine digits, and not at all when zero. -/
def fractionChars (nano : Nat) : List Char :=
  if nano = 0 then []
  else if nano % 1000000 = 0 then '.' :: padded 3 (nano / 1000000)
  else if nano % 1000 = 0 then '.' :: padded 6 (nano / 1000)
  else '.' :: padded 9 nano

def Time.chars (t : Time) : List Char :=
  padded 2 t.hour ++ ':' :: padded 2 t.minute ++ ':' :: padded 2 t.shownSecond ++
    fractionChars t.fraction

/-- Day and time of day with a character between them. -/
def Timestamp.chars (between : Char) (t : Timestamp) : List Char :=
  t.date.chars ++ between :: t.time.chars

def Date.text (d : Date) : String := String.ofList d.chars

def Time.text (t : Time) : String := String.ofList t.chars

/-- The text of a timestamp for people, with a blank in it. -/
def Timestamp.text (t : Timestamp) : String := String.ofList (t.chars ' ')

/-- The text of a timestamp for programs, with a `T` in it. -/
def Timestamp.isoText (t : Timestamp) : String := String.ofList (t.chars 'T')

end AttributeRelease.Calendar
