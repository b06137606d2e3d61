import AttributeRelease.Calendar.Date
import AttributeRelease.Number.Decimal
import AttributeRelease.Text.Blank

/-!
# Reading dates and times

A reader takes characters from the front and returns what it read and what is left. Numbers may
have blanks before them and fewer digits than are written. The lenient readers, which take the
texts of stored values, also pass over blanks before a separator and at the end.
-/

namespace AttributeRelease.Calendar

open AttributeRelease.Number (spanDigits natOfDigits isDigit)
open AttributeRelease.Text (dropBlanks)

/-- What is left after a character. -/
def expect? (c : Char) : List Char → Option (List Char)
  | [] => none
  | d :: rest => if d = c then some rest else none

/-- A number of one to `width` digits, after blanks. -/
def number? (width : Nat) (cs : List Char) : Option (Nat × List Char) :=
  let cs := dropBlanks cs
  let ds := (cs.take width).takeWhile isDigit
  if ds = [] then none else some (natOfDigits 0 ds, cs.drop ds.length)

/-- All digits at the front, of which there is at least one and which denote a number below
`2 ^ 63`. -/
def unbounded? (cs : List Char) : Option (Nat × List Char) :=
  let (ds, rest) := spanDigits cs
  let n := natOfDigits 0 ds
  if ds = [] ∨ Nat.pow 2 63 ≤ n then none else some (n, rest)

/-- A year of up to four digits, or of any number of digits after a sign. -/
def year? (cs : List Char) : Option (Int × List Char) :=
  match dropBlanks cs with
  | '-' :: rest => (unbounded? rest).map fun (n, rest) => (-(n : Int), rest)
  | '+' :: rest => (unbounded? rest).map fun (n, rest) => ((n : Int), rest)
  | cs => (number? 4 cs).map fun (n, rest) => ((n : Int), rest)

/-- What stands before a separator: with `lenient`, blanks are passed over. -/
def gap (lenient : Bool) (cs : List Char) : List Char := if lenient then dropBlanks cs else cs

/-- Year, month and day with dashes between them. -/
def day? (lenient : Bool) (cs : List Char) : Option (Date × List Char) := do
  let (year, cs) ← year? cs
  let cs ← expect? '-' (gap lenient cs)
  let (month, cs) ← number? 2 cs
  let cs ← expect? '-' (gap lenient cs)
  let (day, cs) ← number? 2 cs
  let date ← Date.ofParts? year month day
  return (date, cs)

/-- A fraction of a second after a point: nine digits count and further ones are passed over. -/
def fraction? (cs : List Char) : Option (Nat × List Char) :=
  match cs with
  | '.' :: rest =>
    let ds := (rest.take 9).takeWhile isDigit
    if ds = [] then none
    else
      some (natOfDigits 0 ds * Nat.pow 10 (9 - ds.length),
        (rest.drop ds.length).dropWhile isDigit)
  | _ => some (0, cs)

/-- Hour and minute with a colon between them. -/
def hourMinute? (lenient : Bool) (cs : List Char) : Option ((Nat × Nat) × List Char) := do
  let (hour, cs) ← number? 2 cs
  let cs ← expect? ':' (gap lenient cs)
  let (minute, cs) ← number? 2 cs
  return ((hour, minute), cs)

/-- A colon and the second; with `lenient`, also a fraction. -/
def second? (lenient : Bool) (cs : List Char) : Option ((Nat × Nat) × List Char) := do
  let cs ← expect? ':' (gap lenient cs)
  let (second, cs) ← number? 2 cs
  if lenient then
    let (nano, cs) ← fraction? cs
    return ((second, nano), cs)
  else return ((second, 0), cs)

/-- Hour, minute and second. -/
def timeOfDay? (lenient : Bool) (cs : List Char) : Option (Time × List Char) := do
  let ((hour, minute), cs) ← hourMinute? lenient cs
  let ((second, nano), cs) ← second? lenient cs
  let time ← Time.ofShown? hour minute second nano
  return (time, cs)

/-- A whole text: nothing is left, blanks apart when lenient. -/
def whole? {α : Type} (lenient : Bool) (r : Option (α × List Char)) : Option α :=
  r.bind fun (a, rest) => if gap lenient rest = [] then some a else none

/-! ## Stored values -/

def Date.ofText? (s : String) : Option Date := whole? true (day? true s.toList)

/-- A stored time of day may lack its second. -/
def Time.ofText? (s : String) : Option Time :=
  match hourMinute? true s.toList with
  | none => none
  | some ((hour, minute), rest) =>
    match second? true rest with
    | some ((second, nano), rest) =>
      whole? true ((Time.ofShown? hour minute second nano).map fun t => (t, rest))
    | none => whole? true ((Time.ofShown? hour minute 0 0).map fun t => (t, rest))

/-- A stored timestamp has a `T` between day and time of day. -/
def Timestamp.ofText? (s : String) : Option Timestamp :=
  whole? true do
    let (date, cs) ← day? true s.toList
    let cs ← expect? 'T' (dropBlanks cs)
    let (time, cs) ← timeOfDay? true cs
    return (⟨date, time⟩, cs)

/-! ## Database texts -/

/-- A day as year, month and day. -/
def Date.ofColumn? (s : String) : Option Date := whole? false (day? false s.toList)

/-- A time of day as hour, minute and second. -/
def Time.ofColumn? (s : String) : Option Time := whole? false (timeOfDay? false s.toList)

/-- A timestamp as day and time of day, with or without blanks between them. -/
def Timestamp.ofColumn? (s : String) : Option Timestamp :=
  whole? false do
    let (date, cs) ← day? false s.toList
    let (time, cs) ← timeOfDay? false cs
    return (⟨date, time⟩, cs)

end AttributeRelease.Calendar
