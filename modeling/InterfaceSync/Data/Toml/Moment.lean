/-!
# Points in time in TOML

A date, a time of day, or both, and with both an offset as well.  A date is checked against the
calendar.  The seconds of a time may be left out, and a leap second is allowed.
-/

namespace InterfaceSync.Toml

/-- The number written by the two digits in front of a text, and what follows. -/
def readTwoDigits? : List Char → Option (Nat × List Char)
  | a :: b :: rest =>
    if a.isDigit && b.isDigit then
      some (10 * (a.toNat - '0'.toNat) + (b.toNat - '0'.toNat), rest)
    else none
  | _ => none

/-- What follows a given character. -/
def skipChar? (c : Char) : List Char → Option (List Char)
  | d :: rest => if d = c then some rest else none
  | [] => none

/-- Whether a year has a leap day. -/
def isLeapYear (year : Nat) : Bool :=
  year % 4 == 0 && (year % 100 != 0 || year % 400 == 0)

/-- The number of days in a month. -/
def daysInMonth (year month : Nat) : Nat :=
  if month = 2 then (if isLeapYear year then 29 else 28)
  else if month = 4 ∨ month = 6 ∨ month = 9 ∨ month = 11 then 30
  else 31

/-- What follows a date. -/
def skipDate? (text : List Char) : Option (List Char) := do
  let (century, rest) ← readTwoDigits? text
  let (yearOfCentury, rest) ← readTwoDigits? rest
  let (month, rest) ← readTwoDigits? (← skipChar? '-' rest)
  let (day, rest) ← readTwoDigits? (← skipChar? '-' rest)
  if 1 ≤ month ∧ month ≤ 12 ∧ 1 ≤ day ∧ day ≤ daysInMonth (100 * century + yearOfCentury) month then
    some rest
  else none

/-- What follows the fraction of a second, if one stands here. -/
def skipFraction? (text : List Char) : Option (List Char) :=
  match text with
  | '.' :: c :: rest => if c.isDigit then some (rest.dropWhile Char.isDigit) else none
  | ['.'] => none
  | _ => some text

/-- What follows the seconds and their fraction, if seconds stand here. -/
def skipSeconds? (text : List Char) : Option (List Char) :=
  match text with
  | ':' :: rest => do
    let (second, rest) ← readTwoDigits? rest
    if second ≤ 60 then skipFraction? rest else none
  | _ => some text

/-- What follows an hour and a minute. -/
def skipMinutes? (text : List Char) : Option (List Char) := do
  let (hour, rest) ← readTwoDigits? text
  let (minute, rest) ← readTwoDigits? (← skipChar? ':' rest)
  if hour ≤ 23 ∧ minute ≤ 59 then some rest else none

/-- What follows a time of day. -/
def skipTime? (text : List Char) : Option (List Char) := do
  skipSeconds? (← skipMinutes? text)

/-- What follows an offset, if one stands here. -/
def skipOffset? (text : List Char) : Option (List Char) :=
  match text with
  | 'Z' :: rest | 'z' :: rest => some rest
  | '+' :: rest | '-' :: rest => skipMinutes? rest
  | _ => some text

/-- Whether a character may stand between a date and a time. -/
def isDateEnd (c : Char) : Bool := c == 'T' || c == 't' || c == ' '

/-- Whether a text is a point in time. -/
def isMoment (text : List Char) : Bool :=
  match skipDate? text with
  | some [] => true
  | some (c :: rest) => isDateEnd c && ((skipTime? rest).bind skipOffset?).any List.isEmpty
  | none => (skipTime? text).any List.isEmpty

end InterfaceSync.Toml
