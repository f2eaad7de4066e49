import Stencil.Text.Basic

namespace Stencil.Toml

/-- The number of a text of as many digits as given. -/
def digitField (width : Nat) (t : Text) : Option Nat :=
  if t.length = width ∧ !t.isEmpty ∧ t.all Char.isDigit then
    some (t.foldl (fun n c => 10 * n + (c.toNat - '0'.toNat)) 0)
  else none

/-- The number of days of a month. -/
def daysIn (year month : Nat) : Nat :=
  if month = 2 then
    if year % 4 = 0 ∧ (year % 100 ≠ 0 ∨ year % 400 = 0) then 29 else 28
  else if month = 4 ∨ month = 6 ∨ month = 9 ∨ month = 11 then 30
  else 31

/-- Whether a text is a day of a year. -/
def isDate (t : Text) : Bool :=
  match (Text.splitAll '-' t).map fun part => digitField part.length part with
  | [some year, some month, some day] =>
    t.length = 10 && (t.drop 4).head? = some '-' && (t.drop 7).head? = some '-' &&
      1 ≤ month && month ≤ 12 && 1 ≤ day && day ≤ daysIn year month
  | _ => false

/-- Whether a text is hours and minutes. -/
def isClock (t : Text) : Bool :=
  match Text.splitAll ':' t with
  | [hours, minutes] =>
    (digitField 2 hours).any (· ≤ 23) && (digitField 2 minutes).any (· ≤ 59)
  | _ => false

/-- Whether a text is a time of the day; seconds may be left out. -/
def isTime (t : Text) : Bool :=
  match t.drop 5 with
  | [] => isClock t
  | ':' :: seconds =>
    isClock (t.take 5) && (digitField 2 (seconds.take 2)).any (· ≤ 60) &&
      match seconds.drop 2 with
      | [] => true
      | '.' :: fraction => !fraction.isEmpty && fraction.all Char.isDigit
      | _ => false
  | _ => false

/-- Whether a text is a distance from the common time. -/
def isOffset : Text → Bool
  | ['Z'] => true
  | ['z'] => true
  | '+' :: clock => isClock clock
  | '-' :: clock => isClock clock
  | _ => false

/-- A time of the day as it is shown: of a fraction nine digits at most, and no zeros at its end
but one right behind the point. -/
def showTime (t : Text) : Text :=
  match t.drop 8 with
  | '.' :: fraction =>
    let kept := ((fraction.take 9).reverse.dropWhile (· = '0')).reverse
    t.take 8 ++ '.' :: if kept.isEmpty then ['0'] else kept
  | _ => t

/-- A distance from the common time as it is shown. No distance has the sign `+`. -/
def showOffset (t : Text) : Text :=
  if t = ['z'] then ['Z']
  else if t = "-00:00" then "+00:00"
  else t

/-- A time with the offset that may follow it, as it is shown. -/
def readTime (t : Text) : Option Text :=
  let time := t.takeWhile fun c => c.isDigit || c = ':' || c = '.'
  let offset := t.drop time.length
  if isTime time ∧ (offset.isEmpty ∨ isOffset offset) then some (showTime time ++ showOffset offset)
  else none

/-- A date, a time, or both, as it is shown: between the two stands a `T`. Only behind a date a time
has an offset. -/
def readMoment (t : Text) : Option Text :=
  if isDate t then some t
  else if isTime t then some (showTime t)
  else if isDate (t.take 10) then
    match t.drop 10 with
    | c :: time =>
      if c = 'T' ∨ c = 't' ∨ c = ' ' then (readTime time).map fun time => t.take 10 ++ 'T' :: time
      else none
    | [] => none
  else none

end Stencil.Toml
