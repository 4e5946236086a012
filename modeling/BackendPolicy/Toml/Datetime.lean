import BackendPolicy.Toml.Basic

/-!
This module contains the form of TOML dates and times. A date may be followed by a time, and a time behind
a date by an offset. Nothing but the text of a date is kept.
-/

namespace BackendPolicy.Toml.Datetime

abbrev Reader := StateT (List Char) (Except Fault)

def complain (part expected : String) : Reader α :=
  throw (.invalidDatetime part (some expected))

def readDigits (part expected : String) : Reader (List Char) := do
  match (← get).takeWhile Char.isDigit with
  | [] => complain part expected
  | digits => do
    set ((← get).drop digits.length)
    return digits

def readMark (part expected : String) (marks : List Char) : Reader Char := do
  match ← get with
  | c :: rest => if c ∈ marks then do set rest; return c else complain part expected
  | [] => complain part expected

def readMark? (marks : List Char) : Reader (Option Char) := do
  match ← get with
  | c :: rest => if c ∈ marks then do set rest; return some c else return none
  | [] => return none

def natOfDigits (digits : List Char) : Nat :=
  digits.foldl (fun n c => 10 * n + (c.toNat - '0'.toNat)) 0

def checkLength (part expected : String) (length : Nat) (digits : List Char) : Reader Unit :=
  if digits.length = length then pure () else complain part expected

def checkBounds (part expected : String) (low high : Nat) (digits : List Char) : Reader Unit :=
  if low ≤ natOfDigits digits ∧ natOfDigits digits ≤ high then pure () else complain part expected

def daysOfMonth (year month : Nat) : Nat :=
  if month = 2 then
    if year % 4 = 0 ∧ (year % 100 ≠ 0 ∨ year % 400 = 0) then 29 else 28
  else if month ∈ [4, 6, 9, 11] then 30
  else 31

def readDate (year : List Char) : Reader Unit := do
  let month ← readDigits "date" "month"
  let _ ← readMark "date" "`-` (MM-DD)" ['-']
  let day ← readDigits "date" "day"
  checkLength "date" "a four-digit year (YYYY)" 4 year
  checkLength "date" "a two-digit month (MM)" 2 month
  checkLength "date" "a two-digit day (DD)" 2 day
  checkBounds "date" "month between 01 and 12" 1 12 month
  let days := daysOfMonth (natOfDigits year) (natOfDigits month)
  checkBounds "date" s!"day between 01 and {days}" 1 days day

def readTime : Reader Unit := do
  let hour ← readDigits "time" "hour"
  let _ ← readMark "time" "`:` (HH:MM)" [':']
  let minute ← readDigits "time" "minute"
  let second ←
    match ← readMark? [':'] with
    | some _ => some <$> readDigits "time" "second"
    | none => pure none
  if second.isSome then
    match ← readMark? ['.'] with
    | some _ => let _ ← readDigits "time" "nanosecond"
    | none => pure ()
  checkLength "time" "a two-digit hour (HH)" 2 hour
  checkLength "time" "a two-digit minute (MM)" 2 minute
  if let some second := second then
    checkLength "time" "a two-digit second (SS)" 2 second
  checkBounds "time" "hour between 00 and 23" 0 23 hour
  checkBounds "time" "minute between 00 and 59" 0 59 minute
  if let some second := second then
    checkBounds "time" "second between 00 and 60" 0 60 second

def readOffset : Reader Unit := do
  if (← get).isEmpty then
    return
  match ← readMark "offset" "`Z`, +OFFSET, -OFFSET" ['Z', 'z', '+', '-'] with
  | 'Z' | 'z' => return
  | _ =>
    let hour ← readDigits "offset" "hour"
    let _ ← readMark "offset" "`:` (HH:MM)" [':']
    let minute ← readDigits "offset" "minute"
    checkLength "offset" "a two-digit hour (HH)" 2 hour
    checkLength "offset" "a two-digit minute (MM)" 2 minute
    checkBounds "offset" "hours between 00 and 23" 0 23 hour
    checkBounds "offset" "minutes between 00 and 59" 0 59 minute

def read : Reader Unit := do
  let text ← get
  let first ← readDigits "datetime" "year or hour"
  match ← readMark "datetime" "`-` (YYYY-MM) or `:` (HH:MM)" ['-', ':'] with
  | '-' =>
    readDate first
    if !(← get).isEmpty then
      let _ ← readMark "date-time" "`T` between date and time" ['T', 't', ' ']
      readTime
      readOffset
  | _ =>
    set text
    readTime
  if !(← get).isEmpty then
    throw (.invalidDatetime "datetime" none)

end BackendPolicy.Toml.Datetime

namespace BackendPolicy.Toml

def decodeDatetime (text : List Char) : Except Fault Toml := do
  let _ ← Datetime.read.run text
  return .datetime (String.ofList text)

end BackendPolicy.Toml
