import CertCatalog.Instant.Basic
import CertCatalog.Text.Blank
import CertCatalog.Text.Decimal
import CertCatalog.Text.Split

/-!
# Written instants

Instants are written as RFC 3339 in UTC.  Reading is lenient: blanks may stand before each number
and around the separators, numbers may be short, and any offset below one day is accepted.
-/

namespace CertCatalog.Instant

open CertCatalog.Text

/-! ## Writing -/

/-- Four digits for the years 0 to 9999, else a sign and at least four digits. -/
def showYear (year : Int) : List Char :=
  if 0 ≤ year && year ≤ 9999 then showPadded 4 year.toNat
  else (if year < 0 then '-' else '+') :: showPadded 4 year.natAbs

/-- The fewest of 0, 3, 6 or 9 digits that lose nothing. -/
def showFraction (nanos : Nat) : List Char :=
  if nanos == 0 then []
  else if nanos % 1000000 == 0 then '.' :: showPadded 3 (nanos / 1000000)
  else if nanos % 1000 == 0 then '.' :: showPadded 6 (nanos / 1000)
  else '.' :: showPadded 9 nanos

def showDate (date : Date) : List Char :=
  showYear date.year ++ '-' :: showPadded 2 date.month ++ '-' :: showPadded 2 date.day

def chars (t : Instant) : List Char :=
  showDate t.date ++ 'T' :: showPadded 2 t.hour ++ ':' :: showPadded 2 t.minute ++
    ':' :: showPadded 2 t.clockSecond ++ showFraction t.fraction ++ ['Z']

def text (t : Instant) : String :=
  String.ofList t.chars

def minuteText (t : Instant) : String :=
  String.ofList (showDate t.date ++ ' ' :: showPadded 2 t.hour ++ ':' :: showPadded 2 t.minute)

/-! ## Reading -/

def readNumber (width : Nat) (text : List Char) : Option (Nat × List Char) :=
  let text := dropBlanks text
  let digits := (text.take width).takeWhile isDigit
  if digits.isEmpty then none else some (digitsValue digits, text.drop digits.length)

def readYear (text : List Char) : Option (Int × List Char) :=
  let signed (sign : Int) (rest : List Char) : Option (Int × List Char) :=
    let digits := rest.takeWhile isDigit
    if digits.isEmpty then none
    else some (sign * (digitsValue digits : Int), rest.drop digits.length)
  match dropBlanks text with
  | '-' :: rest => signed (-1) rest
  | '+' :: rest => signed 1 rest
  | rest => (readNumber 4 rest).map fun (year, rest) => ((year : Int), rest)

def readMark (mark : Char) (text : List Char) : Option (List Char) :=
  match dropBlanks text with
  | c :: rest => if c == mark then some rest else none
  | [] => none

def readFraction : List Char → Option (Nat × List Char)
  | '.' :: rest =>
      let digits := (rest.take 9).takeWhile isDigit
      if digits.isEmpty then none
      else
        some (digitsValue digits * Nat.pow 10 (9 - digits.length),
          (rest.drop digits.length).dropWhile isDigit)
  | text => some (0, text)

def readPair (limit : Char) : List Char → Option (Nat × List Char)
  | a :: b :: rest =>
      if isDigit a && a < limit && isDigit b then some (digitsValue [a, b], rest) else none
  | _ => none

def readOffset (text : List Char) : Option (Int × List Char) :=
  let signed (sign : Int) (rest : List Char) : Option (Int × List Char) := do
    let (hours, rest) ← readPair ':' rest
    let (minutes, rest) ← readPair '6' (rest.dropWhile fun c => c == ':' || isBlank c)
    let seconds := hours * 3600 + minutes * 60
    if seconds < 86400 then some (sign * (seconds : Int), rest) else none
  match text with
  | 'Z' :: rest | 'z' :: rest => some (0, rest)
  | '+' :: rest => signed 1 rest
  | '-' :: rest => signed (-1) rest
  | '\u2212' :: rest => signed (-1) rest
  | a :: b :: c :: rest =>
      if [a, b, c].map Char.toLower == ['u', 't', 'c'] then some (0, rest) else none
  | _ => none

def ofLocal? (date : Date) (hour minute second nano : Nat) (offset : Int) : Option Instant :=
  if date.isValid && hour < 24 && minute < 60 && second ≤ 60 then do
    let (second, nano) := if second == 60 then (59, nano + 1000000000) else (second, nano)
    let clock := hour * 3600 + minute * 60 + second
    let _ ← ofParts? date.dayNumber clock nano
    let shifted := (clock : Int) - offset
    ofParts? (date.dayNumber + shifted / 86400) (shifted % 86400).toNat nano
  else none

def ofChars? (text : List Char) : Option Instant := do
  let (year, rest) ← readYear text
  let rest ← readMark '-' rest
  let (month, rest) ← readNumber 2 rest
  let rest ← readMark '-' rest
  let (day, rest) ← readNumber 2 rest
  let rest ←
    match rest with
    | c :: rest => if c == 'T' || c == 't' || c == ' ' then some rest else none
    | [] => none
  let (hour, rest) ← readNumber 2 rest
  let rest ← readMark ':' rest
  let (minute, rest) ← readNumber 2 rest
  let rest ← readMark ':' rest
  let (second, rest) ← readNumber 2 rest
  let (nano, rest) ← readFraction rest
  let (offset, rest) ← readOffset (dropBlanks rest)
  if (dropBlanks rest).isEmpty then
    ofLocal? { year := year, month := month, day := day } hour minute second nano offset
  else none

def ofText? (text : String) : Option Instant :=
  ofChars? text.toList

end CertCatalog.Instant
