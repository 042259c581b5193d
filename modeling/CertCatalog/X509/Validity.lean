import CertCatalog.Der.Element
import CertCatalog.Instant.Basic
import CertCatalog.Text.Decimal

/-!
# Validity periods

The two kinds of time that a certificate may hold, with two-digit and with four-digit years.
-/

namespace CertCatalog.X509

open CertCatalog.Bytes CertCatalog.Der

/-- A validity period in seconds since the first of January 1970. -/
structure Validity where
  notBefore : Int
  notAfter : Int
  deriving DecidableEq, Repr

inductive Zone where
  | utc
  | offset (hours minutes : Int)
  deriving DecidableEq, Repr

structure ClockTime where
  year : Nat
  month : Nat
  day : Nat
  hour : Nat
  minute : Nat
  second : Nat
  zone : Zone
  deriving DecidableEq, Repr

/-! ## Fields -/

def digit? (b : UInt8) : Option Nat :=
  if 0x30 ≤ b && b ≤ 0x39 then some (b.toNat - 0x30) else none

def pair : Reader Nat := do
  let a ← byte
  let b ← byte
  match digit? a, digit? b with
  | some high, some low => pure (high * 10 + low)
  | _, _ => failure

/-- Two digits of seconds, or no seconds when fewer than two bytes are left. -/
def seconds : Reader Nat := fun bytes =>
  if bytes.length < 2 then some (0, bytes) else pair bytes

def zone? : Bytes → Option Zone
  | [0x5A] => some .utc
  | sign :: rest => do
      let ((hours, minutes), rest) ← (do pure (← pair, ← pair) : Reader (Nat × Nat)).run rest
      if !rest.isEmpty then none
      else if sign == 0x2B then some (.offset hours minutes)
      else if sign == 0x2D then some (.offset (-hours) minutes)
      else none
  | [] => none

def monthToSecond (year : Nat) : Reader ClockTime := do
  let month ← pair
  let day ← pair
  let hour ← pair
  let minute ← pair
  if ← atEnd then failure
  else
    let second ← seconds
    if month > 12 || day > 31 || hour > 23 || minute > 59 || second > 59 then failure
    else
      pure
        { year := year, month := month, day := day
          hour := hour, minute := minute, second := second, zone := .utc }

/-! ## Written forms -/

def shortTime? (bytes : Bytes) : Option ClockTime := do
  let (year, rest) ← pair.run bytes
  let (time, rest) ← (monthToSecond year).run rest
  let zone ← zone? rest
  pure { time with zone := zone }

def afterFraction? : Bytes → Option Bytes
  | 0x2E :: rest =>
      let digits := rest.takeWhile fun b => (digit? b).isSome
      if digits.length ≤ 3 then some (rest.drop digits.length) else none
  | bytes => some bytes

/-- A time with a four-digit year and an optional fraction, always in UTC. -/
def longTime? (bytes : Bytes) : Option ClockTime := do
  let (century, rest) ← pair.run bytes
  let (year, rest) ← pair.run rest
  let (time, rest) ← (monthToSecond (century * 100 + year)).run rest
  if (← afterFraction? rest) == [0x5A] then pure time else none

/-! ## Seconds -/

/-- The seconds that a zone is ahead of UTC.  The minutes take the sign of the hours. -/
def Zone.seconds? : Zone → Option Int
  | .utc => some 0
  | .offset hours minutes =>
      if hours < -25 || hours > 25 || minutes > 59 then none
      else
        let minutes := if hours < 0 then -minutes else minutes
        some (hours * 3600 + minutes * 60)

def ClockTime.seconds? (t : ClockTime) (year : Int) : Option Int := do
  let date : Date := { year := year, month := t.month, day := t.day }
  if date.isValid then
    let ahead ← t.zone.seconds?
    pure (date.dayNumber * 86400 + (t.hour * 3600 + t.minute * 60 + t.second : Nat) - ahead)
  else none

def fullYear (year : Nat) : Int :=
  if year ≥ 50 then 1900 + year else 2000 + year

def shortTimeTag : Nat := 23

def longTimeTag : Nat := 24

def timeOf? (e : Element) : Option Int :=
  if e.tag == shortTimeTag then do
    if !e.contents.all fun b => 0x20 ≤ b && b ≤ 0x7F then none
    else
      let t ← shortTime? e.contents
      t.seconds? (fullYear t.year)
  else if e.tag == longTimeTag then do
    let t ← longTime? e.contents
    t.seconds? t.year
  else none

def time : Reader Int := do
  match timeOf? (← element) with
  | some seconds => pure seconds
  | none => failure

def validity : Reader Validity :=
  sequence do
    let notBefore ← time
    let notAfter ← time
    pure { notBefore := notBefore, notAfter := notAfter }

end CertCatalog.X509
