import CertCatalog.IpAddress
import CertCatalog.Text.Decimal
import CertCatalog.Text.Split

/-!
# Numeric hosts

The IPv4 and IPv6 addresses that can stand as hosts.
-/

namespace CertCatalog.Url

open CertCatalog.Text CertCatalog.Bytes

/-! ## IPv4 -/

def ofDigits? (base : Nat) (digits : List Char) : Option Nat := do
  let values ← digits.mapM hexValue?
  if values.all (· < base) then some (values.foldl (fun value d => value * base + d) 0) else none

def ipv4Number? : List Char → Option Nat
  | [] => none
  | '0' :: 'x' :: rest => if rest.isEmpty then some 0 else ofDigits? 16 rest
  | '0' :: 'X' :: rest => if rest.isEmpty then some 0 else ofDigits? 16 rest
  | '0' :: c :: rest => ofDigits? 8 (c :: rest)
  | digits => ofDigits? 10 digits

def hostParts (host : List Char) : List (List Char) :=
  let parts := splitBy (· == '.') host
  if parts.getLast? == some [] then parts.dropLast else parts

/-- Whether the last part of a host is a number, so that the host has to be an IPv4 address. -/
def endsInNumber (host : List Char) : Bool :=
  match (hostParts host).getLast? with
  | none => false
  | some last => (!last.isEmpty && last.all isDigit) || (ipv4Number? last).isSome

/-- An address of up to four numbers; the last one fills all bytes that are left. -/
def ipv4? (host : List Char) : Option Nat := do
  let numbers ← (hostParts host).mapM ipv4Number?
  let last ← numbers.getLast?
  let first := numbers.dropLast
  if numbers.length > 4 || first.any (· > 255) || last ≥ Nat.pow 256 (4 - first.length) then none
  else
    some ((first.foldl (fun value n => value * 256 + n) 0) * Nat.pow 256 (4 - first.length) + last)

def ipv4Text (address : Nat) : String :=
  joinWith "." ([3, 2, 1, 0].map fun i => toString (address / Nat.pow 256 i % 256))

/-! ## IPv6 -/

def octet? (text : List Char) : Option (Nat × List Char) :=
  let digits := text.takeWhile isDigit
  let value := digitsValue digits
  if digits.isEmpty || value > 255 || (digits.length > 1 && digits.head? == some '0') then none
  else some (value, text.drop digits.length)

def dottedGroups? (text : List Char) : Option (List Nat) := do
  let (a, rest) ← octet? text
  let rest ← dropStart? ['.'] rest
  let (b, rest) ← octet? rest
  let rest ← dropStart? ['.'] rest
  let (c, rest) ← octet? rest
  let rest ← dropStart? ['.'] rest
  let (d, rest) ← octet? rest
  if rest.isEmpty then some [a * 256 + b, c * 256 + d] else none

/--
Groups from the current position on.  `before` holds the groups read so far, a zero in the place of
the double colon, and `gap` the number of groups up to it.
-/
def ipv6Groups : Nat → List Nat → Option Nat → List Char → Option (List Nat × Option Nat)
  | _, before, gap, [] => some (before, gap)
  | 0, _, _, _ => none
  | fuel + 1, before, gap, text =>
      if before.length == 8 then none
      else
        match text with
        | ':' :: rest =>
            if gap.isSome then none
            else ipv6Groups fuel (before ++ [0]) (some (before.length + 1)) rest
        | text =>
            let digits := (text.take 4).takeWhile fun c => (hexValue? c).isSome
            let value := digits.foldl (fun value c => value * 16 + (hexValue? c).getD 0) 0
            match text.drop digits.length with
            | [] => ipv6Groups fuel (before ++ [value]) gap []
            | '.' :: _ =>
                if digits.isEmpty || before.length > 6 then none
                else (dottedGroups? text).map fun last => (before ++ last, gap)
            | ':' :: rest =>
                if rest.isEmpty then none else ipv6Groups fuel (before ++ [value]) gap rest
            | _ => none

def ipv6? (text : List Char) : Option (List Nat) := do
  let (groups, gap) ←
    match text with
    | ':' :: ':' :: rest => ipv6Groups (rest.length + 1) [0] (some 1) rest
    | ':' :: _ => none
    | [] | [_] => none
    | text => ipv6Groups (text.length + 1) [] none text
  match gap with
  | some gap =>
      if groups.length ≤ 8 then
        some (groups.take gap ++ List.replicate (8 - groups.length) 0 ++ groups.drop gap)
      else none
  | none => if groups.length == 8 then some groups else none

end CertCatalog.Url
