import CertCatalog.Text.Split

/-!
# Punycode

Labels of domain names with characters outside ASCII, written in letters, digits and hyphens.
The ASCII characters come first; the others follow as a series of numbers, each the distance from
one insertion to the next, counted over code points and places.  A number is written in digits of
base 36, the lowest first, with thresholds that adapt to the numbers before it.
-/

namespace CertCatalog.Url.Punycode

open CertCatalog.Text

/-! ## Digits -/

def digitChar (value : Nat) : Char :=
  if value < 26 then Char.ofNat (0x61 + value) else Char.ofNat (0x16 + value)

def digitValue? (c : Char) : Option Nat :=
  let code := c.toNat
  if 0x61 ≤ code && code ≤ 0x7A then some (code - 0x61)
  else if 0x41 ≤ code && code ≤ 0x5A then some (code - 0x41)
  else if 0x30 ≤ code && code ≤ 0x39 then some (code - 0x16)
  else none

def threshold (bias place : Nat) : Nat :=
  if place ≤ bias then 1 else if bias + 26 ≤ place then 26 else place - bias

theorem threshold_pos (bias place : Nat) : 1 ≤ threshold bias place := by
  unfold threshold
  split
  · omega
  · split <;> omega

theorem threshold_le (bias place : Nat) : threshold bias place ≤ 26 := by
  unfold threshold
  split
  · omega
  · split <;> omega

def scaleDown (delta places : Nat) : Nat × Nat :=
  if 455 < delta then scaleDown (delta / 35) (places + 36) else (delta, places)
termination_by delta
decreasing_by exact Nat.div_lt_self (by omega) (by omega)

def nextBias (delta count : Nat) (isFirst : Bool) : Nat :=
  let damped := if isFirst then delta / 700 else delta / 2
  let (left, places) := scaleDown (damped + damped / count) 0
  places + 36 * left / (left + 38)

/-! ## Decoding -/

def readNumber? (bias place weight : Nat) : List Char → Option (Nat × List Char)
  | [] => none
  | c :: rest => do
      let digit ← digitValue? c
      let limit := threshold bias place
      if digit < limit then some (digit * weight, rest)
      else
        let (high, rest) ← readNumber? bias (place + 36) (weight * (36 - limit)) rest
        some (digit * weight + high, rest)

theorem length_of_readNumber? {text : List Char} {bias place weight number : Nat}
    {rest : List Char} (h : readNumber? bias place weight text = some (number, rest)) :
    rest.length < text.length := by
  induction text generalizing place weight number with
  | nil => simp [readNumber?] at h
  | cons c text ih =>
      simp only [readNumber?, Option.bind_eq_bind, Option.bind_eq_some_iff] at h
      obtain ⟨digit, -, h⟩ := h
      split at h
      · simp only [Option.some.injEq, Prod.mk.injEq] at h
        simp [← h.2]
      · obtain ⟨⟨high, after⟩, hread, h⟩ := Option.bind_eq_some_iff.1 h
        simp only [Option.some.injEq, Prod.mk.injEq] at h
        have := ih (h.2 ▸ hread)
        simp only [List.length_cons]
        omega

/--
Inserts the characters that the numbers stand for.  `code` is the code point of the last
insertion and `place` the place behind it.
-/
def insertAll? (bias code place : Nat) (label : List Char) (text : List Char) :
    Option (List Char) :=
  if text.isEmpty then some label
  else
    match hread : readNumber? bias 36 1 text with
    | none => none
    | some (delta, rest) =>
        let count := label.length + 1
        let next := code + (place + delta) / count
        let place' := (place + delta) % count
        if next.isValidChar then
          insertAll? (nextBias delta count (label.all (·.toNat < 0x80))) next (place' + 1)
            (label.insertIdx place' (Char.ofNat next)) rest
        else none
termination_by text.length
decreasing_by exact length_of_readNumber? hread

def splitAtLastHyphen (text : List Char) : List Char × List Char :=
  match splitFirst? (· == '-') text.reverse with
  | some (after, before) => (before.reverse, after.reverse)
  | none => ([], text)

def decode? (text : List Char) : Option (List Char) :=
  let (basic, numbers) := splitAtLastHyphen text
  if basic.all (·.toNat < 0x80) then insertAll? 72 0x80 0 basic numbers else none

/-! ## Encoding -/

def writeNumber (bias place number : Nat) : List Char :=
  let limit := threshold bias place
  if number < limit then [digitChar number]
  else
    digitChar (limit + (number - limit) % (36 - limit)) ::
      writeNumber bias (place + 36) ((number - limit) / (36 - limit))
termination_by number
decreasing_by
  have positive := threshold_pos bias place
  have bounded := threshold_le bias place
  exact Nat.lt_of_le_of_lt (Nat.div_le_self _ _) (by omega)

structure Writer where
  bias : Nat
  /-- The insertions that were passed over since the last one that was written. -/
  delta : Nat
  count : Nat
  isFirst : Bool

def passChar (code : Nat) (state : List Char × Writer) (c : Char) : List Char × Writer :=
  let (written, writer) := state
  if c.toNat < code then (written, { writer with delta := writer.delta + 1 })
  else if c.toNat == code then
    (written ++ writeNumber writer.bias 36 writer.delta,
      ⟨nextBias writer.delta (writer.count + 1) writer.isFirst, 0, writer.count + 1, false⟩)
  else state

def writeNumbers (label : List Char) : List Nat → Nat → List Char × Writer → List Char
  | [], _, (written, _) => written
  | code :: codes, last, (written, writer) =>
      let skipped := { writer with delta := writer.delta + (code - last) * (writer.count + 1) }
      let (written, writer) := label.foldl (passChar code) (written, skipped)
      writeNumbers label codes (code + 1) (written, { writer with delta := writer.delta + 1 })

def insertCode (code : Nat) : List Nat → List Nat
  | [] => [code]
  | other :: rest =>
      if code < other then code :: other :: rest
      else if code == other then other :: rest
      else other :: insertCode code rest

def highCodes (label : List Char) : List Nat :=
  ((label.map Char.toNat).filter (0x80 ≤ ·)).foldr insertCode []

def encode (label : List Char) : List Char :=
  let basic := label.filter (·.toNat < 0x80)
  let start := if basic.isEmpty then [] else basic ++ ['-']
  writeNumbers label (highCodes label) 0x80 (start, ⟨72, 0, basic.length, true⟩)

end CertCatalog.Url.Punycode
