import CertCatalog.CatalogError
import CertCatalog.Text.Blank
import CertCatalog.Text.Decimal
import CertCatalog.Text.Split
import CertCatalog.Unicode.Alphanumeric

/-!
# Log filters

A filter is a list of directives with commas between them: a level, or a target or a span in square
brackets with an optional level after an equals sign.
-/

namespace CertCatalog.LogFilter

open CertCatalog.Text CertCatalog.Unicode

inductive Error where
  | directive
  | level
  deriving DecidableEq, Repr

def Error.message : Error → String
  | .directive => "invalid filter directive"
  | .level =>
      "error parsing level filter: expected one of \"off\", \"error\", \"warn\", \"info\", " ++
        "\"debug\", \"trace\", or a number 0-5"

def isLevel (text : String) : Bool :=
  ["off", "error", "warn", "info", "debug", "trace"].contains (lowerAscii text) ||
    (match readBounded bound64 text.toList with
    | .ok number => number ≤ 5
    | .error _ => false)

def canBeginTarget (c : Char) : Bool :=
  isAlphanumeric c || c == '-' || c == ':' || c == '_'

def afterSpan? (text : List Char) : Option (List Char) :=
  match text.dropWhile fun c => c != ']' && c != '\x7b' with
  | ']' :: rest => some rest
  | _ :: inner =>
      match splitFirst? (· == '\x7d') inner with
      | some (field, ']' :: rest) => if field.isEmpty then none else some rest
      | _ => none
  | [] => none

/--
Whether a directive without blanks around it is well formed, and if so how many of its characters
stand before its level, where it names one after an equals sign.
-/
def levelPlace? (text : List Char) : Option (Option Nat) :=
  let afterEquals (rest : List Char) : Option (Option Nat) :=
    match rest with
    | [] => some none
    | '=' :: level => some (some (text.length - level.length))
    | _ => none
  match text with
  | [] => none
  | '[' :: rest => (afterSpan? rest).bind afterEquals
  | c :: _ =>
      if !canBeginTarget c then none
      else
        match text.dropWhile fun c => c != '=' && c != '[' with
        | '[' :: rest => (afterSpan? rest).bind afterEquals
        | rest => afterEquals rest

/-- The level is looked up at its place in the directive with the blanks around it. -/
def checkDirective (text : String) : Except Error Unit :=
  match levelPlace? (trimChars text.toList) with
  | none => .error .directive
  | some none => .ok ()
  | some (some place) =>
      let level := String.ofList (text.toList.drop place)
      if level.isEmpty || isLevel level then .ok () else .error .level

def check (filter : String) : Except Error Unit :=
  ((splitOn filter ',').filter (!·.isEmpty)).forM checkDirective

end CertCatalog.LogFilter
