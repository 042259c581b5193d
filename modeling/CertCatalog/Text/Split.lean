/-!
# Splitting texts

Cutting a list of characters at separators.  The parts and the separators between them always
give the text back.
-/

namespace CertCatalog.Text

def splitBy (separates : Char → Bool) : List Char → List (List Char)
  | [] => [[]]
  | c :: rest =>
      if separates c then [] :: splitBy separates rest
      else
        match splitBy separates rest with
        | [] => [[c]]
        | part :: parts => (c :: part) :: parts

theorem splitBy_ne_nil (separates : Char → Bool) (text : List Char) :
    splitBy separates text ≠ [] := by
  cases text with
  | nil => simp [splitBy]
  | cons c rest =>
      unfold splitBy
      split
      · simp
      · split <;> simp

def splitFirst? (separates : Char → Bool) : List Char → Option (List Char × List Char)
  | [] => none
  | c :: rest =>
      if separates c then some ([], rest)
      else (splitFirst? separates rest).map fun (before, after) => (c :: before, after)

def splitOn (text : String) (separator : Char) : List String :=
  (splitBy (· == separator) text.toList).map String.ofList

def cut? (text : String) (separator : Char) : Option (String × String) :=
  (splitFirst? (· == separator) text.toList).map fun (before, after) =>
    (String.ofList before, String.ofList after)

def dropStart? : List Char → List Char → Option (List Char)
  | [], text => some text
  | _ :: _, [] => none
  | c :: start, d :: text => if c == d then dropStart? start text else none

def joinWith (separator : String) (texts : List String) : String :=
  String.intercalate separator texts

def lowerAscii (text : String) : String :=
  String.ofList (text.toList.map Char.toLower)

end CertCatalog.Text
