import CertCatalog.Config.Variables
import CertCatalog.Files
import CertCatalog.Unicode.Alphanumeric

/-!
# Variable files

A file of lines with a name, an equals sign and a value.  Values can be quoted over several lines
and can refer to variables that are known already.  Variables that are set keep their values.
-/

namespace CertCatalog.VariableFile

open CertCatalog.Text CertCatalog.Bytes CertCatalog.Unicode

inductive Error where
  | line (text : String) (place : Nat)
  | notText
  deriving DecidableEq, Repr

def Error.message : Error → String
  | .line text place =>
      "Error parsing line: '" ++ text ++ "', error at line index: " ++ toString place
  | .notText => FileError.notText.message

/-! ## Lines -/

inductive LineState where
  | plain
  | blank
  | escape
  | single
  | singleEscape
  | double
  | doubleEscape
  deriving DecidableEq, Repr

def LineState.next (c : Char) : LineState → Option LineState
  | .plain =>
      if isBlank c && c != '\n' && c != '\r' then some .blank
      else if c == '\\' then some .escape
      else if c == '"' then some .double
      else if c == '\'' then some .single
      else some .plain
  | .blank =>
      if c == '#' then none
      else if c == '\\' then some .escape
      else if c == '"' then some .double
      else if c == '\'' then some .single
      else some .plain
  | .escape => some .plain
  | .single =>
      some (if c == '\\' then .singleEscape else if c == '\'' then .plain else .single)
  | .singleEscape => some .single
  | .double =>
      some (if c == '\\' then .doubleEscape else if c == '"' then .plain else .double)
  | .doubleEscape => some .double

def scan (state : LineState) : List Char → List Char × Option LineState
  | [] => ([], some state)
  | c :: rest =>
      match state.next c with
      | none => ([], none)
      | some next =>
          let (text, last) := scan next rest
          (c :: text, last)

def withoutLineEnd (line : List Char) : List Char :=
  match line.reverse with
  | '\n' :: '\r' :: rest => rest.reverse
  | '\n' :: rest => rest.reverse
  | _ => line

def isComment (line : List Char) : Bool :=
  (dropBlanks line).head? == some '#'

/--
Joins lines as long as a quote is open.  `before` is the text that waits for its quote to close; a
line that is no text ends the file with an error.
-/
def joinLines (before : List Char) (state : LineState) :
    List (Option (List Char)) → List (Except Error (List Char))
  | [] =>
      if state == .plain then []
      else [.error (.line (String.ofList before) (encodeUtf8 before).length)]
  | none :: _ => [.error .notText]
  | some line :: rest =>
      if isComment (before ++ line) then .ok [] :: joinLines [] .plain rest
      else
        match scan state line with
        | (text, none) => .ok (before ++ text) :: joinLines [] .plain rest
        | (text, some .plain) =>
            .ok (withoutLineEnd (before ++ text)) :: joinLines [] .plain rest
        | (text, some next) => joinLines (before ++ text) next rest

def rawLines : Bytes → List Bytes
  | [] => []
  | b :: rest =>
      if b == 0x0A then [b] :: rawLines rest
      else
        match rawLines rest with
        | [] => [[b]]
        | line :: more => (b :: line) :: more

def withoutByteOrderMark : Bytes → Bytes
  | 0xEF :: 0xBB :: 0xBF :: rest => rest
  | bytes => bytes

/-! ## Values -/

inductive Reference where
  | none
  | bare
  | braced
  deriving DecidableEq, Repr

structure ValueState where
  output : List Char
  single : Bool
  double : Bool
  escaped : Bool
  ended : Bool
  reference : Reference
  name : List Char

def ValueState.start : ValueState :=
  { output := [], single := false, double := false, escaped := false, ended := false
    reference := .none, name := [] }

def ValueState.resolve (s : ValueState) (lookUp : String → String) : ValueState :=
  { s with
    output := s.output ++ (lookUp (String.ofList s.name)).toList
    name := []
    reference := .none }

def ValueState.add (s : ValueState) (c : Char) : ValueState :=
  { s with output := s.output ++ [c] }

def ValueState.refer (s : ValueState) (lookUp : String → String) (c : Char) : ValueState :=
  if isAlphanumeric c then { s with name := s.name ++ [c] }
  else if s.reference == .braced then
    if c == '\x7d' then s.resolve lookUp else { s with name := s.name ++ [c] }
  else if c == '\x7b' && s.name.isEmpty then { s with reference := .braced }
  else if c == '$' then { s.resolve lookUp with reference := .bare }
  else (s.resolve lookUp).add c

def ValueState.next (s : ValueState) (lookUp : String → String) (c : Char) : Option ValueState :=
  if s.escaped then
    if ['\\', '\'', '"', '$', ' '].contains c then some { s.add c with escaped := false }
    else if c == 'n' then some { s.add '\n' with escaped := false }
    else none
  else if s.single then some (if c == '\'' then { s with single := false } else s.add c)
  else if s.reference != .none then some (s.refer lookUp c)
  else if c == '$' then some { s with reference := .bare }
  else if c == '\\' then some { s with escaped := true }
  else if c == '"' then some { s with double := !s.double }
  else if s.double then some (s.add c)
  else if c == '\'' then some { s with single := true }
  else if c == ' ' || c == '\t' then some { s with ended := true }
  else some (s.add c)

def readValue (lookUp : String → String) (place : Nat) (s : ValueState) :
    List Char → Except Nat ValueState
  | [] => .ok s
  | c :: rest =>
      if s.ended then
        if c == ' ' || c == '\t' then readValue lookUp (place + 1) s rest
        else if c == '#' then .ok s
        else .error place
      else
        match s.next lookUp c with
        | some next => readValue lookUp (place + 1) next rest
        | none => .error place

def valueOf (lookUp : String → String) (text : List Char) : Except Error String :=
  match readValue lookUp 0 .start text with
  | .error place => .error (.line (String.ofList text) place)
  | .ok s =>
      if s.reference == .braced || s.single || s.double then
        .error (.line (String.ofList text) ((encodeUtf8 text).length - 1))
      else .ok (String.ofList (s.resolve lookUp).output)

/-! ## Assignments -/

/-- What is left of a line, and how many bytes of the line stand before it. -/
structure Cursor where
  rest : List Char
  place : Nat

def Cursor.advance (c : Cursor) (count : Nat) : Cursor :=
  { rest := c.rest.drop count, place := c.place + (encodeUtf8 (c.rest.take count)).length }

def Cursor.skipBlanks (c : Cursor) : Cursor :=
  c.advance (c.rest.takeWhile isBlank).length

def Cursor.readName (c : Cursor) : Option (String × Cursor) :=
  match c.rest with
  | first :: _ =>
      if first.isAlpha || first == '_' then
        let name := c.rest.takeWhile fun d => d.isAlphanum || d == '_' || d == '.'
        some (String.ofList name, c.advance name.length)
      else none
  | [] => none

def Cursor.readEquals (c : Cursor) : Option Cursor :=
  match c.rest with
  | '=' :: _ => some (c.advance 1)
  | _ => none

def Cursor.readTarget (c : Cursor) : Except Nat (String × Cursor) :=
  match c.readName with
  | none => .error c.place
  | some (name, c) =>
      let c := c.skipBlanks
      match c.readEquals with
      | none => .error c.place
      | some c => .ok (name, c)

/-- A target after an optional word export, which can be a name itself. -/
def Cursor.readExport (c : Cursor) : Except Nat (String × Cursor) :=
  match c.readName with
  | some ("export", after) =>
      let after := after.skipBlanks
      match after.readEquals with
      | some c => .ok ("export", c)
      | none => after.readTarget
  | _ => c.readTarget

def assignment? (lookUp : String → String) (line : List Char) :
    Except Error (Option (String × String)) :=
  let c : Cursor := { rest := dropTrailingBlanks line, place := 0 }
  let c := c.skipBlanks
  if c.rest.isEmpty || c.rest.head? == some '#' then .ok none
  else
    match c.readExport with
    | .error place => .error (.line (String.ofList line) place)
    | .ok (name, c) =>
        let c := c.skipBlanks
        if c.rest.isEmpty || c.rest.head? == some '#' then .ok (some (name, ""))
        else (valueOf lookUp c.rest).map fun value => some (name, value)

/-! ## Loading -/

def setIfUnset (env : Variables) (name value : String) : Variables :=
  if (env name).isSome then env else fun other => if other == name then some value else env other

def loadLines (env : Variables) (assigned : List (String × String)) :
    List (Except Error (List Char)) → Variables × Option Error
  | [] => (env, none)
  | .error e :: _ => (env, some e)
  | .ok line :: rest =>
      let lookUp (name : String) : String :=
        ((env name).or ((assigned.find? (·.1 == name)).map (·.2))).getD ""
      match assignment? lookUp line with
      | .error e => (env, some e)
      | .ok none => loadLines env assigned rest
      | .ok (some (name, value)) =>
          loadLines (setIfUnset env name value) ((name, value) :: assigned) rest

def load (env : Variables) (contents : Bytes) : Variables × Option Error :=
  loadLines env []
    (joinLines [] .plain ((rawLines (withoutByteOrderMark contents)).map decodeUtf8?))

end CertCatalog.VariableFile
