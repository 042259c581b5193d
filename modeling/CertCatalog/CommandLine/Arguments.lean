import CertCatalog.Text.Decimal
import CertCatalog.Text.Split

/-!
# Arguments

The commands of the program and how they are spelled.
-/

namespace CertCatalog.CommandLine

open CertCatalog.Text

inductive Command where
  | status (deadlineSeconds : Nat)
  | list (refresh : Bool)
  | show (id : String)
  | pem (id : String)
  | revoke (id token : String)
  | crl (vault mount : String) (rotate : Bool)
  deriving DecidableEq, Repr

structure Invocation where
  command : Command
  json : Bool
  verbose : Bool
  deriving DecidableEq, Repr

inductive Stop where
  | help
  | version
  | usage
  deriving DecidableEq, Repr

/-! ## Subcommands -/

inductive Subcommand where
  | status
  | list
  | show
  | pem
  | revoke
  | crl
  deriving DecidableEq, Repr

def Subcommand.ofName? : String → Option Subcommand
  | "status" => some .status
  | "list" => some .list
  | "show" => some .show
  | "pem" => some .pem
  | "revoke" => some .revoke
  | "crl" => some .crl
  | _ => none

def Subcommand.valueCount : Subcommand → Nat
  | .status | .list => 0
  | .show | .pem | .revoke => 1
  | .crl => 2

structure Seen where
  json : Bool
  verbose : Bool
  refresh : Bool
  rotate : Bool
  deadline : Option Nat
  token : Option String
  values : List String
  deriving DecidableEq, Repr

def Seen.nothing : Seen :=
  { json := false, verbose := false, refresh := false, rotate := false
    deadline := none, token := none, values := [] }

/-! ## Flags and options -/

def Seen.flag (seen : Seen) (get : Seen → Bool) (set : Seen → Seen) : Except Stop Seen :=
  if get seen then .error .usage else .ok (set seen)

def Seen.setJson (seen : Seen) : Except Stop Seen :=
  seen.flag Seen.json fun s => { s with json := true }

def Seen.setVerbose (seen : Seen) : Except Stop Seen :=
  seen.flag Seen.verbose fun s => { s with verbose := true }

/-- A long flag without a value; some belong to one subcommand, and the version to none. -/
def longFlag (sub : Option Subcommand) (seen : Seen) (name : String) : Except Stop Seen :=
  match name, sub with
  | "json", _ => seen.setJson
  | "verbose", _ => seen.setVerbose
  | "help", _ => .error .help
  | "version", none => .error .version
  | "refresh", some .list => seen.flag Seen.refresh fun s => { s with refresh := true }
  | "rotate", some .crl => seen.flag Seen.rotate fun s => { s with rotate := true }
  | _, _ => .error .usage

def shortFlags (sub : Option Subcommand) (seen : Seen) : List Char → Except Stop Seen
  | [] => .ok seen
  | c :: rest =>
      match c, sub with
      | 'v', _ => do shortFlags sub (← seen.setVerbose) rest
      | 'h', _ => .error .help
      | 'V', none => .error .version
      | _, _ => .error .usage

def takesValue (sub : Option Subcommand) (name : String) : Bool :=
  (sub == some .status && name == "deadline-secs") || (sub == some .revoke && name == "token")

def setOption (seen : Seen) (name value : String) : Except Stop Seen :=
  if name == "token" then
    if seen.token.isSome then .error .usage else .ok { seen with token := some value }
  else
    match seen.deadline, readBounded bound64 value.toList with
    | none, .ok seconds => .ok { seen with deadline := some seconds }
    | _, _ => .error .usage

def isDashed (argument : String) : Bool :=
  argument.toList.head? == some '-' && argument.length > 1

/-! ## Reading -/

def readRest (sub : Subcommand) (seen : Seen) : List String → Except Stop Seen
  | [] => .ok seen
  | argument :: rest =>
      if argument == "--" then .ok { seen with values := seen.values ++ rest }
      else
        match argument.toList with
        | '-' :: '-' :: long =>
            match cut? (String.ofList long) '=' with
            | some (name, value) =>
                if takesValue (some sub) name then do
                  readRest sub (← setOption seen name value) rest
                else .error .usage
            | none =>
                let name := String.ofList long
                if takesValue (some sub) name then
                  match rest with
                  | value :: rest =>
                      if isDashed value then .error .usage
                      else do readRest sub (← setOption seen name value) rest
                  | [] => .error .usage
                else do readRest sub (← longFlag (some sub) seen name) rest
        | '-' :: c :: more => do readRest sub (← shortFlags (some sub) seen (c :: more)) rest
        | _ =>
            if seen.values.length < sub.valueCount then
              readRest sub { seen with values := seen.values ++ [argument] } rest
            else .error .usage

def command (sub : Subcommand) (token : Option String) (seen : Seen) : Except Stop Command :=
  match sub, seen.values with
  | .status, [] => .ok (.status (seen.deadline.getD 10))
  | .list, [] => .ok (.list seen.refresh)
  | .show, [id] => .ok (.show id)
  | .pem, [id] => .ok (.pem id)
  | .revoke, [id] =>
      match seen.token.or token with
      | some token => .ok (.revoke id token)
      | none => .error .usage
  | .crl, [vault, mount] => .ok (.crl vault mount seen.rotate)
  | _, _ => .error .usage

def helpOn : List String → Stop
  | [] | ["help"] => .help
  | [name] => if (Subcommand.ofName? name).isSome then .help else .usage
  | _ => .usage

/--
Reads all arguments.  Flags for all subcommands may stand on either side of the name; `token` is
used when no token is given.
-/
def parse (token : Option String) (seen : Seen) : List String → Except Stop Invocation
  | [] => .error .usage
  | argument :: rest =>
      match argument.toList with
      | '-' :: '-' :: long => do parse token (← longFlag none seen (String.ofList long)) rest
      | '-' :: c :: more => do parse token (← shortFlags none seen (c :: more)) rest
      | _ =>
          if argument == "help" then .error (helpOn rest)
          else
            match Subcommand.ofName? argument with
            | none => .error .usage
            | some sub => do
                let found ← readRest sub .nothing rest
                pure
                  { command := ← command sub token found
                    json := seen.json || found.json
                    verbose := seen.verbose || found.verbose }

end CertCatalog.CommandLine
