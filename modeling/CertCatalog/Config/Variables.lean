import CertCatalog.Text.Blank
import CertCatalog.Text.Split

/-!
# Variables

The environment variables that configure the catalog, as a lookup by name.
-/

namespace CertCatalog

abbrev Variables := String → Option String

namespace Variables

def ofList (entries : List (String × String)) : Variables :=
  fun name => (entries.find? (·.1 == name)).map (·.2)

/-- The trimmed value of a variable.  A blank value counts as unset. -/
def value? (env : Variables) (name : String) : Option String :=
  (env name).bind Text.nonBlank?

def firstValue? (env : Variables) (names : List String) : Option String :=
  names.findSome? env.value?

def isOn (value : String) : Bool :=
  ["1", "true", "yes", "on"].contains (Text.lowerAscii value)

def isSwitchedOn (env : Variables) (names : List String) : Bool :=
  (env.firstValue? names).any isOn

end Variables
end CertCatalog
