import CertCatalog.Json.Value
import CertCatalog.Text.Blank

/-!
# Tokens

A token whose text can be used and compared, while every printed form hides it.
-/

namespace CertCatalog

structure Secret where
  exposed : String
  deriving DecidableEq

namespace Secret

def redacted : String := "[REDACTED]"

def text (_ : Secret) : String := redacted

def debugText (s : Secret) : String := "SecretString(" ++ s.text ++ ")"

def toJson (s : Secret) : Json := .str s.text

instance : Repr Secret where
  reprPrec s _ := s.debugText

instance : Inhabited Secret := ⟨⟨""⟩⟩

def isBlank (s : Secret) : Bool :=
  (Text.trim s.exposed).isEmpty

def trimmed (s : Secret) : Secret :=
  ⟨Text.trim s.exposed⟩

end Secret
end CertCatalog
