import CertCatalog.Der.Primitive

/-!
# Algorithms and their names
-/

namespace CertCatalog.X509

open CertCatalog.Der

/-- An algorithm; its parameters are read and dropped. -/
structure Algorithm where
  id : ObjectId
  deriving DecidableEq, Repr

def algorithm : Reader Algorithm :=
  sequence do
    let id ← objectId
    if ← atEnd then pure ⟨id⟩
    else
      let _ ← element
      pure ⟨id⟩

end CertCatalog.X509
