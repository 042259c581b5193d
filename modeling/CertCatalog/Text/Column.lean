/-!
# Table columns

Padding a cell with spaces to a width counted in characters.  A cell that is too long stays whole.
-/

namespace CertCatalog.Text

def alignLeft (width : Nat) (cell : String) : String :=
  cell ++ String.ofList (List.replicate (width - cell.length) ' ')

def alignRight (width : Nat) (cell : String) : String :=
  String.ofList (List.replicate (width - cell.length) ' ') ++ cell

end CertCatalog.Text
