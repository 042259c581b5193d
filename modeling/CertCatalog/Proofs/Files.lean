import CertCatalog.Files
import Mathlib.Data.List.Forall2

/-!
# Files with other contents

Two collections of files with the same names lead every path to related nodes: the contents may
differ as a relation allows, and everything else about a path is the same.
-/

namespace CertCatalog

open CertCatalog.Bytes

variable {related : Bytes → Bytes → Prop}

/-- Nodes of the same kind; files have related contents. -/
inductive FileNode.Matches (related : Bytes → Bytes → Prop) : FileNode → FileNode → Prop
  | file {contents changed : Bytes} (h : related contents changed) :
      Matches related (.file contents) (.file changed)
  | directory : Matches related .directory .directory

namespace Files

def EntryMatches (related : Bytes → Bytes → Prop) (x y : List String × FileNode) : Prop :=
  x.1 = y.1 ∧ x.2.Matches related y.2

def Matches (related : Bytes → Bytes → Prop) (files other : Files) : Prop :=
  List.Forall₂ (EntryMatches related) files.nodes other.nodes

inductive FoundAlike (related : Bytes → Bytes → Prop) :
    Except FileError FileNode → Except FileError FileNode → Prop
  | ok {node changed : FileNode} (h : node.Matches related changed) :
      FoundAlike related (.ok node) (.ok changed)
  | error (e : FileError) : FoundAlike related (.error e) (.error e)

theorem find?_matches {nodes changed : List (List String × FileNode)}
    (h : List.Forall₂ (EntryMatches related) nodes changed) (place : List String) :
    Option.Rel (EntryMatches related) (nodes.find? (·.1 == place))
      (changed.find? (·.1 == place)) := by
  induction h with
  | nil => exact .none
  | cons hnode _ ih =>
      rw [List.find?_cons, List.find?_cons, hnode.1]
      split
      · exact .some hnode
      · exact ih

theorem any_matches {nodes changed : List (List String × FileNode)}
    (h : List.Forall₂ (EntryMatches related) nodes changed) (test : List String → Bool) :
    nodes.any (fun x => test x.1) = changed.any fun x => test x.1 := by
  induction h with
  | nil => rfl
  | cons hnode _ ih => rw [List.any_cons, List.any_cons, hnode.1, ih]

variable {files other : Files}

theorem Matches.nodeAt? (h : files.Matches related other) (place : List String) :
    Option.Rel (FileNode.Matches related) (files.nodeAt? place) (other.nodeAt? place) := by
  have hfound := find?_matches h place
  unfold Files.nodeAt?
  rw [any_matches h (place.isPrefixOf ·)]
  split
  · exact .some .directory
  · generalize files.nodes.find? (·.1 == place) = found,
      other.nodes.find? (·.1 == place) = changed at hfound
    cases hfound with
    | some hnode => exact .some hnode.2
    | none =>
        dsimp only
        split
        · exact .some .directory
        · exact .none

theorem Matches.walk (h : files.Matches related other) (place names : List String) :
    FoundAlike related (files.walk place names) (other.walk place names) := by
  induction names generalizing place with
  | nil =>
      have hnode := h.nodeAt? place
      unfold Files.walk
      generalize files.nodeAt? place = found, other.nodeAt? place = changed at hnode
      cases hnode with
      | none => exact .error _
      | some hnode => exact .ok hnode
  | cons name rest ih =>
      have hnode := h.nodeAt? place
      unfold Files.walk
      generalize files.nodeAt? place = found, other.nodeAt? place = changed at hnode
      cases hnode with
      | none => exact .error _
      | some hnode =>
          cases hnode with
          | file _ => exact .error _
          | directory =>
              dsimp only
              split
              · exact ih place
              · split
                · split
                  · exact .error _
                  · exact ih _
                · split
                  · exact .error _
                  · exact ih _

theorem Matches.find (h : files.Matches related other) (path : String) :
    FoundAlike related (files.find path) (other.find path) := by
  unfold Files.find
  split
  · exact .error _
  · split
    · exact .error _
    · split
      · exact .error _
      · split
        · exact h.walk _ _
        · exact h.walk _ _

theorem Matches.isFile_eq (h : files.Matches related other) (path : String) :
    files.isFile path = other.isFile path := by
  have hfound := h.find path
  unfold isFile
  generalize files.find path = found, other.find path = changed at hfound
  cases hfound with
  | error e => rfl
  | ok hnode => cases hnode <;> rfl

theorem Matches.read (h : files.Matches related other) (path : String) :
    (∃ e, files.read path = .error e ∧ other.read path = .error e) ∨
      ∃ contents changed, files.read path = .ok contents ∧ other.read path = .ok changed ∧
        related contents changed := by
  have hfound := h.find path
  unfold Files.read
  generalize files.find path = found, other.find path = changed at hfound
  cases hfound with
  | error e => exact .inl ⟨e, rfl, rfl⟩
  | ok hnode =>
      cases hnode with
      | directory => exact .inl ⟨.isDirectory, rfl, rfl⟩
      | file hcontents => exact .inr ⟨_, _, rfl, rfl, hcontents⟩

end Files
end CertCatalog
