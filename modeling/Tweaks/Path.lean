import Tweaks.Text.Lines

/-!
# Paths

A path names a place among files and folders: where the way starts, and the
names on it.  Empty names and single dots are dropped.  Two dots are kept, since
only the folders tell where they lead.

Main results:

- `start_append_of_ne_here`: a path behind one from the root is from the root.
-/

namespace Tweaks

/-- Where the way of a path starts. -/
inductive Start where
  /-- In the working folder. -/
  | here
  | root
  /-- At the root, written with two slashes. -/
  | doubleRoot
deriving DecidableEq, Repr, Inhabited

/-- A path. -/
structure Path where
  start : Start
  names : List String
deriving DecidableEq, Repr, Inhabited

namespace Path

/-- The pieces of a text between slashes. -/
def pieces : List Char → List (List Char)
  | [] => [[]]
  | c :: s =>
    if c = '/' then [] :: pieces s
    else match pieces s with
      | [] => [[c]]
      | piece :: others => (c :: piece) :: others

/-- Where a text starts its way.  More than two slashes are as good as one. -/
def startOf : List Char → Start
  | '/' :: '/' :: '/' :: _ => .root
  | '/' :: '/' :: _ => .doubleRoot
  | '/' :: _ => .root
  | _ => .here

/-- Whether a piece between slashes is a name on the way. -/
def isName (piece : List Char) : Bool :=
  !piece.isEmpty && piece ≠ ['.']

/-- The path that a text writes. -/
def ofText (text : String) : Path :=
  ⟨startOf text.toList, ((pieces text.toList).filter isName).map String.ofList⟩

/-- The path of a folder from the root. -/
def ofRoot (names : List String) : Path := ⟨.root, names⟩

/-- A path as it is written. -/
def text (p : Path) : String :=
  match p.start with
  | .here => if p.names.isEmpty then "." else Text.join "/" p.names
  | .root => "/" ++ Text.join "/" p.names
  | .doubleRoot => "//" ++ Text.join "/" p.names

/-- A path that goes on where another one ends. -/
def append (p q : Path) : Path :=
  match q.start with
  | .here => ⟨p.start, p.names ++ q.names⟩
  | _ => q

/-- What lies by that name in a folder. -/
def child (p : Path) (name : String) : Path := ⟨p.start, p.names ++ [name]⟩

/-- A path behind one from the root is from the root. -/
theorem start_append_of_ne_here {p : Path} (h : p.start ≠ .here) (q : Path) :
    (p.append q).start ≠ .here := by
  unfold append
  split
  · exact h
  · next h' => exact h'

@[simp]
theorem start_child (p : Path) (name : String) : (p.child name).start = p.start := rfl

end Path

end Tweaks
