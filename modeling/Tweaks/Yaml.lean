import Tweaks.Yaml.Content
import Tweaks.Yaml.Token.Scan

/-!
# Documents in YAML

Reads a document from a YAML text: tokens become nodes, and the nodes' contents
make up the tree.
-/

namespace Tweaks.Yaml

/-- The document that a list of characters spells, where at most `deepest` collections may lie
one within the other. -/
def parseChars (deepest : Nat) (text : List Char) : Result Document := do
  let (root, graph) ← (Reader.start deepest (scan text)).document
  match root with
  | none => return .null
  | some root => do
    let contents ← Contents.ofGraph graph root
    return contents.tree root

/-- The document that a text spells.  A text without any spells null. -/
def parse (deepest : Nat) (text : String) : Result Document :=
  parseChars deepest text.toList

end Tweaks.Yaml
