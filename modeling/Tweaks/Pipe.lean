import Tweaks.Pipe.Inline
import Tweaks.Template.Render

/-!
# Pipes

The pipes that templates may use: doubling quotes for batch files, and
collapsing a PowerShell script into one line.
-/

namespace Tweaks.Pipe

open Text

/-- Escapes double quotes for batch files: each is written `"^""`. -/
def escapeDoubleQuotes (text : String) : String :=
  String.ofList (replace ['\x22'] ['\x22', '^', '\x22', '\x22'] text.toList)

/-- Collapses a PowerShell script into a single line. -/
def inlinePowerShell (text : String) : String :=
  String.ofList (inlineChars text.toList)

/-- The pipes that every collection may use. -/
def standard : Template.Registry := fun name =>
  if name = "escapeDoubleQuotes" then some escapeDoubleQuotes
  else if name = "inlinePowerShell" then some inlinePowerShell
  else none

end Tweaks.Pipe
