import Tweaks.Command.Opening
import Tweaks.Encoding

/-!
# Building

Compiles the scripts that a request selects, and prints the complete script, or
writes it into a file.

Main results:

- `deliver_none`: without a path the text is printed.
- `ran_build`: building executes nothing.
-/

namespace Tweaks.Command

/-- What a file would hold, where one is to be written: the complete script, or
the fragments in JSON.  The number of scripts goes with it. -/
def buildText (w : Workspace) (o : Opened) (r : Request) (plain encoded : Bool) :
    Except Obstacle (Nat × String) :=
  if encoded then do
    let fragments ← o.fragments r
    match encodeFragments? fragments with
    | some text => return (fragments.length, text)
    | none => .error (.breakdown .notEncodable)
  else (o.script w r plain).map fun (fragments, text) => (fragments.length, text)

/-- Prints a text, or writes it into a file.  The file stays empty if the text cannot be
written out. -/
def deliver (w : Workspace) (count : Nat) (text : String) (output : Option Path) : Report :=
  match output with
  | none => .saying text
  | some path =>
    match w.files.target w.folder path, Text.written? text with
    | .error e, _ => .brokenOff (.file e)
    | .ok place, some text =>
      { Report.saying ("Wrote " ++ toString count ++ " script(s) to " ++ path.text ++ "\n") with
        saved := some (place, text) }
    | .ok place, none => { Report.brokenOff .notEncodable with saved := some (place, "") }

/-- Builds a script. -/
def build (w : Workspace) (r : Request) (plain encoded : Bool) (output : Option Path) : Report :=
  match Opened.find w r.platform r.file with
  | .error e => .ofObstacle e
  | .ok opened =>
    Report.after "" opened.notes <|
      match buildText w opened r plain encoded with
      | .error e => .ofObstacle e
      | .ok (count, text) => deliver w count text output

/-- Without a path the text is printed. -/
@[simp]
theorem deliver_none (w : Workspace) (count : Nat) (text : String) :
    deliver w count text none = .saying text := rfl

/-- Delivering executes nothing. -/
@[simp]
theorem ran_deliver (w : Workspace) (count : Nat) (text : String) (output : Option Path) :
    (deliver w count text output).ran = [] := by
  unfold deliver
  split
  · simp
  · split
    · rfl
    · exact Report.ran_saying _
    · rfl

/-- Building executes nothing. -/
@[simp]
theorem ran_build (w : Workspace) (r : Request) (plain encoded : Bool) (output : Option Path) :
    (build w r plain encoded output).ran = [] := by
  unfold build
  split
  · simp
  · rw [Report.ran_after]
    split <;> simp

end Tweaks.Command
