import Tweaks.Command.Opening
import Tweaks.Console.Table
import Tweaks.Encoding

/-!
# Listing

Lists the scripts of a collection, each with the categories around it, its level,
and whether it can be undone, in a table or in JSON.

Main results:

- `names_of_summaries`: a list names every script, in the order of the collection.
- `ran_list`: listing executes nothing.
-/

namespace Tweaks

/-- What a list says about a script. -/
structure Summary where
  name : String
  categories : List String
  recommend : Option Level
  revertible : Bool
deriving DecidableEq, Repr, Inhabited

namespace Summary

/-- What there is to say about a script, with its code and the categories around
it. -/
def ofScript (trail : List String) (s : Script) (code : Resolved) : Summary :=
  ⟨s.name, trail, s.recommend, code.revertCode.isSome⟩

/-- A summary in JSON. -/
def encode (s : Summary) : Encoded :=
  .object [("name", .text s.name), ("category", .list (s.categories.map .text)),
    ("recommend", match s.recommend with
      | none => .null
      | some level => .text level.name),
    ("revertible", .bool s.revertible)]

/-- A text in a table. -/
def cell (text : String) : Except Console.Markup.Fault (List Char) :=
  (Console.Markup.plain (Console.Markup.escape text.toList)).map Console.withoutControls

/-- The row of a table for a script. -/
def row (s : Summary) : Except Console.Markup.Fault (List (List Char)) := do
  let name ← cell s.name
  let categories ← cell (Text.join " / " s.categories)
  let level := match s.recommend with
    | none => "-"
    | some level => level.name
  return [name, categories, level.toList, (if s.revertible then "yes" else "no").toList]

end Summary

namespace Command

/-- What there is to say about the scripts of a collection. -/
def summaries (c : Collection) : Except CompileError (List Summary) :=
  (Compilation.resolveScripts c Pipe.standard .forward [] c.scripts).1.map fun resolved =>
    List.zipWith (fun (trail, script) (_, code) => Summary.ofScript trail script code)
      c.walk resolved

/-- The table of a collection's scripts. -/
def table (c : Collection) (summaries : List Summary) :
    Except Console.Markup.Fault Console.Table := do
  let rows ← summaries.mapM Summary.row
  return ⟨c.os.name ++ " (" ++ toString summaries.length ++ " scripts)",
    ["Script", "Category", "Level", "Revert"].map String.toList, rows⟩

/-- Shows what there is to say. -/
def display (c : Collection) (summaries : List Summary) (encoded : Bool) :
    Except Console.Markup.Fault String :=
  if encoded then .ok ((Encoded.list (summaries.map Summary.encode)).write ++ "\n")
  else (table c summaries).map Console.Table.print

/-- Lists the scripts of a collection. -/
def list (w : Workspace) (platform : Option Platform) (file : Option Path) (encoded : Bool) :
    Report :=
  match Opened.find w platform file with
  | .error e => .ofObstacle e
  | .ok opened =>
    Report.after "" opened.notes <|
      match summaries opened.collection with
      | .error e => .ofObstacle (.ofCompileError e)
      | .ok summaries =>
        match display opened.collection summaries encoded with
        | .error fault => .brokenOff (.markup fault)
        | .ok text => .saying text

/-! ## Small facts -/

/-- Resolving scripts gives their code in order. -/
theorem fst_of_resolveScripts {c : Collection} {registry : Template.Registry}
    {direction : Direction} {memo memo' : Resolution.Memo} {scripts : List Script}
    {resolved : List (Script × Resolved)}
    (h : Compilation.resolveScripts c registry direction memo scripts = (.ok resolved, memo')) :
    resolved.map Prod.fst = scripts := by
  induction scripts generalizing memo memo' resolved with
  | nil => simp [Compilation.resolveScripts] at h; simp [h.1.symm]
  | cons s rest ih =>
    rw [Compilation.resolveScripts] at h
    split at h
    · cases h
    · split at h
      · cases h
      · next others m hrest =>
        cases h
        simp [ih hrest]

/-- A list names every script, in the order of the collection. -/
theorem names_of_summaries {c : Collection} {summaries' : List Summary}
    (h : summaries c = .ok summaries') :
    summaries'.map Summary.name = c.scripts.map Script.name := by
  unfold summaries at h
  cases hr : Compilation.resolveScripts c Pipe.standard .forward [] c.scripts with
  | mk result memo =>
    rw [hr] at h
    cases result with
    | error e => cases h
    | ok resolved =>
      cases h
      have hlen : resolved.length = c.walk.length := by
        have := congrArg List.length (fst_of_resolveScripts hr)
        simpa [Collection.scripts] using this
      rw [List.map_zipWith]
      simp only [Summary.ofScript, Collection.scripts, List.map_map]
      clear hr
      generalize c.walk = walk at hlen
      induction walk generalizing resolved with
      | nil => simp
      | cons first rest ih =>
        cases resolved with
        | nil => simp at hlen
        | cons r others => simp_all

/-- Listing executes nothing. -/
@[simp]
theorem ran_list (w : Workspace) (platform : Option Platform) (file : Option Path)
    (encoded : Bool) : (list w platform file encoded).ran = [] := by
  unfold list
  split
  · simp
  · rw [Report.ran_after]
    split
    · simp
    · split
      · rfl
      · simp

end Command

end Tweaks
