import Tweaks.Level
import Tweaks.Platform
import Tweaks.Template.Basic

/-!
# Collections

A collection holds the tweaks for one operating system: a tree of categories
whose leaves are scripts, and functions that scripts may call.

Main results:

- `name_of_getFunction?`, `mem_of_getFunction?`: a function is found under its
  own name and belongs to the collection.
- `getFunction?_of_mem`: with distinct names, every function of the collection is found.
-/

namespace Tweaks

/-- A call of a function, with values for its parameters in the order in which
they were written. -/
structure Call where
  function : String
  arguments : List (String × String)
deriving DecidableEq, Repr, Inhabited

/-- A declared parameter of a function.  A parameter with a default value is
optional. -/
structure Parameter where
  name : String
  optional : Bool
  default : Option String
deriving DecidableEq, Repr, Inhabited

/-- Whether a call has to give a parameter a value. -/
def Parameter.required (p : Parameter) : Bool :=
  !p.optional && p.default.isNone

/-- A function: templates for code and for the code that undoes it, or calls of
other functions.  The arguments of its calls are sources of templates, to be
filled in with the function's own parameters. -/
structure Function where
  name : String
  parameters : List Parameter
  code : Option Template
  revertCode : Option Template
  calls : List Call
deriving DecidableEq, Repr, Inhabited

/-- The names of a function's parameters, in order. -/
def Function.parameterNames (f : Function) : List String :=
  f.parameters.map Parameter.name

/-- A script: code and the code that undoes it, or calls of functions. -/
structure Script where
  name : String
  code : Option String
  revertCode : Option String
  calls : List Call
  recommend : Option Level
  docs : List String
deriving DecidableEq, Repr, Inhabited

/-- What a category holds, from its first child on. -/
inductive Contents where
  | empty
  /-- A script. -/
  | script (script : Script) (rest : Contents)
  /-- A category with its own children. -/
  | category (name : String) (docs : List String) (children rest : Contents)
deriving DecidableEq, Repr, Inhabited

/-- A named group of scripts and further categories. -/
structure Category where
  name : String
  docs : List String
  children : Contents
deriving DecidableEq, Repr, Inhabited

/-- A category behind another child, as part of a category's contents. -/
def Contents.ofCategory (c : Category) (rest : Contents) : Contents :=
  .category c.name c.docs c.children rest

/-- The language of a collection's scripts: text that goes before and behind all
code, and the extension of script files. -/
structure Scripting where
  language : String
  startCode : String
  endCode : String
  fileExtension : Option String
deriving DecidableEq, Repr, Inhabited

/-- The tweaks for one operating system. -/
structure Collection where
  os : Platform
  scripting : Option Scripting
  actions : List Category
  functions : List Function
deriving DecidableEq, Repr, Inhabited

namespace Contents

/-- The scripts among the children, in order. -/
def scripts : Contents → List Script
  | empty => []
  | script s rest => s :: rest.scripts
  | category _ _ _ rest => rest.scripts

/-- The categories among the children, in order. -/
def categories : Contents → List Category
  | empty => []
  | script _ rest => rest.categories
  | category name docs children rest => ⟨name, docs, children⟩ :: rest.categories

/-- Every script below, depth first, with the names of the categories around it
from the outermost in.  `trail` names the categories around the contents. -/
def walk (trail : List String) : Contents → List (List String × Script)
  | empty => []
  | script s rest => (trail, s) :: walk trail rest
  | category name _ children rest => walk (trail ++ [name]) children ++ walk trail rest

/-- Every category below, depth first. -/
def allCategories : Contents → List Category
  | empty => []
  | script _ rest => rest.allCategories
  | category name docs children rest =>
    ⟨name, docs, children⟩ :: children.allCategories ++ rest.allCategories

end Contents

/-- The scripts directly in a category. -/
def Category.scripts (c : Category) : List Script :=
  c.children.scripts

/-- The categories directly in a category. -/
def Category.categories (c : Category) : List Category :=
  c.children.categories

/-- Every script in or below a category, with the names of the categories around
it. -/
def Category.walk (c : Category) : List (List String × Script) :=
  c.children.walk [c.name]

/-- A category and every category below it, depth first. -/
def Category.all (c : Category) : List Category :=
  c :: c.children.allCategories

namespace Collection

/-- Every script, depth first, with the names of the categories around it. -/
def walk (c : Collection) : List (List String × Script) :=
  c.actions.flatMap Category.walk

/-- Every script, depth first. -/
def scripts (c : Collection) : List Script :=
  c.walk.map Prod.snd

/-- Every category, depth first. -/
def categories (c : Collection) : List Category :=
  c.actions.flatMap Category.all

/-- The function of that name. -/
def getFunction? (c : Collection) (name : String) : Option Function :=
  c.functions.find? fun f => f.name = name

/-- The script of that name. -/
def getScript? (c : Collection) (name : String) : Option Script :=
  c.scripts.find? fun s => s.name = name

/-- A function is found under its own name. -/
theorem name_of_getFunction? {c : Collection} {name : String} {f : Function}
    (h : c.getFunction? name = some f) : f.name = name := by
  simpa using List.find?_some h

/-- A function that is found belongs to the collection. -/
theorem mem_of_getFunction? {c : Collection} {name : String} {f : Function}
    (h : c.getFunction? name = some f) : f ∈ c.functions :=
  List.mem_of_find?_eq_some h

/-- Where no two things have the same name, each is found under its own. -/
theorem find?_of_nodup_names {α : Type} {name : α → String} {things : List α}
    (h : (things.map name).Nodup) {a : α} (ha : a ∈ things) :
    (things.find? fun b => name b = name a) = some a := by
  induction things with
  | nil => cases ha
  | cons b rest ih =>
    obtain ⟨hb, hrest⟩ := List.nodup_cons.1 h
    rcases List.mem_cons.1 ha with rfl | ha
    · simp
    · have hne : name b ≠ name a := fun heq => hb (heq ▸ List.mem_map_of_mem ha)
      rw [List.find?_cons_of_neg (by simpa using hne)]
      exact ih hrest ha

/-- Where no two functions have the same name, each is found under its own. -/
theorem getFunction?_of_mem {c : Collection} (h : (c.functions.map Function.name).Nodup)
    {f : Function} (hf : f ∈ c.functions) : c.getFunction? f.name = some f :=
  find?_of_nodup_names h hf

/-- The extension of the collection's script files, without the dot. -/
def fileExtension (c : Collection) : String :=
  match c.scripting.bind Scripting.fileExtension with
  | some extension => if extension.isEmpty then c.os.fileExtension else extension
  | none => c.os.fileExtension

end Collection

end Tweaks
