import Tweaks.Calendar
import Tweaks.Decimal.Shortest

/-!
# Documents

A decoded document: a tree of scalars, lists and mappings.  The entries of a
mapping stand in the order in which they were written, and no two have the same
key.

A document may lead to itself.  The tree has the enclosing list or mapping once
more at such a place, and marks the second time where reading on would not end.
With every list and mapping that leads to itself there goes what can be seen of
it from there.

Two scalars may count as the same key of a mapping.  Numbers are equal by value,
whatever their kind, and truth values count as one and zero; moments are equal
when they are the same moment.

Main results:

- `sizeOf_lt_of_items`, `sizeOf_lt_of_entries`: parts are smaller than the whole.
-/

namespace Tweaks

/-- A decoded document. -/
inductive Document where
  | null
  | bool (value : Bool)
  | int (value : Int)
  | float (value : Float)
  | text (value : String)
  | bytes (value : List UInt8)
  | date (value : Date)
  | moment (value : Moment)
  | list (items : List Document)
  | mapping (entries : List (Document × Document))
  | set (items : List Document)
  | pair (first second : Document)
  /-- A list or mapping that leads to itself, as it is seen from there, and as it is read. -/
  | looped (view content : Document)
  /-- An enclosing list, where it is not gone through any more. -/
  | endlessList
  /-- An enclosing mapping, where it is not gone through any more. -/
  | endlessMapping
deriving Repr, Inhabited

/-- The entries of a mapping. -/
abbrev Entries := List (Document × Document)

namespace Document

/-- A list's items, be it one that leads to itself. -/
def items? : Document → Option (List Document)
  | list items => some items
  | looped _ (list items) => some items
  | _ => none

/-- A mapping's entries, be it one that leads to itself. -/
def entries? : Document → Option Entries
  | mapping entries => some entries
  | looped _ (mapping entries) => some entries
  | _ => none

/-- Whether reading a document would not end. -/
def isEndless : Document → Bool
  | endlessList => true
  | endlessMapping => true
  | looped _ content => content.isEndless
  | _ => false

/-- The items of a list are smaller than the list. -/
theorem sizeOf_lt_of_items {d : Document} {items : List Document} (h : d.items? = some items) :
    sizeOf items < sizeOf d := by
  unfold items? at h
  split at h <;> cases h
  · simp
  · simp; omega

/-- The entries of a mapping are smaller than the mapping. -/
theorem sizeOf_lt_of_entries {d : Document} {entries : Entries}
    (h : d.entries? = some entries) : sizeOf entries < sizeOf d := by
  unfold entries? at h
  split at h <;> cases h
  · simp
  · simp; omega

/-- The name of a document's kind, as messages give it. -/
def kind : Document → String
  | null => "NoneType"
  | bool _ => "bool"
  | int _ => "int"
  | float _ => "float"
  | text _ => "str"
  | bytes _ => "bytes"
  | date _ => "date"
  | moment _ => "datetime"
  | list _ => "list"
  | mapping _ => "dict"
  | set _ => "set"
  | pair _ _ => "tuple"
  | looped _ content => content.kind
  | endlessList => "list"
  | endlessMapping => "dict"

/-- Whether a document counts as nothing: null, false, zero and everything that
is empty. -/
def isFalsy : Document → Bool
  | null => true
  | bool value => !value
  | int value => value = 0
  | float value => value == 0.0
  | text value => value.isEmpty
  | bytes value => value.isEmpty
  | list items => items.isEmpty
  | mapping entries => entries.isEmpty
  | set items => items.isEmpty
  | _ => false

/-- Whether a document is null. -/
def isNull : Document → Bool
  | null => true
  | _ => false

/-- Whether a document is the given text. -/
def isText (name : String) : Document → Bool
  | text value => value = name
  | _ => false

end Document

/-- The value under a text as key. -/
def Entries.get? (entries : Entries) (name : String) : Option Document :=
  match entries with
  | [] => none
  | (key, value) :: entries => if key.isText name then some value else get? entries name

/-- The value under a key, unless it is null. -/
def Entries.present? (entries : Entries) (name : String) : Option Document :=
  (entries.get? name).filter fun value => !value.isNull

namespace Entries

/-- What is found under a key belongs to one of the entries. -/
theorem mem_of_get? {entries : Entries} {name : String} {value : Document}
    (h : entries.get? name = some value) : ∃ key, (key, value) ∈ entries := by
  fun_induction get? entries name with
  | case1 => cases h
  | case2 key v entries hk => cases h; exact ⟨key, by simp⟩
  | case3 key v entries hk ih =>
    obtain ⟨k, hk⟩ := ih h
    exact ⟨k, by simp [hk]⟩

/-- A value that is present is smaller than the entries it was found in. -/
theorem sizeOf_lt_of_get? {entries : Entries} {name : String} {value : Document}
    (h : entries.get? name = some value) : sizeOf value < sizeOf entries := by
  obtain ⟨key, hmem⟩ := mem_of_get? h
  have := List.sizeOf_lt_of_mem hmem
  simp at this
  omega

/-- A value that is present is found under its key and is not null. -/
theorem present?_eq_some {entries : Entries} {name : String} {value : Document} :
    entries.present? name = some value ↔
      entries.get? name = some value ∧ value.isNull = false := by
  simp [present?, Option.filter_eq_some_iff]

end Entries

namespace Document

/-! ## Equal keys -/

-- Powers of whole numbers are those of the core library.
attribute [local instance (5000)] instPowNat

/-- Whether a double is exactly the given integer. -/
def floatIsInt (x : Float) (n : Int) : Bool :=
  if x.isNaN || x.isInf then false
  else
    let magnitude := Decimal.Dyadic.ofBits x.toBits
    let negative := x.toBits >>> 63 = 1
    (magnitude.mantissa = 0 || negative = (n < 0)) &&
      (if 0 ≤ magnitude.exponent then
        magnitude.mantissa * 2 ^ magnitude.exponent.toNat = n.natAbs
      else magnitude.mantissa = n.natAbs * 2 ^ (-magnitude.exponent).toNat)

/-- An integer or truth value as an integer. -/
def integer? : Document → Option Int
  | bool value => some (if value then 1 else 0)
  | int value => some value
  | _ => none

/-- Whether two scalars count as the same key. -/
def sameKey (d e : Document) : Bool :=
  match d.integer?, e.integer? with
  | some m, some n => m = n
  | some n, none =>
    match e with
    | float x => floatIsInt x n
    | _ => false
  | none, some n =>
    match d with
    | float x => floatIsInt x n
    | _ => false
  | none, none =>
    match d, e with
    | null, null => true
    | float x, float y => x == y
    | text s, text t => s = t
    | bytes s, bytes t => s = t
    | date a, date b => a = b
    | moment a, moment b => a.same b
    | _, _ => false

end Document

end Tweaks
