/-!
# Options

How words on a command line are sorted into options, with their values, and
operands.  An option has a long name behind two dashes and may have a short one
behind a single dash.  A value stands in the next word, or in the same one: behind
an equals sign for long names, and directly behind short ones, which may be
joined.  Behind two dashes alone everything is an operand.
-/

namespace Tweaks.Command

/-- An option: its names, without dashes, and whether it has a value. -/
structure Switch where
  short : Option Char
  long : String
  takesValue : Bool
deriving DecidableEq, Repr, Inhabited

/-- What is wrong with a command line. -/
inductive LineError where
  /-- It does not have the form that the command asks for. -/
  | misused
  /-- A value for an option that has none. -/
  | needlessValue (option : String)
  /-- An option at the end that needs a value. -/
  | missingValue (option : String)
  /-- A path that leads nowhere in any system. -/
  | unusablePath
deriving DecidableEq, Repr

/-- Options by their long names, with their values if they have one, and
operands. -/
structure Sorted where
  options : List (String × String)
  operands : List String
deriving DecidableEq, Repr, Inhabited

namespace Sorted

/-- More options in front. -/
def withOptions (s : Sorted) (options : List (String × String)) : Sorted :=
  { s with options := options ++ s.options }

/-- One more operand in front. -/
def withOperand (s : Sorted) (operand : String) : Sorted :=
  { s with operands := operand :: s.operands }

/-- Whether an option is given. -/
def has (s : Sorted) (name : String) : Bool :=
  s.options.any fun (other, _) => other = name

/-- All values of an option. -/
def values (s : Sorted) (name : String) : List String :=
  (s.options.filter fun (other, _) => other = name).map Prod.snd

/-- The value of an option.  Of several the last one counts. -/
def value? (s : Sorted) (name : String) : Option String :=
  (s.values name).getLast?

end Sorted

/-! ## Words -/

/-- What a word on a command line is. -/
inductive Word where
  /-- Two dashes, behind which everything is an operand. -/
  | dashes
  | operand
  /-- Options with their values, if they have one. -/
  | complete (options : List (String × String))
  /-- Options, and the long name of one more whose value is still to come.  The
  last text shows how that one was given. -/
  | wanting (options : List (String × String)) (long shown : String)
deriving DecidableEq, Repr

/-- The options behind a single dash.  `before` holds those that were read. -/
def ofLetters (switches : List Switch) (before : List (String × String)) :
    List Char → Except LineError Word
  | [] => .ok (.complete before)
  | c :: rest =>
    match switches.find? fun s => s.short = some c with
    | none => .error .misused
    | some s =>
      if !s.takesValue then ofLetters switches (before ++ [(s.long, "")]) rest
      else if rest.isEmpty then .ok (.wanting before s.long (String.ofList ['-', c]))
      else .ok (.complete (before ++ [(s.long, String.ofList rest)]))

/-- The value behind an equals sign, if there is one. -/
def attachedValue? (s : List Char) : Option String :=
  match s.dropWhile (· ≠ '=') with
  | [] => none
  | _ :: value => some (String.ofList value)

/-- The option behind two dashes. -/
def ofLongName (switches : List Switch) (s : List Char) : Except LineError Word :=
  let name := String.ofList (s.takeWhile (· ≠ '='))
  match switches.find? fun s => s.long = name with
  | none => .error .misused
  | some switch =>
    match attachedValue? s with
    | some value =>
      if switch.takesValue then .ok (.complete [(name, value)])
      else .error (.needlessValue ("--" ++ name))
    | none =>
      if switch.takesValue then .ok (.wanting [] name ("--" ++ name))
      else .ok (.complete [(name, "")])

/-- What a word is. -/
def ofWord (switches : List Switch) (word : String) : Except LineError Word :=
  match word.toList with
  | ['-', '-'] => .ok .dashes
  | '-' :: '-' :: s => ofLongName switches s
  | '-' :: c :: s => ofLetters switches [] (c :: s)
  | _ => .ok .operand

/-- Sorts words.  Unless options and operands may be mixed, the first operand ends
the options. -/
def sort (switches : List Switch) (mixed : Bool) : List String → Except LineError Sorted
  | [] => .ok ⟨[], []⟩
  | word :: rest =>
    match ofWord switches word with
    | .error e => .error e
    | .ok .dashes => .ok ⟨[], rest⟩
    | .ok .operand =>
      if mixed then (sort switches mixed rest).map (·.withOperand word)
      else .ok ⟨[], word :: rest⟩
    | .ok (.complete options) => (sort switches mixed rest).map (·.withOptions options)
    | .ok (.wanting options long shown) =>
      match rest with
      | [] => .error (.missingValue shown)
      | value :: rest =>
        (sort switches mixed rest).map (·.withOptions (options ++ [(long, value)]))

end Tweaks.Command
