import Tweaks.Banner.Expression

/-!
# Reading banner templates

How the segments of a source make up the pieces of a banner.  A tag that opens a piece is
followed by the piece's body up to the tag that closes it.
-/

namespace Tweaks.Banner

/-! ## Within tags -/

/-- How much work the expressions of a tag may take. -/
def tagFuel (s : List Lexeme) : Nat :=
  30 * s.length + 60

/-- How deep brackets may lie within each other in a tag that lies in no other piece. -/
def widestRoom : Nat := 970

/-- A tag of which everything has been read. -/
def ended (s : List Lexeme) : Except Flaw Unit :=
  match s with
  | [] => .ok ()
  | s => unread s

/-- A tag that opens a body, of which everything has been read but a colon. -/
def opened (s : List Lexeme) : Except Flaw Unit :=
  match s with
  | [.mark ":"] => .ok ()
  | s => ended s

/-- Reads an expression or several with commas between them. -/
def wholeTuple (room : Nat) (conditional : Bool) (stops : List String) (s : List Lexeme) :
    Except Flaw (Read Expr) := do
  let (items, isTuple, s) ← tupleItems (tagFuel s) room conditional stops s
  return (← tupleOf items isTuple s, s)

/-- What an expression in brackets stands for as a target. -/
def targetOf? : (fuel : Nat) → Expr → Option Target
  | 0, _ => none
  | _ + 1, .name name => some (.name name)
  | fuel + 1, .tuple items => (items.mapM (targetOf? fuel)).map .several
  | _ + 1, _ => none

/-- Reads a single target.  Where parts of objects are allowed it may be one. -/
def targetItem (room : Nat) (withParts : Bool) (s : List Lexeme) : Except Flaw (Read Target) :=
  match s with
  | .word name :: s =>
    if (constantWord? name).isSome then .error .malformed
    else
      match withParts, s with
      | true, .mark "." :: .word part :: s => .ok (.part name part, s)
      | true, .mark "." :: s => unread s
      | _, s => .ok (.name name, s)
  | .mark "(" :: _ => do
    let (e, s) ← primary (tagFuel s) room s
    match targetOf? (s.length + tagFuel s) e with
    | some target => return (target, s)
    | none => .error .malformed
  | s => unread s

/-- Reads targets with commas between them, and whether there is a comma. -/
def targetItems (room : Nat) (withParts : Bool) (stops : List String) :
    (fuel : Nat) → List Lexeme → Except Flaw (List Target × Bool × List Lexeme)
  | 0, _ => .error .malformed
  | fuel + 1, s =>
    if endsTuple stops s then .ok ([], false, s)
    else do
      let (target, s) ← targetItem room withParts s
      match s with
      | .mark "," :: s => do
        let (others, _, s) ← targetItems room withParts stops fuel s
        return (target :: others, true, s)
      | s => return ([target], false, s)

/-- Reads a target, be it several. -/
def wholeTarget (room : Nat) (withParts : Bool) (stops : List String) (s : List Lexeme) :
    Except Flaw (Read Target) := do
  let (targets, isTuple, s) ← targetItems room withParts stops (s.length + 1) s
  match targets, isTuple with
  | [target], false => return (target, s)
  | [], false => unread s
  | targets, _ => return (.several targets, s)

/-- Reads a name that something is given to. -/
def newName (s : List Lexeme) : Except Flaw (Read String) :=
  match s with
  | .word name :: s => if (constantWord? name).isSome then .error .malformed else .ok (name, s)
  | s => unread s

/-- Reads parameters up to the closing bracket.  Behind one with an expression for what is
not given all have to have one. -/
def parameters (room : Nat) : (fuel : Nat) → (optional : Bool) → List Lexeme →
    Except Flaw (Read Signature)
  | 0, _, _ => .error .malformed
  | fuel + 1, optional, s => do
    let (name, s) ← newName s
    let (e, s) : Option Expr × List Lexeme ← (match s with
      | .mark "=" :: s => do
        let (e, s) ← expression (tagFuel s) room s
        return (some e, s)
      | s => if optional then unread s else .ok (none, s))
    match s with
    | .mark "," :: s => do
      let (others, s) ← parameters room fuel e.isSome s
      return ((name, e) :: others, s)
    | s => return ([(name, e)], ← expectMark ")" s)

/-- Reads parameters in brackets. -/
def signature (room : Nat) (s : List Lexeme) : Except Flaw (Read Signature) := do
  let s ← expectMark "(" s
  if startsWithMark ")" s then return ([], s.tail)
  else parameters room (s.length + 1) false s

/-- Reads targets with what they stand for, with commas between them. -/
def bindings (room : Nat) : (fuel : Nat) → List Lexeme → Except Flaw (List (Target × Expr))
  | 0, _ => .error .malformed
  | fuel + 1, s => do
    let (target, s) ← wholeTarget room false [] s
    let s ← expectMark "=" s
    let (e, s) ← expression (tagFuel s) room s
    match s with
    | [] => return [(target, e)]
    | .mark "," :: s => return (target, e) :: (← bindings room fuel s)
    | s => unread s

/-- Reads expressions with commas between them up to the end of the tag. -/
def printed (room : Nat) : (fuel : Nat) → List Lexeme → Except Flaw (List Expr)
  | 0, _ => .error .malformed
  | fuel + 1, s => do
    let (e, s) ← expression (tagFuel s) room s
    match s with
    | [] => return [e]
    | .mark "," :: s => return e :: (← printed room fuel s)
    | s => unread s

/-- The lexemes behind words that say which names another template sees. -/
def behindContext (s : List Lexeme) : List Lexeme :=
  match s with
  | .word "with" :: .word "context" :: s => s
  | .word "without" :: .word "context" :: s => s
  | s => s

/-- Reads the names that are asked for from another template. -/
def askedNames : (fuel : Nat) → List Lexeme → Except Flaw Unit
  | 0, _ => .error .malformed
  | fuel + 1, s =>
    if (behindContext s).length < s.length then ended (behindContext s)
    else do
      let (name, s) ← newName s
      if name.startsWith "_" then .error .malformed
      else
        let s ← (match s with
          | .word "as" :: s => (newName s).map Prod.snd
          | s => .ok s)
        let behind := behindContext s
        match behind with
        | .mark "," :: rest =>
          if behind.length < s.length then .error .malformed else askedNames fuel rest
        | s => ended s

/-! ## Pieces -/

/-- What closed the body of a piece: the word of a tag, and the lexemes behind it.  There is
nothing at the end of the source. -/
abbrev Closing := Option (String × List Lexeme)

/-- Whether pieces are nothing but blanks. -/
def allBlank (body : List Piece) : Bool :=
  body.all fun p =>
    match p with
    | .text value => Text.isBlankText value
    | _ => false

mutual

/-- Reads pieces up to a tag with one of the given words, or up to the end of the source. -/
def pieces : (fuel room : Nat) → (stops : List String) → List Segment →
    Except Flaw (List Piece × Closing × List Segment)
  | 0, _, _, _ => .error .malformed
  | fuel + 1, room, stops, s =>
    match s with
    | [] => .ok ([], none, [])
    | .text value :: s => do
      let (rest, closing, s) ← pieces fuel room stops s
      return (.text (String.ofList value) :: rest, closing, s)
    | .output lexemes :: s => do
      let (e, lexemes) ← wholeTuple room true [] lexemes
      ended lexemes
      let (rest, closing, s) ← pieces fuel room stops s
      return (.output [e] :: rest, closing, s)
    | .block (.word word :: lexemes) :: s => do
      if stops.contains word then return ([], some (word, lexemes), s)
      else
        let (p, s) ← statement fuel (← bracketRoom 4 room) word lexemes s
        let (rest, closing, s) ← pieces fuel room stops s
        return (p :: rest, closing, s)
    | .block lexemes :: _ => unread lexemes

/-- Reads the piece that a tag opens. -/
def statement : (fuel room : Nat) → (word : String) → List Lexeme → List Segment →
    Except Flaw (Piece × List Segment)
  | 0, _, _, _, _ => .error .malformed
  | fuel + 1, room, word, lexemes, s =>
    match word with
    | "if" => do
      let (branches, otherwise, s) ← branches fuel room lexemes s
      return (.choice branches otherwise, s)
    | "for" => do
      let (target, lexemes) ← wholeTarget room false ["in"] lexemes
      match lexemes with
      | .word "in" :: lexemes => do
        let (items, lexemes) ← wholeTuple room false ["recursive"] lexemes
        let (condition, lexemes) ← (match lexemes with
          | .word "if" :: lexemes => do
            let (e, lexemes) ← expression (tagFuel lexemes) room lexemes
            return (some e, lexemes)
          | lexemes => .ok (none, lexemes))
        let (isOpen, lexemes) : Bool × List Lexeme := match lexemes with
          | .word "recursive" :: lexemes => (true, lexemes)
          | lexemes => (false, lexemes)
        opened lexemes
        let (body, closing, s) ← pieces fuel room ["endfor", "else"] s
        match closing with
        | some ("else", rest) => do
          opened rest
          let (empty, s) ← closedBody fuel room "endfor" s
          return (.loop target items condition isOpen body empty, s)
        | some (_, rest) => do
          ended rest
          return (.loop target items condition isOpen body [], s)
        | none => .error .malformed
      | lexemes => unread lexemes
    | "set" => do
      let (target, lexemes) ← wholeTarget room true [] lexemes
      match lexemes with
      | .mark "=" :: lexemes => do
        let (e, lexemes) ← wholeTuple room true [] lexemes
        ended lexemes
        return (.assign target e, s)
      | lexemes => do
        let (e, rest) ← filterChain (tagFuel lexemes) room .captured lexemes
        opened rest
        let (body, s) ← closedBody fuel room "endset" s
        return (.capture target (if rest.length = lexemes.length then none else some e) body, s)
    | "filter" => do
      let (e, lexemes) ← filterChain (tagFuel lexemes) room .captured (.mark "|" :: lexemes)
      opened lexemes
      let (body, s) ← closedBody fuel room "endfilter" s
      return (.filtered e body, s)
    | "with" => do
      let bindings ← (if lexemes.isEmpty then .ok []
        else bindings room (lexemes.length + 1) lexemes)
      let (body, s) ← closedBody fuel room "endwith" s
      return (.binding bindings body, s)
    | "block" =>
      match lexemes with
      | .word name :: lexemes => do
        let (isScoped, lexemes) : Bool × List Lexeme := match lexemes with
          | .word "scoped" :: lexemes => (true, lexemes)
          | lexemes => (false, lexemes)
        let (isRequired, lexemes) : Bool × List Lexeme := match lexemes with
          | .word "required" :: lexemes => (true, lexemes)
          | lexemes => (false, lexemes)
        opened lexemes
        let (body, closing, s) ← pieces fuel room ["endblock"] s
        match closing with
        | some (_, rest) => do
          ended (if rest.head? = some (.word name) then rest.tail else rest)
          if isRequired && !allBlank body then .error .malformed
          else return (.block name isScoped isRequired body, s)
        | none => .error .malformed
      | lexemes => unread lexemes
    | "macro" => do
      let (name, lexemes) ← newName lexemes
      let (parameters, lexemes) ← signature room lexemes
      opened lexemes
      let (body, s) ← closedBody fuel room "endmacro" s
      return (.routine name parameters body, s)
    | "call" => do
      let (parameters, lexemes) ← (if startsWithMark "(" lexemes then signature room lexemes
        else .ok ([], lexemes))
      let (e, lexemes) ← expression (tagFuel lexemes) room lexemes
      match e with
      | .call e arguments => do
        opened lexemes
        let (body, s) ← closedBody fuel room "endcall" s
        return (.calling parameters e arguments body, s)
      | _ => unread lexemes
    | "autoescape" => do
      let (e, lexemes) ← expression (tagFuel lexemes) room lexemes
      opened lexemes
      let (body, s) ← closedBody fuel room "endautoescape" s
      return (.escaping e body, s)
    | "print" => do
      if lexemes.isEmpty then return (.output [], s)
      else return (.output (← printed room (lexemes.length + 1) lexemes), s)
    | "include" => do
      let (e, lexemes) ← expression (tagFuel lexemes) room lexemes
      let (isOptional, lexemes) : Bool × List Lexeme := match lexemes with
        | .word "ignore" :: .word "missing" :: lexemes => (true, lexemes)
        | lexemes => (false, lexemes)
      ended (behindContext lexemes)
      return (.foreign (.text isOptional) e, s)
    | "import" => do
      let (e, lexemes) ← expression (tagFuel lexemes) room lexemes
      match lexemes with
      | .word "as" :: lexemes => do
        let (_, lexemes) ← newName lexemes
        ended (behindContext lexemes)
        return (.foreign .names e, s)
      | lexemes => unread lexemes
    | "from" => do
      let (e, lexemes) ← expression (tagFuel lexemes) room lexemes
      match lexemes with
      | .word "import" :: lexemes => do
        askedNames (lexemes.length + 1) lexemes
        return (.foreign .names e, s)
      | lexemes => unread lexemes
    | "extends" => do
      let (e, lexemes) ← expression (tagFuel lexemes) room lexemes
      ended lexemes
      return (.foreign .frame e, s)
    | _ => .error .malformed

/-- Reads the branches of a choice, of which the first condition is given. -/
def branches : (fuel room : Nat) → List Lexeme → List Segment →
    Except Flaw (List (Expr × List Piece) × List Piece × List Segment)
  | 0, _, _, _ => .error .malformed
  | fuel + 1, room, lexemes, s => do
    let (condition, lexemes) ← wholeTuple room false [] lexemes
    opened lexemes
    let (body, closing, s) ← pieces fuel room ["elif", "else", "endif"] s
    match closing with
    | some ("elif", lexemes) => do
      let (others, otherwise, s) ← branches fuel room lexemes s
      return ((condition, body) :: others, otherwise, s)
    | some ("else", rest) => do
      opened rest
      let (otherwise, s) ← closedBody fuel room "endif" s
      return ([(condition, body)], otherwise, s)
    | some (_, rest) => do
      ended rest
      return ([(condition, body)], [], s)
    | none => .error .malformed

/-- Reads pieces up to a closing tag. -/
def closedBody : (fuel room : Nat) → (close : String) → List Segment →
    Except Flaw (List Piece × List Segment)
  | 0, _, _, _ => .error .malformed
  | fuel + 1, room, close, s => do
    let (body, closing, s) ← pieces fuel room [close] s
    match closing with
    | some (_, rest) => do
      ended rest
      return (body, s)
    | none => .error .malformed

end

/-- The banner that a source spells, as far as its own rules go. -/
def parse (source : String) : Except Flaw Banner :=
  match segments? source with
  | none => .error .malformed
  | some s => (pieces (4 * s.length + 4) widestRoom [] s).map Prod.fst

end Tweaks.Banner
