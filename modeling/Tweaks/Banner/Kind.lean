import Tweaks.Banner.World

/-!
# Kinds

The kinds of values by their names, the wider kinds that each of them belongs to, and what
values of a kind can be asked for by name.
-/

namespace Tweaks.Banner

/-! ## Names -/

/-- The name of a kind. -/
def Kind.name : Kind → String
  | .none => "NoneType"
  | .truth => "bool"
  | .number => "int"
  | .decimal => "float"
  | .complex => "complex"
  | .text => "str"
  | .markup => "Markup"
  | .bytes => "bytes"
  | .tuple => "tuple"
  | .group => "_GroupTuple"
  | .range => "range"
  | .list => "list"
  | .mapping => "dict"
  | .set => "set"
  | .view .keys => "dict_keys"
  | .view .values => "dict_values"
  | .view .entries => "dict_items"
  | .proxy => "mappingproxy"
  | .kind => "type"
  | .anything => "object"
  | .alias => "GenericAlias"
  | .cycle => "Cycler"
  | .separator => "Joiner"
  | .record => "Namespace"
  | .round => "LoopContext"
  | .routine => "Macro"
  | .banner => "TemplateReference"
  | .block => "BlockReference"
  | .missing lenient => if lenient then "Undefined" else "StrictUndefined"
  | .other name => name

/-- Where a kind is at home. -/
def Kind.home : Kind → String
  | .markup => "markupsafe"
  | .group => "jinja2.filters"
  | .cycle | .separator | .record => "jinja2.utils"
  | .round | .routine | .banner | .block | .missing _ => "jinja2.runtime"
  | .alias => "types"
  | _ => "builtins"

/-- The name of a kind with its home, unless this is understood. -/
def Kind.fullName (k : Kind) : String :=
  if k.home = "builtins" then k.name else k.home ++ "." ++ k.name

/-! ## Wider kinds -/

/-- The wider kinds to which the values of a kind belong, but for the widest one. -/
def Kind.wider : Kind → List Kind
  | .truth => [.number]
  | .markup => [.text]
  | .group => [.tuple]
  | .missing false => [.missing true]
  | _ => []

/-- The kinds to which the values of a kind belong, the kind itself before wider ones. -/
def Kind.line (k : Kind) : List Kind :=
  if k = .anything then [k] else k :: k.wider ++ [.anything]

/-! ## What can be asked for -/

/-- The names by which the values of a kind, or the kind itself, can be asked, with blanks
between them. -/
structure Holdings where
  /-- What values do. -/
  methods : String
  /-- What values do where signs of operations or other words ask for it. -/
  slots : String
  /-- What the kind itself does. -/
  shared : String
  /-- What values have. -/
  fields : String
  /-- What values are made of. -/
  members : String
deriving Repr, Inhabited

/-- What belongs to the values of a kind by themselves, not through a wider one. -/
def Kind.own : Kind → Holdings
  | .none => ⟨
    "",
    "__bool__ __repr__",
    "__new__",
    "",
    ""⟩
  | .truth => ⟨
    "",
    "__and__ __or__ __rand__ __repr__ __ror__ __rxor__ __xor__",
    "__new__",
    "",
    ""⟩
  | .number => ⟨
    "__ceil__ __floor__ __format__ __getnewargs__ __round__ __sizeof__ __trunc__ " ++
      "as_integer_ratio bit_count bit_length conjugate to_bytes",
    "__abs__ __add__ __and__ __bool__ __divmod__ __eq__ __float__ __floordiv__ __ge__ " ++
      "__getattribute__ __gt__ __hash__ __index__ __int__ __invert__ __le__ __lshift__ " ++
      "__lt__ __mod__ __mul__ __ne__ __neg__ __or__ __pos__ __pow__ __radd__ __rand__ " ++
      "__rdivmod__ __repr__ __rfloordiv__ __rlshift__ __rmod__ __rmul__ __ror__ __rpow__ " ++
      "__rrshift__ __rshift__ __rsub__ __rtruediv__ __rxor__ __sub__ __truediv__ __xor__",
    "__new__ from_bytes",
    "denominator imag numerator real",
    ""⟩
  | .decimal => ⟨
    "__ceil__ __floor__ __format__ __getnewargs__ __round__ __trunc__ as_integer_ratio " ++
      "conjugate hex is_integer",
    "__abs__ __add__ __bool__ __divmod__ __eq__ __float__ __floordiv__ __ge__ " ++
      "__getattribute__ __gt__ __hash__ __int__ __le__ __lt__ __mod__ __mul__ __ne__ " ++
      "__neg__ __pos__ __pow__ __radd__ __rdivmod__ __repr__ __rfloordiv__ __rmod__ " ++
      "__rmul__ __rpow__ __rsub__ __rtruediv__ __sub__ __truediv__",
    "__getformat__ __new__ fromhex",
    "imag real",
    ""⟩
  | .complex => ⟨
    "__complex__ __format__ __getnewargs__ conjugate",
    "__abs__ __add__ __bool__ __eq__ __ge__ __getattribute__ __gt__ __hash__ __le__ " ++
      "__lt__ __mul__ __ne__ __neg__ __pos__ __pow__ __radd__ __repr__ __rmul__ __rpow__ " ++
      "__rsub__ __rtruediv__ __sub__ __truediv__",
    "__new__",
    "",
    "imag real"⟩
  | .text => ⟨
    "__format__ __getnewargs__ __sizeof__ capitalize casefold center count encode " ++
      "endswith expandtabs find format format_map index isalnum isalpha isascii isdecimal " ++
      "isdigit isidentifier islower isnumeric isprintable isspace istitle isupper join " ++
      "ljust lower lstrip partition removeprefix removesuffix replace rfind rindex rjust " ++
      "rpartition rsplit rstrip split splitlines startswith strip swapcase title translate " ++
      "upper zfill",
    "__add__ __contains__ __eq__ __ge__ __getattribute__ __getitem__ __gt__ __hash__ " ++
      "__iter__ __le__ __len__ __lt__ __mod__ __mul__ __ne__ __repr__ __rmod__ __rmul__ " ++
      "__str__",
    "__new__ maketrans",
    "",
    ""⟩
  | .bytes => ⟨
    "__bytes__ __getnewargs__ capitalize center count decode endswith expandtabs find " ++
      "hex index isalnum isalpha isascii isdigit islower isspace istitle isupper join " ++
      "ljust lower lstrip partition removeprefix removesuffix replace rfind rindex rjust " ++
      "rpartition rsplit rstrip split splitlines startswith strip swapcase title translate " ++
      "upper zfill",
    "__add__ __contains__ __eq__ __ge__ __getattribute__ __getitem__ __gt__ __hash__ " ++
      "__iter__ __le__ __len__ __lt__ __mod__ __mul__ __ne__ __repr__ __rmod__ __rmul__ " ++
      "__str__",
    "__new__ fromhex maketrans",
    "",
    ""⟩
  | .tuple => ⟨
    "__getnewargs__ count index",
    "__add__ __contains__ __eq__ __ge__ __getattribute__ __getitem__ __gt__ __hash__ " ++
      "__iter__ __le__ __len__ __lt__ __mul__ __ne__ __repr__ __rmul__",
    "__class_getitem__ __new__",
    "",
    ""⟩
  | .range => ⟨
    "__reduce__ __reversed__ count index",
    "__bool__ __contains__ __eq__ __ge__ __getattribute__ __getitem__ __gt__ __hash__ " ++
      "__iter__ __le__ __len__ __lt__ __ne__ __repr__",
    "__new__",
    "",
    "start step stop"⟩
  | .list => ⟨
    "__getitem__ __reversed__ __sizeof__ append clear copy count extend index insert pop " ++
      "remove reverse sort",
    "__add__ __contains__ __delitem__ __eq__ __ge__ __getattribute__ __gt__ __iadd__ " ++
      "__imul__ __init__ __iter__ __le__ __len__ __lt__ __mul__ __ne__ __repr__ __rmul__ " ++
      "__setitem__",
    "__class_getitem__ __new__",
    "",
    ""⟩
  | .mapping => ⟨
    "__contains__ __getitem__ __reversed__ __sizeof__ clear copy get items keys pop " ++
      "popitem setdefault update values",
    "__delitem__ __eq__ __ge__ __getattribute__ __gt__ __init__ __ior__ __iter__ __le__ " ++
      "__len__ __lt__ __ne__ __or__ __repr__ __ror__ __setitem__",
    "__class_getitem__ __new__ fromkeys",
    "",
    ""⟩
  | .set => ⟨
    "__contains__ __reduce__ __sizeof__ add clear copy difference difference_update " ++
      "discard intersection intersection_update isdisjoint issubset issuperset pop remove " ++
      "symmetric_difference symmetric_difference_update union update",
    "__and__ __eq__ __ge__ __getattribute__ __gt__ __iand__ __init__ __ior__ __isub__ " ++
      "__iter__ __ixor__ __le__ __len__ __lt__ __ne__ __or__ __rand__ __repr__ __ror__ " ++
      "__rsub__ __rxor__ __sub__ __xor__",
    "__class_getitem__ __new__",
    "",
    ""⟩
  | .view .keys => ⟨
    "__reversed__ isdisjoint",
    "__and__ __contains__ __eq__ __ge__ __getattribute__ __gt__ __iter__ __le__ __len__ " ++
      "__lt__ __ne__ __or__ __rand__ __repr__ __ror__ __rsub__ __rxor__ __sub__ __xor__",
    "",
    "mapping",
    ""⟩
  | .view .values => ⟨
    "__reversed__",
    "__getattribute__ __iter__ __len__ __repr__",
    "",
    "mapping",
    ""⟩
  | .view .entries => ⟨
    "__reversed__ isdisjoint",
    "__and__ __contains__ __eq__ __ge__ __getattribute__ __gt__ __iter__ __le__ __len__ " ++
      "__lt__ __ne__ __or__ __rand__ __repr__ __ror__ __rsub__ __rxor__ __sub__ __xor__",
    "",
    "mapping",
    ""⟩
  | .proxy => ⟨
    "__reversed__ copy get items keys values",
    "__contains__ __eq__ __ge__ __getattribute__ __getitem__ __gt__ __ior__ __iter__ " ++
      "__le__ __len__ __lt__ __ne__ __or__ __repr__ __ror__ __str__",
    "__class_getitem__ __new__",
    "",
    ""⟩
  | .kind => ⟨
    "__dir__ __instancecheck__ __sizeof__ __subclasscheck__ __subclasses__ mro",
    "__call__ __delattr__ __getattribute__ __init__ __or__ __repr__ __ror__ __setattr__",
    "__new__ __prepare__",
    "__abstractmethods__ __annotations__ __bases__ __dict__ __module__ __name__ " ++
      "__qualname__ __text_signature__",
    "__base__ __basicsize__ __dictoffset__ __flags__ __itemsize__ __mro__ " ++
      "__weakrefoffset__"⟩
  | .anything => ⟨
    "__dir__ __format__ __getstate__ __reduce__ __reduce_ex__ __sizeof__",
    "__delattr__ __eq__ __ge__ __getattribute__ __gt__ __hash__ __init__ __le__ __lt__ " ++
      "__ne__ __repr__ __setattr__ __str__",
    "__init_subclass__ __new__ __subclasshook__",
    "__class__",
    ""⟩
  | .alias => ⟨
    "__dir__ __instancecheck__ __mro_entries__ __reduce__ __subclasscheck__",
    "__call__ __eq__ __ge__ __getattribute__ __getitem__ __gt__ __hash__ __iter__ __le__ " ++
      "__lt__ __ne__ __or__ __repr__ __ror__",
    "__new__",
    "__parameters__ __typing_unpacked_tuple_args__",
    "__args__ __origin__ __unpacked__"⟩
  | .markup => ⟨
    "__html__ __html_format__ capitalize casefold center expandtabs format format_map join " ++
      "ljust lower lstrip partition removeprefix removesuffix replace rjust rpartition rsplit " ++
      "rstrip split splitlines strip striptags swapcase title translate unescape upper zfill",
    "__add__ __getitem__ __mod__ __mul__ __radd__ __repr__ __rmul__",
    "__new__ escape", "__dict__", ""⟩
  | .group => ⟨"_asdict _replace", "__repr__ __str__", "_make __new__", "grouper list", ""⟩
  | .cycle => ⟨"next reset", "__init__ __next__", "", "current __dict__ __weakref__", ""⟩
  | .separator => ⟨"", "__init__ __call__", "", "__dict__ __weakref__", ""⟩
  | .record => ⟨"", "__init__ __getattribute__ __setitem__ __repr__", "", "__dict__", ""⟩
  | .round => ⟨
    "cycle changed _peek_next _to_iterator",
    "__init__ __len__ __iter__ __next__ __call__ __repr__", "",
    "depth first index last length nextitem previtem revindex revindex0 __dict__ __weakref__", ""⟩
  | .routine => ⟨"", "__init__ __call__ __repr__", "", "__dict__ __weakref__", ""⟩
  | .banner => ⟨"", "__init__ __getitem__ __repr__", "", "__dict__ __weakref__", ""⟩
  | .block => ⟨"", "__init__ __call__", "", "super __dict__ __weakref__", ""⟩
  | .missing true => ⟨
    "_fail_with_undefined_error",
    "__init__ __getattr__ __add__ __radd__ __sub__ __rsub__ __mul__ __rmul__ __div__ __rdiv__ " ++
      "__truediv__ __rtruediv__ __floordiv__ __rfloordiv__ __mod__ __rmod__ __pos__ __neg__ " ++
      "__call__ __getitem__ __lt__ __le__ __gt__ __ge__ __int__ __float__ __complex__ __pow__ " ++
      "__rpow__ __eq__ __ne__ __hash__ __str__ __len__ __iter__ __aiter__ __bool__ __repr__",
    "", "_undefined_message", ""⟩
  | .missing false =>
    ⟨"", "__iter__ __str__ __len__ __eq__ __ne__ __bool__ __hash__", "", "", ""⟩
  | .other "generator" => ⟨
    "__sizeof__ close send throw", "__del__ __getattribute__ __iter__ __next__ __repr__", "",
    "__name__ __qualname__ gi_frame gi_running gi_suspended gi_yieldfrom", "gi_code"⟩
  | .other name =>
    if "iterator".toList.isSuffixOf name.toList || name = "reversed" then
      ⟨"__length_hint__ __reduce__", "__getattribute__ __iter__ __next__", "", "", ""⟩
    else if name = "NotImplementedType" then
      ⟨"__reduce__", "__bool__ __repr__", "__new__", "", ""⟩
    else ⟨"__reduce__", "__call__ __get__ __repr__", "",
      "__name__ __qualname__ __module__ __self__ __objclass__", ""⟩

/-- How a name belongs to the values of a kind. -/
inductive Trait where
  | method
  | slot
  | shared
  | field
  | member
deriving DecidableEq, Repr

/-- Whether a name is among others with blanks between them. -/
def isListed (name names : String) : Bool :=
  (names.splitOn " ").contains name

/-- How a name belongs to the values of a kind by themselves, if it does. -/
def Kind.ownTrait? (k : Kind) (name : String) : Option Trait :=
  let own := k.own
  if isListed name own.methods then some .method
  else if isListed name own.slots then some .slot
  else if isListed name own.shared then some .shared
  else if isListed name own.fields then some .field
  else if isListed name own.members then some .member
  else Option.none

/-- How a name belongs to the values of a kind, and through which kind. -/
def Kind.trait? (k : Kind) (name : String) : Option (Kind × Trait) :=
  k.line.findSome? fun owner => (owner.ownTrait? name).map fun t => (owner, t)

/-- Whether the values of a kind are put together from pieces of banners, rather than being
simple. -/
def Kind.isWoven : Kind → Bool
  | .markup | .group | .cycle | .separator | .record | .round | .routine | .banner | .block
  | .missing _ => true
  | _ => false

/-! ## The kind of a value -/

/-- The kind of what a value does when it is asked by a name. -/
def methodKind (owner : Kind) (name : String) : Kind :=
  match owner.trait? name with
  | some (k, t) =>
    if k.isWoven then .other "method"
    else if t = .slot then .other "method-wrapper"
    else .other "builtin_function_or_method"
  | none => .other "method"

/-- The kind of a value. -/
def kindOf (w : World) : Value → Kind
  | .none => .none
  | .truth _ => .truth
  | .number _ => .number
  | .decimal _ => .decimal
  | .complex _ => .complex
  | .text _ => .text
  | .markup _ => .markup
  | .bytes _ => .bytes
  | .tuple _ => .tuple
  | .group _ _ => .group
  | .range _ _ _ => .range
  | .list _ => .list
  | .mapping _ => .mapping
  | .set _ => .set
  | .view view _ _ => .view view
  | .proxy _ => .proxy
  | .object place =>
    match w.objectAt place with
    | .record _ => .record
    | .cycle _ _ => .cycle
    | .separator _ _ => .separator
    | .supply kind _ => .other kind
    | .round _ => .round
    | .routine _ => .routine
  | .kind _ => .kind
  | .alias _ _ => .alias
  | .function _ => .other "function"
  | .method name owner _ => methodKind (kindOf w owner) name
  | .unbound k name =>
    if k.isWoven then .other "function"
    else if k.ownTrait? name = some .slot then .other "wrapper_descriptor"
    else .other "method_descriptor"
  | .field k name =>
    if k.isWoven then .other "property"
    else if k.ownTrait? name = some .member then .other "member_descriptor"
    else .other "getset_descriptor"
  | .banner => .banner
  | .block _ => .block
  | .unsupported => .other "NotImplementedType"
  | .missing lenient => .missing lenient

end Tweaks.Banner
