import Tweaks.Resolution.Expansion

/-!
# Resolving with a memo

Resolves calls one step at a time, with the functions that are being resolved on
a stack of frames, and keeps what a function with given values resolved to.
Depth of calls costs frames and no recursion, and nothing is resolved twice.

Main results:

- `length_calls_le`: how many calls a function of a collection has at most.
- `weight_push_lt`, `weight_take_lt`, `Frame.weight_pos`: entering a call, taking a known
  result and finishing a function make the stack lighter, so the machine stops.
-/

namespace Tweaks.Resolution

-- Powers of whole numbers are those of the core library.
attribute [local instance (5000)] instPowNat
-- Sums of whole numbers start with the literal zero.
attribute [local instance (5000)] Zero.ofOfNat0

/-- What functions with given values resolved to, the latest first. -/
abbrev Memo := List ((String × Template.Values) × Resolved)

/-- What a function with given values resolved to, if that is known. -/
def Memo.find? (memo : Memo) (function : String) (values : Template.Values) :
    Option Resolved :=
  memo.lookup (function, values)

/-- A function that is being resolved. -/
structure Frame where
  function : Function
  values : Template.Values
  /-- The functions being resolved, from the outermost to this one. -/
  stack : List String
  /-- The calls that are still to be resolved. -/
  pending : List Call
  /-- What the calls before them resolved to, the latest first. -/
  results : List Resolved
deriving DecidableEq, Repr

/-- A call that is known, or the frame to resolve it in. -/
inductive Entry where
  | known (result : Resolved)
  | frame (frame : Frame)
deriving DecidableEq, Repr

/-- Looks up the called function and binds its arguments. -/
def enter (c : Collection) (memo : Memo) (scope : List String) (call : Call) :
    Except Failure Entry :=
  match c.getFunction? call.function with
  | none => .error (.error (.unknownFunction call.function))
  | some f =>
    if f.name ∈ scope then .error (.error (.cyclicCall (cycleFrom scope f.name)))
    else do
      let values ← bindArguments f call.arguments
      match memo.find? f.name values with
      | some result => return .known result
      | none => return .frame ⟨f, values, scope ++ [f.name], f.calls, []⟩

/-- The codes of a function whose calls are all resolved. -/
def finish (registry : Template.Registry) (frame : Frame) : Except Failure Resolved :=
  if frame.function.calls.isEmpty then leaf registry frame.function frame.values
  else .ok (merge frame.results.reverse)

/-- A frame with one more result. -/
def Frame.add (frame : Frame) (result : Resolved) : Frame :=
  { frame with results := result :: frame.results }

/-- A frame with its next call taken. -/
def Frame.take (frame : Frame) (pending : List Call) : Frame :=
  { frame with pending }

/-! ## The machine stops -/

/-- The greatest number of calls in a function of the collection. -/
def maxCalls (c : Collection) : Nat :=
  c.functions.foldr (fun f n => max f.calls.length n) 0

/-- No function of the collection has more calls than that. -/
theorem length_calls_le {c : Collection} {f : Function} (h : f ∈ c.functions) :
    f.calls.length ≤ maxCalls c := by
  unfold maxCalls
  generalize c.functions = functions at h
  induction functions with
  | nil => cases h
  | cons g functions ih =>
    rcases List.mem_cons.1 h with rfl | h
    · exact Nat.le_max_left _ _
    · exact Nat.le_trans (ih h) (Nat.le_max_right _ _)

/-- The weight of a frame: what it may still ask for, the more the fewer functions
are on its stack. -/
def Frame.weight (c : Collection) (frame : Frame) : Nat :=
  (frame.pending.length + 1) * (maxCalls c + 2) ^ unvisited c frame.stack

/-- The weight of a stack of frames. -/
def weight (c : Collection) (frames : List Frame) : Nat :=
  (frames.map (Frame.weight c)).sum

@[simp]
theorem weight_cons (c : Collection) (frame : Frame) (frames : List Frame) :
    weight c (frame :: frames) = frame.weight c + weight c frames := rfl

@[simp]
theorem weight_add (c : Collection) (frame : Frame) (result : Resolved) :
    (frame.add result).weight c = frame.weight c := rfl

/-- Every frame weighs something. -/
theorem Frame.weight_pos (c : Collection) (frame : Frame) : 0 < frame.weight c :=
  Nat.mul_pos (Nat.succ_pos _) (Nat.pow_pos (Nat.succ_pos _))

/-- A frame with its next call taken weighs less. -/
theorem weight_take_lt (c : Collection) {frame : Frame} {call : Call} {pending : List Call}
    (h : frame.pending = call :: pending) : (frame.take pending).weight c < frame.weight c := by
  have := Nat.pow_pos (n := unvisited c frame.stack) (Nat.succ_pos (maxCalls c + 1))
  simp only [Frame.weight, Frame.take, h, List.length_cons]
  exact Nat.mul_lt_mul_of_pos_right (Nat.lt_succ_self _) this

/-- A frame that is entered belongs to a function of the collection that was not
on the stack, and has all its calls before it. -/
theorem frame_of_enter {c : Collection} {memo : Memo} {scope : List String} {call : Call}
    {child : Frame} (h : enter c memo scope call = .ok (.frame child)) :
    child.function ∈ c.functions ∧ child.function.name ∉ scope ∧
      child.stack = scope ++ [child.function.name] ∧
      child.pending = child.function.calls := by
  simp only [enter] at h
  split at h
  · cases h
  · next f hf =>
    split at h
    · cases h
    · next hscope =>
      simp only [bind, Except.bind, pure, Except.pure] at h
      split at h
      · cases h
      · split at h
        · cases h
        · cases h
          exact ⟨c.mem_of_getFunction? hf, hscope, rfl, rfl⟩

/-- A frame that is entered weighs less than a function more to enter does. -/
theorem weight_enter_lt {c : Collection} {memo : Memo} {scope : List String} {call : Call}
    {child : Frame} (h : enter c memo scope call = .ok (.frame child)) :
    child.weight c < (maxCalls c + 2) ^ unvisited c scope := by
  obtain ⟨hmem, hnot, hstack, hpending⟩ := frame_of_enter h
  have hless := unvisited_snoc_lt hmem hnot
  have hcalls := length_calls_le hmem
  have hpow : (maxCalls c + 2) ^ (unvisited c child.stack + 1) ≤
      (maxCalls c + 2) ^ unvisited c scope :=
    Nat.pow_le_pow_right (by omega) (by rw [hstack]; omega)
  refine Nat.lt_of_lt_of_le ?_ hpow
  rw [Nat.pow_succ, Frame.weight, hpending, Nat.mul_comm]
  exact Nat.mul_lt_mul_of_pos_left (by omega) (Nat.pow_pos (Nat.succ_pos _))

/-- Entering a call makes the stack lighter: the caller has one call less, and
the frame on top of it weighs less than that call did. -/
theorem weight_push_lt {c : Collection} {memo : Memo} {frame child : Frame} {call inner : Call}
    {pending : List Call} (h : frame.pending = call :: pending)
    (h' : enter c memo frame.stack inner = .ok (.frame child)) :
    child.weight c + (frame.take pending).weight c < frame.weight c := by
  have hchild := weight_enter_lt h'
  have hframe : frame.weight c =
      (frame.take pending).weight c + (maxCalls c + 2) ^ unvisited c frame.stack := by
    simp only [Frame.weight, Frame.take, h, List.length_cons]
    rw [Nat.add_mul (pending.length + 1)]
    simp
  omega

/-- Runs the machine with the given frame on top of the others. -/
def run (c : Collection) (registry : Template.Registry) (memo : Memo) (top : Frame)
    (below : List Frame) : Except Failure Resolved × Memo :=
  match _h : top.pending with
  | [] =>
    match finish registry top with
    | .error e => (.error e, memo)
    | .ok result =>
      let memo := ((top.function.name, top.values), result) :: memo
      match below with
      | [] => (.ok result, memo)
      | parent :: rest => run c registry memo (parent.add result) rest
  | call :: pending =>
    match fillArguments registry top.function top.values call.arguments with
    | .error e => (.error e, memo)
    | .ok arguments =>
      match _h' : enter c memo top.stack ⟨call.function, arguments⟩ with
      | .error e => (.error e, memo)
      | .ok (.known result) => run c registry memo ((top.take pending).add result) below
      | .ok (.frame child) => run c registry memo child (top.take pending :: below)
termination_by weight c (top :: below)
decreasing_by
  · have := top.weight_pos c
    simp only [weight_cons, weight_add]
    omega
  · have := weight_take_lt c _h
    simp only [weight_cons, weight_add]
    omega
  · have := weight_push_lt _h _h'
    simp only [weight_cons]
    omega

/-- Resolves a call with a memo, while the functions of `scope` are being
resolved.  What was resolved on the way stays in the memo, also where the call
itself fails. -/
def resolveWith (c : Collection) (registry : Template.Registry) (memo : Memo)
    (scope : List String) (call : Call) : Except Failure Resolved × Memo :=
  match enter c memo scope call with
  | .error e => (.error e, memo)
  | .ok (.known result) => (.ok result, memo)
  | .ok (.frame frame) => run c registry memo frame []

end Tweaks.Resolution
