import Mathlib.Data.List.Perm.Subperm
import Tweaks.Proofs.History
import Tweaks.Proofs.Safety

/-!
# Resolving turn by turn

Resolving with a memo goes in turns.  Each takes the frame on top: if it has no calls left,
its function is finished, remembered, and its codes are handed to the frame below; if it has,
the next one is known already or gets a frame of its own.  The functions of the frames are
different ones, so there are never more frames than functions, and the turns come to an end.
A function gets a frame only with values that nothing is remembered for, and no frame below
is one of it, so it is not finished with the same values again, neither in the same loop nor
in any later one that goes on with the memo.

Main results:

- `exists_iterate_eq_done`: after so many turns there is the answer that resolving gives.
- `turned`, `keys_turn`: all that a turn can come to, and what it adds to the memo.
- `Upright.turn`, `Fresh.turn`: what one turn preserves of the frames and of the memo.
- `upright_iterate`, `fresh_iterate`: what therefore holds after any number of turns.
- `run_eq_after`, `foldl_run_eq_after`: operations use the memo for their calls only.
- `not_finishes_of_earlier`: what is finished once is not finished later.
- `resolving_ends_without_repetition`: the turns of every call with every memo, and all calls
  that are resolved with one memo.
-/

namespace Tweaks

-- Powers of whole numbers are those of the core library.
attribute [local instance (5000)] instPowNat

namespace Resolution

variable {c : Collection} {registry : Template.Registry}

/-! ## Turns -/

/-- What a function with given values is remembered by. -/
def Frame.key (frame : Frame) : String × Template.Values :=
  (frame.function.name, frame.values)

/-- What a memo holds codes for. -/
def Memo.keys (memo : Memo) : List (String × Template.Values) :=
  memo.map Prod.fst

/-- How far resolving a call has come: there are frames, or an answer. -/
inductive Progress where
  | running (top : Frame) (below : List Frame) (memo : Memo)
  | done (answer : Except Failure Resolved) (memo : Memo)

namespace Progress

/-- What is remembered so far. -/
def memo : Progress → Memo
  | running _ _ memo => memo
  | done _ memo => memo

/-- The frames, the innermost first. -/
def frames : Progress → List Frame
  | running top below _ => top :: below
  | done _ _ => []

/-- Resolving a call starts with entering it. -/
def start (c : Collection) (memo : Memo) (scope : List String) (call : Call) : Progress :=
  match enter c memo scope call with
  | .error e => done (.error e) memo
  | .ok (.known result) => done (.ok result) memo
  | .ok (.frame frame) => running frame [] memo

/-- A result is handed to the frame that waits for it, or is the answer. -/
def handDown (result : Resolved) (memo : Memo) : List Frame → Progress
  | [] => done (.ok result) memo
  | parent :: rest => running (parent.add result) rest memo

/-- One turn.  Where there is an answer, nothing more happens. -/
def turn (c : Collection) (registry : Template.Registry) : Progress → Progress
  | done answer memo => done answer memo
  | running top below memo =>
    match top.pending with
    | [] =>
      match finish registry top with
      | .error e => done (.error e) memo
      | .ok result => handDown result ((top.key, result) :: memo) below
    | site :: pending =>
      match fillArguments registry top.function top.values site.arguments with
      | .error e => done (.error e) memo
      | .ok arguments =>
        match enter c memo top.stack ⟨site.function, arguments⟩ with
        | .error e => done (.error e) memo
        | .ok (.known result) => running ((top.take pending).add result) below memo
        | .ok (.frame child) => running child (top.take pending :: below) memo

/-- The function with its values that the next turn finishes, if it does: the one on top, with
no calls left, and where finishing does not fail. -/
def finishes? (registry : Template.Registry) : Progress → Option (String × Template.Values)
  | running top _ _ =>
    if top.pending = [] ∧ (finish registry top).toOption.isSome then some top.key else none
  | done _ _ => none

/-- What resolving comes to in the end. -/
def outcome (c : Collection) (registry : Template.Registry) :
    Progress → Except Failure Resolved × Memo
  | running top below memo => run c registry memo top below
  | done answer memo => (answer, memo)

end Progress

open Progress

/-- All that a turn can come to, with one frame on top of the others.  Where it fails, all
frames are given up and the memo stays as it is. -/
inductive Turned (c : Collection) (registry : Template.Registry) (top : Frame)
    (below : List Frame) (memo : Memo) : Progress → Prop
  | failed (e : Failure) : Turned c registry top below memo (.done (.error e) memo)
  | finished (result : Resolved) (hpending : top.pending = [])
      (hfinish : finish registry top = .ok result) :
      Turned c registry top below memo (handDown result ((top.key, result) :: memo) below)
  | known (site : Call) (pending : List Call) (arguments : List (String × String))
      (result : Resolved) (hpending : top.pending = site :: pending)
      (hfill : fillArguments registry top.function top.values site.arguments = .ok arguments)
      (henter : enter c memo top.stack ⟨site.function, arguments⟩ = .ok (.known result)) :
      Turned c registry top below memo (.running ((top.take pending).add result) below memo)
  | entered (site : Call) (pending : List Call) (arguments : List (String × String))
      (child : Frame) (hpending : top.pending = site :: pending)
      (hfill : fillArguments registry top.function top.values site.arguments = .ok arguments)
      (henter : enter c memo top.stack ⟨site.function, arguments⟩ = .ok (.frame child)) :
      Turned c registry top below memo (.running child (top.take pending :: below) memo)

/-- A turn comes to one of these. -/
theorem turned (c : Collection) (registry : Template.Registry) (top : Frame)
    (below : List Frame) (memo : Memo) :
    Turned c registry top below memo ((running top below memo).turn c registry) := by
  rw [turn]
  split
  · next hpending =>
    split
    · next e he => exact .failed e
    · next result hfinish => exact .finished result hpending hfinish
  · next site pending hpending =>
    split
    · next e he => exact .failed e
    · next arguments hfill =>
      split
      · next e he => exact .failed e
      · next result henter => exact .known site pending arguments result hpending hfill henter
      · next child henter => exact .entered site pending arguments child hpending hfill henter

@[simp]
theorem memo_start (memo : Memo) (scope : List String) (call : Call) :
    (start c memo scope call).memo = memo := by
  rw [start]
  split <;> rfl

@[simp]
theorem memo_handDown (result : Resolved) (memo : Memo) (below : List Frame) :
    (handDown result memo below).memo = memo := by
  cases below <;> rfl

/-! ## The turns come to an end -/

/-- A turn does not change what resolving comes to. -/
theorem outcome_turn (p : Progress) :
    (p.turn c registry).outcome c registry = p.outcome c registry := by
  cases p with
  | done answer memo => rfl
  | running top below memo =>
    rw [turn, outcome]
    cases hpending : top.pending with
    | nil =>
      rw [run_of_pending_nil hpending]
      dsimp only
      cases finish registry top with
      | error e => rfl
      | ok result => cases below <;> rfl
    | cons site pending =>
      rw [run_of_pending_cons hpending]
      dsimp only
      cases fillArguments registry top.function top.values site.arguments with
      | error e => rfl
      | ok arguments =>
        dsimp only [descend]
        cases enter c memo top.stack ⟨site.function, arguments⟩ with
        | error e => rfl
        | ok entry => cases entry <;> rfl

/-- Nor do any number of them. -/
theorem outcome_iterate (n : Nat) (p : Progress) :
    ((turn c registry)^[n] p).outcome c registry = p.outcome c registry := by
  induction n generalizing p with
  | zero => rfl
  | succ n ih => rw [Function.iterate_succ_apply, ih, outcome_turn]

/-- What resolving a call starts with comes to its answer, and to the memo behind it. -/
theorem outcome_start (memo : Memo) (scope : List String) (call : Call) :
    (start c memo scope call).outcome c registry = resolveWith c registry memo scope call := by
  rw [start, resolveWith]
  cases enter c memo scope call with
  | error e => rfl
  | ok entry => cases entry <;> rfl

/-- While there are frames, every turn makes them lighter. -/
theorem weight_turn_lt (c : Collection) (registry : Template.Registry) (top : Frame)
    (below : List Frame) (memo : Memo) :
    weight c ((running top below memo).turn c registry).frames < weight c (top :: below) := by
  have hturned := turned c registry top below memo
  have hpos := top.weight_pos c
  generalize (running top below memo).turn c registry = p' at hturned ⊢
  rw [weight_cons]
  cases hturned with
  | failed e => exact Nat.add_pos_left hpos _
  | finished result hpending hfinish =>
    cases below with
    | nil => exact Nat.add_pos_left hpos _
    | cons parent rest =>
      simp only [handDown, frames, weight_cons, weight_add]
      omega
  | known site pending arguments result hpending hfill henter =>
    have hless := weight_take_lt c hpending
    simp only [frames, weight_cons, weight_add]
    omega
  | entered site pending arguments child hpending hfill henter =>
    have hless := weight_push_lt hpending henter
    simp only [frames, weight_cons]
    omega

/-- There is an answer after no more turns than the frames weigh. -/
theorem exists_iterate_eq_done (c : Collection) (registry : Template.Registry) (p : Progress) :
    ∃ n ≤ weight c p.frames, (turn c registry)^[n] p =
      .done (p.outcome c registry).1 (p.outcome c registry).2 := by
  induction hw : weight c p.frames using Nat.strong_induction_on generalizing p with
  | _ w ih =>
    cases p with
    | done answer memo => exact ⟨0, Nat.zero_le _, rfl⟩
    | running top below memo =>
      have hless := weight_turn_lt c registry top below memo
      rw [frames] at hw
      rw [hw] at hless
      obtain ⟨n, hn, hdone⟩ := ih _ hless ((running top below memo).turn c registry) rfl
      refine ⟨n + 1, Nat.lt_of_le_of_lt hn hless, ?_⟩
      rw [Function.iterate_succ_apply, hdone, outcome_turn]

/-- What a call starts with weighs little: one power of the number of calls for each function
of the collection. -/
theorem weight_start_le (memo : Memo) (scope : List String) (call : Call) :
    weight c (start c memo scope call).frames ≤ (maxCalls c + 2) ^ c.functions.length := by
  have hunvisited : unvisited c scope ≤ c.functions.length := List.countP_le_length
  rw [start]
  split
  · exact Nat.zero_le _
  · exact Nat.zero_le _
  · next frame henter =>
    calc weight c [frame]
      _ = frame.weight c := Nat.add_zero _
      _ ≤ (maxCalls c + 2) ^ unvisited c scope := Nat.le_of_lt (weight_enter_lt henter)
      _ ≤ (maxCalls c + 2) ^ c.functions.length :=
        Nat.pow_le_pow_right (Nat.succ_pos _) hunvisited

/-! ## The frames -/

/-- A frame resolves a call: of its function, with the arguments that bind its values. -/
def Frame.Resolves (c : Collection) (frame : Frame) (call : Call) : Prop :=
  c.getFunction? call.function = some frame.function ∧
    bindArguments frame.function call.arguments = .ok frame.values

/-- A frame comes from a call in the definition of the function of another one, with the
arguments filled in. -/
def Frame.ComesFrom (c : Collection) (registry : Template.Registry) (child parent : Frame) :
    Prop :=
  ∃ site ∈ parent.function.calls, ∃ arguments,
    fillArguments registry parent.function parent.values site.arguments = .ok arguments ∧
      child.Resolves c ⟨site.function, arguments⟩

/-- The names of the functions of some frames, the outermost first. -/
def frameNames (frames : List Frame) : List String :=
  (frames.map fun frame => frame.function.name).reverse

/-- The frames that resolve a call in a scope, the innermost first. -/
structure Upright (c : Collection) (registry : Template.Registry) (scope : List String)
    (call : Call) (frames : List Frame) : Prop where
  fits : ∀ frame ∈ frames, frame.Fits c
  /-- The stack of a frame is the scope with the functions of the frames up to it. -/
  stack_eq : ∀ {frame below}, (frame :: below) <:+ frames →
    frame.stack = scope ++ frameNames (frame :: below)
  /-- No function has two frames. -/
  nodup : (frameNames frames).Nodup
  /-- No function of the scope has a frame. -/
  outside : ∀ name ∈ frameNames frames, name ∉ scope
  /-- Each frame comes from a call in the one below it. -/
  linked : frames.IsChain (Frame.ComesFrom c registry)
  /-- The outermost frame resolves the call itself. -/
  outermost : ∀ frame ∈ frames.getLast?, frame.Resolves c call

section Upright

variable {scope : List String} {call : Call} {memo : Memo} {top child : Frame}
  {below frames : List Frame}

@[simp]
theorem frameNames_cons (frame : Frame) (below : List Frame) :
    frameNames (frame :: below) = frameNames below ++ [frame.function.name] := by
  simp [frameNames]

/-- A frame that is entered resolves the call. -/
theorem resolves_of_enter (h : enter c memo scope call = .ok (.frame child)) :
    child.Resolves c call := by
  obtain ⟨f, values, hf, -, hb, -, rfl⟩ := enter_eq_frame.1 h
  exact ⟨hf, hb⟩

/-- Without frames nothing can be wrong. -/
theorem Upright.nil : Upright c registry scope call [] where
  fits := by simp
  stack_eq h := by simp at h
  nodup := List.nodup_nil
  outside := by simp [frameNames]
  linked := .nil
  outermost := by simp

/-- A call that is entered has its frame. -/
theorem Upright.singleton (h : enter c memo scope call = .ok (.frame child)) :
    Upright c registry scope call [child] where
  fits frame hframe := by
    rw [List.mem_singleton.1 hframe]
    exact fits_of_enter h
  stack_eq {frame below} hsuffix := by
    obtain ⟨-, -, hstack, -⟩ := frame_of_enter h
    obtain ⟨rfl, rfl⟩ : frame = child ∧ below = [] := by
      simpa [List.suffix_cons_iff] using hsuffix
    exact hstack
  nodup := List.nodup_singleton _
  outside name hname := by
    obtain ⟨-, hscope, -⟩ := frame_of_enter h
    rw [frameNames_cons, frameNames, List.map_nil, List.reverse_nil, List.nil_append,
      List.mem_singleton] at hname
    rw [hname]
    exact hscope
  linked := .singleton _
  outermost frame hframe := by
    obtain rfl : child = frame := by simpa using hframe
    exact resolves_of_enter h

/-- The frames below the top are in order as well. -/
theorem Upright.tail (h : Upright c registry scope call (top :: below)) :
    Upright c registry scope call below where
  fits frame hframe := h.fits frame (List.mem_cons_of_mem top hframe)
  stack_eq hsuffix := h.stack_eq (hsuffix.trans (List.suffix_cons top below))
  nodup := by
    have hnodup := h.nodup
    rw [frameNames_cons] at hnodup
    exact hnodup.of_append_left
  outside name hname := by
    refine h.outside name ?_
    rw [frameNames_cons]
    exact List.mem_append_left _ hname
  linked := h.linked.tail
  outermost frame hframe := by
    refine h.outermost frame ?_
    cases below with
    | nil => cases hframe
    | cons parent rest => exact hframe

/-- On top, calls may be taken and results added. -/
theorem Upright.update (h : Upright c registry scope call (top :: below)) {pending : List Call}
    (hpending : pending ⊆ top.pending) (results : List Resolved) :
    Upright c registry scope call ({ top with pending, results } :: below) where
  fits frame hframe := by
    rcases List.mem_cons.1 hframe with rfl | hframe
    · have htop := h.fits top List.mem_cons_self
      exact ⟨htop.function_mem, htop.names_eq, List.Subset.trans hpending htop.pending_subset⟩
    · exact h.fits frame (List.mem_cons_of_mem top hframe)
  stack_eq {frame rest} hsuffix := by
    rcases List.suffix_cons_iff.1 hsuffix with heq | hsuffix
    · cases heq
      have htop := h.stack_eq (List.suffix_refl (top :: below))
      exact htop
    · exact h.stack_eq (hsuffix.trans (List.suffix_cons top below))
  nodup := h.nodup
  outside := h.outside
  linked := by
    have hlinked := h.linked
    cases below with
    | nil => exact .singleton _
    | cons parent rest =>
      rw [List.isChain_cons_cons] at hlinked ⊢
      exact hlinked
  outermost frame hframe := by
    have houtermost := h.outermost
    cases below with
    | nil =>
      obtain rfl : { top with pending, results } = frame := by simpa using hframe
      exact houtermost top (by simp)
    | cons parent rest => exact houtermost frame (by simpa using hframe)

/-- A call of the function on top may be entered. -/
theorem Upright.push (h : Upright c registry scope call (top :: below)) {site : Call}
    (hsite : site ∈ top.function.calls) {arguments : List (String × String)}
    (hfill : fillArguments registry top.function top.values site.arguments = .ok arguments)
    (henter : enter c memo top.stack ⟨site.function, arguments⟩ = .ok (.frame child)) :
    Upright c registry scope call (child :: top :: below) := by
  obtain ⟨-, hnew, hstack, -⟩ := frame_of_enter henter
  rw [h.stack_eq List.suffix_rfl] at hnew hstack
  rw [List.mem_append, not_or] at hnew
  obtain ⟨hscope, hnames⟩ := hnew
  constructor
  · intro frame hframe
    rcases List.mem_cons.1 hframe with rfl | hframe
    · exact fits_of_enter henter
    · exact h.fits frame hframe
  · intro frame rest hsuffix
    rcases List.suffix_cons_iff.1 hsuffix with heq | hsuffix
    · cases heq
      rw [hstack, frameNames_cons child, List.append_assoc]
    · exact h.stack_eq hsuffix
  · rw [frameNames_cons, List.nodup_append]
    refine ⟨h.nodup, List.nodup_singleton _, ?_⟩
    intro name hname other hother heq
    rw [List.mem_singleton] at hother
    rw [heq, hother] at hname
    exact hnames hname
  · intro name hname
    rw [frameNames_cons] at hname
    rcases List.mem_append.1 hname with hname | hname
    · exact h.outside name hname
    · rw [List.mem_singleton.1 hname]
      exact hscope
  · rw [List.isChain_cons_cons]
    exact ⟨⟨site, hsite, arguments, hfill, resolves_of_enter henter⟩, h.linked⟩
  · intro frame hframe
    exact h.outermost frame (by simpa using hframe)

/-- The frames that a call starts with are in order. -/
theorem upright_start (memo : Memo) (scope : List String) (call : Call) :
    Upright c registry scope call (start c memo scope call).frames := by
  rw [start]
  split
  · exact .nil
  · exact .nil
  · next frame henter => exact .singleton henter

/-- A turn keeps the frames in order. -/
theorem Upright.turn {p : Progress} (h : Upright c registry scope call p.frames) :
    Upright c registry scope call (p.turn c registry).frames := by
  cases p with
  | done answer memo => exact .nil
  | running top below memo =>
    have hturned := turned c registry top below memo
    generalize (running top below memo).turn c registry = p' at hturned ⊢
    rw [Progress.frames] at h
    cases hturned with
    | failed e => exact .nil
    | finished result hpending hfinish =>
      have hbelow := h.tail
      cases below with
      | nil => exact .nil
      | cons parent rest => exact hbelow.update (List.Subset.refl _) _
    | known site pending arguments result hpending hfill henter =>
      refine h.update ?_ _
      rw [hpending]
      exact List.subset_cons_self site pending
    | entered site pending arguments child hpending hfill henter =>
      have hsite : site ∈ top.function.calls := by
        refine (h.fits top List.mem_cons_self).pending_subset ?_
        rw [hpending]
        exact List.mem_cons_self
      have hrest : pending ⊆ top.pending := by
        rw [hpending]
        exact List.subset_cons_self site pending
      exact (h.update hrest top.results).push hsite hfill henter

/-- After any number of turns the frames are in order. -/
theorem upright_iterate (c : Collection) (registry : Template.Registry) (memo : Memo)
    (scope : List String) (call : Call) (n : Nat) :
    Upright c registry scope call ((turn c registry)^[n] (start c memo scope call)).frames := by
  induction n with
  | zero => exact upright_start memo scope call
  | succ n ih =>
    rw [Function.iterate_succ_apply']
    exact ih.turn

/-- There are never more frames than functions. -/
theorem Upright.length_le (h : Upright c registry scope call frames) :
    frames.length ≤ c.functions.length := by
  have hsubset : frameNames frames ⊆ c.functions.map Function.name := by
    intro name hname
    rw [frameNames, List.mem_reverse, List.mem_map] at hname
    obtain ⟨frame, hframe, rfl⟩ := hname
    exact List.mem_map_of_mem (h.fits frame hframe).function_mem
  have hle := (List.subperm_of_subset h.nodup hsubset).length_le
  rw [frameNames, List.length_reverse, List.length_map, List.length_map] at hle
  exact hle

/-- The function on top has no other frame. -/
theorem Upright.key_ne (h : Upright c registry scope call (top :: below)) {frame : Frame}
    (hframe : frame ∈ below) : frame.key ≠ top.key := by
  intro hkey
  have hname : frame.function.name = top.function.name := congrArg Prod.fst hkey
  have hnodup := h.nodup
  rw [frameNames_cons, List.nodup_append] at hnodup
  obtain ⟨-, -, hdisjoint⟩ := hnodup
  refine hdisjoint _ ?_ _ (List.mem_singleton_self _) hname
  rw [frameNames, List.mem_reverse]
  exact List.mem_map_of_mem hframe

end Upright

/-! ## The memo -/

/-- A memo holds everything once, and nothing for the frames. -/
structure Fresh (memo : Memo) (frames : List Frame) : Prop where
  nodup : memo.keys.Nodup
  absent : ∀ frame ∈ frames, frame.key ∉ memo.keys

section Fresh

variable {scope : List String} {call : Call} {memo : Memo} {p : Progress} {n : Nat}

/-- A call gets a frame only where nothing is remembered for it. -/
theorem key_notMem_of_enter {child : Frame} (h : enter c memo scope call = .ok (.frame child)) :
    child.key ∉ memo.keys := by
  obtain ⟨f, values, hf, -, hb, hrecall, rfl⟩ := enter_eq_frame.1 h
  rw [Memo.recall_of_bound hf hb, Memo.find?, List.lookup_eq_none_iff] at hrecall
  intro hmem
  obtain ⟨entry, hentry, hkey⟩ := List.mem_map.1 hmem
  have hne := hrecall entry hentry
  rw [bne_iff_ne] at hne
  exact hne hkey.symm

/-- A call starts with a frame that nothing is remembered for, if it needs one. -/
theorem fresh_start (h : memo.keys.Nodup) (scope : List String) (call : Call) :
    Fresh (start c memo scope call).memo (start c memo scope call).frames := by
  rw [start]
  split
  · exact ⟨h, by simp [frames]⟩
  · exact ⟨h, by simp [frames]⟩
  · next child henter =>
    refine ⟨h, ?_⟩
    intro frame hframe
    rw [List.mem_singleton.1 hframe]
    exact key_notMem_of_enter henter

/-- A turn remembers nothing twice, and nothing that there is a frame for. -/
theorem Fresh.turn (h : Fresh p.memo p.frames) (hupright : Upright c registry scope call p.frames) :
    Fresh (p.turn c registry).memo (p.turn c registry).frames := by
  cases p with
  | done answer memo => exact h
  | running top below memo =>
    have hturned := turned c registry top below memo
    generalize (running top below memo).turn c registry = p' at hturned ⊢
    obtain ⟨hnodup, habsent⟩ := h
    obtain ⟨htop, hbelow⟩ := List.forall_mem_cons.1 habsent
    cases hturned with
    | failed e => exact ⟨hnodup, by simp [frames]⟩
    | finished result hpending hfinish =>
      -- The frames below belong to other functions than the new entry does.
      have hkeys : ∀ frame ∈ below, frame.key ∉ Memo.keys ((top.key, result) :: memo) := by
        intro frame hframe hmem
        rcases List.mem_cons.1 hmem with hkey | hmem
        · exact hupright.key_ne hframe hkey
        · exact hbelow frame hframe hmem
      constructor
      · rw [memo_handDown]
        exact List.nodup_cons.2 ⟨htop, hnodup⟩
      · rw [memo_handDown]
        cases below with
        | nil => simp [handDown, frames]
        | cons parent rest =>
          intro frame hframe
          rcases List.mem_cons.1 hframe with rfl | hframe
          · exact hkeys parent List.mem_cons_self
          · exact hkeys frame (List.mem_cons_of_mem parent hframe)
    | known site pending arguments result hpending hfill henter =>
      exact ⟨hnodup, List.forall_mem_cons.2 ⟨htop, hbelow⟩⟩
    | entered site pending arguments child hpending hfill henter =>
      exact ⟨hnodup, List.forall_mem_cons.2 ⟨key_notMem_of_enter henter,
        List.forall_mem_cons.2 ⟨htop, hbelow⟩⟩⟩

/-- After any number of turns nothing is remembered twice, or for a frame. -/
theorem fresh_iterate (c : Collection) (registry : Template.Registry) (h : memo.keys.Nodup)
    (scope : List String) (call : Call) (n : Nat) :
    Fresh ((turn c registry)^[n] (start c memo scope call)).memo
      ((turn c registry)^[n] (start c memo scope call)).frames := by
  induction n with
  | zero => exact fresh_start h scope call
  | succ n ih =>
    rw [Function.iterate_succ_apply']
    exact ih.turn (upright_iterate c registry memo scope call n)

/-- A turn remembers what it finishes, and all that was remembered before. -/
theorem keys_turn (c : Collection) (registry : Template.Registry) (p : Progress) :
    (p.turn c registry).memo.keys = (p.finishes? registry).toList ++ p.memo.keys := by
  cases p with
  | done answer memo => rfl
  | running top below memo =>
    rw [Progress.turn, finishes?]
    cases hpending : top.pending with
    | nil =>
      dsimp only
      cases finish registry top with
      | error e => rfl
      | ok result =>
        dsimp only
        rw [memo_handDown]
        rfl
    | cons site pending =>
      rw [if_neg (by simp)]
      dsimp only
      cases fillArguments registry top.function top.values site.arguments with
      | error e => rfl
      | ok arguments =>
        dsimp only
        cases enter c memo top.stack ⟨site.function, arguments⟩ with
        | error e => rfl
        | ok entry => cases entry <;> rfl

/-- What is remembered stays so in any number of turns. -/
theorem keys_subset_iterate (c : Collection) (registry : Template.Registry) (n : Nat)
    (p : Progress) :
    p.memo.keys ⊆ ((turn c registry)^[n] p).memo.keys := by
  induction n with
  | zero => exact List.Subset.refl _
  | succ n ih =>
    rw [Function.iterate_succ_apply', keys_turn]
    exact List.subset_append_of_subset_right _ ih

/-- It is still remembered when there is an answer. -/
theorem keys_subset_outcome (c : Collection) (registry : Template.Registry) (p : Progress) :
    p.memo.keys ⊆ (p.outcome c registry).2.keys := by
  obtain ⟨n, -, hdone⟩ := exists_iterate_eq_done c registry p
  have hsubset := keys_subset_iterate c registry n p
  rwa [hdone] at hsubset

/-- What a turn finishes is remembered from then on. -/
theorem mem_keys_turn (c : Collection) {key : String × Template.Values}
    (h : p.finishes? registry = some key) : key ∈ (p.turn c registry).memo.keys := by
  rw [keys_turn, h]
  exact List.mem_cons_self

/-- Nothing is finished that is remembered already. -/
theorem Fresh.notMem_of_finishes {key : String × Template.Values} (h : Fresh p.memo p.frames)
    (hfinishes : p.finishes? registry = some key) : key ∉ p.memo.keys := by
  cases p with
  | done answer memo => cases hfinishes
  | running top below memo =>
    rw [finishes?] at hfinishes
    split at hfinishes
    · cases hfinishes
      exact h.absent top List.mem_cons_self
    · cases hfinishes

end Fresh

/-! ## One memo for many calls -/

/-- The memo behind some calls, each in a scope of its own, which are resolved one after the
other. -/
def Memo.after (c : Collection) (registry : Template.Registry) (memo : Memo)
    (calls : List (List String × Call)) : Memo :=
  calls.foldl (fun memo (scope, call) => (resolveWith c registry memo scope call).2) memo

/-- The `i`-th of some calls, which are resolved one after the other from an empty memo on,
finishes a function with values in the turn after `n` others. -/
def Finishes (c : Collection) (registry : Template.Registry) (calls : List (List String × Call))
    (key : String × Template.Values) (i n : Nat) : Prop :=
  ∃ scope call, calls[i]? = some (scope, call) ∧
    ((turn c registry)^[n] (start c (Memo.after c registry [] (calls.take i)) scope
      call)).finishes? registry = some key

section Lifetime

variable {calls : List (List String × Call)} {key : String × Template.Values} {i j m n : Nat}

/-- Some calls after others. -/
theorem Memo.after_append (memo : Memo) (calls others : List (List String × Call)) :
    memo.after c registry (calls ++ others) =
      (memo.after c registry calls).after c registry others :=
  List.foldl_append

/-- Resolving a call leaves everything remembered once. -/
theorem nodup_keys_resolveWith {memo : Memo} (h : memo.keys.Nodup) (scope : List String)
    (call : Call) : (resolveWith c registry memo scope call).2.keys.Nodup := by
  obtain ⟨n, -, hdone⟩ := exists_iterate_eq_done c registry (start c memo scope call)
  have hfresh := fresh_iterate c registry h scope call n
  rw [hdone, outcome_start] at hfresh
  exact hfresh.nodup

/-- Resolving calls does. -/
theorem nodup_keys_after {memo : Memo} (h : memo.keys.Nodup)
    (calls : List (List String × Call)) : (memo.after c registry calls).keys.Nodup := by
  induction calls generalizing memo with
  | nil => exact h
  | cons first rest ih => exact ih (nodup_keys_resolveWith h first.1 first.2)

/-- What is remembered stays so while a call is resolved. -/
theorem keys_subset_resolveWith (c : Collection) (registry : Template.Registry) (memo : Memo)
    (scope : List String) (call : Call) :
    memo.keys ⊆ (resolveWith c registry memo scope call).2.keys := by
  have hsubset := keys_subset_outcome c registry (start c memo scope call)
  rwa [outcome_start, memo_start] at hsubset

/-- And while calls are. -/
theorem keys_subset_after (c : Collection) (registry : Template.Registry) (memo : Memo)
    (calls : List (List String × Call)) :
    memo.keys ⊆ (memo.after c registry calls).keys := by
  induction calls generalizing memo with
  | nil => exact List.Subset.refl _
  | cons first rest ih =>
    have hfirst := keys_subset_resolveWith c registry memo first.1 first.2
    exact List.Subset.trans hfirst (ih _)

/-- What a call finishes is remembered behind it. -/
theorem mem_keys_of_finishes (h : Finishes c registry calls key i n) :
    key ∈ (Memo.after c registry [] (calls.take (i + 1))).keys := by
  obtain ⟨scope, call, hcall, hfinishes⟩ := h
  have htake : calls.take (i + 1) = calls.take i ++ [(scope, call)] := by
    rw [List.take_add_one, hcall]
    rfl
  have hkept := keys_subset_outcome c registry _ (mem_keys_turn c hfinishes)
  rw [outcome_turn, outcome_iterate, outcome_start] at hkept
  rw [htake, Memo.after_append]
  exact hkept

/-- What is finished once is not finished later, be it in the same call or in another one. -/
theorem not_finishes_of_earlier (h : Finishes c registry calls key i m)
    (hlater : i < j ∨ i = j ∧ m < n) : ¬Finishes c registry calls key j n := by
  rintro ⟨scope', call', hcall', hfinishes'⟩
  have hnodup : (Memo.after c registry [] (calls.take j)).keys.Nodup := by
    apply nodup_keys_after
    exact List.nodup_nil
  have hfresh := fresh_iterate c registry hnodup scope' call' n
  apply hfresh.notMem_of_finishes hfinishes'
  rcases hlater with hlt | ⟨rfl, hlt⟩
  -- A later call starts with a memo that holds all that earlier ones finished.
  · obtain ⟨others, hothers⟩ := List.take_prefix_take_left (l := calls) (Nat.succ_le_of_lt hlt)
    have hmem := keys_subset_after c registry _ others (mem_keys_of_finishes h)
    rw [← Memo.after_append, hothers] at hmem
    apply keys_subset_iterate
    rw [memo_start]
    exact hmem
  -- In the same call the memo holds it from the next turn on.
  · obtain ⟨scope, call, hcall, hfinishes⟩ := h
    obtain ⟨rfl, rfl⟩ : scope = scope' ∧ call = call' := by simpa [hcall] using hcall'
    obtain ⟨k, rfl⟩ := Nat.exists_eq_add_of_lt hlt
    have hsplit : m + k + 1 = k + (m + 1) := by omega
    rw [hsplit, Function.iterate_add_apply, Function.iterate_succ_apply']
    exact keys_subset_iterate c registry k _ (mem_keys_turn c hfinishes)

end Lifetime

end Resolution

/-! ## Compiling with one memo -/

namespace Compilation

open Resolution Progress

/-- A call without a scope, as those of scripts are. -/
def unscoped (call : Call) : List String × Call :=
  ([], call)

/-- The first of some calls, up to the first that fails, which is among them. -/
def upToFailure (c : Collection) (registry : Template.Registry) :
    Memo → List (List String × Call) → List (List String × Call)
  | _, [] => []
  | memo, (scope, call) :: rest =>
    (scope, call) ::
      match resolveWith c registry memo scope call with
      | (.error _, _) => []
      | (.ok _, memo') => upToFailure c registry memo' rest

/-- The calls that an operation makes, each with the memo that the one before it leaves: a call
by itself, those of a script, or those of all selected scripts, up to the first that fails. -/
def Operation.calls (c : Collection) (registry : Template.Registry) (memo : Memo) :
    Operation → List (List String × Call)
  | .resolve scope call => [(scope, call)]
  | .script s => upToFailure c registry memo (s.calls.map unscoped)
  | .compile s =>
    match check c s with
    | .error _ => []
    | .ok () => upToFailure c registry memo
        ((selected c s).flatMap fun script => script.calls.map unscoped)

/-- The calls that operations make one after the other, with the same memo. -/
def callsOf (c : Collection) (registry : Template.Registry) :
    Memo → List Operation → List (List String × Call)
  | _, [] => []
  | memo, operation :: rest =>
    operation.calls c registry memo ++ callsOf c registry (operation.run c registry memo) rest

section Calls

variable {c : Collection} {registry : Template.Registry}

/-- Calls before others leave what resolving them leaves, where one of them fails, and otherwise
what the others leave behind that. -/
theorem after_upToFailure_calls (memo : Memo) (calls : List Call)
    (others : List (List String × Call)) :
    memo.after c registry (upToFailure c registry memo (calls.map unscoped ++ others)) =
      match resolveEach c registry memo calls with
      | (.error _, memo') => memo'
      | (.ok _, memo') => Memo.after c registry memo' (upToFailure c registry memo' others) := by
  induction calls generalizing memo with
  | nil => rfl
  | cons call rest ih =>
    have hfirst : ∀ behind, memo.after c registry (unscoped call :: behind) =
        (resolveWith c registry memo [] call).2.after c registry behind := fun _ => rfl
    rw [List.map_cons, List.cons_append, unscoped, upToFailure, ← unscoped, hfirst, resolveEach]
    cases hcall : resolveWith c registry memo [] call with
    | mk answer memo' =>
      cases answer with
      | error e => rfl
      | ok first =>
        dsimp only
        rw [ih memo']
        cases resolveEach c registry memo' rest with
        | mk answers memo'' => cases answers <;> rfl

/-- So does a script. -/
theorem after_upToFailure_script (memo : Memo) (s : Script)
    (others : List (List String × Call)) :
    memo.after c registry (upToFailure c registry memo (s.calls.map unscoped ++ others)) =
      match resolveScript c registry memo s with
      | (.error _, memo') => memo'
      | (.ok _, memo') => Memo.after c registry memo' (upToFailure c registry memo' others) := by
  by_cases hnone : s.calls.isEmpty = true
  · rw [resolveScript, if_pos hnone, List.isEmpty_iff.1 hnone]
    rfl
  · rw [resolveScript, if_neg hnone, after_upToFailure_calls]
    cases resolveEach c registry memo s.calls with
    | mk answers memo' => cases answers <;> rfl

/-- A script leaves what its calls leave. -/
theorem snd_resolveScript (memo : Memo) (s : Script) :
    (resolveScript c registry memo s).2 =
      memo.after c registry (upToFailure c registry memo (s.calls.map unscoped)) := by
  rw [← List.append_nil (s.calls.map unscoped), after_upToFailure_script]
  cases resolveScript c registry memo s with
  | mk answer memo' => cases answer <;> rfl

/-- Scripts leave what their calls leave. -/
theorem snd_resolveScripts (direction : Direction) (memo : Memo) (scripts : List Script) :
    (resolveScripts c registry direction memo scripts).2 =
      memo.after c registry (upToFailure c registry memo
        (scripts.flatMap fun script => script.calls.map unscoped)) := by
  induction scripts generalizing memo with
  | nil => rfl
  | cons s rest ih =>
    rw [resolveScripts, List.flatMap_cons, after_upToFailure_script]
    cases resolveScript c registry memo s with
    | mk answer memo' =>
      cases answer with
      | error e => rfl
      | ok code =>
        dsimp only
        rw [← ih memo']
        cases resolveScripts c registry direction memo' rest with
        | mk answers memo'' => cases answers <;> rfl

/-- Every operation leaves what its calls leave. -/
theorem run_eq_after (memo : Memo) (operation : Operation) :
    operation.run c registry memo =
      memo.after c registry (operation.calls c registry memo) := by
  cases operation with
  | resolve scope call => rfl
  | script s => exact snd_resolveScript memo s
  | compile s =>
    rw [Operation.run, Operation.calls, compileWith]
    cases check c s with
    | error e => rfl
    | ok _ =>
      dsimp only
      rw [← snd_resolveScripts s.direction]
      cases resolveScripts c registry s.direction memo (selected c s) with
      | mk answers memo' => cases answers <;> rfl

/-- Operations leave what their calls leave. -/
theorem foldl_run_eq_after (memo : Memo) (operations : List Operation) :
    operations.foldl (Operation.run c registry) memo =
      memo.after c registry (callsOf c registry memo operations) := by
  induction operations generalizing memo with
  | nil => rfl
  | cons operation rest ih =>
    rw [List.foldl_cons, ih, callsOf, Memo.after_append, ← run_eq_after]

end Calls

/-- With every memo, every call comes to its answer after a bounded number of turns, and after
any number of turns the frames are in order, which are never more than there are functions.
And when calls are resolved one after the other, as every history of operations does with
those that it makes, no function is finished twice with the same values, whichever of them
fail. -/
theorem resolving_ends_without_repetition (c : Collection) (registry : Template.Registry) :
    (∀ memo scope call,
      (∃ n ≤ (maxCalls c + 2) ^ c.functions.length,
        (turn c registry)^[n] (start c memo scope call) =
          .done (resolveWith c registry memo scope call).1
            (resolveWith c registry memo scope call).2) ∧
      ∀ n, Upright c registry scope call
          ((turn c registry)^[n] (start c memo scope call)).frames ∧
        ((turn c registry)^[n] (start c memo scope call)).frames.length ≤
          c.functions.length) ∧
    (∀ history, memoAfter c registry history =
      Memo.after c registry [] (callsOf c registry [] history)) ∧
    ∀ calls key i j m n, Finishes c registry calls key i m →
      Finishes c registry calls key j n → i = j ∧ m = n := by
  refine ⟨?_, foldl_run_eq_after [], ?_⟩
  · intro memo scope call
    constructor
    · obtain ⟨n, hn, hdone⟩ := exists_iterate_eq_done c registry (start c memo scope call)
      rw [outcome_start] at hdone
      exact ⟨n, Nat.le_trans hn (weight_start_le memo scope call), hdone⟩
    · intro n
      have hupright := upright_iterate c registry memo scope call n
      exact ⟨hupright, hupright.length_le⟩
  · intro calls key i j m n h h'
    rcases Nat.lt_trichotomy i j with hlt | rfl | hlt
    · exact absurd h' (not_finishes_of_earlier h (.inl hlt))
    · rcases Nat.lt_trichotomy m n with hlt | rfl | hlt
      · exact absurd h' (not_finishes_of_earlier h (.inr ⟨rfl, hlt⟩))
      · exact ⟨rfl, rfl⟩
      · exact absurd h (not_finishes_of_earlier h' (.inr ⟨rfl, hlt⟩))
    · exact absurd h (not_finishes_of_earlier h' (.inl hlt))

/-- A call of the outer function of the greetings, and one of the inner function with the same
values as the first has it called with. -/
def greetingCalls : List (List String × Call) :=
  [([], ⟨"Twice", [("word", "hello")]⟩), ([], ⟨"Write", [("line", "hello")]⟩)]

/-- For the first of these calls the inner function is finished in the second turn, and with the
same values at no other time. -/
theorem greeting_finishes_once :
    Finishes greeting (fun _ => none) greetingCalls
      ("Write", [("line", some "hello"), ("note", none)]) 0 1 ∧
    ∀ i n, Finishes greeting (fun _ => none) greetingCalls
      ("Write", [("line", some "hello"), ("note", none)]) i n → i = 0 ∧ n = 1 := by
  obtain ⟨-, -, honce⟩ := resolving_ends_without_repetition greeting (fun _ => none)
  have hfinishes : Finishes greeting (fun _ => none) greetingCalls
      ("Write", [("line", some "hello"), ("note", none)]) 0 1 :=
    ⟨[], ⟨"Twice", [("word", "hello")]⟩, rfl, by decide +kernel⟩
  refine ⟨hfinishes, ?_⟩
  intro i n h
  exact honce _ _ i 0 n 1 h hfinishes

end Compilation

end Tweaks
