import Mathlib.Data.List.DropRight
import Tweaks.Assembly
import Tweaks.Proofs.Emitting
import Tweaks.Proofs.Flattening

/-!
# Trimmed codes

Code is trimmed where it enters: of a function's template, of a script, of a header.  Putting
codes together leaves the empty ones out, so that no code ever starts or ends with a break,
and neither do the texts of fragments.  Between two fragments of a script there is therefore
one blank line, whatever the fragments hold.

Main results:

- `Text.trimmed_joinWith`: trimmed pieces, joined.
- `Resolution.trimmed_merge`, `trimmed_leaf`, `trimmed_finish`: what codes are made of.
- `Resolution.trimmed_run`: the machine, by induction over its steps.
- `Compilation.trimmed_memoAfter`: every history of operations.
- `Compilation.texts_are_trimmed`: calls, scripts and fragments, and what stands between two
  fragments.
-/

namespace Tweaks

/-! ## Texts -/

namespace Text

/-- A text neither starts nor ends with a character of a kind. -/
structure Trimmed (kind : Char → Bool) (s : List Char) : Prop where
  first : ∀ c ∈ s.head?, kind c = false
  last : ∀ c ∈ s.getLast?, kind c = false

variable {kind : Char → Bool}

/-- The empty text starts and ends with nothing. -/
theorem trimmed_nil : Trimmed kind [] where
  first := by simp
  last := by simp

/-- What is left of a text once characters of a kind are dropped at both ends. -/
theorem trimmed_dropWhile (kind : Char → Bool) (s : List Char) :
    Trimmed kind ((s.dropWhile kind).rdropWhile kind) where
  first := by
    intro c hc
    -- Dropping at the end leaves the start of the text, so the first character is the same.
    have hstart := List.rdropWhile_prefix kind (l := s.dropWhile kind)
    obtain ⟨rest, hrest⟩ := List.head?_eq_some_iff.1 hc
    obtain ⟨dropped, hdropped⟩ := hstart
    rw [hrest, List.cons_append] at hdropped
    have hhead := List.head?_dropWhile_not kind s
    rw [← hdropped] at hhead
    exact hhead
  last := by
    intro c hc
    obtain ⟨front, hfront⟩ := List.getLast?_eq_some_iff.1 hc
    have hne : (s.dropWhile kind).rdropWhile kind ≠ [] := by
      rw [hfront]
      simp
    have hlast := List.rdropWhile_last_not kind _ hne
    have hc' : ((s.dropWhile kind).rdropWhile kind).getLast hne = c := by
      simp only [hfront, List.getLast_append_singleton]
    rw [hc'] at hlast
    simpa using hlast

/-- A text without breaks around it is trimmed. -/
theorem trimmed_trim (s : String) : Trimmed isBreak (trim s).toList := by
  rw [trim, String.toList_ofList]
  exact trimmed_dropWhile isBreak s.toList

/-- Two trimmed texts that say something are trimmed together, whatever stands between. -/
theorem Trimmed.append {s t : List Char} (hs : Trimmed kind s) (ht : Trimmed kind t)
    (hs' : s ≠ []) (ht' : t ≠ []) (between : List Char) :
    Trimmed kind (s ++ between ++ t) where
  first := by
    intro c hc
    rw [List.append_assoc, List.head?_append_of_ne_nil _ hs'] at hc
    exact hs.first c hc
  last := by
    intro c hc
    rw [List.getLast?_append_of_ne_nil _ ht'] at hc
    exact ht.last c hc

/-- Pieces of which each says something say something together. -/
theorem joinWith_ne_nil {separator : List Char} {pieces : List (List Char)} (h : pieces ≠ [])
    (hsome : ∀ piece ∈ pieces, piece ≠ []) : joinWith separator pieces ≠ [] := by
  cases pieces with
  | nil => exact absurd rfl h
  | cons piece rest =>
    have hpiece := hsome piece List.mem_cons_self
    cases rest with
    | nil => exact hpiece
    | cons next others =>
      rw [joinWith_cons_cons, List.append_assoc]
      exact List.append_ne_nil_of_left_ne_nil hpiece _

/-- Trimmed pieces that say something are trimmed when they are joined. -/
theorem trimmed_joinWith (separator : List Char) {pieces : List (List Char)}
    (h : ∀ piece ∈ pieces, piece ≠ [] ∧ Trimmed kind piece) :
    Trimmed kind (joinWith separator pieces) := by
  induction pieces with
  | nil => exact trimmed_nil
  | cons piece rest ih =>
    obtain ⟨⟨hsome, hpiece⟩, hrest⟩ := List.forall_mem_cons.1 h
    cases rest with
    | nil => exact hpiece
    | cons next others =>
      have hjoined := @joinWith_ne_nil separator _ (List.cons_ne_nil next others)
        fun other hother => (hrest other hother).1
      rw [joinWith_cons_cons]
      exact hpiece.append (ih hrest) hsome hjoined separator

end Text

/-! ## Codes -/

open Text

/-- Neither code starts or ends with a break, and the code that undoes is not empty. -/
structure Resolved.Trimmed (r : Resolved) : Prop where
  code : Text.Trimmed isBreak r.code.toList
  revertCode : ∀ text ∈ r.revertCode, text ≠ "" ∧ Text.Trimmed isBreak text.toList

namespace Resolution

variable {c : Collection} {registry : Template.Registry}

/-- Trimmed texts are trimmed when the ones that are not empty are joined line by line. -/
theorem trimmed_joinLines {texts : List String}
    (h : ∀ text ∈ texts, text ≠ "" → Text.Trimmed isBreak text.toList) :
    Text.Trimmed isBreak (joinLines texts).toList := by
  rw [joinLines, join, String.toList_ofList]
  refine trimmed_joinWith _ ?_
  intro piece hpiece
  obtain ⟨text, htext, rfl⟩ := List.mem_map.1 hpiece
  obtain ⟨hmem, hsome⟩ := List.mem_filter.1 htext
  have hne : text ≠ "" := by simpa using hsome
  exact ⟨by simpa using hne, h text hmem hne⟩

/-- A text that is there is the one that was asked for. -/
theorem eq_of_filled?_eq_some {text result : String} (h : filled? text = some result) :
    result = text ∧ text ≠ "" := by
  unfold filled? at h
  split at h
  · cases h
  · next hsome =>
    cases h
    exact ⟨rfl, by simpa using hsome⟩

/-- A text and the trimmed text that undoes it make trimmed codes. -/
theorem trimmed_of_filled {code revert : String} (hcode : Text.Trimmed isBreak code.toList)
    (hrevert : Text.Trimmed isBreak revert.toList) :
    Resolved.Trimmed ⟨code, filled? revert⟩ where
  code := hcode
  revertCode := by
    intro text htext
    obtain ⟨rfl, hsome⟩ := eq_of_filled?_eq_some htext
    exact ⟨hsome, hrevert⟩

/-- Trimmed codes that are put together are trimmed. -/
theorem trimmed_merge {results : List Resolved} (h : ∀ r ∈ results, r.Trimmed) :
    (merge results).Trimmed := by
  rw [merge_eq]
  apply trimmed_of_filled
  · apply trimmed_joinLines
    intro text htext _
    obtain ⟨r, hr, rfl⟩ := List.mem_map.1 htext
    exact (h r hr).code
  · apply trimmed_joinLines
    intro text htext _
    obtain ⟨r, hr, hrevert⟩ := List.mem_filterMap.1 htext
    exact ((h r hr).revertCode text hrevert).2

/-- The codes of a function's own templates are trimmed. -/
theorem trimmed_leaf {f : Function} {values : Template.Values} {r : Resolved}
    (h : leaf registry f values = .ok r) : r.Trimmed := by
  obtain ⟨code, revert, -, -, rfl⟩ := exists_texts_of_leaf h
  exact trimmed_of_filled (trimmed_trim code) (trimmed_trim revert)

/-! ## Steps -/

/-- A memo holds trimmed codes only. -/
def Memo.Trimmed (memo : Memo) : Prop :=
  ∀ entry ∈ memo, entry.2.Trimmed

/-- What the calls of a frame have come to so far is trimmed. -/
def Frame.Trimmed (frame : Frame) : Prop :=
  ∀ r ∈ frame.results, r.Trimmed

/-- The empty memo holds nothing. -/
theorem Memo.trimmed_nil : Memo.Trimmed [] := by
  intro entry hentry
  cases hentry

/-- A memo with one more result. -/
theorem Memo.Trimmed.cons {memo : Memo} (h : memo.Trimmed) {r : Resolved} (hr : r.Trimmed)
    (key : String × Template.Values) : Memo.Trimmed ((key, r) :: memo) := by
  intro entry hentry
  rcases List.mem_cons.1 hentry with rfl | hentry
  · exact hr
  · exact h entry hentry

/-- A frame with one more result. -/
theorem Frame.Trimmed.add {frame : Frame} (h : frame.Trimmed) {r : Resolved} (hr : r.Trimmed) :
    (frame.add r).Trimmed := by
  intro other hother
  rcases List.mem_cons.1 hother with rfl | hother
  · exact hr
  · exact h other hother

/-- What a memo knows of a call is trimmed. -/
theorem trimmed_of_enter_known {memo : Memo} (hmemo : memo.Trimmed) {scope : List String}
    {call : Call} {r : Resolved} (h : enter c memo scope call = .ok (.known r)) : r.Trimmed := by
  obtain ⟨-, hheld⟩ := enter_eq_known.1 h
  unfold Memo.recall at hheld
  obtain ⟨f, -, hheld⟩ := Option.bind_eq_some_iff.1 hheld
  obtain ⟨values, -, hheld⟩ := Option.bind_eq_some_iff.1 hheld
  obtain ⟨before, after, hmem, -⟩ := List.lookup_eq_some_iff.1 hheld
  exact hmemo _ (hmem ▸ List.mem_append_right before List.mem_cons_self)

/-- A frame that is entered has no results yet. -/
theorem trimmed_of_enter_frame {memo : Memo} {scope : List String} {call : Call} {child : Frame}
    (h : enter c memo scope call = .ok (.frame child)) : child.Trimmed := by
  obtain ⟨f, values, -, -, -, -, rfl⟩ := enter_eq_frame.1 h
  intro r hr
  cases hr

/-- A function whose calls have come to trimmed codes does so too. -/
theorem trimmed_finish {frame : Frame} (hframe : frame.Trimmed) {r : Resolved}
    (h : finish registry frame = .ok r) : r.Trimmed := by
  unfold finish at h
  split at h
  · exact trimmed_leaf h
  · cases h
    apply trimmed_merge
    intro result hresult
    exact hframe result (List.mem_reverse.1 hresult)

/-! ## Runs -/

/-- A call comes to trimmed codes, if to any, and leaves a memo of trimmed codes. -/
structure Trims (answer : Except Failure Resolved × Memo) : Prop where
  result : ∀ r, answer.1 = .ok r → r.Trimmed
  memo : answer.2.Trimmed

/-- Where a call fails, only the memo counts. -/
theorem trims_error {memo : Memo} (h : memo.Trimmed) (failure : Failure) :
    Trims (.error failure, memo) where
  result := by
    intro r hr
    cases hr
  memo := h

/-- A call that comes to trimmed codes. -/
theorem trims_ok {memo : Memo} (h : memo.Trimmed) {r : Resolved} (hr : r.Trimmed) :
    Trims (.ok r, memo) where
  result := by
    rintro _ ⟨⟩
    exact hr
  memo := h

/-- The machine comes to trimmed codes from trimmed memos and frames. -/
theorem trimmed_run {memo : Memo} {top : Frame} {below : List Frame} (hmemo : memo.Trimmed)
    (htop : top.Trimmed) (hbelow : ∀ frame ∈ below, frame.Trimmed) :
    Trims (run c registry memo top below) := by
  fun_induction run c registry memo top below with
  | case1 memo top below hpending e he => exact trims_error hmemo e
  | case2 memo top hpending result hresult memo' =>
    have hr := trimmed_finish htop hresult
    exact trims_ok (hmemo.cons hr _) hr
  | case3 memo top hpending result hresult memo' parent rest ih =>
    have hr := trimmed_finish htop hresult
    obtain ⟨hparent, hrest⟩ := List.forall_mem_cons.1 hbelow
    exact ih (hmemo.cons hr _) (hparent.add hr) hrest
  | case4 memo top below site pending hpending e he => exact trims_error hmemo e
  | case5 memo top below site pending hpending arguments harguments e he =>
    exact trims_error hmemo e
  | case6 memo top below site pending hpending arguments harguments result hresult ih =>
    have hr := trimmed_of_enter_known hmemo hresult
    have htaken : (top.take pending).Trimmed := htop
    exact ih hmemo (htaken.add hr) hbelow
  | case7 memo top below site pending hpending arguments harguments child hchild ih =>
    have htaken : (top.take pending).Trimmed := htop
    exact ih hmemo (trimmed_of_enter_frame hchild) (List.forall_mem_cons.2 ⟨htaken, hbelow⟩)

/-- A call comes to trimmed codes, in any scope. -/
theorem trims_resolveWith {memo : Memo} (hmemo : memo.Trimmed) (scope : List String)
    (call : Call) : Trims (resolveWith c registry memo scope call) := by
  rw [resolveWith]
  split
  · next e he => exact trims_error hmemo e
  · next r hr => exact trims_ok hmemo (trimmed_of_enter_known hmemo hr)
  · next frame hframe =>
    exact trimmed_run hmemo (trimmed_of_enter_frame hframe) (by simp)

end Resolution

/-! ## Scripts and fragments -/

namespace Compilation

open Resolution

variable {c : Collection} {registry : Template.Registry}

/-- The calls of a script come to trimmed codes, and leave a memo of such. -/
theorem trimmed_resolveEach {memo : Memo} (hmemo : memo.Trimmed) (calls : List Call) :
    (∀ results, (resolveEach c registry memo calls).1 = .ok results → ∀ r ∈ results, r.Trimmed) ∧
      (resolveEach c registry memo calls).2.Trimmed := by
  induction calls generalizing memo with
  | nil =>
    refine ⟨?_, hmemo⟩
    rintro _ ⟨⟩ r hr
    cases hr
  | cons call rest ih =>
    have hcall := @trims_resolveWith c registry _ hmemo [] call
    rw [resolveEach]
    split
    · next e memo' he =>
      rw [he] at hcall
      exact ⟨by simp, hcall.memo⟩
    · next first memo' hfirst =>
      rw [hfirst] at hcall
      obtain ⟨hresults, hleft⟩ := ih hcall.memo
      split
      · next e memo'' he =>
        rw [he] at hleft
        exact ⟨by simp, hleft⟩
      · next others memo'' hothers =>
        rw [hothers] at hresults hleft
        refine ⟨?_, hleft⟩
        rintro _ ⟨⟩
        exact List.forall_mem_cons.2 ⟨hcall.result first rfl, hresults others rfl⟩

/-- A script comes to trimmed codes, by its own text or by its calls. -/
theorem trims_resolveScript {memo : Memo} (hmemo : memo.Trimmed) (s : Script) :
    Trims (resolveScript c registry memo s) := by
  have heach := @trimmed_resolveEach c registry _ hmemo s.calls
  rw [resolveScript]
  split
  · refine trims_ok hmemo ?_
    have hrevert : s.revertCode.bind trimmed? =
        filled? (trim (s.revertCode.getD "")) := by
      cases s.revertCode with
      | none => rw [Option.getD_none, trim_empty, filled?_eq_none_iff.2 rfl, Option.bind_none]
      | some text => simp only [Option.bind_some, Option.getD_some, trimmed?, filled?]
    rw [inlineCode, hrevert]
    exact trimmed_of_filled (trimmed_trim _) (trimmed_trim _)
  · split
    · next e memo' he =>
      rw [he] at heach
      exact trims_error heach.2 e
    · next results memo' hresults =>
      rw [hresults] at heach
      exact trims_ok heach.2 (trimmed_merge (heach.1 results rfl))

/-- Scripts come to trimmed codes, one after the other, and leave a memo of such. -/
theorem trimmed_resolveScripts {memo : Memo} (hmemo : memo.Trimmed) (direction : Direction)
    (scripts : List Script) :
    (∀ resolved, (resolveScripts c registry direction memo scripts).1 = .ok resolved →
      ∀ entry ∈ resolved, entry.2.Trimmed) ∧
      (resolveScripts c registry direction memo scripts).2.Trimmed := by
  induction scripts generalizing memo with
  | nil =>
    refine ⟨?_, hmemo⟩
    rintro _ ⟨⟩ entry hentry
    cases hentry
  | cons s rest ih =>
    have hscript := @trims_resolveScript c registry _ hmemo s
    rw [resolveScripts]
    split
    · next e memo' he =>
      rw [he] at hscript
      exact ⟨by simp, hscript.memo⟩
    · next first memo' hfirst =>
      rw [hfirst] at hscript
      obtain ⟨hresolved, hleft⟩ := ih hscript.memo
      split
      · next e memo'' he =>
        rw [he] at hleft
        exact ⟨by simp, hleft⟩
      · next others memo'' hothers =>
        rw [hothers] at hresolved hleft
        refine ⟨?_, hleft⟩
        rintro _ ⟨⟩
        exact List.forall_mem_cons.2 ⟨hscript.result first rfl, hresolved others rfl⟩

/-- The text of a script with trimmed codes is trimmed, in either direction. -/
theorem trimmed_text {r : Resolved} (h : r.Trimmed) (direction : Direction) (s : Script) :
    Text.Trimmed isBreak (fragment direction s r).text.toList := by
  cases direction with
  | forward => exact h.code
  | revert =>
    rw [fragment, Fragment.text_revert]
    cases hrevert : r.revertCode with
    | none => exact trimmed_nil
    | some text => exact (h.revertCode text hrevert).2

/-- A selection compiles to trimmed texts, and leaves a memo of trimmed codes. -/
theorem trimmed_compileWith {memo : Memo} (hmemo : memo.Trimmed) (s : Selection) :
    (∀ fragments, (compileWith c registry memo s).1 = .ok fragments →
      ∀ text ∈ texts fragments, Text.Trimmed isBreak text.toList) ∧
      (compileWith c registry memo s).2.Trimmed := by
  rw [compileWith]
  split
  · exact ⟨by simp, hmemo⟩
  · have hscripts := @trimmed_resolveScripts c registry _ hmemo s.direction (selected c s)
    split
    · next e memo' he =>
      rw [he] at hscripts
      exact ⟨by simp, hscripts.2⟩
    · next resolved memo' hresolved =>
      rw [hresolved] at hscripts
      refine ⟨?_, hscripts.2⟩
      rintro _ ⟨⟩ text htext
      obtain ⟨hmem, -, -⟩ := mem_texts_keep.1 htext
      obtain ⟨f, hf, rfl⟩ := List.mem_map.1 hmem
      obtain ⟨⟨script, r⟩, hentry, rfl⟩ := List.mem_map.1 hf
      exact trimmed_text (hscripts.1 resolved rfl _ hentry) s.direction script

/-- Every operation leaves a memo of trimmed codes. -/
theorem Operation.trimmed_run {memo : Memo} (hmemo : memo.Trimmed) (operation : Operation) :
    (operation.run c registry memo).Trimmed := by
  cases operation with
  | resolve scope call => exact (trims_resolveWith hmemo scope call).memo
  | script s => exact (trims_resolveScript hmemo s).memo
  | compile s => exact (trimmed_compileWith hmemo s).2

/-- Every history of operations leaves a memo of trimmed codes. -/
theorem trimmed_memoAfter (c : Collection) (registry : Template.Registry)
    (history : List Operation) : (memoAfter c registry history).Trimmed := by
  induction history using List.reverseRecOn with
  | nil => exact Memo.trimmed_nil
  | append_singleton earlier last ih =>
    rw [memoAfter, List.foldl_append]
    exact Operation.trimmed_run ih last

/-- No text is kept twice. -/
theorem nodup_texts_keep (seen : List String) (fragments : List Fragment) :
    (texts (keep seen fragments)).Nodup := by
  induction fragments generalizing seen with
  | nil => exact List.nodup_nil
  | cons f rest ih =>
    rw [keep]
    split
    · exact ih seen
    · have hnew : f.text ∉ texts (keep (f.text :: seen) rest) := by
        intro hmem
        obtain ⟨-, -, hunseen⟩ := mem_texts_keep.1 hmem
        exact hunseen List.mem_cons_self
      exact List.nodup_cons.2 ⟨hnew, ih (f.text :: seen)⟩

/-- The fragments of a selection have different texts. -/
theorem nodup_texts_compileWith {memo : Memo} {s : Selection} {fragments : List Fragment}
    (h : (compileWith c registry memo s).1 = .ok fragments) : (texts fragments).Nodup := by
  rw [compileWith] at h
  split at h
  · cases h
  · split at h
    · cases h
    · cases h
      exact nodup_texts_keep _ _

/-- The fragments of a selection have texts. -/
theorem text_ne_empty_compileWith {memo : Memo} {s : Selection} {fragments : List Fragment}
    (h : (compileWith c registry memo s).1 = .ok fragments) :
    ∀ text ∈ texts fragments, text ≠ "" := by
  rw [compileWith] at h
  split at h
  · cases h
  · split at h
    · cases h
    · cases h
      intro text htext
      exact (mem_texts_keep.1 htext).2.1

end Compilation

/-! ## Between fragments -/

namespace Text

/-- Between what stands before and behind there is a run of breaks, and it is all of them:
the text before ends with another character, and the text behind starts with one. -/
structure RunOfBreaks (s before breaks behind : List Char) : Prop where
  eq_append : s = before ++ breaks ++ behind
  isBreak_of_mem : ∀ c ∈ breaks, isBreak c = true
  last : ∃ c ∈ before.getLast?, isBreak c = false
  first : ∃ c ∈ behind.head?, isBreak c = false

/-- Two trimmed texts that say something, with breaks between them. -/
theorem runOfBreaks_of_trimmed {s t breaks : List Char} (hs : Trimmed isBreak s)
    (ht : Trimmed isBreak t) (hs' : s ≠ []) (ht' : t ≠ [])
    (hbreaks : ∀ c ∈ breaks, isBreak c = true) (before behind : List Char) :
    RunOfBreaks (before ++ s ++ breaks ++ (t ++ behind)) (before ++ s) breaks (t ++ behind) where
  eq_append := rfl
  isBreak_of_mem := hbreaks
  last := by
    have hlast := List.getLast?_eq_some_getLast hs'
    refine ⟨s.getLast hs', ?_, hs.last _ hlast⟩
    rw [List.getLast?_append_of_ne_nil _ hs']
    exact hlast
  first := by
    have hfirst := List.head?_eq_some_head ht'
    refine ⟨t.head ht', ?_, ht.first _ hfirst⟩
    rw [List.head?_append_of_ne_nil _ ht']
    exact hfirst

/-- Pieces with a separator behind each. -/
def followed (separator : List Char) (pieces : List (List Char)) : List Char :=
  pieces.flatMap fun piece => piece ++ separator

/-- Pieces with a separator before each. -/
def preceded (separator : List Char) (pieces : List (List Char)) : List Char :=
  pieces.flatMap fun piece => separator ++ piece

/-- A piece before others, joined. -/
theorem joinWith_cons (separator piece : List Char) (rest : List (List Char)) :
    joinWith separator (piece :: rest) = piece ++ preceded separator rest := by
  induction rest generalizing piece with
  | nil => exact (List.append_nil piece).symm
  | cons next others ih =>
    rw [joinWith_cons_cons, ih next, preceded, preceded, List.flatMap_cons]
    simp only [List.append_assoc]

/-- A piece among others, joined. -/
theorem joinWith_split (separator piece : List Char) (before behind : List (List Char)) :
    joinWith separator (before ++ piece :: behind) =
      followed separator before ++ piece ++ preceded separator behind := by
  induction before with
  | nil => exact joinWith_cons separator piece behind
  | cons first rest ih =>
    rw [List.cons_append, joinWith_cons_of_ne_nil _ _ (by simp), ih, followed, followed,
      List.flatMap_cons]
    simp only [List.append_assoc]

end Text

namespace Compilation

open Resolution

/-- Whatever was done with the memo before: calls in any scope and scripts come to trimmed
codes, if to any.  The fragments of a selection have texts, all different; and where they are
put together without banners, with a header and a footer, there are exactly two line feeds
between a fragment and the next one. -/
theorem texts_are_trimmed (c : Collection) (registry : Template.Registry)
    (history : List Operation) :
    (∀ scope call r, (resolveWith c registry (memoAfter c registry history) scope call).1 = .ok r →
      r.Trimmed) ∧
    (∀ s r, (resolveScript c registry (memoAfter c registry history) s).1 = .ok r →
      r.Trimmed) ∧
    ∀ s fragments, (compileWith c registry (memoAfter c registry history) s).1 = .ok fragments →
      (∀ text ∈ texts fragments, text ≠ "") ∧ (texts fragments).Nodup ∧
      ∀ header footer before f g behind, fragments = before ++ f :: g :: behind →
        ∃ script, Assembly.assemble (Assembly.Style.standard none "\n") header footer fragments =
            .ok script ∧
          RunOfBreaks script.toList
            (followed ['\n', '\n']
              ((Assembly.framePart header ++ texts before).map String.toList) ++ f.text.toList)
            ['\n', '\n']
            (g.text.toList ++ (preceded ['\n', '\n']
              ((texts behind ++ Assembly.framePart footer).map String.toList) ++ ['\n'])) := by
  have hmemo := trimmed_memoAfter c registry history
  refine ⟨?_, ?_, ?_⟩
  · intro scope call
    exact (trims_resolveWith hmemo scope call).result
  · intro s
    exact (trims_resolveScript hmemo s).result
  · intro s fragments h
    have hsome := text_ne_empty_compileWith h
    have htrimmed := (trimmed_compileWith hmemo s).1 fragments h
    refine ⟨hsome, nodup_texts_compileWith h, ?_⟩
    rintro header footer before f g behind rfl
    have hf : f.text ∈ texts (before ++ f :: g :: behind) := by simp [texts]
    have hg : g.text ∈ texts (before ++ f :: g :: behind) := by simp [texts]
    have hbreaks : ∀ c ∈ ['\n', '\n'], isBreak c = true := by simp [isBreak]
    have hrun := runOfBreaks_of_trimmed (htrimmed _ hf) (htrimmed _ hg)
      (by simpa using hsome _ hf) (by simpa using hsome _ hg) hbreaks
      (followed ['\n', '\n'] ((Assembly.framePart header ++ texts before).map String.toList))
      (preceded ['\n', '\n'] ((texts behind ++ Assembly.framePart footer).map String.toList) ++
        ['\n'])
    have hparts : (Assembly.framePart header ++ (before ++ f :: g :: behind).map Fragment.text ++
        Assembly.framePart footer).map String.toList =
        (Assembly.framePart header ++ texts before).map String.toList ++ f.text.toList ::
          g.text.toList :: (texts behind ++ Assembly.framePart footer).map String.toList := by
      simp [texts]
    refine ⟨_, Assembly.assemble_plain header footer _, ?_⟩
    rw [Assembly.toList_parts, hparts, joinWith_split, preceded, List.flatMap_cons, ← preceded]
    simpa only [List.append_assoc] using hrun

/-- In the sample, once its services were compiled: a call in a scope, a script, and the two
fragments of everything below a header. -/
theorem sample_texts_are_trimmed :
    Resolved.Trimmed ⟨"clear", none⟩ ∧ Resolved.Trimmed ⟨"stop", some "start"⟩ ∧
    ∃ script, Assembly.assemble (Assembly.Style.standard none "\n") "#!" ""
        [⟨"Clear history", "clear", none, .forward⟩,
          ⟨"Stop service", "stop", some "start", .forward⟩] = .ok script ∧
      RunOfBreaks script.toList "#!\n\nclear".toList ['\n', '\n'] "stop\n".toList := by
  have hcall : (resolveWith sample Pipe.standard (memoAfter sample Pipe.standard
      [.compile ⟨none, some ["Services"], none, .forward⟩]) ["Other"] ⟨"Outer", []⟩).1 =
        .ok ⟨"clear", none⟩ := by with_unfolding_all decide
  have hscript : (resolveScript sample Pipe.standard (memoAfter sample Pipe.standard
      [.compile ⟨none, some ["Services"], none, .forward⟩])
        ⟨"Stop service", some "stop", some "start", [], some .strict, []⟩).1 =
          .ok ⟨"stop", some "start"⟩ := by decide
  have hall : (compileWith sample Pipe.standard (memoAfter sample Pipe.standard
      [.compile ⟨none, some ["Services"], none, .forward⟩]) (.everything .forward)).1 =
        .ok [⟨"Clear history", "clear", none, .forward⟩,
          ⟨"Stop service", "stop", some "start", .forward⟩] := by with_unfolding_all decide
  obtain ⟨hcalls, hscripts, hfragments⟩ := texts_are_trimmed sample Pipe.standard
    [.compile ⟨none, some ["Services"], none, .forward⟩]
  obtain ⟨-, -, hneighbours⟩ := hfragments _ _ hall
  refine ⟨hcalls _ _ _ hcall, hscripts _ _ hscript, ?_⟩
  exact hneighbours "#!" "" [] _ _ [] rfl

end Compilation

end Tweaks
