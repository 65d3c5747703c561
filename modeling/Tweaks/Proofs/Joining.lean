import Tweaks.Resolution.Basic

/-!
# Putting codes together

Codes are put together line by line, with empty ones left out.  How they are grouped on
the way leaves no trace: what was put together before may be put together with others.

Main results:

- `joinLines_append`, `joinLines_map_joinLines`: texts, joined at once or in groups.
- `merge_map_merge`, `merge_append`: codes, put together at once or in groups.
-/

namespace Tweaks.Resolution

/-- The texts that are not empty, line by line. -/
def joinLines (texts : List String) : String :=
  Text.join "\n" (nonEmpty texts)

theorem nonEmpty_append (texts others : List String) :
    nonEmpty (texts ++ others) = nonEmpty texts ++ nonEmpty others :=
  List.filter_append ..

/-- Texts that are joined are empty only if there is nothing to join. -/
theorem joinLines_eq_empty_iff {texts : List String} :
    joinLines texts = "" ↔ nonEmpty texts = [] := by
  rw [joinLines]
  constructor
  · intro h
    cases htexts : nonEmpty texts with
    | nil => rfl
    | cons first rest =>
      have hfirst : first ≠ "" := by
        have hmem : first ∈ nonEmpty texts := htexts ▸ List.mem_cons_self
        rw [nonEmpty, List.mem_filter] at hmem
        simpa using hmem.2
      rw [htexts, Text.join, String.ofList_eq_empty_iff] at h
      cases rest with
      | nil => simp_all
      | cons second rest => simp_all [Text.joinWith_cons_cons]
  · intro h
    rw [h]
    rfl

/-- A single text is joined to itself. -/
@[simp]
theorem joinLines_singleton (text : String) : joinLines [text] = text := by
  by_cases h : text = ""
  · rw [h, joinLines_eq_empty_iff]
    simp [nonEmpty]
  · simp [joinLines, nonEmpty, h, Text.join]

/-- Empty texts add nothing to others. -/
theorem joinLines_append_of_empty {texts others : List String} (h : joinLines texts = "") :
    joinLines (texts ++ others) = joinLines others ∧
      joinLines (others ++ texts) = joinLines others := by
  have hempty := joinLines_eq_empty_iff.1 h
  simp [joinLines, nonEmpty_append, hempty]

/-- Texts in two groups, joined at once or group by group. -/
theorem joinLines_append (texts others : List String) :
    joinLines (texts ++ others) = joinLines [joinLines texts, joinLines others] := by
  by_cases h : joinLines texts = ""
  · have hsingle : joinLines [""] = "" := joinLines_singleton ""
    rw [(joinLines_append_of_empty h).1, h, ← List.singleton_append,
      (joinLines_append_of_empty hsingle).1, joinLines_singleton]
  by_cases h' : joinLines others = ""
  · have hsingle : joinLines [""] = "" := joinLines_singleton ""
    rw [(joinLines_append_of_empty h').2, h', ← List.singleton_append,
      (joinLines_append_of_empty hsingle).2, joinLines_singleton]
  · have htwo : nonEmpty [joinLines texts, joinLines others] =
        [joinLines texts] ++ [joinLines others] := by
      simp [nonEmpty, h, h']
    rw [joinLines, joinLines, nonEmpty_append, htwo]
    rw [Text.join_append _ (mt joinLines_eq_empty_iff.2 h) (mt joinLines_eq_empty_iff.2 h')]
    rw [Text.join_append _ (List.cons_ne_nil _ _) (List.cons_ne_nil _ _)]
    simp [joinLines, Text.join]

/-- Texts in groups, joined at once or group by group. -/
theorem joinLines_map_joinLines (groups : List (List String)) :
    joinLines (groups.map joinLines) = joinLines groups.flatten := by
  induction groups with
  | nil => rfl
  | cons group rest ih =>
    calc joinLines ((group :: rest).map joinLines)
        = joinLines [joinLines [joinLines group], joinLines (rest.map joinLines)] :=
          joinLines_append [joinLines group] (rest.map joinLines)
      _ = joinLines [joinLines group, joinLines rest.flatten] := by
          rw [joinLines_singleton, ih]
      _ = joinLines (group :: rest).flatten := (joinLines_append group rest.flatten).symm

/-- A text, unless it is empty. -/
def filled? (text : String) : Option String :=
  if text.isEmpty then none else some text

/-- A text that is not there counts as empty. -/
theorem getD_filled? (text : String) : (filled? text).getD "" = text := by
  by_cases h : text = "" <;> simp [filled?, h]

/-- Only the empty text is not there. -/
theorem filled?_eq_none_iff {text : String} : filled? text = none ↔ text = "" := by
  by_cases h : text = "" <;> simp [filled?, h]

/-- A text that is there is not empty. -/
theorem filter_filled? (text : String) :
    ((filled? text).filter fun text => !text.isEmpty) = filled? text := by
  by_cases h : text = "" <;> simp [filled?, h]

/-- The texts that are there are joined with the others left out. -/
theorem joinLines_filterMap_filled? {α : Type} (text : α → String) (items : List α) :
    joinLines (items.filterMap fun item => filled? (text item)) =
      joinLines (items.map text) := by
  have hsame : nonEmpty (items.filterMap fun item => filled? (text item)) =
      nonEmpty (items.map text) := by
    induction items with
    | nil => rfl
    | cons item rest ih =>
      by_cases h : text item = ""
      · simp_all [nonEmpty, filled?]
      · simp_all [nonEmpty, filled?]
  rw [joinLines, joinLines, hsame]

/-- What codes are put together to. -/
theorem merge_eq (results : List Resolved) :
    merge results = ⟨joinLines (results.map Resolved.code),
      filled? (joinLines (results.filterMap Resolved.revertCode))⟩ := by
  have hempty : (joinLines (results.filterMap Resolved.revertCode)).isEmpty =
      (nonEmpty (results.filterMap Resolved.revertCode)).isEmpty := by
    rw [Bool.eq_iff_iff, String.isEmpty_iff, joinLines_eq_empty_iff, List.isEmpty_iff]
  rw [merge, filled?, hempty]
  rfl

/-- Codes that are put together in groups come to the same as all at once. -/
theorem merge_map_merge (groups : List (List Resolved)) :
    merge (groups.map merge) = merge groups.flatten := by
  have hcodes : (groups.map merge).map Resolved.code =
      (groups.map (List.map Resolved.code)).map joinLines := by
    simp [merge_eq]
  have hreverts : joinLines ((groups.map merge).filterMap Resolved.revertCode) =
      joinLines ((groups.map (List.filterMap Resolved.revertCode)).map joinLines) := by
    rw [List.map_map, ← joinLines_filterMap_filled?, List.filterMap_map]
    simp only [Function.comp_def, merge_eq]
  rw [merge_eq, hcodes, hreverts, joinLines_map_joinLines, joinLines_map_joinLines, merge_eq,
    List.map_flatten, List.filterMap_flatten]

/-- Codes in two groups, put together at once or group by group. -/
theorem merge_append (results others : List Resolved) :
    merge (results ++ others) = merge [merge results, merge others] := by
  simpa using (merge_map_merge [results, others]).symm

/-- What was put together stays as it is. -/
theorem merge_merge (results : List Resolved) : merge [merge results] = merge results := by
  simpa using merge_map_merge [results]

end Tweaks.Resolution
