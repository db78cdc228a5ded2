import RealtimeEx.Support.Search

/-!
# Pieces from the left

A text is cut at the separators that a search from the left finds, each one behind the one
before.  Here two separators may overlap; the search decides which of them counts.
-/

namespace RealtimeEx

universe u

variable {α : Type u} [DecidableEq α] {sep : List α}

/-- The pieces of a text between the separators that are found from the left. -/
inductive LeftmostPieces (sep : List α) : List α → List (List α) → Prop
  | last {text : List α} (hnone : search sep text = none) : LeftmostPieces sep text [text]
  | next {text piece rest : List α} {pieces : List (List α)}
      (htext : text = piece ++ sep ++ rest) (hfound : search sep text = some piece.length)
      (hrest : LeftmostPieces sep rest pieces) : LeftmostPieces sep text (piece :: pieces)

/-- A text is cut where a separator is found. -/
theorem eq_of_search {text : List α} {i : ℕ} (h : search sep text = some i) :
    ∃ piece rest, text = piece ++ sep ++ rest ∧ piece.length = i := by
  obtain ⟨⟨rest, hrest⟩, hle⟩ := prefix_drop_of_search h
  refine ⟨text.take i, rest, ?_, ?_⟩
  · rw [List.append_assoc, hrest, List.take_append_drop]
  · rw [List.length_take]
    omega

/-- Every text has its pieces. -/
theorem exists_leftmostPieces (hne : sep ≠ []) (text : List α) :
    ∃ pieces, LeftmostPieces sep text pieces := by
  cases hsearch : search sep text with
  | none => exact ⟨[text], .last hsearch⟩
  | some i =>
      obtain ⟨piece, rest, htext, rfl⟩ := eq_of_search hsearch
      obtain ⟨pieces, hpieces⟩ := exists_leftmostPieces hne rest
      exact ⟨piece :: pieces, .next htext hsearch hpieces⟩
termination_by text.length
decreasing_by
  have hpos := List.length_pos_of_ne_nil hne
  subst_vars
  simp only [List.length_append]
  omega

theorem LeftmostPieces.unique {text : List α} {pieces pieces' : List (List α)}
    (h : LeftmostPieces sep text pieces) (h' : LeftmostPieces sep text pieces') :
    pieces = pieces' := by
  induction h generalizing pieces' with
  | last hnone =>
      cases h' with
      | last => rfl
      | next _ hfound => exact absurd (hnone.symm.trans hfound) (by simp)
  | next htext hfound _ ih =>
      cases h' with
      | last hnone => exact absurd (hnone.symm.trans hfound) (by simp)
      | next htext' hfound' hrest' =>
          have hlength := Option.some.inj (hfound.symm.trans hfound')
          rw [htext, List.append_assoc, List.append_assoc] at htext'
          obtain ⟨rfl, hbehind⟩ := List.append_inj htext' hlength
          obtain rfl := List.append_cancel_left hbehind
          rw [ih hrest']

/-- Nothing is no separator: it would be found for ever. -/
theorem LeftmostPieces.sep_ne_nil {text : List α} {pieces : List (List α)}
    (h : LeftmostPieces sep text pieces) : sep ≠ [] := by
  induction h with
  | last hnone =>
      rintro rfl
      rw [search_eq_zero_iff.mpr List.nil_prefix] at hnone
      cases hnone
  | next _ _ _ ih => exact ih

theorem LeftmostPieces.ne_nil {text : List α} {pieces : List (List α)}
    (h : LeftmostPieces sep text pieces) : pieces ≠ [] := by
  cases h with
  | last => exact List.cons_ne_nil _ _
  | next => exact List.cons_ne_nil _ _

/-- With the separators between them the pieces are the text. -/
theorem LeftmostPieces.intercalate {text : List α} {pieces : List (List α)}
    (h : LeftmostPieces sep text pieces) : sep.intercalate pieces = text := by
  induction h with
  | last => exact List.intercalate_singleton
  | next htext _ hrest ih => rw [List.intercalate_cons_of_ne_nil hrest.ne_nil, ih, htext]

/-! ## What stands before a text -/

/-- If no separator starts in what stands before a text, the search goes on in the text. -/
theorem search_append_left {front text : List α}
    (hkept : ∀ k < front.length, ¬ sep <+: (front ++ text).drop k) :
    search sep (front ++ text) = (search sep text).map (front.length + ·) := by
  induction front with
  | nil => simp
  | cons x front ih =>
      have hhead : ¬ sep <+: x :: (front ++ text) := hkept 0 (by simp)
      have hrest := ih fun k hk => by
        have hlater := hkept (k + 1) (by simpa using hk)
        exact hlater
      rw [List.cons_append, search, if_neg hhead, hrest, Option.map_map]
      refine congrArg (Option.map · _) (funext fun i => ?_)
      simp only [Function.comp_apply, List.length_cons]
      omega

/-- A separator that starts somewhere is found there or before. -/
theorem search_le {text : List α} {k : ℕ} (hstart : sep <+: text.drop k) :
    ∃ i ≤ k, search sep text = some i := by
  induction text generalizing k with
  | nil =>
      rw [List.drop_nil, List.prefix_nil] at hstart
      exact ⟨0, Nat.zero_le k, if_pos hstart⟩
  | cons x text ih =>
      by_cases hfront : sep <+: x :: text
      · exact ⟨0, Nat.zero_le k, if_pos hfront⟩
      · cases k with
        | zero => exact absurd hstart hfront
        | succ k =>
            obtain ⟨i, hi, hfound⟩ := ih (k := k) hstart
            refine ⟨i + 1, Nat.succ_le_succ hi, ?_⟩
            rw [search, if_neg hfront, hfound]
            rfl

end RealtimeEx
