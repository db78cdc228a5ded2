import RealtimeEx.Support.Search

/-!
# Texts in pieces

A text is cut wherever a separator stands in it.  When no proper beginning of
the separator is an end of it, two separators do not overlap and the pieces are
determined by the text.
-/

namespace RealtimeEx

universe u

variable {α : Type u} {sep piece rest : List α} {pieces : List (List α)}

/-- No proper beginning of the separator is an end of it. -/
def Unbordered (sep : List α) : Prop :=
  ∀ border, border <+: sep → border <:+ sep → border ≠ [] → border = sep

/-- A separator is unbordered if no other piece stands at both of its ends. -/
theorem unbordered_of_inits {sep : List α}
    (hall : ∀ border ∈ sep.inits, border ∈ sep.tails → border ≠ [] → border = sep) :
    Unbordered sep := by
  intro border hfront hsuffix
  exact hall border ((List.mem_inits _ _).mpr hfront) ((List.mem_tails _ _).mpr hsuffix)

/-- The pieces of a text between its separators. -/
structure IsPieces (sep text : List α) (pieces : List (List α)) : Prop where
  ne_nil : pieces ≠ []
  free : ∀ piece ∈ pieces, ¬ sep <:+: piece
  intercalate : sep.intercalate pieces = text

/-- The pieces with values between them, the first values first.  Where the
values have run out, the separator stays. -/
def fillPieces (sep : List α) : List (List α) → List (List α) → List α
  | [], _ => []
  | [piece], _ => piece
  | piece :: next :: pieces, [] => piece ++ sep ++ fillPieces sep (next :: pieces) []
  | piece :: next :: pieces, value :: values =>
      piece ++ value ++ fillPieces sep (next :: pieces) values

theorem fillPieces_nil (sep : List α) (pieces : List (List α)) :
    fillPieces sep pieces [] = sep.intercalate pieces := by
  induction pieces with
  | nil => rfl
  | cons piece pieces ih =>
      cases pieces with
      | nil => exact List.intercalate_singleton.symm
      | cons next pieces => rw [fillPieces, ih, List.intercalate_cons_cons]

/-- The beginning of a separator behind a piece does not make a separator. -/
theorem not_infix_append_dropLast (hsep : Unbordered sep) (hne : sep ≠ [])
    (hfree : ¬ sep <:+: piece) : ¬ sep <:+: piece ++ sep.dropLast := by
  rintro ⟨front, back, htext⟩
  have hpos := List.length_pos_of_ne_nil hne
  have hlength := congrArg List.length htext
  simp only [List.length_append, List.length_dropLast] at hlength
  by_cases hinside : front.length + sep.length ≤ piece.length
  · refine hfree (List.IsInfix.trans ⟨front, [], List.append_nil _⟩ ?_)
    refine (List.prefix_of_prefix_length_le ⟨back, htext⟩
      (List.prefix_append piece sep.dropLast) ?_).isInfix
    rw [List.length_append]
    exact hinside
  · -- what of the separator is behind the piece is a border of it
    have hover : sep.drop (piece.length - front.length) ++ back = sep.dropLast := by
      have hdrop := congrArg (List.drop piece.length) htext
      have hsum : piece.length = front.length + (piece.length - front.length) := by omega
      rw [List.drop_left, hsum, List.append_assoc, List.drop_length_add_append,
        List.drop_append_of_le_length (by omega)] at hdrop
      exact hdrop
    have hborder := hsep _ ((List.prefix_append _ back).trans
      (hover ▸ List.dropLast_prefix sep)) (List.drop_suffix _ _) ?_
    · have hlast := congrArg List.length hover
      rw [hborder, List.length_append, List.length_dropLast] at hlast
      omega
    · intro hnil
      have hzero := congrArg List.length hnil
      rw [List.length_drop, List.length_nil] at hzero
      omega

section

variable [DecidableEq α]

/-- The first separator is found behind the first piece. -/
theorem search_piece (hsep : Unbordered sep) (hne : sep ≠ []) (hfree : ¬ sep <:+: piece) :
    search sep (piece ++ sep ++ rest) = some piece.length :=
  search_append_of_not_infix hne (not_infix_append_dropLast hsep hne hfree)

/-- No separator stands before the first one. -/
theorem not_infix_take_of_search {text : List α} {i : ℕ} (hne : sep ≠ [])
    (h : search sep text = some i) : ¬ sep <:+: text.take i := by
  rw [← search_eq_none_iff hne]
  cases hfound : search sep (text.take i) with
  | none => rfl
  | some j =>
      have hpos := List.length_pos_of_ne_nil hne
      have hle := (prefix_drop_of_search hfound).2
      have hfull := search_append (text.drop i) hfound hne
      rw [List.take_append_drop, h] at hfull
      have hij := Option.some.inj hfull
      rw [List.length_take] at hle
      omega

/-- Every text has pieces. -/
theorem exists_isPieces (hne : sep ≠ []) (text : List α) : ∃ pieces, IsPieces sep text pieces := by
  induction hlength : text.length using Nat.strong_induction_on generalizing text with
  | _ n ih =>
      have hpos := List.length_pos_of_ne_nil hne
      cases hsearch : search sep text with
      | none =>
          refine ⟨[text], List.cons_ne_nil _ _, ?_, List.intercalate_singleton⟩
          intro piece hpiece
          rw [List.mem_singleton.mp hpiece]
          exact (search_eq_none_iff hne).mp hsearch
      | some i =>
          obtain ⟨⟨rest, hrest⟩, hle⟩ := prefix_drop_of_search hsearch
          have hrestLength := congrArg List.length hrest
          rw [List.length_append, List.length_drop] at hrestLength
          obtain ⟨pieces, hpieces⟩ := ih rest.length (by omega) rest rfl
          refine ⟨text.take i :: pieces, List.cons_ne_nil _ _, ?_, ?_⟩
          · intro piece hpiece
            rcases List.mem_cons.mp hpiece with rfl | hpiece
            · exact not_infix_take_of_search hne hsearch
            · exact hpieces.free piece hpiece
          · rw [List.intercalate_cons_of_ne_nil hpieces.ne_nil, hpieces.intercalate,
              List.append_assoc, hrest, List.take_append_drop]

/-- A text that is one piece holds no separator. -/
theorem IsPieces.search_singleton {text : List α} (hne : sep ≠ [])
    (h : IsPieces sep text [piece]) : text = piece ∧ search sep text = none := by
  have htext : text = piece := h.intercalate.symm.trans List.intercalate_singleton
  refine ⟨htext, ?_⟩
  rw [search_eq_none_iff hne, htext]
  exact h.free piece List.mem_cons_self

/-- Behind the first piece of several there is the first separator, and behind it
the pieces of the rest. -/
theorem IsPieces.search_cons {text next : List α} (hsep : Unbordered sep) (hne : sep ≠ [])
    (h : IsPieces sep text (piece :: next :: pieces)) :
    ∃ rest, text = piece ++ sep ++ rest ∧ IsPieces sep rest (next :: pieces) ∧
      search sep text = some piece.length := by
  have htext : piece ++ sep ++ sep.intercalate (next :: pieces) = text :=
    List.intercalate_cons_cons.symm.trans h.intercalate
  refine ⟨sep.intercalate (next :: pieces), htext.symm, ⟨List.cons_ne_nil _ _, ?_, rfl⟩, ?_⟩
  · exact fun other hother => h.free other (List.mem_cons_of_mem _ hother)
  · rw [← htext]
    exact search_piece hsep hne (h.free piece List.mem_cons_self)

/-- A text determines its pieces. -/
theorem IsPieces.unique {text : List α} {pieces pieces' : List (List α)}
    (hsep : Unbordered sep) (hne : sep ≠ []) (h : IsPieces sep text pieces)
    (h' : IsPieces sep text pieces') : pieces = pieces' := by
  induction pieces generalizing text pieces' with
  | nil => exact absurd rfl h.ne_nil
  | cons piece pieces ih =>
      obtain ⟨piece', pieces', rfl⟩ := List.exists_cons_of_ne_nil h'.ne_nil
      cases pieces with
      | nil =>
          obtain ⟨htext, hnone⟩ := h.search_singleton hne
          cases pieces' with
          | nil => rw [← htext, (h'.search_singleton hne).1]
          | cons next' pieces' =>
              obtain ⟨_, _, _, hsome⟩ := h'.search_cons hsep hne
              exact absurd (hnone.symm.trans hsome) (by simp)
      | cons next pieces =>
          obtain ⟨rest, htext, hrest, hsome⟩ := h.search_cons hsep hne
          cases pieces' with
          | nil => exact absurd ((h'.search_singleton hne).2.symm.trans hsome) (by simp)
          | cons next' pieces' =>
              obtain ⟨rest', htext', hrest', hsome'⟩ := h'.search_cons hsep hne
              have hlength : piece.length = piece'.length :=
                Option.some.inj (hsome.symm.trans hsome')
              rw [htext, List.append_assoc, List.append_assoc] at htext'
              obtain ⟨rfl, hbehind⟩ := List.append_inj htext' hlength
              obtain rfl := List.append_cancel_left hbehind
              rw [ih hrest hrest']

/-- Where no separator overlaps another, every text has its pieces. -/
theorem existsUnique_isPieces (hsep : Unbordered sep) (hne : sep ≠ []) (text : List α) :
    ∃! pieces, IsPieces sep text pieces := by
  obtain ⟨pieces, hpieces⟩ := exists_isPieces hne text
  exact ⟨pieces, hpieces, fun _ hother => hother.unique hsep hne hpieces⟩

end

end RealtimeEx
