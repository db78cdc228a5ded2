import RealtimeEx.Base.StringUtil
import RealtimeEx.Support.LeftmostPieces

/-!
# `string_util`: `split` and `replace_all`

Both search for a delimiter from the left until there is none left.  `split` searches behind
the delimiter, `replace_all` from the text that it has put in its place.
-/

namespace RealtimeEx.Base.StringUtil

/-! ## The loops -/

/-- The loop of `split` on the text from `substart` on.  `none` if it goes on for more than
`fuel` rounds. -/
def splitLoop (delim : StdString) :
    ℕ → StdString → List StdString → Option (List StdString)
  | 0, _, _ => none
  | fuel + 1, str, result =>
      let subend := (search delim str).getD str.length
      let temp := str.take subend
      let result := if temp ≠ [] then result ++ [temp] else result
      if subend = str.length then
        some result
      else
        splitLoop delim fuel (str.drop (subend + delim.length)) result

/-- `split`, with `result` before and after. -/
def split (fuel : ℕ) (str : StdString) (result : List StdString) (delim : StdString) :
    Option (List StdString) :=
  if str = [] then some result else splitLoop (cStr delim) fuel str result

/-- `std::string::find` from a position on. -/
def findFrom (str delim : StdString) (pos : ℕ) : Option ℕ :=
  if pos ≤ str.length then (search delim (str.drop pos)).map (pos + ·) else none

/-- `std::string::replace`. -/
def replaceAt (str : StdString) (pos len : ℕ) (s : StdString) : StdString :=
  str.take pos ++ s ++ str.drop (pos + len)

/-- The loop of `replace_all`, searching from `pos` on: where it replaces, and the text at the
end.  `none` if it goes on for more than `fuel` rounds. -/
def replaceLoop (delim s : StdString) : ℕ → StdString → ℕ → Option (List ℕ × StdString)
  | 0, _, _ => none
  | fuel + 1, str, pos =>
      match findFrom str delim pos with
      | none => some ([], str)
      | some pos =>
          (replaceLoop delim s fuel (replaceAt str pos delim.length s) pos).map
            fun r => (pos :: r.1, r.2)

/-- `replace_all`. -/
def replaceAll (fuel : ℕ) (str delim s : StdString) : Option (List ℕ × StdString) :=
  replaceLoop (cStr delim) (cStr s) fuel str 0

/-! ## What is meant -/

/-- `split` ends, and appends the pieces of the text that are not empty. -/
def Splits (str delim : StdString) : Prop :=
  ∀ result, ∃ fuel pieces, split fuel str result delim = some (result ++ pieces) ∧
    ∀ all, LeftmostPieces (cStr delim) str all → pieces = all.filter (· ≠ [])

/-- Where the pieces begin to be followed by a replacement of length `n`, if the first one
starts at `pos`. -/
def places (n : ℕ) : ℕ → List StdString → List ℕ
  | _, [] => []
  | _, [_] => []
  | pos, piece :: next :: pieces =>
      (pos + piece.length) :: places n (pos + piece.length + n) (next :: pieces)

/-- `replace_all` ends, it replaces the delimiters found from the left in the text, each of
them once and nothing else, and the pieces stand between the replacements. -/
def ReplacesAll (str delim s : StdString) : Prop :=
  ∃ fuel replaced text, replaceAll fuel str delim s = some (replaced, text) ∧
    ∀ all, LeftmostPieces (cStr delim) str all →
      replaced = places (cStr s).length 0 all ∧ text = (cStr s).intercalate all

/-- In no replacement starts a delimiter, together with the text behind it. -/
def NoneInside (delim s : StdString) : List StdString → Prop
  | [] => True
  | [_] => True
  | _ :: next :: pieces =>
      (∀ k < s.length, ¬ delim <+: (s ++ delim.intercalate (next :: pieces)).drop k) ∧
        NoneInside delim s (next :: pieces)

/-! ## `split` -/

section Split

variable {delim str : StdString}

theorem splitLoop_eq {all : List StdString} (h : LeftmostPieces delim str all)
    (result : List StdString) :
    ∃ fuel, splitLoop delim fuel str result = some (result ++ all.filter (· ≠ [])) := by
  have hne := h.sep_ne_nil
  induction h generalizing result with
  | @last str hnone =>
      refine ⟨1, ?_⟩
      rw [splitLoop, hnone, Option.getD_none, if_pos rfl, List.take_length]
      by_cases hstr : str = []
      · subst str
        simp
      · simp [hstr]
  | @next str piece rest pieces htext hfound hrest ih =>
      obtain ⟨fuel, hloop⟩ := ih (if piece ≠ [] then result ++ [piece] else result)
      refine ⟨fuel + 1, ?_⟩
      have hpos := List.length_pos_of_ne_nil hne
      have hlength : piece.length ≠ str.length := by
        rw [htext, List.length_append, List.length_append]
        omega
      have htake : str.take piece.length = piece := by
        rw [htext, List.append_assoc, List.take_left]
      have hdrop : str.drop (piece.length + delim.length) = rest := by
        rw [htext, ← List.length_append, List.drop_left]
      rw [splitLoop, hfound, Option.getD_some, if_neg hlength, htake, hdrop, hloop]
      by_cases hpiece : piece = []
      · simp [hpiece]
      · simp [hpiece]

theorem splitLoop_nil (hstr : str ≠ []) (fuel : ℕ) (result : List StdString) :
    splitLoop [] fuel str result = none := by
  induction fuel generalizing result with
  | zero => rfl
  | succ fuel ih =>
      have hzero : search [] str = some 0 := search_eq_zero_iff.mpr List.nil_prefix
      have hlength : 0 ≠ str.length := (List.length_pos_of_ne_nil hstr).ne
      rw [splitLoop, hzero, Option.getD_some, if_neg hlength]
      exact ih _

/-- `split` is right unless a text that is not empty is split at nothing. -/
theorem splits_iff (str delim : StdString) :
    Splits str delim ↔ str = [] ∨ cStr delim ≠ [] := by
  by_cases hstr : str = []
  · subst str
    refine iff_of_true (fun result => ⟨0, [], ?_, fun all hall => ?_⟩) (Or.inl rfl)
    · rw [split, if_pos rfl, List.append_nil]
    · have hone : search (cStr delim) [] = none := if_neg hall.sep_ne_nil
      rw [hall.unique (.last hone)]
      rfl
  · rw [or_iff_right hstr]
    constructor
    · intro hsplits hnil
      obtain ⟨fuel, pieces, hsplit, -⟩ := hsplits []
      rw [split, if_neg hstr, hnil, splitLoop_nil hstr] at hsplit
      cases hsplit
    · intro hne result
      obtain ⟨all, hall⟩ := exists_leftmostPieces hne str
      obtain ⟨fuel, hloop⟩ := splitLoop_eq hall result
      refine ⟨fuel, _, (if_neg hstr).trans hloop, fun all' hall' => ?_⟩
      rw [hall.unique hall']

/-- With a delimiter of one character the pieces are those that `CTokenParser` splits off. -/
theorem leftmostPieces_splitOn (c : UInt8) (str : StdString) :
    LeftmostPieces [c] str (str.splitOn c) := by
  induction str with
  | nil => exact .last rfl
  | cons x str ih =>
      rw [List.splitOn, List.splitOnP_cons_eq_if_modifyHead]
      by_cases hx : x = c
      · subst x
        rw [if_pos (beq_self_eq_true c)]
        exact .next rfl (if_pos ⟨str, rfl⟩) ih
      · have hfront : ¬ [c] <+: x :: str := by
          rw [List.cons_prefix_cons]
          exact fun h => hx h.1.symm
        rw [if_neg (by simpa using hx)]
        change LeftmostPieces _ _ ((str.splitOn c).modifyHead (x :: ·))
        generalize str.splitOn c = pieces at ih
        cases ih with
        | last hnone =>
            refine .last ?_
            rw [search, if_neg hfront, hnone]
            rfl
        | next htext hfound hrest =>
            refine .next (congrArg (x :: ·) htext) ?_ hrest
            rw [search, if_neg hfront, hfound]
            rfl

theorem split_singleton (str : StdString) {c : UInt8} (hc : c ≠ 0) :
    ∃ fuel, split fuel str [] [c] = some (Base.split str c) := by
  have hdelim : cStr [c] = [c] := List.takeWhile_cons_of_pos (decide_eq_true hc)
  obtain ⟨fuel, pieces, hsplit, hpieces⟩ :=
    (splits_iff str [c]).mpr (Or.inr (by rw [hdelim]; exact List.cons_ne_nil _ _)) []
  refine ⟨fuel, hsplit.trans ?_⟩
  rw [hdelim] at hpieces
  rw [List.nil_append, hpieces _ (leftmostPieces_splitOn c str)]
  rfl

end Split

/-! ## `replace_all` -/

section Replace

variable {delim s : StdString}

theorem findFrom_append (front str : StdString) :
    findFrom (front ++ str) delim front.length =
      (search delim str).map (front.length + ·) := by
  rw [findFrom, if_pos (by simp), List.drop_left]

theorem replaceAt_append (front old rest : StdString) :
    replaceAt (front ++ old ++ rest) front.length old.length s = front ++ s ++ rest := by
  rw [replaceAt, List.append_assoc front old, List.take_left, ← List.append_assoc,
    ← List.length_append, List.drop_left]

theorem replaceLoop_nil (fuel : ℕ) (str : StdString) {pos : ℕ} (hpos : pos ≤ str.length) :
    replaceLoop [] s fuel str pos = none := by
  induction fuel generalizing str pos with
  | zero => rfl
  | succ fuel ih =>
      have hzero : search [] (str.drop pos) = some 0 := search_eq_zero_iff.mpr List.nil_prefix
      have hnext : pos ≤ (replaceAt str pos ([] : StdString).length s).length := by
        simp only [replaceAt, List.length_append, List.length_take]
        omega
      rw [replaceLoop, findFrom, if_pos hpos, hzero]
      simp only [Option.map_some, Nat.add_zero]
      rw [ih _ hnext]
      rfl

theorem le_of_mem_places {n pos p : ℕ} {all : List StdString} (hp : p ∈ places n pos all) :
    pos ≤ p := by
  induction all generalizing pos with
  | nil => cases hp
  | cons piece all ih =>
      cases all with
      | nil => cases hp
      | cons next all =>
          obtain rfl | hp := List.mem_cons.mp hp
          · exact Nat.le_add_right _ _
          · have hle := ih hp
            omega

/-- The run that is meant, from behind what is final. -/
def Replaces (delim s front inserted rest : StdString) (all : List StdString) : Prop :=
  ∃ fuel, replaceLoop delim s fuel (front ++ inserted ++ rest) front.length =
    some (places s.length (front.length + inserted.length) all,
      front ++ inserted ++ s.intercalate all)

theorem findFrom_rest (front inserted rest : StdString) :
    findFrom (front ++ inserted ++ rest) delim front.length =
      (search delim (inserted ++ rest)).map (front.length + ·) := by
  rw [List.append_assoc, findFrom_append]

/-- What is found in the part that was inserted is no place behind it. -/
theorem Replaces.kept {front inserted rest : StdString} {all : List StdString}
    (h : Replaces delim s front inserted rest all) :
    ∀ k < inserted.length, ¬ delim <+: (inserted ++ rest).drop k := by
  intro k hk hstart
  obtain ⟨fuel, hloop⟩ := h
  obtain ⟨i, hi, hfound⟩ := search_le hstart
  cases fuel with
  | zero => cases hloop
  | succ fuel =>
      rw [replaceLoop, findFrom_rest, hfound] at hloop
      obtain ⟨r, -, hr⟩ := Option.map_eq_some_iff.mp hloop
      have hplaces : (front.length + i) :: r.1 =
          places s.length (front.length + inserted.length) all := congrArg Prod.fst hr
      have hle := le_of_mem_places (hplaces ▸ List.mem_cons_self)
      omega

/-- The loop replaces the next delimiter, and goes on from the replacement. -/
theorem replaces_next {piece rest front inserted next : StdString} {all : List StdString}
    (hfound : findFrom (front ++ inserted ++ (piece ++ delim ++ rest)) delim front.length =
      some (front.length + (inserted.length + piece.length))) :
    Replaces delim s front inserted (piece ++ delim ++ rest) (piece :: next :: all) ↔
      Replaces delim s (front ++ inserted ++ piece) s rest (next :: all) := by
  have hfront : (front ++ inserted ++ piece).length =
      front.length + (inserted.length + piece.length) := by
    rw [List.length_append, List.length_append, Nat.add_assoc]
  have hreplace : replaceAt (front ++ inserted ++ (piece ++ delim ++ rest))
      (front.length + (inserted.length + piece.length)) delim.length s =
        front ++ inserted ++ piece ++ s ++ rest := by
    rw [← hfront, ← replaceAt_append (s := s) (front ++ inserted ++ piece) delim rest]
    simp only [List.append_assoc]
  have hplaces : places s.length (front.length + inserted.length) (piece :: next :: all) =
      (front ++ inserted ++ piece).length ::
        places s.length ((front ++ inserted ++ piece).length + s.length) (next :: all) := by
    rw [places, hfront, Nat.add_assoc front.length]
  have htext : front ++ inserted ++ s.intercalate (piece :: next :: all) =
      front ++ inserted ++ piece ++ s ++ s.intercalate (next :: all) := by
    rw [List.intercalate_cons_cons]
    simp only [List.append_assoc]
  have hround : ∀ fuel, replaceLoop delim s (fuel + 1)
      (front ++ inserted ++ (piece ++ delim ++ rest)) front.length =
        (replaceLoop delim s fuel (front ++ inserted ++ piece ++ s ++ rest)
          (front ++ inserted ++ piece).length).map
            fun r => ((front ++ inserted ++ piece).length :: r.1, r.2) := by
    intro fuel
    rw [replaceLoop, hfound]
    dsimp only
    rw [hreplace, hfront]
  unfold Replaces
  rw [hplaces, htext]
  constructor
  · rintro ⟨fuel, hloop⟩
    cases fuel with
    | zero => cases hloop
    | succ fuel =>
        rw [hround] at hloop
        obtain ⟨r, hr, heq⟩ := Option.map_eq_some_iff.mp hloop
        simp only [Prod.mk.injEq, List.cons.injEq, true_and] at heq
        exact ⟨fuel, hr.trans (congrArg some (Prod.ext heq.1 heq.2))⟩
  · rintro ⟨fuel, hloop⟩
    exact ⟨fuel + 1, by rw [hround, hloop]; rfl⟩

/-- From behind what is final, the loop is right just if no delimiter starts in what stands
before the rest, and in no later replacement. -/
theorem replaces_iff {rest : StdString} {all : List StdString}
    (h : LeftmostPieces delim rest all) (front inserted : StdString) :
    Replaces delim s front inserted rest all ↔
      (∀ k < inserted.length, ¬ delim <+: (inserted ++ rest).drop k) ∧
        NoneInside delim s all := by
  induction h generalizing front inserted with
  | @last rest hnone =>
      rw [NoneInside, and_true]
      refine ⟨Replaces.kept, fun hkept => ⟨1, ?_⟩⟩
      rw [replaceLoop, findFrom_rest, search_append_left hkept, hnone,
        List.intercalate_singleton]
      rfl
  | @next text piece rest pieces htext hfound hrest ih =>
      obtain ⟨next, all, rfl⟩ := List.exists_cons_of_ne_nil hrest.ne_nil
      have hkept : (∀ k < inserted.length, ¬ delim <+: (inserted ++ text).drop k) →
          (Replaces delim s front inserted text (piece :: next :: all) ↔
            Replaces delim s (front ++ inserted ++ piece) s rest (next :: all)) := by
        intro hkept
        have hplace : findFrom (front ++ inserted ++ text) delim front.length =
            some (front.length + (inserted.length + piece.length)) := by
          rw [findFrom_rest, search_append_left hkept, hfound]
          rfl
        subst text
        exact replaces_next hplace
      rw [NoneInside, hrest.intercalate, ← ih (front ++ inserted ++ piece) s]
      exact ⟨fun h => ⟨h.kept, (hkept h.kept).mp h⟩, fun h => (hkept h.1).mpr h.2⟩

/-! ## The result -/

/-- `replace_all` is right just if there is something to replace, and if no delimiter starts
in a replacement. -/
theorem replacesAll_iff (str delim s : StdString) :
    ReplacesAll str delim s ↔ cStr delim ≠ [] ∧
      ∀ all, LeftmostPieces (cStr delim) str all → NoneInside (cStr delim) (cStr s) all := by
  -- in the beginning nothing is final and nothing was inserted
  have hstart : ∀ all, Replaces (cStr delim) (cStr s) [] [] str all ↔
      ∃ fuel, replaceAll fuel str delim s =
        some (places (cStr s).length 0 all, (cStr s).intercalate all) := fun _ => Iff.rfl
  constructor
  · rintro ⟨fuel, replaced, text, hreplace, hright⟩
    refine ⟨fun hnil => ?_, fun all hall => ?_⟩
    · rw [replaceAll, hnil, replaceLoop_nil fuel str (Nat.zero_le _)] at hreplace
      cases hreplace
    · obtain ⟨rfl, rfl⟩ := hright all hall
      exact ((replaces_iff hall [] []).mp ((hstart all).mpr ⟨fuel, hreplace⟩)).2
  · rintro ⟨hne, hnone⟩
    obtain ⟨all, hall⟩ := exists_leftmostPieces hne str
    have hkept : ∀ k < ([] : StdString).length, ¬ cStr delim <+: ([] ++ str).drop k :=
      fun k hk => absurd hk (Nat.not_lt_zero k)
    obtain ⟨fuel, hreplace⟩ := (hstart all).mp
      ((replaces_iff hall [] []).mpr ⟨hkept, hnone all hall⟩)
    refine ⟨fuel, _, _, hreplace, fun all' hall' => ?_⟩
    rw [hall.unique hall']
    exact ⟨rfl, rfl⟩

/-- A delimiter is found again and again in a replacement that holds it. -/
theorem replaceLoop_forever (hne : delim ≠ []) (hinside : delim <:+: s) (fuel : ℕ)
    (front rest : StdString) :
    replaceLoop delim s fuel (front ++ s ++ rest) front.length = none := by
  induction fuel generalizing front rest with
  | zero => rfl
  | succ fuel ih =>
      have hfound : search delim (s ++ rest) ≠ none := fun hnone =>
        (search_eq_none_iff hne).mp hnone (hinside.trans (List.prefix_append s rest).isInfix)
      obtain ⟨i, hi⟩ := Option.ne_none_iff_exists'.mp hfound
      obtain ⟨piece, rest', hrest, rfl⟩ := eq_of_search hi
      have hreplace : replaceAt (front ++ s ++ rest) (front.length + piece.length)
          delim.length s = front ++ piece ++ s ++ rest' := by
        rw [← List.length_append, ← replaceAt_append (front ++ piece) delim rest',
          List.append_assoc front, hrest]
        simp only [List.append_assoc]
      rw [replaceLoop, findFrom_rest, hi]
      dsimp only [Option.map_some]
      rw [hreplace, ← List.length_append, ih]
      rfl

/-- `replace_all` does not end once it has inserted what it searches for. -/
theorem replaceAll_forever {str delim s : StdString} (hne : cStr delim ≠ [])
    (hstr : cStr delim <:+: str) (hs : cStr delim <:+: cStr s) (fuel : ℕ) :
    replaceAll fuel str delim s = none := by
  cases fuel with
  | zero => rfl
  | succ fuel =>
      have hfound : search (cStr delim) str ≠ none := fun hnone =>
        (search_eq_none_iff hne).mp hnone hstr
      obtain ⟨i, hi⟩ := Option.ne_none_iff_exists'.mp hfound
      obtain ⟨piece, rest, rfl, rfl⟩ := eq_of_search hi
      have hplace : findFrom (piece ++ cStr delim ++ rest) (cStr delim) 0 =
          some piece.length := by
        rw [findFrom, if_pos (Nat.zero_le _), List.drop_zero, hi, Option.map_some, Nat.zero_add]
      rw [replaceAll, replaceLoop, hplace]
      dsimp only
      rw [replaceAt_append, replaceLoop_forever hne hs]
      rfl

end Replace

/-- `split` and `replace_all` do what they are for just if the delimiter is not empty and none
starts in a replacement, together with the text behind it. -/
theorem splits_and_replacesAll_iff (str delim s : StdString) :
    Splits str delim ∧ ReplacesAll str delim s ↔ cStr delim ≠ [] ∧
      ∀ all, LeftmostPieces (cStr delim) str all → NoneInside (cStr delim) (cStr s) all := by
  rw [splits_iff, replacesAll_iff]
  exact and_iff_right_of_imp fun h => Or.inr h.1

theorem not_splits_and_replacesAll : ¬ (Splits [97] [97] ∧ ReplacesAll [97] [97] [97]) := by
  rintro ⟨-, fuel, replaced, text, hreplace, -⟩
  rw [replaceAll_forever (by decide) (by decide) (by decide)] at hreplace
  cases hreplace

end RealtimeEx.Base.StringUtil
