import Mathlib.Algebra.Order.Ring.Int
import RealtimeEx.Db.DbCommandHandler
import RealtimeEx.Support.Pieces

/-!
# Placeholders

This file models the loop in which the call and the query handler put the
arguments of a command into its text.  The loop works in the text itself, from
a position behind the last argument, so that an argument is never searched for
placeholders: what it makes of a text are the pieces of the text with the
quoted arguments between them.
-/

namespace RealtimeEx.Db

/-- `szPlaceholder`. -/
def szPlaceholder : Bytes := [123, 63, 125]

/-- `std::string::find` from a position on. -/
def find (text pattern : Bytes) (nPos : ℕ) : Option ℕ :=
  if nPos ≤ text.length then (search pattern (text.drop nPos)).map (nPos + ·) else none

/-- `std::string::replace`. -/
def replace (text : Bytes) (nPos nSize : ℕ) (szNew : Bytes) : Bytes :=
  text.take nPos ++ szNew ++ text.drop (nPos + nSize)

/-- `szSafeArg`. -/
def safeArg (escape : Bytes → Bytes) (szArg : Bytes) : Bytes := [39] ++ escape szArg ++ [39]

/-- The loop over the placeholders of `szSQL` from `nPos` on. -/
def substituteFrom (escape : Bytes → Bytes) (args : List Bytes) (szSQL : Bytes)
    (nPos nIndex : ℕ) : Bytes :=
  match find szSQL szPlaceholder nPos with
  | none => szSQL
  | some nPos =>
      if h : nIndex < args.length then
        let szSafeArg := safeArg escape args[nIndex]
        substituteFrom escape args (replace szSQL nPos szPlaceholder.length szSafeArg)
          (nPos + szSafeArg.length) (nIndex + 1)
      else
        szSQL
termination_by args.length - nIndex

/-! ## What the loop makes of the pieces -/

theorem unbordered_szPlaceholder : Unbordered szPlaceholder :=
  unbordered_of_inits (by decide)

theorem placeholder_prefix_iff {a b c : UInt8} {text : Bytes} :
    szPlaceholder <+: a :: b :: c :: text ↔ a = 123 ∧ b = 63 ∧ c = 125 := by
  simp only [szPlaceholder, List.cons_prefix_cons, List.nil_prefix, and_true, eq_comm]

theorem szPlaceholder_ne_nil : szPlaceholder ≠ [] := List.cons_ne_nil _ _

/-- Only what is at the position or behind it is searched. -/
theorem find_append (front text : Bytes) :
    find (front ++ text) szPlaceholder front.length =
      (search szPlaceholder text).map (front.length + ·) := by
  unfold find
  rw [List.drop_left, if_pos (by rw [List.length_append]; exact Nat.le_add_right _ _)]

theorem replace_append (front piece szNew rest : Bytes) :
    replace (front ++ (piece ++ szPlaceholder ++ rest)) (front.length + piece.length)
        szPlaceholder.length szNew = front ++ piece ++ szNew ++ rest := by
  have htext : front ++ (piece ++ szPlaceholder ++ rest) =
      (front ++ piece) ++ (szPlaceholder ++ rest) := by
    simp only [List.append_assoc]
  unfold replace
  rw [← List.length_append, htext, List.take_left, List.drop_length_add_append, List.drop_left]

section

variable (escape : Bytes → Bytes) (args : List Bytes)

/-- Whatever is in front of the position stays.  The induction is on the pieces
that are still to come; each round takes one of them and one argument. -/
theorem substituteFrom_append {text : Bytes} {pieces : List Bytes}
    (h : IsPieces szPlaceholder text pieces) (front : Bytes) (nIndex : ℕ) :
    substituteFrom escape args (front ++ text) front.length nIndex =
      front ++ fillPieces szPlaceholder pieces ((args.drop nIndex).map (safeArg escape)) := by
  induction pieces generalizing text front nIndex with
  | nil => exact absurd rfl h.ne_nil
  | cons piece pieces ih =>
      cases pieces with
      | nil =>
          obtain ⟨htext, hnone⟩ := h.search_singleton szPlaceholder_ne_nil
          rw [substituteFrom, find_append, hnone, htext, fillPieces]
          rfl
      | cons next pieces =>
          obtain ⟨rest, htext, hrest, hsome⟩ :=
            h.search_cons unbordered_szPlaceholder szPlaceholder_ne_nil
          rw [substituteFrom, find_append, hsome, Option.map_some]
          dsimp only
          by_cases hindex : nIndex < args.length
          · have hposition : front.length + piece.length +
                (safeArg escape args[nIndex]).length =
                  (front ++ piece ++ safeArg escape args[nIndex]).length := by
              simp only [List.length_append]
            rw [dif_pos hindex, htext, replace_append, hposition, ih hrest,
              List.drop_eq_getElem_cons hindex, List.map_cons, fillPieces]
            simp only [List.append_assoc]
          · -- the arguments have run out
            rw [dif_neg hindex, List.drop_eq_nil_of_le (Nat.le_of_not_lt hindex),
              List.map_nil, fillPieces_nil, h.intercalate]

/-- Without arguments the text stays. -/
theorem substituteArgs_nil (text : Bytes) : substituteArgs escape [] text = text := by
  unfold substituteArgs
  rfl

/-- Where there is no placeholder the text stays. -/
theorem substituteArgs_of_search_none {text : Bytes}
    (h : search szPlaceholder text = none) : substituteArgs escape args text = text := by
  fun_induction substituteArgs escape args text with
  | case1 arg args a b c text hfront ih =>
      rw [search, if_pos (placeholder_prefix_iff.mpr hfront)] at h
      cases h
  | case2 arg args a b c text hfront ih =>
      rw [search, if_neg (mt placeholder_prefix_iff.mp hfront), Option.map_eq_none_iff] at h
      rw [ih h]
  | case3 => rfl

/-- The first placeholder takes the first argument. -/
theorem substituteArgs_of_search {arg : Bytes} {args : List Bytes} {text : Bytes} {i : ℕ}
    (h : search szPlaceholder text = some i) :
    substituteArgs escape (arg :: args) text =
      text.take i ++ safeArg escape arg ++
        substituteArgs escape args (text.drop (i + szPlaceholder.length)) := by
  induction text generalizing i with
  | nil =>
      rw [search, if_neg szPlaceholder_ne_nil] at h
      cases h
  | cons a text ih =>
      have hlength := (prefix_drop_of_search h).2
      obtain ⟨b, c, text, rfl⟩ : ∃ b c rest, text = b :: c :: rest := by
        rcases text with _ | ⟨b, _ | ⟨c, rest⟩⟩
        · simp [szPlaceholder] at hlength
        · simp [szPlaceholder] at hlength
        · exact ⟨b, c, rest, rfl⟩
      rw [search] at h
      rw [substituteArgs]
      by_cases hfront : a = 123 ∧ b = 63 ∧ c = 125
      · rw [if_pos (placeholder_prefix_iff.mpr hfront)] at h
        obtain rfl := Option.some.inj h
        rw [if_pos hfront]
        rfl
      · rw [if_neg (mt placeholder_prefix_iff.mp hfront)] at h
        obtain ⟨j, hj, rfl⟩ := Option.map_eq_some_iff.mp h
        rw [if_neg hfront, ih hj, List.take_succ_cons, Nat.add_right_comm, List.drop_succ_cons]
        rfl

/-- The recursion of the handlers fills the pieces of the text. -/
theorem substituteArgs_eq_fillPieces {text : Bytes} {pieces : List Bytes}
    (h : IsPieces szPlaceholder text pieces) :
    substituteArgs escape args text =
      fillPieces szPlaceholder pieces (args.map (safeArg escape)) := by
  induction pieces generalizing text args with
  | nil => exact absurd rfl h.ne_nil
  | cons piece pieces ih =>
      cases pieces with
      | nil =>
          obtain ⟨htext, hnone⟩ := h.search_singleton szPlaceholder_ne_nil
          rw [substituteArgs_of_search_none escape args hnone, htext, fillPieces]
      | cons next pieces =>
          obtain ⟨rest, htext, hrest, hsome⟩ :=
            h.search_cons unbordered_szPlaceholder szPlaceholder_ne_nil
          cases args with
          | nil => rw [substituteArgs_nil, List.map_nil, fillPieces_nil, h.intercalate]
          | cons arg args =>
              have hrestText : text.drop (piece.length + szPlaceholder.length) = rest := by
                rw [htext, ← List.length_append, List.drop_left]
              have hpiece : text.take piece.length = piece := by
                rw [htext, List.append_assoc, List.take_left]
              rw [substituteArgs_of_search escape hsome, hrestText, hpiece, ih args hrest,
                List.map_cons, fillPieces]

/-- The recursion of the handlers computes what the loop does. -/
theorem substituteArgs_eq_substituteFrom (text : Bytes) :
    substituteArgs escape args text = substituteFrom escape args text 0 0 := by
  obtain ⟨pieces, hpieces⟩ := exists_isPieces szPlaceholder_ne_nil text
  have hloop := substituteFrom_append escape args hpieces [] 0
  rw [List.nil_append, List.nil_append, List.drop_zero] at hloop
  rw [substituteArgs_eq_fillPieces escape args hpieces]
  exact hloop.symm

end

/-! ## The statements that are sent -/

section

variable {σ : Type*}

/-- A client that notes the statements it is given. -/
def MysqlClient.noting (client : MysqlClient σ) : MysqlClient (σ × List Statement) where
  escape := client.escape
  query statement s :=
    ((client.query statement s.1).1, (client.query statement s.1).2, s.2 ++ [statement])

/-- The handlers with a client that notes the statements. -/
def HandlerEnv.noting (env : HandlerEnv σ) : HandlerEnv (σ × List Statement) where
  fmt := env.fmt
  schema := env.schema
  client := env.client.noting

/-- The statements that are sent for a command. -/
def sentStatements (env : HandlerEnv σ) (command : DbCommand) (mysql : σ) : List Statement :=
  (onDbCommand env.noting command { mysql := (mysql, []), replies := [] }).2.2.mysql.2

/-- A text in pieces with the quoted arguments between them. -/
def filledText (escape : Bytes → Bytes) (pieces args : List Bytes) : Bytes :=
  fillPieces szPlaceholder pieces (args.map (safeArg escape))

variable (env : HandlerEnv σ)

/-- A statement that is tried again is the same statement. -/
theorem exists_noted_callExecute (sql : Bytes) (n : ℕ)
    (conn : DbConnection (σ × List Statement)) :
    ∃ k, (0 < n → 0 < k) ∧ (callExecute env.noting sql n conn).2.2.mysql.2 =
      conn.mysql.2 ++ List.replicate k (.call sql) := by
  induction n generalizing conn with
  | zero => exact ⟨0, id, (List.append_nil _).symm⟩
  | succ n ih =>
      rw [callExecute]
      dsimp only
      split
      · obtain ⟨k, -, hk⟩ := ih (conn.execute env.noting.client (.call sql) true).2.2
        refine ⟨k + 1, fun _ => Nat.succ_pos k, hk.trans ?_⟩
        rw [List.replicate_succ]
        exact List.append_assoc ..
      · split
        · exact ⟨1, fun _ => Nat.one_pos, rfl⟩
        · exact ⟨1, fun _ => Nat.one_pos, rfl⟩

/-- A call is sent at least once. -/
theorem exists_sentStatements_call (channelID : UInt32) (sql : Bytes) (args : List Bytes)
    (mysql : σ) :
    ∃ k, 0 < k ∧ sentStatements env (.call channelID sql args) mysql =
      List.replicate k (.call (substituteArgs env.client.escape args sql)) := by
  obtain ⟨k, hpos, hk⟩ := exists_noted_callExecute env
    (substituteArgs env.client.escape args sql) nTryDeadloopCount
    { mysql := (mysql, []), replies := [] }
  exact ⟨k, hpos (by decide), hk⟩

/-- A query is sent once. -/
theorem sentStatements_query (channelID : UInt32) (tableName : String) (whereClause : Bytes)
    (args : List Bytes) (mysql : σ) :
    sentStatements env (.query channelID tableName whereClause args) mysql =
      [.query tableName (substituteArgs env.client.escape args whereClause)] := by
  unfold sentStatements onDbCommand queryHandler
  dsimp only
  split
  · rfl
  · split
    · rfl
    · split
      · rfl
      · split
        · rfl
        · rfl

/-- The statements of a call and of a query are the text of the command with its
placeholders replaced by the quoted arguments, the first by the first.  Where
the placeholders of the text are does not depend on the arguments. -/
theorem sentStatements_filledText (template : Bytes) (args : List Bytes) :
    (∃! pieces, IsPieces szPlaceholder template pieces) ∧
      ∀ pieces, IsPieces szPlaceholder template pieces →
        substituteFrom env.client.escape args template 0 0 =
            filledText env.client.escape pieces args ∧
          (∀ channelID mysql, ∃ k, 0 < k ∧
            sentStatements env (.call channelID template args) mysql =
              List.replicate k (.call (filledText env.client.escape pieces args))) ∧
          ∀ channelID tableName mysql,
            sentStatements env (.query channelID tableName template args) mysql =
              [.query tableName (filledText env.client.escape pieces args)] := by
  refine ⟨existsUnique_isPieces unbordered_szPlaceholder szPlaceholder_ne_nil template, ?_⟩
  intro pieces hpieces
  have hargs : substituteArgs env.client.escape args template =
      filledText env.client.escape pieces args :=
    substituteArgs_eq_fillPieces env.client.escape args hpieces
  refine ⟨?_, ?_, ?_⟩
  · rw [← substituteArgs_eq_substituteFrom, hargs]
  · intro channelID mysql
    rw [← hargs]
    exact exists_sentStatements_call env channelID template args mysql
  · intro channelID tableName mysql
    rw [← hargs]
    exact sentStatements_query env channelID tableName template args mysql

end

end RealtimeEx.Db
