import Mathlib.Tactic.Common
import RealtimeEx.Base.StringReplace
import RealtimeEx.Db.NumberText
import RealtimeEx.Support.Pieces

/-!
# `string_util::format`

The arguments are put into the text one after the other, each at the first `{}` that stands in
what the text has become.
-/

namespace RealtimeEx.Base.StringUtil

open Db (natText intText)

/-! ## Arguments -/

/-- The arguments for which there is a `push2Special`.  Of a floating point number stands what
`%f` prints of it, of a value of any other type what `operator<<` writes. -/
inductive FormatArg
  | bool (val : Bool)
  | int8 (val : Int8)
  | uint8 (val : UInt8)
  | int16 (val : Int16)
  | uint16 (val : UInt16)
  | int32 (val : Int32)
  | uint32 (val : UInt32)
  | int64 (val : Int64)
  | uint64 (val : UInt64)
  | double (szText : StdString)
  | cString (val : Option StdString)
  | string (val : StdString)
  | object (szText : StdString)

/-- `true`, `false` and `NULL`. -/
def szBool (val : Bool) : StdString :=
  if val then [116, 114, 117, 101] else [102, 97, 108, 115, 101]

def szNull : StdString := [78, 85, 76, 76]

/-- `snprintf` into a buffer of `nBufSize` characters: its last one is the terminating zero. -/
def snprintf (nBufSize : ℕ) (szText : StdString) : StdString :=
  (cStr szText).take (nBufSize - 1)

namespace FormatArg

/-- The text of an argument. -/
def text : FormatArg → StdString
  | .bool val => szBool val
  | .int8 val => intText val.toInt
  | .uint8 val => natText val.toNat
  | .int16 val => intText val.toInt
  | .uint16 val => natText val.toNat
  | .int32 val => intText val.toInt
  | .uint32 val => natText val.toNat
  | .int64 val => intText val.toInt
  | .uint64 val => natText val.toNat
  | .double szText => szText
  | .cString none => szNull
  | .cString (some val) => cStr val
  | .string val => val
  | .object szText => szText

/-- The C string that `push2Special` puts into the text. -/
def replacement : FormatArg → StdString
  | .bool val => szBool val
  | .int8 val => snprintf 16 (intText val.toInt)
  | .uint8 val => snprintf 16 (natText val.toNat)
  | .int16 val => snprintf 16 (intText val.toInt)
  | .uint16 val => snprintf 16 (natText val.toNat)
  | .int32 val => snprintf 16 (intText val.toInt)
  | .uint32 val => snprintf 16 (natText val.toNat)
  | .int64 val => snprintf 32 (intText val.toInt)
  | .uint64 val => snprintf 32 (natText val.toNat)
  | .double szText => snprintf 16 szText
  | .cString none => szNull
  | .cString (some val) => cStr val
  | .string val => cStr val
  | .object szText => cStr szText

/-- An argument that goes through a C string, and a floating point number through its buffer,
as a whole. -/
def Whole : FormatArg → Prop
  | .double szText => 0 ∉ szText ∧ szText.length < 16
  | .string val => 0 ∉ val
  | .object szText => 0 ∉ szText
  | _ => True

end FormatArg

/-! ## `format` -/

/-- The two characters `{}`. -/
def szPlaceholder : StdString := [123, 125]

/-- `push2Special`: where it replaces, and the text. -/
def push2Special (strfmt : StdString) (val : FormatArg) : Option ℕ × StdString :=
  match search szPlaceholder strfmt with
  | none => (none, strfmt)
  | some pos => (some pos, replaceAt strfmt pos 2 val.replacement)

/-- `PushArgs::push`. -/
def pushArgs (strfmt : StdString) : List FormatArg → List (Option ℕ) × StdString
  | [] => ([], strfmt)
  | t :: args =>
      let first := push2Special strfmt t
      let rest := pushArgs first.2 args
      (first.1 :: rest.1, rest.2)

/-- `format` of a `std::string`, by way of a C string. -/
def format (strfmt : StdString) (args : List FormatArg) : List (Option ℕ) × StdString :=
  pushArgs (cStr strfmt) args

/-! ## What is meant -/

/-- Where values come to stand between pieces, if the first piece starts at `pos`.  A value for
which there is no place stands nowhere. -/
def fillPlaces : ℕ → List StdString → List StdString → List (Option ℕ)
  | _, _, [] => []
  | pos, piece :: next :: pieces, value :: values =>
      some (pos + piece.length) ::
        fillPlaces (pos + piece.length + value.length) (next :: pieces) values
  | pos, pieces, _ :: values => none :: fillPlaces pos pieces values

/-- Each placeholder of the format takes the text of its argument, at the place where it is
then, and nothing else is replaced. -/
def FormatsExactly (strfmt : StdString) (args : List FormatArg) : Prop :=
  ∀ pieces, IsPieces szPlaceholder strfmt pieces →
    format strfmt args = (fillPlaces 0 pieces (args.map FormatArg.text),
      fillPieces szPlaceholder pieces (args.map FormatArg.text))

/-- When a value is put in, no placeholder stands in what is then in front of its place. -/
def NoneBefore : StdString → List StdString → List StdString → Prop
  | _, _, [] => True
  | front, piece :: next :: pieces, value :: values =>
      ¬ szPlaceholder <:+: front ++ piece ∧
        NoneBefore (front ++ piece ++ value) (next :: pieces) values
  | front, pieces, _ :: _ => ¬ szPlaceholder <:+: front ++ pieces.flatten

/-- What the format string and its arguments have to be. -/
def Separable (strfmt : StdString) (args : List FormatArg) : Prop :=
  0 ∉ strfmt ∧ ∀ pieces, IsPieces szPlaceholder strfmt pieces →
    (∀ arg ∈ args.take (pieces.length - 1), arg.Whole) ∧
      NoneBefore [] pieces (args.map FormatArg.text)

/-! ## The texts of arguments -/

theorem zero_not_mem_natText (n : ℕ) : 0 ∉ natText n :=
  fun h => absurd (Db.isDigit_of_mem_natText 0 h) (by decide)

theorem zero_not_mem_intText (n : ℤ) : 0 ∉ intText n := by
  unfold intText
  split
  · intro h
    obtain h | h := List.mem_cons.mp h
    · exact absurd h (by decide)
    · exact zero_not_mem_natText _ h
  · exact zero_not_mem_natText _

theorem length_natText_le {n k : ℕ} (hk : 0 < k) (hn : n < 10 ^ k) :
    (natText n).length ≤ k := by
  unfold natText
  rw [List.length_map]
  exact (Nat.length_toDigits_le_iff (by decide) hk).mpr hn

theorem snprintf_eq {nBufSize : ℕ} {szText : StdString} (hzero : 0 ∉ szText)
    (hlength : szText.length < nBufSize) : snprintf nBufSize szText = szText := by
  rw [snprintf, cStr_of_not_mem hzero, List.take_of_length_le (by omega)]

/-- A number has room in its buffer. -/
theorem snprintf_natText {nBufSize n k : ℕ} (hk : 0 < k) (hn : n < 10 ^ k)
    (hsize : k < nBufSize) : snprintf nBufSize (natText n) = natText n :=
  snprintf_eq (zero_not_mem_natText n) ((length_natText_le hk hn).trans_lt hsize)

theorem snprintf_intText {nBufSize k : ℕ} {n : ℤ} (hk : 0 < k) (hn : n.natAbs < 10 ^ k)
    (hsize : k + 1 < nBufSize) : snprintf nBufSize (intText n) = intText n := by
  refine snprintf_eq (zero_not_mem_intText n) ?_
  have hlength := length_natText_le hk hn
  unfold intText
  split
  · rw [List.length_cons]
    omega
  · omega

theorem snprintf_prefix (nBufSize : ℕ) (szText : StdString) :
    snprintf nBufSize szText <+: szText :=
  (List.take_prefix _ _).trans (List.takeWhile_prefix _)

theorem zero_not_mem_snprintf (nBufSize : ℕ) (szText : StdString) :
    0 ∉ snprintf nBufSize szText :=
  fun hzero => zero_not_mem_cStr szText (List.mem_of_mem_take hzero)

namespace FormatArg

theorem zero_not_mem_replacement (arg : FormatArg) : 0 ∉ arg.replacement := by
  cases arg with
  | bool val => cases val <;> decide
  | cString val =>
      cases val with
      | none => decide
      | some val => exact zero_not_mem_cStr val
  | string val => exact zero_not_mem_cStr val
  | object szText => exact zero_not_mem_cStr szText
  | _ => exact zero_not_mem_snprintf _ _

theorem replacement_prefix (arg : FormatArg) : arg.replacement <+: arg.text := by
  cases arg with
  | bool val => exact List.prefix_refl _
  | cString val =>
      cases val with
      | none => exact List.prefix_refl _
      | some val => exact List.prefix_refl _
  | string val => exact List.takeWhile_prefix _
  | object szText => exact List.takeWhile_prefix _
  | _ => exact snprintf_prefix _ _

theorem cStr_eq_iff (str : StdString) : cStr str = str ↔ 0 ∉ str :=
  ⟨fun heq => heq ▸ zero_not_mem_cStr str, cStr_of_not_mem⟩

/-- The numbers fit into their buffers. -/
theorem replacement_eq_iff (arg : FormatArg) : arg.replacement = arg.text ↔ arg.Whole := by
  cases arg with
  | bool val => exact iff_of_true rfl trivial
  | int8 val =>
      have hlow := val.le_toInt
      have hhigh := val.toInt_lt
      exact iff_of_true (snprintf_intText (k := 3) (by decide) (by omega) (by decide)) trivial
  | uint8 val =>
      have hlt := val.toNat_lt
      exact iff_of_true (snprintf_natText (k := 3) (by decide) (by omega) (by decide)) trivial
  | int16 val =>
      have hlow := val.le_toInt
      have hhigh := val.toInt_lt
      exact iff_of_true (snprintf_intText (k := 5) (by decide) (by omega) (by decide)) trivial
  | uint16 val =>
      have hlt := val.toNat_lt
      exact iff_of_true (snprintf_natText (k := 5) (by decide) (by omega) (by decide)) trivial
  | int32 val =>
      have hlow := val.le_toInt
      have hhigh := val.toInt_lt
      exact iff_of_true (snprintf_intText (k := 10) (by decide) (by omega) (by decide)) trivial
  | uint32 val =>
      have hlt := val.toNat_lt
      exact iff_of_true (snprintf_natText (k := 10) (by decide) (by omega) (by decide)) trivial
  | int64 val =>
      have hlow := val.le_toInt
      have hhigh := val.toInt_lt
      exact iff_of_true (snprintf_intText (k := 19) (by decide) (by omega) (by decide)) trivial
  | uint64 val =>
      have hlt := val.toNat_lt
      exact iff_of_true (snprintf_natText (k := 20) (by decide) (by omega) (by decide)) trivial
  | double szText =>
      refine ⟨fun heq => ⟨?_, ?_⟩, fun h => snprintf_eq h.1 h.2⟩
      · have heq' : snprintf 16 szText = szText := heq
        exact heq' ▸ zero_not_mem_snprintf 16 szText
      · have hlength : (snprintf 16 szText).length ≤ 15 := List.length_take_le _ _
        have heq' : snprintf 16 szText = szText := heq
        rw [heq'] at hlength
        omega
  | cString val =>
      cases val with
      | none => exact iff_of_true rfl trivial
      | some val => exact iff_of_true rfl trivial
  | string val => exact cStr_eq_iff val
  | object szText => exact cStr_eq_iff szText

/-- What is not put in as a whole is shorter than it should be. -/
theorem length_replacement_lt {arg : FormatArg} (hnot : ¬ arg.Whole) :
    arg.replacement.length < arg.text.length := by
  refine lt_of_le_of_ne arg.replacement_prefix.length_le fun hlength => hnot ?_
  exact arg.replacement_eq_iff.mp (arg.replacement_prefix.eq_of_length hlength)

end FormatArg

/-! ## The loop -/

theorem unbordered_szPlaceholder : Unbordered szPlaceholder :=
  unbordered_of_inits (by decide)

theorem szPlaceholder_ne_nil : szPlaceholder ≠ [] := List.cons_ne_nil _ _

theorem push2Special_of_none {strfmt : StdString} (val : FormatArg)
    (hnone : ¬ szPlaceholder <:+: strfmt) : push2Special strfmt val = (none, strfmt) := by
  rw [push2Special, (search_eq_none_iff szPlaceholder_ne_nil).mpr hnone]

/-- A placeholder that stands in front of a piece is taken before the one behind it. -/
theorem push2Special_of_infix {front : StdString} (rest : StdString) (val : FormatArg)
    (hinside : szPlaceholder <:+: front) :
    ∃ pos < front.length, (push2Special (front ++ rest) val).1 = some pos := by
  have hfound : search szPlaceholder front ≠ none := fun hnone =>
    (search_eq_none_iff szPlaceholder_ne_nil).mp hnone hinside
  obtain ⟨i, hi⟩ := Option.ne_none_iff_exists'.mp hfound
  have hle := (prefix_drop_of_search hi).2
  have hlength : szPlaceholder.length = 2 := rfl
  refine ⟨i, by omega, ?_⟩
  rw [push2Special, search_append rest hi szPlaceholder_ne_nil]

/-- Otherwise the one behind it is taken. -/
theorem push2Special_append {front rest : StdString} (val : FormatArg)
    (hnone : ¬ szPlaceholder <:+: front) :
    push2Special (front ++ szPlaceholder ++ rest) val =
      (some front.length, front ++ val.replacement ++ rest) := by
  rw [push2Special, search_piece unbordered_szPlaceholder szPlaceholder_ne_nil hnone]
  exact congrArg (some front.length, ·) (replaceAt_append front szPlaceholder rest)

theorem push2Special_infix_singleton (front piece : StdString) (val : FormatArg)
    (hnone : (push2Special (front ++ piece) val).1 = none) :
    ¬ szPlaceholder <:+: front ++ piece := by
  intro hinside
  obtain ⟨pos, -, hpos⟩ := push2Special_of_infix [] val hinside
  rw [List.append_nil, hnone] at hpos
  cases hpos

/-- The placeholder behind a piece is found where it is, or there is one before it. -/
theorem push2Special_le (front piece rest : StdString) (val : FormatArg) :
    ∃ pos ≤ front.length + piece.length,
      (push2Special (front ++ (piece ++ szPlaceholder ++ rest)) val).1 = some pos := by
  have htext : front ++ (piece ++ szPlaceholder ++ rest) =
      front ++ piece ++ szPlaceholder ++ rest := by
    simp only [List.append_assoc]
  have hlength : (front ++ piece).length = front.length + piece.length := List.length_append
  rw [htext]
  by_cases hinside : szPlaceholder <:+: front ++ piece
  · obtain ⟨pos, hlt, hpos⟩ := push2Special_of_infix (szPlaceholder ++ rest) val hinside
    rw [← List.append_assoc] at hpos
    exact ⟨pos, hlength ▸ hlt.le, hpos⟩
  · rw [push2Special_append val hinside, hlength]
    exact ⟨_, Nat.le_refl _, rfl⟩

/-- A text that is too short at one place stays behind. -/
theorem pushArgs_ne_of_short {text : StdString} {pieces : List StdString}
    (h : IsPieces szPlaceholder text pieces) (args : List FormatArg) {front : StdString}
    {n : ℕ} (hshort : front.length < n) {out : StdString}
    (hout : out.length =
      n + (fillPieces szPlaceholder pieces (args.map FormatArg.text)).length) :
    pushArgs (front ++ text) args ≠
      (fillPlaces n pieces (args.map FormatArg.text), out) := by
  induction args generalizing text pieces with
  | nil =>
      intro heq
      have hlength := congrArg (fun r => r.2.length) heq
      simp only [pushArgs, List.length_append] at hlength
      rw [hout, List.map_nil, fillPieces_nil, h.intercalate] at hlength
      omega
  | cons arg args ih =>
      intro heq
      obtain ⟨piece, pieces, rfl⟩ := List.exists_cons_of_ne_nil h.ne_nil
      have hplace := congrArg (fun r => r.1.head?) heq
      cases pieces with
      | nil =>
          obtain ⟨rfl, -⟩ := h.search_singleton szPlaceholder_ne_nil
          have hnone :=
            push2Special_infix_singleton front text arg (Option.some.inj hplace)
          rw [pushArgs, push2Special_of_none arg hnone] at heq
          have htext : (pushArgs (front ++ text) args).2 = out := congrArg (·.2) heq
          exact ih h hout (Prod.ext (List.cons.inj (congrArg Prod.fst heq)).2 htext)
      | cons next pieces =>
          obtain ⟨rest, rfl, -, -⟩ :=
            h.search_cons unbordered_szPlaceholder szPlaceholder_ne_nil
          have hfirst : (push2Special (front ++ (piece ++ szPlaceholder ++ rest)) arg).1 =
              some (n + piece.length) := Option.some.inj hplace
          obtain ⟨pos, hle, hpos⟩ := push2Special_le front piece rest arg
          rw [hfirst] at hpos
          have hpos' := Option.some.inj hpos
          omega

theorem noneBefore_singleton {front piece : StdString} (values : List StdString)
    (hnone : ¬ szPlaceholder <:+: front ++ piece) : NoneBefore front [piece] values := by
  cases values with
  | nil => trivial
  | cons value values =>
      change ¬ szPlaceholder <:+: front ++ [piece].flatten
      rwa [List.flatten_singleton]

/-- A placeholder in front of a place takes the value. -/
theorem pushArgs_ne_of_infix {front piece : StdString}
    (hinside : szPlaceholder <:+: front ++ piece) (rest : StdString) (arg : FormatArg)
    (args : List FormatArg) (next : StdString) (pieces : List StdString) (out : StdString) :
    pushArgs (front ++ (piece ++ szPlaceholder ++ rest)) (arg :: args) ≠
      (fillPlaces front.length (piece :: next :: pieces) ((arg :: args).map FormatArg.text),
        out) := by
  intro heq
  have htext : front ++ (piece ++ szPlaceholder ++ rest) =
      front ++ piece ++ (szPlaceholder ++ rest) := by
    simp only [List.append_assoc]
  have hlength : (front ++ piece).length = front.length + piece.length := List.length_append
  obtain ⟨pos, hlt, hpos⟩ := push2Special_of_infix (szPlaceholder ++ rest) arg hinside
  have hplace := congrArg (fun r => r.1.head?) heq
  rw [htext] at hplace
  have hfirst := hpos.symm.trans (Option.some.inj hplace)
  have hpos' := Option.some.inj hfirst
  omega

/-- Otherwise the value goes to its place, and the others come behind it. -/
theorem pushArgs_cons_iff {front piece : StdString}
    (hnone : ¬ szPlaceholder <:+: front ++ piece) (rest : StdString) (arg : FormatArg)
    (args : List FormatArg) (next : StdString) (pieces : List StdString) :
    pushArgs (front ++ (piece ++ szPlaceholder ++ rest)) (arg :: args) =
        (fillPlaces front.length (piece :: next :: pieces) ((arg :: args).map FormatArg.text),
          front ++ fillPieces szPlaceholder (piece :: next :: pieces)
            ((arg :: args).map FormatArg.text)) ↔
      pushArgs (front ++ piece ++ arg.replacement ++ rest) args =
        (fillPlaces (front ++ piece ++ arg.text).length (next :: pieces)
            (args.map FormatArg.text),
          front ++ piece ++ arg.text ++ fillPieces szPlaceholder (next :: pieces)
            (args.map FormatArg.text)) := by
  have htext : front ++ (piece ++ szPlaceholder ++ rest) =
      front ++ piece ++ szPlaceholder ++ rest := by
    simp only [List.append_assoc]
  have hlength : (front ++ piece).length = front.length + piece.length := List.length_append
  have hvalue : (front ++ piece ++ arg.text).length =
      (front ++ piece).length + arg.text.length := List.length_append
  have hpush : pushArgs (front ++ (piece ++ szPlaceholder ++ rest)) (arg :: args) =
      (some (front ++ piece).length ::
          (pushArgs (front ++ piece ++ arg.replacement ++ rest) args).1,
        (pushArgs (front ++ piece ++ arg.replacement ++ rest) args).2) := by
    rw [htext, pushArgs, push2Special_append arg hnone]
  have hplaces : fillPlaces front.length (piece :: next :: pieces)
      ((arg :: args).map FormatArg.text) =
        some (front ++ piece).length :: fillPlaces (front ++ piece ++ arg.text).length
          (next :: pieces) (args.map FormatArg.text) := by
    rw [List.map_cons, fillPlaces, hvalue, hlength]
  have hfill : front ++ fillPieces szPlaceholder (piece :: next :: pieces)
      ((arg :: args).map FormatArg.text) =
        front ++ piece ++ arg.text ++ fillPieces szPlaceholder (next :: pieces)
          (args.map FormatArg.text) := by
    rw [List.map_cons, fillPieces]
    simp only [List.append_assoc]
  rw [hpush, hplaces, hfill]
  simp only [Prod.ext_iff, List.cons.injEq, true_and]

/-- From behind what is final, the arguments go to their places just if those that have one go
there as a whole, and no placeholder stands in front of a place. -/
theorem pushArgs_iff {text : StdString} {pieces : List StdString}
    (h : IsPieces szPlaceholder text pieces) (front : StdString) (args : List FormatArg) :
    pushArgs (front ++ text) args =
        (fillPlaces front.length pieces (args.map FormatArg.text),
          front ++ fillPieces szPlaceholder pieces (args.map FormatArg.text)) ↔
      (∀ arg ∈ args.take (pieces.length - 1), arg.Whole) ∧
        NoneBefore front pieces (args.map FormatArg.text) := by
  induction args generalizing text pieces front with
  | nil =>
      refine iff_of_true ?_ ⟨by simp, by simp [NoneBefore]⟩
      rw [List.map_nil, fillPieces_nil, h.intercalate]
      rfl
  | cons arg args ih =>
      obtain ⟨piece, pieces, rfl⟩ := List.exists_cons_of_ne_nil h.ne_nil
      cases pieces with
      | nil =>
          obtain ⟨rfl, -⟩ := h.search_singleton szPlaceholder_ne_nil
          have hbefore : NoneBefore front [text] ((arg :: args).map FormatArg.text) ↔
              ¬ szPlaceholder <:+: front ++ text := by
            rw [List.map_cons]
            change ¬ szPlaceholder <:+: front ++ [text].flatten ↔ _
            rw [List.flatten_singleton]
          rw [hbefore]
          constructor
          · intro heq
            have hplace := congrArg (fun r => r.1.head?) heq
            exact ⟨by simp, push2Special_infix_singleton _ _ arg (Option.some.inj hplace)⟩
          · rintro ⟨-, hnone⟩
            have hrest := (ih h front).mpr ⟨by simp, noneBefore_singleton _ hnone⟩
            rw [pushArgs, push2Special_of_none arg hnone, hrest]
            rfl
      | cons next pieces =>
          obtain ⟨rest, rfl, hrest, -⟩ :=
            h.search_cons unbordered_szPlaceholder szPlaceholder_ne_nil
          by_cases hinside : szPlaceholder <:+: front ++ piece
          · -- the value goes to a place before its own
            refine iff_of_false ?_ (fun hright => hright.2.1 hinside)
            exact pushArgs_ne_of_infix hinside rest arg args next pieces _
          rw [pushArgs_cons_iff hinside]
          by_cases hwhole : arg.Whole
          · rw [arg.replacement_eq_iff.mpr hwhole, ih hrest (front ++ piece ++ arg.text),
              List.map_cons, NoneBefore, and_iff_right hinside]
            have htake : (∀ a ∈ (arg :: args).take ((piece :: next :: pieces).length - 1),
                a.Whole) ↔ ∀ a ∈ args.take ((next :: pieces).length - 1), a.Whole := by
              rw [List.length_cons, List.length_cons, Nat.add_sub_cancel, Nat.add_sub_cancel,
                List.take_succ_cons, List.forall_mem_cons]
              exact and_iff_right hwhole
            rw [htake]
          · refine iff_of_false (pushArgs_ne_of_short hrest args ?_ ?_) (fun hright => ?_)
            · have hlt := Nat.add_lt_add_left (FormatArg.length_replacement_lt hwhole)
                (front ++ piece).length
              rwa [← List.length_append, ← List.length_append] at hlt
            · rw [List.length_append]
            · exact hwhole (hright.1 arg (by simp))

/-! ## The result -/

/-- A format string ends at its first zero, and the zero is lost. -/
theorem zero_not_mem_pushArgs {strfmt : StdString} (hzero : 0 ∉ strfmt)
    (args : List FormatArg) : 0 ∉ (pushArgs strfmt args).2 := by
  induction args generalizing strfmt with
  | nil => exact hzero
  | cons arg args ih =>
      refine ih ?_
      unfold push2Special
      split
      · exact hzero
      · rename_i pos _
        intro h
        rw [replaceAt, List.mem_append, List.mem_append] at h
        obtain (h | h) | h := h
        · exact hzero (List.mem_of_mem_take h)
        · exact arg.zero_not_mem_replacement h
        · exact hzero (List.mem_of_mem_drop h)

theorem mem_fillPieces {sep : StdString} {c : UInt8} {pieces : List StdString}
    {piece : StdString} (hpiece : piece ∈ pieces) (hc : c ∈ piece) (values : List StdString) :
    c ∈ fillPieces sep pieces values := by
  fun_induction fillPieces sep pieces values with
  | case1 => cases hpiece
  | case2 values other => rwa [← List.mem_singleton.mp hpiece]
  | case3 other next pieces ih =>
      obtain rfl | hpiece := List.mem_cons.mp hpiece
      · simp [hc]
      · simp [ih hpiece]
  | case4 other next pieces value values ih =>
      obtain rfl | hpiece := List.mem_cons.mp hpiece
      · simp [hc]
      · simp [ih hpiece]

theorem exists_mem_of_mem_intercalate {sep : StdString} {c : UInt8} (hc : c ∉ sep)
    {pieces : List StdString} (hmem : c ∈ sep.intercalate pieces) :
    ∃ piece ∈ pieces, c ∈ piece := by
  induction pieces with
  | nil => cases hmem
  | cons piece pieces ih =>
      cases pieces with
      | nil =>
          rw [List.intercalate_singleton] at hmem
          exact ⟨piece, List.mem_cons_self, hmem⟩
      | cons next pieces =>
          rw [List.intercalate_cons_cons, List.mem_append, List.mem_append] at hmem
          obtain (hmem | hmem) | hmem := hmem
          · exact ⟨piece, List.mem_cons_self, hmem⟩
          · exact absurd hmem hc
          · obtain ⟨other, hother, hmem⟩ := ih hmem
            exact ⟨other, List.mem_cons_of_mem _ hother, hmem⟩

/-- `format` does what it is for just if nothing is cut off at a zero or at the end of a buffer,
and no argument brings in a placeholder before the place of a later one. -/
theorem formatsExactly_iff (strfmt : StdString) (args : List FormatArg) :
    FormatsExactly strfmt args ↔ Separable strfmt args := by
  obtain ⟨pieces, hpieces⟩ := exists_isPieces szPlaceholder_ne_nil strfmt
  have hunique : ∀ all, IsPieces szPlaceholder strfmt all → all = pieces := fun all hall =>
    hall.unique unbordered_szPlaceholder szPlaceholder_ne_nil hpieces
  by_cases hzero : 0 ∈ strfmt
  · refine iff_of_false (fun hexact => ?_) (fun hright => hright.1 hzero)
    have hout := zero_not_mem_pushArgs (zero_not_mem_cStr strfmt) args
    rw [← format, hexact pieces hpieces] at hout
    obtain ⟨piece, hpiece, hmem⟩ := exists_mem_of_mem_intercalate (c := 0) (by decide)
      (hpieces.intercalate.symm ▸ hzero)
    exact hout (mem_fillPieces hpiece hmem _)
  · have hiff := pushArgs_iff hpieces [] args
    rw [List.nil_append, List.nil_append] at hiff
    unfold FormatsExactly Separable format
    rw [cStr_of_not_mem hzero, and_iff_right hzero]
    constructor
    · intro hexact all hall
      rw [hunique all hall]
      exact hiff.mp (hexact pieces hpieces)
    · intro hright all hall
      rw [hunique all hall]
      exact hiff.mpr (hright pieces hpieces)

/-- The text of an argument is a placeholder for the next one. -/
theorem not_formatsExactly_capture :
    ¬ FormatsExactly [123, 125, 123, 125] [.string [123, 125], .string [120]] := by
  intro hexact
  have heq := hexact [[], [], []] ⟨by decide, by decide, by decide⟩
  revert heq
  decide

end RealtimeEx.Base.StringUtil
