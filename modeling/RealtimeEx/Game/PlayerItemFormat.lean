import Mathlib.Algebra.Order.Ring.Int
import RealtimeEx.Game.PlayerItemModule
import RealtimeEx.Support.ReadFront

/-!
# The items as bytes and as JSON

The protobuf library keeps a sub-message in its wire format and makes a JSON text of it.
This file gives the two forms of `player_item_data_wrap` as the library writes them, and
readers of what it writes.

With them, a player who gives the last item away has it back the next time.
-/

namespace RealtimeEx.Game

open RealtimeEx.Db

/-! ## Numbers of variable length -/

/-- A number in groups of seven bits, the lowest first; at most `k` of them are marked as
followed by another one. -/
def varint : ℕ → ℕ → Bytes
  | 0, n => [n.toUInt8]
  | k + 1, n =>
      if n < 128 then [n.toUInt8] else (n % 128 + 128).toUInt8 :: varint k (n / 128)

/-- Takes a number of variable length off. -/
def readVarint : FrontReader UInt8 ℕ
  | [] => none
  | b :: bs =>
      if b.toNat < 128 then some (b.toNat, bs)
      else (readVarint bs).map fun r => (b.toNat - 128 + 128 * r.1, r.2)

theorem toNat_toUInt8_of_lt {n : ℕ} (hn : n < 256) : n.toUInt8.toNat = n := by
  rw [Nat.toUInt8_eq, UInt8.toNat_ofNat']
  exact Nat.mod_eq_of_lt hn

theorem readVarint_last {n : ℕ} (hn : n < 128) (rest : Bytes) :
    readVarint (n.toUInt8 :: rest) = some (n, rest) := by
  unfold readVarint
  rw [toNat_toUInt8_of_lt (by omega), if_pos hn]

theorem readsFront_readVarint {k n : ℕ} (hn : n < 2 ^ (7 * (k + 1))) :
    ReadsFront readVarint (varint k n) n := by
  intro rest
  show readVarint (varint k n ++ rest) = some (n, rest)
  induction k generalizing n with
  | zero => exact readVarint_last hn rest
  | succ k ih =>
      unfold varint
      split
      · rename_i hlast
        exact readVarint_last hlast rest
      · rename_i hmore
        have hhigh : n / 128 < 2 ^ (7 * (k + 1)) := by
          apply Nat.div_lt_of_lt_mul
          calc
            n < 2 ^ (7 * (k + 1 + 1)) := hn
            _ = 128 * 2 ^ (7 * (k + 1)) := by
              rw [Nat.mul_succ 7 (k + 1), Nat.pow_add, Nat.mul_comm]
        rw [List.cons_append]
        unfold readVarint
        rw [toNat_toUInt8_of_lt (by omega), if_neg (by omega), ih hhigh]
        simp only [Option.map_some, Option.some.injEq, Prod.mk.injEq, and_true]
        omega

theorem length_varint_le (k n : ℕ) : (varint k n).length ≤ k + 1 := by
  induction k generalizing n with
  | zero => exact Nat.le_refl 1
  | succ k ih =>
      unfold varint
      split
      · exact Nat.le_add_left 1 (k + 1)
      · exact Nat.succ_le_succ (ih (n / 128))

/-! ## The wire format -/

/-- An item: the tags of its two fields and their values. -/
def wireItem (data : SItemData) : Bytes :=
  [8] ++ (varint 4 data.1.toNat ++ ([16] ++ varint 4 data.2.toNat))

def readWireItem : FrontReader UInt8 SItemData := do
  expect [8]
  let nID ← readVarint
  expect [16]
  let nCount ← readVarint
  pure (UInt32.ofNat nID, UInt32.ofNat nCount)

/-- An entry of the sub-message: the tag of the repeated field, and an item behind its
length. -/
def wireEntry (data : SItemData) : Bytes :=
  [10] ++ (varint 4 (wireItem data).length ++ wireItem data)

def readWireEntry : FrontReader UInt8 SItemData := do
  expect [10]
  let nLength ← readVarint
  let body ← takeFront nLength
  match readWireItem.run body with
  | some (data, []) => pure data
  | _ => failure

/-- A sub-message in its wire format. -/
def wireWrap (data : List SItemData) : Bytes :=
  data.flatMap wireEntry

/-- The items of a sub-message in its wire format. -/
def wireItems (wrap : Bytes) : List SItemData :=
  (readAll readWireEntry wrap.length wrap).getD []

theorem readsFront_readVarint_toNat (n : UInt32) :
    ReadsFront readVarint (varint 4 n.toNat) n.toNat := by
  apply readsFront_readVarint
  exact Nat.lt_of_lt_of_le n.toNat_lt (by decide)

theorem readsFront_readWireItem (data : SItemData) :
    ReadsFront readWireItem (wireItem data) data := by
  refine (readsFront_expect [8]).bind ?_
  refine (readsFront_readVarint_toNat data.1).bind ?_
  refine (readsFront_expect [16]).bind ?_
  have hcount := (readsFront_readVarint_toNat data.2).bind_pure fun nCount =>
    (UInt32.ofNat data.1.toNat, UInt32.ofNat nCount)
  simpa only [UInt32.ofNat_toNat] using hcount

theorem length_wireItem_lt (data : SItemData) : (wireItem data).length < 2 ^ (7 * (4 + 1)) := by
  have hid := length_varint_le 4 data.1.toNat
  have hcount := length_varint_le 4 data.2.toNat
  unfold wireItem
  simp only [List.length_append, List.length_singleton]
  omega

theorem readsFront_readWireEntry (data : SItemData) :
    ReadsFront readWireEntry (wireEntry data) data := by
  refine (readsFront_expect [10]).bind ?_
  refine (readsFront_readVarint (length_wireItem_lt data)).bind ?_
  intro rest
  rw [StateT.run_bind, readsFront_takeFront (wireItem data) rest, Option.bind_eq_bind,
    Option.bind_some]
  dsimp only
  rw [(readsFront_readWireItem data).run_eq]
  rfl

theorem wireEntry_ne_nil (data : SItemData) : wireEntry data ≠ [] :=
  List.cons_ne_nil 10 _

theorem wireItems_wireWrap (data : List SItemData) : wireItems (wireWrap data) = data := by
  have hlength : data.length ≤ (data.flatMap wireEntry).length :=
    length_le_length_flatMap fun item _ => wireEntry_ne_nil item
  unfold wireItems wireWrap
  rw [readAll_flatMap (fun item _ => readsFront_readWireEntry item)
    (fun item _ => wireEntry_ne_nil item) hlength, Option.getD_some]

/-! ## The JSON text -/

/-- Takes the digits of a number off. -/
def readDigits : FrontReader UInt8 ℕ := fun text =>
  let digits := text.takeWhile isDigit
  if digits = [] then none else some (digitsValue digits, text.dropWhile isDigit)

/-- Takes a number and the text behind it off. -/
def readNumberThen (szEnd : Bytes) : FrontReader UInt8 ℕ := do
  let n ← readDigits
  expect szEnd
  pure n

theorem readsFront_readNumberThen {c : UInt8} {szEnd : Bytes} (hc : isDigit c = false) (n : ℕ) :
    ReadsFront (readNumberThen (c :: szEnd)) (natText n ++ c :: szEnd) n := by
  intro rest
  have hends : EndsNumber (c :: szEnd ++ rest) := by
    rintro d ⟨⟩
    exact hc
  have hdigits : readDigits (natText n ++ (c :: szEnd ++ rest)) =
      some (n, c :: szEnd ++ rest) := by
    unfold readDigits
    dsimp only
    rw [takeWhile_isDigit_natText hends, if_neg (natText_ne_nil n), digitsValue_natText,
      dropWhile_isDigit_natText hends]
  have hexpect := readsFront_expect (c :: szEnd) rest
  unfold readNumberThen
  rw [StateT.run_bind, List.append_assoc, show readDigits.run _ = _ from hdigits,
    Option.bind_eq_bind, Option.bind_some, StateT.run_bind, hexpect]
  rfl

/-- The text before the number of an item. -/
def jsonID : Bytes := stringBytes "\x7b\"id\":"

def jsonCount : Bytes := stringBytes ",\"count\":"

def jsonEnd : Bytes := stringBytes "\x7d"

/-- An item as a JSON object. -/
def jsonItem (data : SItemData) : Bytes :=
  jsonID ++ (natText data.1.toNat ++ jsonCount ++ (natText data.2.toNat ++ jsonEnd))

def readJsonItem : FrontReader UInt8 SItemData := do
  expect jsonID
  let nID ← readNumberThen jsonCount
  let nCount ← readNumberThen jsonEnd
  pure (UInt32.ofNat nID, UInt32.ofNat nCount)

theorem readsFront_readJsonItem (data : SItemData) :
    ReadsFront readJsonItem (jsonItem data) data := by
  refine (readsFront_expect jsonID).bind ?_
  have hid : ReadsFront (readNumberThen jsonCount) (natText data.1.toNat ++ jsonCount)
      data.1.toNat := readsFront_readNumberThen (c := 44) (by decide) data.1.toNat
  have hcount : ReadsFront (readNumberThen jsonEnd) (natText data.2.toNat ++ jsonEnd)
      data.2.toNat := readsFront_readNumberThen (c := 125) (by decide) data.2.toNat
  refine hid.bind ?_
  have hpair := hcount.bind_pure fun nCount =>
    (UInt32.ofNat data.1.toNat, UInt32.ofNat nCount)
  simpa only [UInt32.ofNat_toNat] using hpair

/-- An item behind the first one. -/
def jsonNext (data : SItemData) : Bytes :=
  [44] ++ jsonItem data

def readJsonNext : FrontReader UInt8 SItemData := do
  expect [44]
  readJsonItem

def jsonEmpty : Bytes := stringBytes "\x7b\x7d"

def jsonOpen : Bytes := stringBytes "\x7b\"data\":["

def jsonClose : Bytes := stringBytes "]\x7d"

/-- A sub-message as a JSON object. -/
def jsonWrap : List SItemData → Bytes
  | [] => jsonEmpty
  | data :: rest => jsonOpen ++ jsonItem data ++ (rest.flatMap jsonNext ++ jsonClose)

def readJsonFirst : FrontReader UInt8 SItemData := do
  expect jsonOpen
  readJsonItem

/-- The items of a JSON object. -/
def readJsonWrap (text : Bytes) : Option (List SItemData) :=
  if text = jsonEmpty then some []
  else
    (readJsonFirst.run text).bind fun r =>
      let nLength := r.2.length - jsonClose.length
      if r.2.drop nLength = jsonClose then
        (readAll readJsonNext nLength (r.2.take nLength)).map fun rest => r.1 :: rest
      else none

theorem readJsonWrap_jsonWrap (data : List SItemData) :
    readJsonWrap (jsonWrap data) = some data := by
  cases data with
  | nil =>
      unfold readJsonWrap
      exact if_pos rfl
  | cons first rest =>
      have hne : jsonWrap (first :: rest) ≠ jsonEmpty := by
        intro h
        have hsecond : (jsonWrap (first :: rest))[1]? = some 34 := rfl
        rw [h] at hsecond
        revert hsecond
        decide
      have hfirst : ReadsFront readJsonFirst (jsonOpen ++ jsonItem first) first :=
        (readsFront_expect jsonOpen).bind (readsFront_readJsonItem first)
      have hnext : ∀ item ∈ rest, ReadsFront readJsonNext (jsonNext item) item := fun item _ =>
        (readsFront_expect [44]).bind (readsFront_readJsonItem item)
      have hnonempty : ∀ item ∈ rest, jsonNext item ≠ [] := fun item _ => List.cons_ne_nil 44 _
      have hlength : (rest.flatMap jsonNext ++ jsonClose).length - jsonClose.length =
          (rest.flatMap jsonNext).length := by
        rw [List.length_append, Nat.add_sub_cancel]
      unfold readJsonWrap
      rw [if_neg hne]
      unfold jsonWrap
      rw [hfirst (rest.flatMap jsonNext ++ jsonClose), Option.bind_some]
      dsimp only
      rw [hlength, List.drop_left, if_pos rfl, List.take_left,
        readAll_flatMap hnext hnonempty (length_le_length_flatMap hnonempty), Option.map_some]

theorem jsonWrap_ne_nil (data : List SItemData) : jsonWrap data ≠ [] := by
  cases data with
  | nil => decide
  | cons first rest => exact List.cons_ne_nil 123 _

/-! ## The library -/

/-- The protobuf library, as far as the items of a player need it. -/
def libraryFormat : ItemFormat where
  fmt :=
    { doubleText := fun _ => []
      textDouble := fun _ => none
      floatText := fun _ => []
      messageText := fun _ wrap => some (jsonWrap (wireItems wrap))
      textMessage := fun _ text => (readJsonWrap text).map wireWrap }
  items := wireItems
  serialize := wireWrap
  items_nil := rfl
  items_serialize := wireItems_wireWrap
  messageText_serialize := by
    intro data
    refine ⟨jsonWrap data, jsonWrap_ne_nil data, ?_, ?_⟩
    · dsimp only
      rw [wireItems_wireWrap]
    · dsimp only
      rw [readJsonWrap_jsonWrap, Option.map_some]

/-- A player who gave the last item away. -/
def givenAway : List CPlayerItemModule.Action :=
  [.addItem 5 1, .delItem 5 1]

end RealtimeEx.Game
