import Mathlib.Algebra.Order.Ring.Int
import RealtimeEx.Db.DbCommandHandler

/-!
# What the fields of a record are set from

A row becomes a message by setting one field after the other, each from a text
that `getData` reads.  This file names these texts, and says when they are the
cells of the row: `getData` takes the length of a cell from its column.
-/

namespace RealtimeEx.Db

/-! ## Setting fields from texts -/

/-- The fields are set from the texts, one after the other. -/
def setFields (fmt : TextFormat) : List (String × Bytes) → Message → Option Message
  | [], m => some m
  | (szFieldName, szValue) :: texts, m => do
      let f ← m.descriptor.findFieldByName szFieldName
      let v ← setFieldValue fmt f szValue
      setFields fmt texts (m.setField f.name v)

/-- The texts the fields of a row are set from, with the names of the fields. -/
def Recordset.rowTexts (r : Recordset) (row : List (Option Bytes)) : List (String × Bytes) :=
  r.fieldName.zipIdx.map fun column => (column.1, r.getData row column.2)

theorem fillColumns_eq_setFields (fmt : TextFormat) (r : Recordset) (row : List (Option Bytes))
    (columns : List (String × ℕ)) (m : Message) :
    fillColumns fmt r row columns m =
      setFields fmt (columns.map fun column => (column.1, r.getData row column.2)) m := by
  induction columns generalizing m with
  | nil => rfl
  | cons column columns ih =>
      obtain ⟨szFieldName, nCol⟩ := column
      simp only [fillColumns, List.map_cons, setFields, ih]

theorem fillRow_eq_setFields (fmt : TextFormat) (r : Recordset) (d : Descriptor)
    (row : List (Option Bytes)) : fillRow fmt r d row = setFields fmt (r.rowTexts row) (.empty d) :=
  fillColumns_eq_setFields fmt r row r.fieldName.zipIdx (.empty d)

/-! ## The cells -/

/-- The bytes of a cell; a null has none. -/
def cellBytes (row : List (Option Bytes)) (nCol : ℕ) : Bytes :=
  ((row[nCol]?).getD none).getD []

/-- The cells of a row, with the names of the fields. -/
def Recordset.cellTexts (r : Recordset) (row : List (Option Bytes)) : List (String × Bytes) :=
  r.fieldName.zipIdx.map fun column => (column.1, cellBytes row column.2)

/-- One message for each row, its fields set from the cells of the row. -/
def Recordset.cellMessages (fmt : TextFormat) (r : Recordset) (szMessageName : String)
    (d : Descriptor) : Option (List Message) :=
  r.rows.mapM fun row =>
    if d.typeName = szMessageName then setFields fmt (r.cellTexts row) (.empty d) else none

/-- Every field of every row is set from the bytes of its cell, and what is built
of the record set are the messages of the cells. -/
structure Recordset.DecodesCells (r : Recordset) : Prop where
  rowTexts : ∀ row ∈ r.rows, r.rowTexts row = r.cellTexts row
  messages : ∀ fmt szMessageName d,
    fillRepeatMessage fmt r szMessageName d = r.cellMessages fmt szMessageName d

/-- The cells of a column that are not null have one length. -/
def Recordset.UniformColumn (r : Recordset) (nCol : ℕ) : Prop :=
  ∀ row ∈ r.rows, ∀ row' ∈ r.rows, ∀ cell cell' : Bytes,
    row[nCol]? = some (some cell) → row'[nCol]? = some (some cell') →
      cell.length = cell'.length

/-! ## The length of a column -/

section

variable {ι : Type*}

theorem le_foldl_max (f : ι → ℕ) (n : ℕ) (xs : List ι) :
    n ≤ xs.foldl (fun n x => max n (f x)) n ∧
      ∀ x ∈ xs, f x ≤ xs.foldl (fun n x => max n (f x)) n := by
  induction xs generalizing n with
  | nil => exact ⟨Nat.le_refl n, by simp⟩
  | cons x xs ih =>
      obtain ⟨hstart, hrest⟩ := ih (max n (f x))
      refine ⟨(Nat.le_max_left n (f x)).trans hstart, ?_⟩
      intro y hy
      rcases List.mem_cons.mp hy with rfl | hy
      · exact (Nat.le_max_right n (f y)).trans hstart
      · exact hrest y hy

theorem foldl_max_attained (f : ι → ℕ) (n : ℕ) (xs : List ι) :
    xs.foldl (fun n x => max n (f x)) n = n ∨
      ∃ x ∈ xs, f x = xs.foldl (fun n x => max n (f x)) n := by
  induction xs generalizing n with
  | nil => exact Or.inl rfl
  | cons x xs ih =>
      rw [List.foldl_cons]
      rcases ih (max n (f x)) with hmax | ⟨y, hy, hmax⟩
      · rw [hmax]
        rcases Nat.le_total (f x) n with hle | hle
        · exact Or.inl (Nat.max_eq_left hle)
        · exact Or.inr ⟨x, List.mem_cons_self, (Nat.max_eq_right hle).symm⟩
      · exact Or.inr ⟨y, List.mem_cons_of_mem x hy, hmax⟩

end

namespace Recordset

variable {r : Recordset} {row : List (Option Bytes)} {nCol : ℕ} {cell : Bytes}

theorem length_le_maxLength (hrow : row ∈ r.rows) (hcell : row[nCol]? = some (some cell)) :
    cell.length ≤ r.maxLength nCol := by
  have hle := (le_foldl_max
    (fun row : List (Option Bytes) => ((row[nCol]?).getD none).elim 0 List.length)
    0 r.rows).2 row hrow
  rw [hcell] at hle
  exact hle

/-- In a column whose cells have one length, this is the length of the column. -/
theorem maxLength_eq_of_uniform (huniform : r.UniformColumn nCol) (hrow : row ∈ r.rows)
    (hcell : row[nCol]? = some (some cell)) : r.maxLength nCol = cell.length := by
  have hle := length_le_maxLength hrow hcell
  rcases foldl_max_attained
      (fun row : List (Option Bytes) => ((row[nCol]?).getD none).elim 0 List.length)
      0 r.rows with hzero | ⟨row', hrow', hmax⟩
  · have hmax : r.maxLength nCol = 0 := hzero
    omega
  · have hlongest : ((row'[nCol]?).getD none).elim 0 List.length = r.maxLength nCol := hmax
    rcases hcell' : row'[nCol]? with _ | _ | cell'
    · rw [hcell'] at hlongest
      have hempty : 0 = r.maxLength nCol := hlongest
      omega
    · rw [hcell'] at hlongest
      have hempty : 0 = r.maxLength nCol := hlongest
      omega
    · rw [hcell'] at hlongest
      exact hlongest.symm.trans (huniform row' hrow' row hrow cell' cell hcell' hcell)

/-- A cell is read as it is exactly when it is as long as its column. -/
theorem getData_eq_cell_iff (hcell : row[nCol]? = some (some cell)) :
    r.getData row nCol = cell ↔ r.maxLength nCol = cell.length := by
  constructor
  · intro h
    have hlength := congrArg List.length h
    unfold getData at hlength
    rw [hcell] at hlength
    dsimp only at hlength
    rw [length_readMemory] at hlength
    exact hlength
  · exact getData_of_length hcell

theorem rowTexts_eq_cellTexts_iff :
    r.rowTexts row = r.cellTexts row ↔
      ∀ nCol < r.fieldName.length, r.getData row nCol = cellBytes row nCol := by
  unfold rowTexts cellTexts
  rw [List.map_inj_left]
  constructor
  · intro h nCol hcol
    have hmem : (r.fieldName[nCol], nCol) ∈ r.fieldName.zipIdx :=
      List.mk_mem_zipIdx_iff_getElem?.mpr (List.getElem?_eq_getElem hcol)
    exact (Prod.mk.inj (h _ hmem)).2
  · intro h column hmem
    have hcol := List.mem_zipIdx_iff_getElem?.mp hmem
    rw [h column.2 (List.getElem?_eq_some_iff.mp hcol).1]

theorem getData_eq_cellBytes_of_uniform (huniform : r.UniformColumn nCol)
    (hrow : row ∈ r.rows) : r.getData row nCol = cellBytes row nCol := by
  unfold cellBytes
  rcases hcell : row[nCol]? with _ | _ | cell
  · simp only [getData, hcell, Option.getD_none]
  · simp only [getData, hcell, Option.getD_some, Option.getD_none]
  · exact getData_of_length hcell (maxLength_eq_of_uniform huniform hrow hcell)

theorem mapM_congr_mem {ι κ : Type*} {f g : ι → Option κ} {xs : List ι}
    (h : ∀ x ∈ xs, f x = g x) : xs.mapM f = xs.mapM g := by
  induction xs with
  | nil => rfl
  | cons x xs ih =>
      rw [List.mapM_cons, List.mapM_cons, h x List.mem_cons_self,
        ih fun y hy => h y (List.mem_cons_of_mem x hy)]

/-- Where the fields are set from the cells, so are the messages. -/
theorem fillRepeatMessage_eq_cellMessages
    (h : ∀ row ∈ r.rows, r.rowTexts row = r.cellTexts row) (fmt : TextFormat)
    (szMessageName : String) (d : Descriptor) :
    fillRepeatMessage fmt r szMessageName d = r.cellMessages fmt szMessageName d := by
  unfold fillRepeatMessage cellMessages
  refine mapM_congr_mem fun row hrow => ?_
  rw [fillRow_eq_setFields, h row hrow]

end Recordset

end RealtimeEx.Db
