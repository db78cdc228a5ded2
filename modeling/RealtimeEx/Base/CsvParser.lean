import Mathlib.Tactic.Common
import RealtimeEx.Base.StringUtil

/-!
# `CCSVParser`

The first line of a file has the names of the columns, the other ones have their values.  The
lines are those of the file; a quoted field may hold delimiters.
-/

namespace RealtimeEx.Base.CCSVParser

/-- The characters `"`, `\\r` and `\\n`. -/
def quote : UInt8 := 34

def carriageReturn : UInt8 := 13

def newLine : UInt8 := 10

/-! ## The parser -/

/-- `SCSVParserInfo`, with the values of the rows. -/
structure SCSVParserInfo where
  vecHeader : List StdString
  vecRow : List (List StdString)

/-- `parseCSVHeader`: the items that `std::getline` reads.  Behind a last delimiter there is
none. -/
def parseCSVHeader (cDelim : UInt8) (szHeader : StdString) : List StdString :=
  let vecItem := szHeader.splitOn cDelim
  if vecItem.getLast? = some [] then vecItem.dropLast else vecItem

/-- The loop of `parseCSVRow` over a line; `szToken` is the part of it from `nTokenStart` on. -/
def parseLine (cDelim : UInt8) : Bool → StdString → StdString → List StdString
  | _, szToken, [] => [StringUtil.trim szToken [quote]]
  | bQuoted, szToken, c :: szLine =>
      if c = quote then
        parseLine cDelim (!bQuoted) (szToken ++ [c]) szLine
      else if c = cDelim && !bQuoted then
        StringUtil.trim szToken [quote] :: parseLine cDelim bQuoted [] szLine
      else
        parseLine cDelim bQuoted (szToken ++ [c]) szLine

/-- `parseCSVRow`: every line has to have as many values as the header has names. -/
def parseCSVRow (cDelim : UInt8) (nColumn : ℕ) :
    List StdString → Option (List (List StdString))
  | [] => some []
  | szLine :: vecContent =>
      let vecValue := parseLine cDelim false [] szLine
      if vecValue.length ≠ nColumn then
        none
      else
        (parseCSVRow cDelim nColumn vecContent).map (vecValue :: ·)

/-- The lines of a file that are not empty, without `_WIN32`.  What `std::getline` reads at the
end of the file is empty. -/
def readLines (szFile : StdString) : List StdString :=
  ((szFile.splitOn newLine).map (StringUtil.rtrim · [carriageReturn])).filter (· ≠ [])

/-- `load` of a file that can be opened; `none` is `false`. -/
def load (szFile : StdString) (cDelim : UInt8) : Option SCSVParserInfo :=
  match readLines szFile with
  | [] => none
  | szHeader :: vecContent =>
      let vecHeader := parseCSVHeader cDelim szHeader
      (parseCSVRow cDelim vecHeader.length vecContent).map fun vecRow => ⟨vecHeader, vecRow⟩

namespace SCSVParserInfo

/-- `getRowCount`, `getColumnCount`, `getHeaderElement` and `getValue`.  The texts are returned
as C strings. -/
def getRowCount (p : SCSVParserInfo) : UInt32 := UInt32.ofNat p.vecRow.length

def getColumnCount (p : SCSVParserInfo) : UInt32 := UInt32.ofNat p.vecHeader.length

def getHeaderElement (p : SCSVParserInfo) (nColumn : ℕ) : Option StdString :=
  p.vecHeader[nColumn]?.map cStr

def getValue (p : SCSVParserInfo) (nRow nColumn : ℕ) : Option StdString :=
  (p.vecRow[nRow]?.bind (·[nColumn]?)).map cStr

/-- The names of the columns, and the values of the rows, as a user reads them. -/
def names (p : SCSVParserInfo) : List (Option StdString) :=
  (List.range p.getColumnCount.toNat).map p.getHeaderElement

def values (p : SCSVParserInfo) : List (List (Option StdString)) :=
  (List.range p.getRowCount.toNat).map fun nRow =>
    (List.range p.getColumnCount.toNat).map (p.getValue nRow)

end SCSVParserInfo

/-! ## Tables and how they are written -/

/-- A character that can stand between fields. -/
abbrev CsvDelim := {c : UInt8 // c ≠ quote ∧ c ≠ carriageReturn ∧ c ≠ newLine}

/-- A text that is written with or without quotes: without them if it needs none. -/
structure CsvField (delim : CsvDelim) where
  text : StdString
  quoted : Bool
  plain : quoted = false → ∀ c ∈ text,
    c ≠ delim.val ∧ c ≠ quote ∧ c ≠ carriageReturn ∧ c ≠ newLine

/-- A table: names of columns, and rows of as many texts. -/
structure CsvTable (delim : CsvDelim) where
  header : List (CsvField delim)
  rows : List (List (CsvField delim))
  header_ne_nil : header ≠ []
  length_row : ∀ row ∈ rows, row.length = header.length

variable {delim : CsvDelim}

/-- A quote in a quoted text is doubled. -/
def escapeQuotes (text : StdString) : StdString :=
  text.flatMap fun c => if c = quote then [quote, quote] else [c]

def CsvField.write (f : CsvField delim) : StdString :=
  if f.quoted then quote :: escapeQuotes f.text ++ [quote] else f.text

def writeRow (row : List (CsvField delim)) : StdString :=
  [delim.val].intercalate (row.map CsvField.write)

namespace CsvTable

/-- The file: lines that end with `\\n` or `\\r\\n`, the last one with or without it. -/
def write (t : CsvTable delim) (crlf final : Bool) : StdString :=
  (if crlf then [carriageReturn, newLine] else [newLine]).intercalate
    (writeRow t.header :: t.rows.map writeRow ++ if final then [[]] else [])

/-- The parser gives the names and the texts of a table back. -/
def Recovered (t : CsvTable delim) (crlf final : Bool) : Prop :=
  ∃ p, load (t.write crlf final) delim.val = some p ∧
    p.names = t.header.map (some ·.text) ∧
    p.values = t.rows.map (List.map (some ·.text))

/-- The names and the texts are recovered, and the header is split as a row would be. -/
structure Inverted (t : CsvTable delim) (crlf final : Bool) : Prop where
  recovered : t.Recovered crlf final
  alike : parseCSVHeader delim.val (writeRow t.header) =
    parseLine delim.val false [] (writeRow t.header)

/-- What a table has to be: the names are written without quotes and the last one is not empty;
no text has a quote, a new line or a zero; an only column has no empty text without quotes. -/
structure Readable (t : CsvTable delim) : Prop where
  columns : t.header.length < 2 ^ 32
  rowCount : t.rows.length < 2 ^ 32
  names : ∀ f ∈ t.header, f.quoted = false ∧ 0 ∉ f.text
  last : (t.header.getLast t.header_ne_nil).text ≠ []
  texts : ∀ row ∈ t.rows, ∀ f ∈ row, quote ∉ f.text ∧ newLine ∉ f.text ∧ 0 ∉ f.text
  only : t.header.length = 1 → ∀ row ∈ t.rows, ∀ f ∈ row, f.quoted = false → f.text ≠ []

end CsvTable

/-! ## Lines -/

section Lines

variable {str : StdString} {c : UInt8}

theorem rtrim_of_getLast? (hlast : str.getLast? ≠ some c) : StringUtil.rtrim str [c] = str := by
  unfold StringUtil.rtrim
  rcases List.eq_nil_or_concat' str with rfl | ⟨front, x, rfl⟩
  · rfl
  · rw [List.getLast?_concat] at hlast
    have hx : ¬ (fun y => decide (y ∈ [c])) x = true := by
      rw [decide_eq_true_iff, List.mem_singleton]
      exact fun h => hlast (congrArg some h)
    rw [List.reverse_concat, List.dropWhile_cons_of_neg (p := fun y => decide (y ∈ [c])) hx,
      ← List.reverse_concat, List.reverse_reverse]

theorem rtrim_concat (str : StdString) (c : UInt8) :
    StringUtil.rtrim (str ++ [c]) [c] = StringUtil.rtrim str [c] := by
  unfold StringUtil.rtrim
  rw [List.reverse_concat, List.dropWhile_cons_of_pos (by simp)]

/-- All lines but the last one with a `\r` behind them. -/
def withReturns : List StdString → List StdString
  | [] => []
  | [line] => [line]
  | line :: next :: lines => (line ++ [carriageReturn]) :: withReturns (next :: lines)

theorem intercalate_withReturns (lines : List StdString) :
    [newLine].intercalate (withReturns lines) =
      [carriageReturn, newLine].intercalate lines := by
  induction lines with
  | nil => rfl
  | cons line lines ih =>
      cases lines with
      | nil => rfl
      | cons next lines =>
          have hne : withReturns (next :: lines) ≠ [] := by
            cases lines with
            | nil => exact List.cons_ne_nil _ _
            | cons => exact List.cons_ne_nil _ _
          rw [withReturns, List.intercalate_cons_of_ne_nil hne, ih, List.intercalate_cons_cons]
          simp only [List.append_assoc]
          rfl

/-- A line as it stands in a file: without a new line, and without a `\r` at its end. -/
def Clean (line : StdString) : Prop := newLine ∉ line ∧ line.getLast? ≠ some carriageReturn

theorem map_rtrim_withReturns {lines : List StdString} (hclean : ∀ line ∈ lines, Clean line) :
    (withReturns lines).map (StringUtil.rtrim · [carriageReturn]) = lines ∧
      ∀ line ∈ withReturns lines, newLine ∉ line := by
  induction lines with
  | nil => exact ⟨rfl, fun line hline => absurd hline List.not_mem_nil⟩
  | cons line lines ih =>
      obtain ⟨hline, hothers⟩ := List.forall_mem_cons.mp hclean
      have hrtrim := rtrim_of_getLast? hline.2
      cases lines with
      | nil =>
          refine ⟨congrArg (fun l => [l]) hrtrim, fun l hl => ?_⟩
          rw [List.mem_singleton.mp hl]
          exact hline.1
      | cons next lines =>
          obtain ⟨hmap, hfree⟩ := ih hothers
          rw [withReturns, List.map_cons, rtrim_concat, hrtrim, hmap]
          refine ⟨rfl, List.forall_mem_cons.mpr ⟨?_, hfree⟩⟩
          rw [List.mem_append, List.mem_singleton]
          exact fun h => h.elim hline.1 (fun heq => absurd heq (by decide))

/-- The lines of a file are read as they were written. -/
theorem readLines_intercalate {lines : List StdString} (hne : lines ≠ [])
    (hclean : ∀ line ∈ lines, Clean line) (crlf : Bool) :
    readLines ((if crlf then [carriageReturn, newLine] else [newLine]).intercalate lines) =
      lines.filter (· ≠ []) := by
  have hfree : ∀ line ∈ lines, newLine ∉ line := fun line hline => (hclean line hline).1
  cases crlf with
  | true =>
      obtain ⟨hmap, hfree⟩ := map_rtrim_withReturns hclean
      have hne' : withReturns lines ≠ [] := by
        intro hnil
        rw [hnil, List.map_nil] at hmap
        exact hne hmap.symm
      rw [if_pos rfl, readLines, ← intercalate_withReturns, List.splitOn_intercalate _ hfree hne',
        hmap]
  | false =>
      have hmap : lines.map (StringUtil.rtrim · [carriageReturn]) = lines := by
        conv_rhs => rw [← List.map_id lines]
        exact List.map_congr_left fun line hline => rtrim_of_getLast? (hclean line hline).2
      rw [if_neg Bool.false_ne_true, readLines, List.splitOn_intercalate _ hfree hne, hmap]

/-- The pieces of a text between the characters at which it is split. -/
theorem mem_splitOn {piece : StdString} (hpiece : piece ∈ str.splitOn c) :
    c ∉ piece ∧ piece ⊆ str := by
  induction str generalizing piece with
  | nil =>
      rw [List.splitOn_nil, List.mem_singleton] at hpiece
      subst piece
      exact ⟨List.not_mem_nil, List.nil_subset _⟩
  | cons x str ih =>
      rw [List.splitOn_cons_eq_if_modifyHead] at hpiece
      by_cases hx : x = c
      · rw [if_pos (beq_iff_eq.mpr hx)] at hpiece
        obtain rfl | hpiece := List.mem_cons.mp hpiece
        · exact ⟨List.not_mem_nil, List.nil_subset _⟩
        · exact ⟨(ih hpiece).1, List.subset_cons_of_subset _ (ih hpiece).2⟩
      · rw [if_neg (fun h => hx (beq_iff_eq.mp h))] at hpiece
        obtain ⟨first, others, heq⟩ := List.exists_cons_of_ne_nil (List.splitOn_ne_nil c str)
        rw [heq] at hpiece ih
        obtain rfl | hpiece := List.mem_cons.mp hpiece
        · obtain ⟨hfree, hsub⟩ := ih List.mem_cons_self
          refine ⟨fun h => ?_, List.cons_subset_cons _ hsub⟩
          obtain h | h := List.mem_cons.mp h
          · exact hx h.symm
          · exact hfree h
        · obtain ⟨hfree, hsub⟩ := ih (List.mem_cons_of_mem _ hpiece)
          exact ⟨hfree, List.subset_cons_of_subset _ hsub⟩

theorem rtrim_subset (str delim : StdString) : StringUtil.rtrim str delim ⊆ str := by
  intro x hx
  have hmem := (List.dropWhile_suffix _).subset (List.mem_reverse.mp hx)
  exact List.mem_reverse.mp hmem

theorem trim_subset (str delim : StdString) : StringUtil.trim str delim ⊆ str :=
  List.Subset.trans (rtrim_subset _ delim) (List.dropWhile_suffix _).subset

/-- No line that is read has a new line in it. -/
theorem newLine_not_mem_readLines (szFile : StdString) :
    ∀ line ∈ readLines szFile, newLine ∉ line := by
  intro line hline hmem
  obtain ⟨raw, hraw, rfl⟩ := List.mem_map.mp (List.mem_filter.mp hline).1
  exact (mem_splitOn hraw).1 (rtrim_subset raw _ hmem)

end Lines

/-! ## What is read of a table -/

section Read

variable {cDelim : UInt8} {szFile : StdString} {p : SCSVParserInfo}

theorem prefix_parseCSVHeader (cDelim : UInt8) (szHeader : StdString) :
    parseCSVHeader cDelim szHeader <+: szHeader.splitOn cDelim := by
  rw [parseCSVHeader]
  split
  · exact List.dropLast_prefix _
  · exact List.prefix_refl _

theorem parseLine_subset {bQuoted : Bool} {szToken szLine : StdString} :
    ∀ value ∈ parseLine cDelim bQuoted szToken szLine, value ⊆ szToken ++ szLine := by
  fun_induction parseLine cDelim bQuoted szToken szLine with
  | case1 bQuoted szToken =>
      intro value hvalue
      rw [List.mem_singleton.mp hvalue, List.append_nil]
      exact trim_subset _ _
  | case2 bQuoted szToken szLine ih =>
      intro value hvalue
      rw [List.append_cons]
      exact ih value hvalue
  | case3 bQuoted szToken c szLine _ _ ih =>
      intro value hvalue
      obtain rfl | hvalue := List.mem_cons.mp hvalue
      · exact List.Subset.trans (trim_subset _ _) (List.subset_append_left _ _)
      · have hsub := ih value hvalue
        exact List.Subset.trans hsub
          (List.subset_append_of_subset_right _ (List.subset_cons_self _ _))
  | case4 bQuoted szToken c szLine _ _ ih =>
      intro value hvalue
      rw [List.append_cons]
      exact ih value hvalue

theorem parseCSVRow_eq_some_iff {nColumn : ℕ} {vecContent : List StdString}
    {vecRow : List (List StdString)} :
    parseCSVRow cDelim nColumn vecContent = some vecRow ↔
      (∀ szLine ∈ vecContent, (parseLine cDelim false [] szLine).length = nColumn) ∧
        vecRow = vecContent.map (parseLine cDelim false []) := by
  induction vecContent generalizing vecRow with
  | nil => simp [parseCSVRow, eq_comm]
  | cons szLine vecContent ih =>
      rw [parseCSVRow, List.forall_mem_cons, List.map_cons]
      by_cases hlength : (parseLine cDelim false [] szLine).length = nColumn
      · rw [if_neg (not_not.mpr hlength), and_iff_right hlength, Option.map_eq_some_iff]
        constructor
        · rintro ⟨rows, hrows, rfl⟩
          obtain ⟨hall, rfl⟩ := ih.mp hrows
          exact ⟨hall, rfl⟩
        · rintro ⟨hall, rfl⟩
          exact ⟨_, ih.mpr ⟨hall, rfl⟩, rfl⟩
      · rw [if_pos hlength]
        exact iff_of_false (by simp) (fun h => hlength h.1.1)

theorem load_eq_some_iff :
    load szFile cDelim = some p ↔ ∃ szHeader vecContent,
      readLines szFile = szHeader :: vecContent ∧
        p.vecHeader = parseCSVHeader cDelim szHeader ∧
          parseCSVRow cDelim p.vecHeader.length vecContent = some p.vecRow := by
  rw [load]
  split
  · rename_i hnil
    refine iff_of_false (by simp) ?_
    rintro ⟨szHeader, vecContent, hcons, -⟩
    rw [hnil] at hcons
    cases hcons
  · rename_i szHeader vecContent hcons
    rw [hcons, Option.map_eq_some_iff]
    constructor
    · rintro ⟨vecRow, hrow, rfl⟩
      exact ⟨szHeader, vecContent, rfl, rfl, hrow⟩
    · rintro ⟨szHeader', vecContent', hsame, hheader, hrow⟩
      obtain ⟨rfl, rfl⟩ := List.cons.inj hsame
      rw [hheader] at hrow
      exact ⟨p.vecRow, hrow, by rw [← hheader]⟩

/-- What has been loaded has no new lines, and its rows are as long as its header. -/
theorem of_load (hload : load szFile cDelim = some p) :
    (∀ name ∈ p.vecHeader, newLine ∉ name) ∧
      ∀ row ∈ p.vecRow, row.length = p.vecHeader.length ∧ ∀ value ∈ row, newLine ∉ value := by
  obtain ⟨szHeader, vecContent, hlines, hheader, hrow⟩ := load_eq_some_iff.mp hload
  obtain ⟨hlength, hrows⟩ := parseCSVRow_eq_some_iff.mp hrow
  have hfree := newLine_not_mem_readLines szFile
  rw [hlines, List.forall_mem_cons] at hfree
  constructor
  · intro name hname hmem
    rw [hheader] at hname
    have hpiece := (prefix_parseCSVHeader cDelim szHeader).subset hname
    exact hfree.1 ((mem_splitOn hpiece).2 hmem)
  · intro row hmemRow
    rw [hrows] at hmemRow
    obtain ⟨szLine, hline, rfl⟩ := List.mem_map.mp hmemRow
    refine ⟨hlength szLine hline, fun value hvalue hmem => ?_⟩
    exact hfree.2 szLine hline (parseLine_subset value hvalue hmem)

theorem map_range_getElem? {α β : Type} (xs : List α) (f : α → β) {k : ℕ}
    (hk : k ≤ xs.length) :
    (List.range k).map (fun i => xs[i]?.map f) = (xs.take k).map (fun x => some (f x)) := by
  refine List.ext_getElem ?_ fun i hi _ => ?_
  · rw [List.length_map, List.length_map, List.length_range, List.length_take]
    omega
  · have hlt : i < xs.length := by
      rw [List.length_map, List.length_range] at hi
      omega
    simp [hlt]

theorem toNat_count_le (n : ℕ) : (UInt32.ofNat n).toNat ≤ n := by
  rw [UInt32.toNat_ofNat']
  exact Nat.mod_le _ _

theorem names_eq (p : SCSVParserInfo) :
    p.names = (p.vecHeader.take p.getColumnCount.toNat).map fun name => some (cStr name) :=
  map_range_getElem? _ _ (toNat_count_le _)

theorem values_eq {p : SCSVParserInfo}
    (hlength : ∀ row ∈ p.vecRow, row.length = p.vecHeader.length) :
    p.values = (p.vecRow.take p.getRowCount.toNat).map fun row =>
      (row.take p.getColumnCount.toNat).map fun value => some (cStr value) := by
  refine List.ext_getElem ?_ fun i hi _ => ?_
  · have hle := toNat_count_le p.vecRow.length
    rw [SCSVParserInfo.values, List.length_map, List.length_map, List.length_range,
      List.length_take]
    exact (Nat.min_eq_left hle).symm
  · have hlt : i < p.vecRow.length := by
      rw [SCSVParserInfo.values, List.length_map, List.length_range] at hi
      exact hi.trans_le (toNat_count_le _)
    have hrow : p.getValue i = fun c => (p.vecRow[i])[c]?.map cStr := by
      funext c
      rw [SCSVParserInfo.getValue, List.getElem?_eq_getElem hlt, Option.bind_some]
    have hwidth := hlength _ (List.getElem_mem hlt)
    simp only [SCSVParserInfo.values, List.getElem_map, List.getElem_range, List.getElem_take]
    rw [hrow, map_range_getElem? _ _ (hwidth ▸ toNat_count_le _)]

end Read

/-! ## Fields -/

section Fields

variable {text : StdString}

theorem mem_escapeQuotes {c : UInt8} (hc : c ∈ escapeQuotes text) : c ∈ text := by
  obtain ⟨x, hx, hc⟩ := List.mem_flatMap.mp hc
  split at hc
  · rename_i hquote
    have heq : c = quote := by simpa using hc
    rwa [heq, ← hquote]
  · rwa [List.mem_singleton.mp hc]

theorem escapeQuotes_of_not_mem (hquote : quote ∉ text) : escapeQuotes text = text := by
  induction text with
  | nil => rfl
  | cons c text ih =>
      rw [List.mem_cons, not_or] at hquote
      have hrest := ih hquote.2
      rw [escapeQuotes, List.flatMap_cons, if_neg (Ne.symm hquote.1), ← escapeQuotes, hrest]
      rfl

theorem length_le_escapeQuotes (text : StdString) :
    text.length ≤ (escapeQuotes text).length := by
  induction text with
  | nil => exact Nat.le_refl 0
  | cons c text ih =>
      rw [escapeQuotes, List.flatMap_cons, ← escapeQuotes, List.length_append, List.length_cons]
      split
      · rw [List.length_cons, List.length_singleton]
        omega
      · rw [List.length_singleton]
        omega

theorem length_lt_escapeQuotes (hquote : quote ∈ text) :
    text.length < (escapeQuotes text).length := by
  induction text with
  | nil => cases hquote
  | cons c text ih =>
      have hle := length_le_escapeQuotes text
      rw [escapeQuotes, List.flatMap_cons, ← escapeQuotes, List.length_append, List.length_cons]
      split
      · rw [List.length_cons, List.length_singleton]
        omega
      · rename_i hc
        have hlt := ih ((List.mem_cons.mp hquote).resolve_left (Ne.symm hc))
        rw [List.length_singleton]
        omega

theorem head?_escapeQuotes (text : StdString) : (escapeQuotes text).head? = text.head? := by
  cases text with
  | nil => rfl
  | cons c text =>
      rw [escapeQuotes, List.flatMap_cons, List.head?_cons]
      split
      · rename_i hc
        rw [hc]
        rfl
      · rfl

theorem getLast?_escapeQuotes (text : StdString) :
    (escapeQuotes text).getLast? = text.getLast? := by
  obtain rfl | ⟨front, c, rfl⟩ := List.eq_nil_or_concat' text
  · rfl
  · rw [escapeQuotes, List.flatMap_append, List.getLast?_append, List.getLast?_concat,
      List.flatMap_singleton]
    split
    · rename_i hc
      rw [hc]
      rfl
    · rfl

/-- A text with quotes at neither end is not trimmed. -/
theorem trim_of_ends (hfirst : text.head? ≠ some quote) (hlast : text.getLast? ≠ some quote) :
    StringUtil.trim text [quote] = text := by
  have hltrim : StringUtil.ltrim text [quote] = text := by
    cases text with
    | nil => rfl
    | cons c text =>
        have hc : ¬ (fun y => decide (y ∈ [quote])) c = true := by
          rw [decide_eq_true_iff, List.mem_singleton]
          exact fun h => hfirst (congrArg some h)
        exact List.dropWhile_cons_of_neg hc
  rw [StringUtil.trim, hltrim, rtrim_of_getLast? hlast]

theorem trim_quotes (text : StdString) :
    StringUtil.trim (quote :: text ++ [quote]) [quote] = StringUtil.trim text [quote] := by
  have hfirst : StringUtil.ltrim (quote :: text ++ [quote]) [quote] =
      StringUtil.ltrim (text ++ [quote]) [quote] :=
    List.dropWhile_cons_of_pos (by simp)
  rw [StringUtil.trim, StringUtil.trim, hfirst, StringUtil.ltrim, List.dropWhile_append]
  split
  · rename_i hnil
    rw [StringUtil.ltrim, List.isEmpty_iff.mp hnil]
    rfl
  · rw [rtrim_concat, StringUtil.ltrim]

/-- Trimming leaves no quotes at the ends. -/
theorem ends_trim (text : StdString) :
    (StringUtil.trim text [quote]).head? ≠ some quote ∧
      (StringUtil.trim text [quote]).getLast? ≠ some quote := by
  have hdrop (str : StdString) : (str.dropWhile (· ∈ [quote])).head? ≠ some quote := by
    intro hhead
    have hnot := List.head?_dropWhile_not (fun c => decide (c ∈ [quote])) str
    rw [hhead] at hnot
    exact absurd hnot (by decide)
  have hbegins : StringUtil.trim text [quote] <+: StringUtil.ltrim text [quote] := by
    rw [StringUtil.trim, StringUtil.rtrim, ← List.reverse_suffix, List.reverse_reverse]
    exact List.dropWhile_suffix _
  constructor
  · intro hhead
    obtain ⟨tail, htail⟩ := hbegins
    refine hdrop text ?_
    rw [← StringUtil.ltrim, ← htail, List.head?_append, hhead, Option.some_or]
  · rw [StringUtil.trim, StringUtil.rtrim, List.getLast?_reverse]
    exact hdrop _

/-- A text is what is left of it between quotes just if it has none. -/
theorem trim_escapeQuotes_eq_iff (text : StdString) :
    StringUtil.trim (escapeQuotes text) [quote] = text ↔ quote ∉ text := by
  constructor
  · intro htrim hquote
    have hends := ends_trim (escapeQuotes text)
    rw [htrim, ← head?_escapeQuotes, ← getLast?_escapeQuotes] at hends
    -- with no quote at the ends nothing is taken off, and the doubled quotes stay
    have hlength := length_lt_escapeQuotes hquote
    rw [← trim_of_ends hends.1 hends.2, htrim] at hlength
    exact Nat.lt_irrefl _ hlength
  · intro hquote
    rw [escapeQuotes_of_not_mem hquote]
    refine trim_of_ends (fun h => hquote (List.mem_of_mem_head? h)) fun h => ?_
    exact hquote (List.mem_of_getLast? h)

variable {delim : CsvDelim}

/-- A field is read as its text just if that has no quotes. -/
theorem trim_write_eq_iff (f : CsvField delim) :
    StringUtil.trim f.write [quote] = f.text ↔ quote ∉ f.text := by
  rw [CsvField.write]
  split
  · rw [trim_quotes, trim_escapeQuotes_eq_iff]
  · rename_i hquoted
    have hquote : quote ∉ f.text := fun h =>
      (f.plain (Bool.eq_false_iff.mpr hquoted) quote h).2.1 rfl
    refine iff_of_true (trim_of_ends (fun h => ?_) fun h => ?_) hquote
    · exact hquote (List.mem_of_mem_head? h)
    · exact hquote (List.mem_of_getLast? h)

theorem mem_write {f : CsvField delim} {c : UInt8} (hc : c ∈ f.write) :
    c = quote ∨ c ∈ f.text := by
  rw [CsvField.write] at hc
  split at hc
  · rw [List.mem_append, List.mem_cons, List.mem_singleton] at hc
    obtain (hc | hc) | hc := hc
    · exact .inl hc
    · exact .inr (mem_escapeQuotes hc)
    · exact .inl hc
  · exact .inr hc

/-- Only a text without quotes is written as it is. -/
theorem write_eq_text_iff (f : CsvField delim) : f.write = f.text ↔ f.quoted = false := by
  rw [CsvField.write]
  split
  · rename_i hquoted
    refine iff_of_false (fun heq => ?_) (by simp [hquoted])
    have hlength := congrArg List.length heq
    have hle := length_le_escapeQuotes f.text
    rw [List.length_append, List.length_cons, List.length_singleton] at hlength
    omega
  · rename_i hquoted
    exact iff_of_true rfl (Bool.eq_false_iff.mpr hquoted)

theorem write_eq_nil_iff (f : CsvField delim) :
    f.write = [] ↔ f.quoted = false ∧ f.text = [] := by
  rw [CsvField.write]
  split
  · rename_i hquoted
    exact iff_of_false (by simp) (by simp [hquoted])
  · rename_i hquoted
    rw [and_iff_right (Bool.eq_false_iff.mpr hquoted)]

theorem getLast?_write (f : CsvField delim) : f.write.getLast? ≠ some carriageReturn := by
  rw [CsvField.write]
  split
  · rw [List.getLast?_concat]
    decide
  · rename_i hquoted
    intro hlast
    have hmem := List.mem_of_getLast? hlast
    exact (f.plain (Bool.eq_false_iff.mpr hquoted) _ hmem).2.2.1 rfl

end Fields

/-! ## Rows -/

section Rows

theorem writeRow_cons_cons (f g : CsvField delim) (row : List (CsvField delim)) :
    writeRow (f :: g :: row) = f.write ++ delim.val :: writeRow (g :: row) := by
  rw [writeRow, List.map_cons, List.map_cons, List.intercalate_cons_cons, List.append_assoc]
  rfl

theorem writeRow_singleton (f : CsvField delim) : writeRow [f] = f.write :=
  List.intercalate_singleton

/-- The characters of a row: its delimiters, quotes and those of its texts. -/
theorem mem_writeRow {row : List (CsvField delim)} {c : UInt8} (hc : c ∈ writeRow row) :
    c = delim.val ∨ c = quote ∨ ∃ f ∈ row, c ∈ f.text := by
  induction row with
  | nil => cases hc
  | cons f row ih =>
      have hfield (hc : c ∈ f.write) : c = delim.val ∨ c = quote ∨ ∃ g ∈ f :: row, c ∈ g.text :=
        (mem_write hc).elim (fun h => .inr (.inl h))
          fun h => .inr (.inr ⟨f, List.mem_cons_self, h⟩)
      cases row with
      | nil =>
          rw [writeRow_singleton] at hc
          exact hfield hc
      | cons g row =>
          rw [writeRow_cons_cons, List.mem_append, List.mem_cons] at hc
          obtain hc | hc | hc := hc
          · exact hfield hc
          · exact .inl hc
          · obtain hc | hc | ⟨h, hmem, hc⟩ := ih hc
            · exact .inl hc
            · exact .inr (.inl hc)
            · exact .inr (.inr ⟨h, List.mem_cons_of_mem _ hmem, hc⟩)

theorem getLast?_writeRow (row : List (CsvField delim)) :
    (writeRow row).getLast? ≠ some carriageReturn := by
  induction row with
  | nil => exact Option.some_ne_none _ |>.symm
  | cons f row ih =>
      cases row with
      | nil =>
          rw [writeRow_singleton]
          exact getLast?_write f
      | cons g row =>
          rw [writeRow_cons_cons, List.getLast?_append, List.getLast?_cons, Option.some_or]
          cases hlast : (writeRow (g :: row)).getLast? with
          | none => exact fun h => delim.property.2.1 (Option.some.inj h)
          | some c =>
              rw [hlast] at ih
              exact ih

theorem clean_writeRow {row : List (CsvField delim)} (hfree : ∀ f ∈ row, newLine ∉ f.text) :
    Clean (writeRow row) := by
  refine ⟨fun hmem => ?_, getLast?_writeRow row⟩
  obtain h | h | ⟨f, hf, h⟩ := mem_writeRow hmem
  · exact delim.property.2.2 h.symm
  · exact absurd h (by decide)
  · exact hfree f hf h

/-- A row is a blank line if it has a single field, empty and without quotes. -/
theorem writeRow_eq_nil_iff {row : List (CsvField delim)} (hrow : row ≠ []) :
    writeRow row = [] ↔ row.length = 1 ∧ ∀ f ∈ row, f.quoted = false ∧ f.text = [] := by
  obtain ⟨f, row, rfl⟩ := List.exists_cons_of_ne_nil hrow
  cases row with
  | nil =>
      rw [writeRow_singleton, write_eq_nil_iff, List.forall_mem_singleton]
      exact (and_iff_right rfl).symm
  | cons g row =>
      rw [writeRow_cons_cons]
      exact iff_of_false (by simp) (by simp)

variable {bQuoted : Bool}

/-- What has neither quotes nor, outside of them, delimiters is taken to the token. -/
theorem parseLine_append {text : StdString} (szToken szLine : StdString)
    (htext : ∀ c ∈ text, c ≠ quote ∧ (bQuoted = false → c ≠ delim.val)) :
    parseLine delim.val bQuoted szToken (text ++ szLine) =
      parseLine delim.val bQuoted (szToken ++ text) szLine := by
  induction text generalizing szToken with
  | nil => rw [List.nil_append, List.append_nil]
  | cons c text ih =>
      obtain ⟨⟨hquote, hdelim⟩, htext⟩ := List.forall_mem_cons.mp htext
      have hgo : ¬ ((decide (c = delim.val) && !bQuoted) = true) := by
        cases bQuoted with
        | true => simp
        | false => simpa using hdelim rfl
      rw [List.cons_append, parseLine, if_neg hquote, if_neg hgo, ih _ htext, ← List.append_cons]

/-- Two quotes after each other leave the state as it was. -/
theorem parseLine_escapeQuotes (szToken text szLine : StdString) :
    parseLine delim.val true szToken (escapeQuotes text ++ szLine) =
      parseLine delim.val true (szToken ++ escapeQuotes text) szLine := by
  induction text generalizing szToken with
  | nil => rw [escapeQuotes, List.flatMap_nil, List.nil_append, List.append_nil]
  | cons c text ih =>
      rw [escapeQuotes, List.flatMap_cons, ← escapeQuotes, List.append_assoc]
      split
      · rw [List.cons_append, parseLine, if_pos rfl, List.cons_append, parseLine, if_pos rfl,
          List.nil_append, Bool.not_not, ih]
        simp only [List.append_assoc, List.cons_append, List.nil_append]
      · rename_i hc
        rw [parseLine_append _ _ (List.forall_mem_singleton.mpr ⟨hc, fun h => by cases h⟩), ih,
          List.append_assoc]

theorem parseLine_write (f : CsvField delim) (szToken szLine : StdString) :
    parseLine delim.val false szToken (f.write ++ szLine) =
      parseLine delim.val false (szToken ++ f.write) szLine := by
  rw [CsvField.write]
  split
  · rw [List.append_assoc, List.cons_append, parseLine, if_pos rfl, Bool.not_false,
      parseLine_escapeQuotes, List.cons_append, parseLine, if_pos rfl, Bool.not_true]
    simp only [List.append_assoc, List.cons_append, List.nil_append]
  · rename_i hquoted
    refine parseLine_append _ _ fun c hc => ?_
    obtain ⟨hdelim, hquote, -⟩ := f.plain (Bool.eq_false_iff.mpr hquoted) c hc
    exact ⟨hquote, fun _ => hdelim⟩

/-- A row is taken apart into its fields, as they were written. -/
theorem parseLine_writeRow {row : List (CsvField delim)} (hrow : row ≠ []) :
    parseLine delim.val false [] (writeRow row) =
      row.map fun f => StringUtil.trim f.write [quote] := by
  induction row with
  | nil => exact absurd rfl hrow
  | cons f row ih =>
      cases row with
      | nil =>
          have hwrite := parseLine_write f [] []
          rw [List.append_nil, List.nil_append] at hwrite
          rw [writeRow_singleton, hwrite, parseLine]
          rfl
      | cons g row =>
          have hrest := ih (List.cons_ne_nil _ _)
          rw [writeRow_cons_cons, parseLine_write, parseLine, if_neg delim.property.1,
            if_pos (by simp), List.nil_append, hrest]
          rfl

end Rows

/-! ## Headers -/

section Headers

/-- The items of a header are its names just if none of them is written with quotes. -/
theorem splitOn_writeRow {header : List (CsvField delim)} (hheader : header ≠ [])
    (hplain : ∀ f ∈ header, f.quoted = false) :
    (writeRow header).splitOn delim.val = header.map (·.text) := by
  have htexts : header.map CsvField.write = header.map (·.text) :=
    List.map_congr_left fun f hf => (write_eq_text_iff f).mpr (hplain f hf)
  have hfree : ∀ text ∈ header.map (·.text), delim.val ∉ text := by
    intro text htext hmem
    obtain ⟨f, hf, rfl⟩ := List.mem_map.mp htext
    exact (f.plain (hplain f hf) _ hmem).1 rfl
  rw [writeRow, htexts, List.splitOn_intercalate _ hfree (by simpa using hheader)]

theorem plain_of_prefix_splitOn {header : List (CsvField delim)}
    (hbegins : header.map (·.text) <+: (writeRow header).splitOn delim.val) :
    ∀ f ∈ header, f.quoted = false := by
  induction header with
  | nil => exact fun f hf => absurd hf List.not_mem_nil
  | cons f header ih =>
      -- an item has no delimiter, so the first one ends where the first field does
      have hitem : f.text ∈ (writeRow (f :: header)).splitOn delim.val :=
        hbegins.subset List.mem_cons_self
      have hfree : delim.val ∉ f.write := by
        intro hmem
        obtain h | h := mem_write hmem
        · exact delim.property.1 h
        · exact (mem_splitOn hitem).1 h
      cases header with
      | nil =>
          rw [writeRow_singleton, List.splitOn_eq_singleton hfree] at hbegins
          have htext := (List.cons_prefix_cons.mp hbegins).1
          exact List.forall_mem_singleton.mpr ((write_eq_text_iff f).mp htext.symm)
      | cons g header =>
          rw [writeRow_cons_cons, List.splitOn_append_cons_self_of_not_mem hfree] at hbegins
          obtain ⟨htext, hothers⟩ := List.cons_prefix_cons.mp hbegins
          exact List.forall_mem_cons.mpr ⟨(write_eq_text_iff f).mp htext.symm, ih hothers⟩

/-- A header is read back if no name is written with quotes and the last one is not empty. -/
theorem parseCSVHeader_writeRow {header : List (CsvField delim)} (hheader : header ≠ [])
    (hplain : ∀ f ∈ header, f.quoted = false) (hlast : (header.getLast hheader).text ≠ []) :
    parseCSVHeader delim.val (writeRow header) = header.map (·.text) := by
  have hne : ((header.map (·.text)).getLast? = some []) = False := by
    rw [List.getLast?_map, List.getLast?_eq_some_getLast hheader]
    exact eq_false fun h => hlast (Option.some.inj h)
  rw [parseCSVHeader, splitOn_writeRow hheader hplain, if_neg (of_eq_false hne)]

theorem of_prefix_parseCSVHeader {header : List (CsvField delim)} (hheader : header ≠ [])
    (hbegins : header.map (·.text) <+: parseCSVHeader delim.val (writeRow header)) :
    (∀ f ∈ header, f.quoted = false) ∧ (header.getLast hheader).text ≠ [] := by
  have hplain := plain_of_prefix_splitOn (hbegins.trans (prefix_parseCSVHeader _ _))
  refine ⟨hplain, fun hempty => ?_⟩
  rw [parseCSVHeader, splitOn_writeRow hheader hplain, if_pos ?_] at hbegins
  · have hle := hbegins.length_le
    have hpos := List.length_pos_iff.mpr hheader
    rw [List.length_dropLast, List.length_map] at hle
    omega
  · rw [List.getLast?_map, List.getLast?_eq_some_getLast hheader]
    exact congrArg some hempty

end Headers

/-! ## Whole tables -/

section Tables

variable {t : CsvTable delim} {crlf final : Bool} {p : SCSVParserInfo}

theorem toNat_count_of_lt {n : ℕ} (hlt : n < 2 ^ 32) : (UInt32.ofNat n).toNat = n := by
  rw [UInt32.toNat_ofNat', Nat.mod_eq_of_lt hlt]

theorem CsvTable.row_ne_nil (t : CsvTable delim) : ∀ row ∈ t.header :: t.rows, row ≠ [] := by
  refine List.forall_mem_cons.mpr ⟨t.header_ne_nil, fun row hrow hnil => ?_⟩
  have hlength := t.length_row row hrow
  rw [hnil] at hlength
  exact t.header_ne_nil (List.length_eq_zero_iff.mp hlength.symm)

/-- Of the lines of a table those are read that are not blank. -/
theorem readLines_write (crlf final : Bool)
    (hfree : ∀ row ∈ t.header :: t.rows, ∀ f ∈ row, newLine ∉ f.text) :
    readLines (t.write crlf final) = ((t.header :: t.rows).map writeRow).filter (· ≠ []) := by
  have hclean : ∀ line ∈ (t.header :: t.rows).map writeRow ++ if final then [[]] else [],
      Clean line := by
    intro line hline
    obtain hline | hline := List.mem_append.mp hline
    · obtain ⟨row, hrow, rfl⟩ := List.mem_map.mp hline
      exact clean_writeRow (hfree row hrow)
    · obtain rfl : line = [] := by
        cases final with
        | true => exact List.mem_singleton.mp hline
        | false => cases hline
      exact ⟨List.not_mem_nil, by decide⟩
  have hread := readLines_intercalate (by simp) hclean crlf
  rw [CsvTable.write, ← List.map_cons, hread, List.filter_append]
  cases final with
  | true => exact List.append_nil _
  | false => exact List.append_nil _

/-- A loaded table has a value for each field, unless a line is blank. -/
theorem vecRow_eq (hload : load (t.write crlf final) delim.val = some p)
    (hfree : ∀ row ∈ t.header :: t.rows, ∀ f ∈ row, newLine ∉ f.text)
    (hblank : ∀ row ∈ t.header :: t.rows, writeRow row ≠ []) :
    p.vecHeader = parseCSVHeader delim.val (writeRow t.header) ∧
      p.vecRow = t.rows.map (List.map fun f => StringUtil.trim f.write [quote]) := by
  obtain ⟨szHeader, vecContent, hlines, hheader, hrow⟩ := load_eq_some_iff.mp hload
  have hall : ((t.header :: t.rows).map writeRow).filter (· ≠ []) =
      (t.header :: t.rows).map writeRow := by
    refine List.filter_eq_self.mpr fun line hline => ?_
    obtain ⟨row, hmem, rfl⟩ := List.mem_map.mp hline
    exact decide_eq_true (hblank row hmem)
  rw [readLines_write crlf final hfree, hall, List.map_cons] at hlines
  obtain ⟨rfl, rfl⟩ := List.cons.inj hlines
  refine ⟨hheader, ?_⟩
  rw [(parseCSVRow_eq_some_iff.mp hrow).2, List.map_map]
  refine List.map_congr_left fun row hmem => ?_
  exact parseLine_writeRow (t.row_ne_nil row (List.mem_cons_of_mem _ hmem))

/-! ### What is recovered -/

namespace CsvTable.Readable

variable (h : t.Readable)
include h

theorem free : ∀ row ∈ t.header :: t.rows, ∀ f ∈ row,
    quote ∉ f.text ∧ newLine ∉ f.text ∧ 0 ∉ f.text := by
  refine List.forall_mem_cons.mpr ⟨fun f hf => ?_, h.texts⟩
  obtain ⟨hplain, hzero⟩ := h.names f hf
  refine ⟨fun hmem => ?_, fun hmem => ?_, hzero⟩
  · exact (f.plain hplain _ hmem).2.1 rfl
  · exact (f.plain hplain _ hmem).2.2.2 rfl

theorem not_blank : ∀ row ∈ t.header :: t.rows, writeRow row ≠ [] := by
  intro row hmem hblank
  obtain ⟨hlength, hempty⟩ := (writeRow_eq_nil_iff (t.row_ne_nil row hmem)).mp hblank
  obtain rfl | hrow := List.mem_cons.mp hmem
  · exact h.last (hempty _ (List.getLast_mem t.header_ne_nil)).2
  · obtain ⟨f, hf⟩ := List.exists_mem_of_ne_nil _ (t.row_ne_nil row hmem)
    exact h.only (t.length_row row hrow ▸ hlength) row hrow f hf (hempty f hf).1 (hempty f hf).2

theorem parse_header :
    parseCSVHeader delim.val (writeRow t.header) = t.header.map (·.text) :=
  parseCSVHeader_writeRow t.header_ne_nil (fun f hf => (h.names f hf).1) h.last

theorem map_trim {row : List (CsvField delim)} (hrow : row ∈ t.header :: t.rows) :
    (row.map fun f => StringUtil.trim f.write [quote]) = row.map (·.text) :=
  List.map_congr_left fun f hf => (trim_write_eq_iff f).mpr (h.free row hrow f hf).1

theorem map_cStr {row : List (CsvField delim)} (hrow : row ∈ t.header :: t.rows) :
    (row.map (·.text)).map (fun name => some (cStr name)) = row.map (some ·.text) := by
  rw [List.map_map]
  refine List.map_congr_left fun f hf => congrArg some ?_
  exact StringUtil.cStr_of_not_mem (h.free row hrow f hf).2.2

theorem load_write (crlf final : Bool) :
    load (t.write crlf final) delim.val =
      some ⟨t.header.map (·.text), t.rows.map (List.map (·.text))⟩ := by
  have hfree : ∀ row ∈ t.header :: t.rows, ∀ f ∈ row, newLine ∉ f.text :=
    fun row hrow f hf => (h.free row hrow f hf).2.1
  have hparse (row : List (CsvField delim)) (hrow : row ∈ t.rows) :
      parseLine delim.val false [] (writeRow row) = row.map (·.text) := by
    have hmem := List.mem_cons_of_mem t.header hrow
    rw [parseLine_writeRow (t.row_ne_nil row hmem), h.map_trim hmem]
  refine load_eq_some_iff.mpr ⟨writeRow t.header, t.rows.map writeRow, ?_, ?_, ?_⟩
  · rw [readLines_write crlf final hfree, List.filter_eq_self.mpr, List.map_cons]
    intro line hline
    obtain ⟨row, hmem, rfl⟩ := List.mem_map.mp hline
    exact decide_eq_true (h.not_blank row hmem)
  · exact h.parse_header.symm
  · refine parseCSVRow_eq_some_iff.mpr ⟨fun szLine hline => ?_, ?_⟩
    · obtain ⟨row, hrow, rfl⟩ := List.mem_map.mp hline
      rw [hparse row hrow, List.length_map, List.length_map]
      exact t.length_row row hrow
    · rw [List.map_map]
      exact List.map_congr_left fun row hrow => (hparse row hrow).symm

theorem recovered (crlf final : Bool) : t.Recovered crlf final := by
  refine ⟨_, h.load_write crlf final, ?_, ?_⟩
  · have hcount : (UInt32.ofNat (t.header.map (·.text)).length).toNat =
        (t.header.map (·.text)).length :=
      toNat_count_of_lt (by rw [List.length_map]; exact h.columns)
    rw [names_eq, SCSVParserInfo.getColumnCount, hcount, List.take_length]
    exact h.map_cStr List.mem_cons_self
  · have hcount : (UInt32.ofNat (t.rows.map (List.map (·.text))).length).toNat =
        (t.rows.map (List.map (·.text))).length :=
      toNat_count_of_lt (by rw [List.length_map]; exact h.rowCount)
    have hwidth : (UInt32.ofNat (t.header.map (·.text)).length).toNat = t.header.length := by
      rw [List.length_map]
      exact toNat_count_of_lt h.columns
    have hlength : ∀ row ∈ t.rows.map (List.map (·.text)),
        row.length = (t.header.map (·.text)).length := by
      intro row hrow
      obtain ⟨fields, hfields, rfl⟩ := List.mem_map.mp hrow
      rw [List.length_map, List.length_map, t.length_row fields hfields]
    rw [values_eq hlength, SCSVParserInfo.getRowCount, SCSVParserInfo.getColumnCount, hcount,
      hwidth, List.take_length, List.map_map]
    refine List.map_congr_left fun row hrow => ?_
    have htake : (row.map (·.text)).take t.header.length = row.map (·.text) :=
      List.take_of_length_le (by rw [List.length_map, t.length_row row hrow])
    rw [Function.comp_apply, htake, h.map_cStr (List.mem_cons_of_mem _ hrow)]

/-- Without quotes and with a last name both routines read the same header. -/
theorem alike :
    parseCSVHeader delim.val (writeRow t.header) =
      parseLine delim.val false [] (writeRow t.header) := by
  rw [h.parse_header, parseLine_writeRow t.header_ne_nil, h.map_trim List.mem_cons_self]

end CsvTable.Readable

/-! ### What a recovered table is -/

section Recovered

variable (hload : load (t.write crlf final) delim.val = some p)
  (hnames : p.names = t.header.map (some ·.text))
  (hvalues : p.values = t.rows.map (List.map (some ·.text)))

include hnames in
theorem columnCount_eq : p.getColumnCount.toNat = t.header.length := by
  have hlength := congrArg List.length hnames
  rwa [SCSVParserInfo.names, List.length_map, List.length_map, List.length_range] at hlength

include hvalues in
theorem rowCount_eq : p.getRowCount.toNat = t.rows.length := by
  have hlength := congrArg List.length hvalues
  rwa [SCSVParserInfo.values, List.length_map, List.length_map, List.length_range] at hlength

include hload hnames hvalues

/-- The texts are C strings of single lines. -/
theorem free_of_recovered : ∀ row ∈ t.header :: t.rows, ∀ f ∈ row,
    newLine ∉ f.text ∧ 0 ∉ f.text := by
  obtain ⟨hheader, hrows⟩ := of_load hload
  have hfree (value : StdString) (hvalue : newLine ∉ value) :
      newLine ∉ cStr value ∧ 0 ∉ cStr value :=
    ⟨fun h => hvalue (List.takeWhile_subset _ h), StringUtil.zero_not_mem_cStr value⟩
  refine List.forall_mem_cons.mpr ⟨fun f hf => ?_, fun row hrow f hf => ?_⟩
  · have hmem : some f.text ∈ t.header.map (some ·.text) := List.mem_map.mpr ⟨f, hf, rfl⟩
    rw [← hnames, names_eq] at hmem
    obtain ⟨name, hname, heq⟩ := List.mem_map.mp hmem
    rw [← Option.some.inj heq]
    exact hfree name (hheader name (List.mem_of_mem_take hname))
  · have hmem : row.map (some ·.text) ∈ t.rows.map (List.map (some ·.text)) :=
      List.mem_map.mpr ⟨row, hrow, rfl⟩
    rw [← hvalues, values_eq fun row hrow => (hrows row hrow).1] at hmem
    obtain ⟨values, hmemRow, heq⟩ := List.mem_map.mp hmem
    have hmem : some f.text ∈ row.map (some ·.text) := List.mem_map.mpr ⟨f, hf, rfl⟩
    rw [← heq] at hmem
    obtain ⟨value, hvalue, heq⟩ := List.mem_map.mp hmem
    rw [← Option.some.inj heq]
    have hrow := hrows values (List.mem_of_mem_take hmemRow)
    exact hfree value (hrow.2 value (List.mem_of_mem_take hvalue))

/-- There are as many rows as lines behind the first one, so no line is blank. -/
theorem not_blank_of_recovered : ∀ row ∈ t.header :: t.rows, writeRow row ≠ [] := by
  have hfree : ∀ row ∈ t.header :: t.rows, ∀ f ∈ row, newLine ∉ f.text := fun row hrow f hf =>
    (free_of_recovered hload hnames hvalues row hrow f hf).1
  obtain ⟨szHeader, vecContent, hlines, -, hrow⟩ := load_eq_some_iff.mp hload
  rw [readLines_write crlf final hfree] at hlines
  have hrows : p.vecRow.length = vecContent.length := by
    rw [(parseCSVRow_eq_some_iff.mp hrow).2, List.length_map]
  have hle : t.rows.length ≤ p.vecRow.length := by
    rw [← rowCount_eq hvalues]
    exact toNat_count_le _
  have hlength := congrArg List.length hlines
  have hfilter := List.length_filter_le (· ≠ []) ((t.header :: t.rows).map writeRow)
  have hall : (((t.header :: t.rows).map writeRow).filter (· ≠ [])).length =
      ((t.header :: t.rows).map writeRow).length := by
    rw [List.length_cons] at hlength
    rw [List.length_map, List.length_cons] at hfilter ⊢
    omega
  intro row hmem
  exact of_decide_eq_true
    (List.length_filter_eq_length_iff.mp hall _ (List.mem_map_of_mem hmem))

theorem names_of_recovered :
    (∀ f ∈ t.header, f.quoted = false) ∧ (t.header.getLast t.header_ne_nil).text ≠ [] := by
  have hfree := free_of_recovered hload hnames hvalues
  have hblank := not_blank_of_recovered hload hnames hvalues
  have hheader := (vecRow_eq hload (fun row hrow f hf => (hfree row hrow f hf).1) hblank).1
  -- the items of the header have no zeros, so as C strings they are the same
  have hzero : ∀ name ∈ p.vecHeader, 0 ∉ name := by
    intro name hname hmem
    rw [hheader] at hname
    have hpiece := mem_splitOn ((prefix_parseCSVHeader _ _).subset hname)
    obtain heq | heq | ⟨f, hf, htext⟩ := mem_writeRow (hpiece.2 hmem)
    · exact hpiece.1 (heq ▸ hmem)
    · exact absurd heq (by decide)
    · exact (hfree _ List.mem_cons_self f hf).2 htext
  have htake : (p.vecHeader.take p.getColumnCount.toNat).map (fun name => some (cStr name)) =
      (p.vecHeader.take p.getColumnCount.toNat).map some := by
    refine List.map_congr_left fun name hname => congrArg some ?_
    exact StringUtil.cStr_of_not_mem (hzero name (List.mem_of_mem_take hname))
  have htexts : p.vecHeader.take p.getColumnCount.toNat = t.header.map (·.text) := by
    refine (List.map_inj_right (f := some) fun _ _ => Option.some.inj).mp ?_
    rw [← htake, ← names_eq, hnames, List.map_map]
    rfl
  refine of_prefix_parseCSVHeader t.header_ne_nil ?_
  rw [← htexts, ← hheader]
  exact List.take_prefix _ _

theorem texts_of_recovered : ∀ row ∈ t.rows, ∀ f ∈ row, quote ∉ f.text := by
  have hfree := free_of_recovered hload hnames hvalues
  have hblank := not_blank_of_recovered hload hnames hvalues
  have hrows := (vecRow_eq hload (fun row hrow f hf => (hfree row hrow f hf).1) hblank).2
  have hcount : p.getRowCount.toNat = p.vecRow.length := by
    rw [rowCount_eq hvalues, hrows, List.length_map]
  have heq := hvalues
  rw [values_eq fun row hrow => ((of_load hload).2 row hrow).1, hcount, List.take_length, hrows,
    List.map_map, List.map_inj_left] at heq
  intro row hrow f hf
  have hwidth : (row.map fun f => StringUtil.trim f.write [quote]).length ≤
      p.getColumnCount.toNat := by
    rw [columnCount_eq hnames, List.length_map, t.length_row row hrow]
  have hrow' := heq row hrow
  rw [Function.comp_apply, List.take_of_length_le hwidth, List.map_map, List.map_inj_left]
    at hrow'
  have htext : cStr (StringUtil.trim f.write [quote]) = f.text := Option.some.inj (hrow' f hf)
  have hzero : 0 ∉ StringUtil.trim f.write [quote] := by
    intro hmem
    obtain h | h := mem_write (trim_subset _ _ hmem)
    · exact absurd h (by decide)
    · exact (hfree row (List.mem_cons_of_mem _ hrow) f hf).2 h
  rw [StringUtil.cStr_of_not_mem hzero] at htext
  exact (trim_write_eq_iff f).mp htext

end Recovered

/-- A written table is read back if and only if it is readable for this parser. -/
theorem inverted_iff (t : CsvTable delim) (crlf final : Bool) :
    t.Inverted crlf final ↔ t.Readable := by
  constructor
  · rintro ⟨⟨p, hload, hnames, hvalues⟩, -⟩
    have hfree := List.forall_mem_cons.mp (free_of_recovered hload hnames hvalues)
    have hblank := not_blank_of_recovered hload hnames hvalues
    have hheader := names_of_recovered hload hnames hvalues
    have htexts := texts_of_recovered hload hnames hvalues
    refine ⟨?_, ?_, fun f hf => ⟨hheader.1 f hf, (hfree.1 f hf).2⟩, hheader.2,
      fun row hrow f hf => ⟨htexts row hrow f hf, hfree.2 row hrow f hf⟩, ?_⟩
    · rw [← columnCount_eq hnames]
      exact p.getColumnCount.toNat_lt
    · rw [← rowCount_eq hvalues]
      exact p.getRowCount.toNat_lt
    · intro hone row hrow f hf hquoted hempty
      have hmem := List.mem_cons_of_mem t.header hrow
      have hlength := (t.length_row row hrow).trans hone
      obtain ⟨g, rfl⟩ := List.length_eq_one_iff.mp hlength
      obtain rfl := List.mem_singleton.mp hf
      refine hblank _ hmem ((writeRow_eq_nil_iff (List.cons_ne_nil _ _)).mpr ⟨rfl, ?_⟩)
      exact List.forall_mem_singleton.mpr ⟨hquoted, hempty⟩
  · intro h
    exact ⟨h.recovered crlf final, h.alike⟩

/-- A text that ends with a quote loses it. -/
theorem not_inverted_quote :
    ¬ (⟨[⟨[97], false, by decide +kernel⟩], [[⟨[120, quote], true, by decide +kernel⟩]],
        by decide +kernel, by decide +kernel⟩ :
      CsvTable ⟨44, by decide +kernel⟩).Inverted false true := by
  rintro ⟨⟨p, hload, -, hvalues⟩, -⟩
  obtain rfl : SCSVParserInfo.mk [[97]] [[[120]]] = p := by
    refine Option.some.inj (Eq.trans ?_ hload)
    rfl
  exact absurd hvalues (by decide +kernel)

end Tables

end RealtimeEx.Base.CCSVParser
