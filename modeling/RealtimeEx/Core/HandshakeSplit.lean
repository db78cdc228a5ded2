import RealtimeEx.Core.CoreWebsocketConnection
import Mathlib.Logic.Relation

/-!
# Requests that arrive in several reads

`CHttpRequestParser` counts from the start of the data it is handed, and the bytes
it has counted are popped from the receive buffer after every read.  It goes on
counting from where it was, so once the request line has been read every further
read leaves out as many bytes as have been counted.
-/

namespace RealtimeEx.Core

open Base Network Relation

/-! ## The parser on more data -/

namespace CHttpRequestParser

variable {szData : StdString} {p q : CHttpRequestParser}

theorem round_of_advances (h : Advances szData p q) :
    p.round szData = some (.again q) := by
  cases h with
  | requestLine nLineEnd hstate hsearch hline heq =>
      simp [round, hstate, roundRequestLine, hsearch, hline, heq]
  | header szHeader hstate hsearch hheader hname heq =>
      simp only [round, hstate, roundHeaders, hsearch, ← hheader]
      rw [if_pos hname, heq, hstate]
  | headersEnd hstate hsearch heq =>
      simp [round, hstate, roundHeaders, hsearch, heq]

/-- A line that is complete stays as it is when more data arrives. -/
theorem Advances.append (h : Advances szData p q) (szMore : StdString) :
    Advances (szData ++ szMore) p q := by
  have hcrlf : szCRLF ≠ [] := by decide
  cases h with
  | requestLine nLineEnd hstate hsearch hline heq =>
      have hle := (prefix_drop_of_search hsearch).2
      have htake : (szData ++ szMore).take nLineEnd = szData.take nLineEnd :=
        List.take_append_of_le_length (by omega)
      exact .requestLine nLineEnd hstate (search_append szMore hsearch hcrlf)
        (by rw [htake]; exact hline) (by rw [htake]; exact heq)
  | header szHeader hstate hsearch hheader hname heq =>
      have hle := (prefix_drop_of_search hsearch).2
      have hlength : szCRLF.length = 2 := rfl
      rw [hlength, List.length_drop] at hle
      have hdrop : (szData ++ szMore).drop p.nParseDataCount =
          szData.drop p.nParseDataCount ++ szMore :=
        List.drop_append_of_le_length (by omega)
      refine .header szHeader hstate ?_ ?_ hname heq
      · rw [hdrop]
        exact search_append szMore hsearch hcrlf
      · rw [hdrop, List.take_append_of_le_length (by rw [List.length_drop]; omega)]
        exact hheader
  | headersEnd hstate hsearch heq =>
      have hle := (prefix_drop_of_search hsearch).2
      have hlength : szCRLF.length = 2 := rfl
      rw [hlength, List.length_drop] at hle
      have hdrop : (szData ++ szMore).drop p.nParseDataCount =
          szData.drop p.nParseDataCount ++ szMore :=
        List.drop_append_of_le_length (by omega)
      refine .headersEnd hstate ?_ heq
      rw [hdrop]
      exact search_append szMore hsearch hcrlf

/-- The loop goes through rounds that advance up to one that does not. -/
theorem exists_last_round (szData : StdString) (p : CHttpRequestParser) :
    ∃ q, ReflTransGen (Advances szData) p q ∧ ∀ r, ¬ Advances szData q r := by
  by_cases h : ∃ r, Advances szData p r
  · obtain ⟨r, hr⟩ := h
    obtain ⟨q, hq, hlast⟩ := exists_last_round szData r
    exact ⟨q, .head hr hq, hlast⟩
  · exact ⟨p, .refl, not_exists.mp h⟩
termination_by p.left szData
decreasing_by exact hr.left_lt

theorem parseRequest_of_reaches (h : ReflTransGen (Advances szData) p q) :
    p.parseRequest szData = q.parseRequest szData := by
  induction h with
  | refl => rfl
  | tail _ hstep ih => rw [ih, parseRequest_of_again (round_of_advances hstep)]

theorem reaches_append (h : ReflTransGen (Advances szData) p q) (szMore : StdString) :
    ReflTransGen (Advances (szData ++ szMore)) p q :=
  h.lift id fun _ _ hstep => hstep.append szMore

/-- A line that is no header is none when more data arrives. -/
theorem round_false_append (hstate : p.eParseState = .headers)
    (h : p.round szData = some (.stop false q)) (szMore : StdString) :
    p.round (szData ++ szMore) = some (.stop false q) := by
  simp only [round, hstate, roundHeaders] at h ⊢
  cases hsearch : search szCRLF (szData.drop p.nParseDataCount) with
  | none => simp [hsearch] at h
  | some nHeaderEnd =>
      have hle := (prefix_drop_of_search hsearch).2
      have hlength : szCRLF.length = 2 := rfl
      rw [hlength, List.length_drop] at hle
      have hdrop : (szData ++ szMore).drop p.nParseDataCount =
          szData.drop p.nParseDataCount ++ szMore :=
        List.drop_append_of_le_length (by omega)
      have htake : (szData.drop p.nParseDataCount ++ szMore).take nHeaderEnd =
          (szData.drop p.nParseDataCount).take nHeaderEnd :=
        List.take_append_of_le_length (by rw [List.length_drop]; omega)
      rw [hdrop, search_append szMore hsearch (by decide)]
      rw [hsearch] at h
      simp only [htake]
      exact h

/-- The part of the parser that lines do not change back: it is past the request
line, the last line it has read is complete, and the method is known. -/
structure PastLine (szData : StdString) (eMethod : EHttpMethodType)
    (p : CHttpRequestParser) : Prop where
  state : p.eParseState = .headers ∨ p.eParseState = .body
  line : szCRLF <:+ szData.take p.nParseDataCount
  le : p.nParseDataCount ≤ szData.length
  method : p.request.eMethod = eMethod

theorem suffix_take_of_search {n i : ℕ} (h : search szCRLF (szData.drop n) = some i) :
    szCRLF <:+ szData.take (n + i + 2) ∧ n + i + 2 ≤ szData.length := by
  obtain ⟨⟨szRest, hfront⟩, hle⟩ := prefix_drop_of_search h
  have hlength : szCRLF.length = 2 := rfl
  rw [hlength, List.length_drop] at hle
  refine ⟨⟨szData.take (n + i), ?_⟩, by omega⟩
  rw [List.drop_drop] at hfront
  have htail : (szData.drop (n + i)).take 2 = szCRLF := by
    rw [← hfront, ← hlength, List.take_left]
  have hsplit : szData.take (n + i + 2) =
      szData.take (n + i) ++ (szData.drop (n + i)).take 2 := List.take_add
  rw [hsplit, htail]

theorem PastLine.advances {eMethod : EHttpMethodType}
    (hp : PastLine szData eMethod p) (h : Advances szData p q) :
    PastLine szData eMethod q := by
  cases h with
  | requestLine nLineEnd hstate =>
      rcases hp.state with hheaders | hbody
      · rw [hstate] at hheaders
        cases hheaders
      · rw [hstate] at hbody
        cases hbody
  | header szHeader hstate hsearch hheader hname heq =>
      obtain ⟨hline, hle⟩ := suffix_take_of_search hsearch
      subst heq
      exact ⟨.inl hstate, hline, hle, hp.method⟩
  | headersEnd hstate hsearch heq =>
      obtain ⟨hline, hle⟩ := suffix_take_of_search hsearch
      subst heq
      exact ⟨.inr rfl, hline, hle, hp.method⟩

theorem PastLine.reaches {eMethod : EHttpMethodType}
    (hp : PastLine szData eMethod p) (h : ReflTransGen (Advances szData) p q) :
    PastLine szData eMethod q := by
  induction h with
  | refl => exact hp
  | tail _ hstep ih => exact ih.advances hstep

/-- The first round reads the request line. -/
theorem pastLine_of_advances (hstate : p.eParseState = .requestLine)
    (h : Advances szData p q) : PastLine szData q.request.eMethod q := by
  cases h with
  | requestLine nLineEnd _ hsearch hline heq =>
      have hfront : search szCRLF (szData.drop 0) = some nLineEnd := hsearch
      obtain ⟨hsuffix, hle⟩ := suffix_take_of_search hfront
      rw [Nat.zero_add] at hsuffix hle
      subst heq
      exact ⟨.inl rfl, hsuffix, hle, rfl⟩
  | header _ hheaders =>
      rw [hstate] at hheaders
      cases hheaders
  | headersEnd hheaders =>
      rw [hstate] at hheaders
      cases hheaders

/-- In the headers, a round that does not advance has found no line, or a line that
is not a header. -/
theorem round_headers_cases (hstate : p.eParseState = .headers)
    (hlast : ∀ r, ¬ Advances szData p r) :
    (search szCRLF (szData.drop p.nParseDataCount) = none ∧
        p.round szData = some (.stop true p)) ∨
      p.round szData = some (.stop false p) := by
  cases hround : p.round szData with
  | none => simp [round, hstate] at hround
  | some result =>
      cases result with
      | again r => exact absurd (advances_of_round hround) (hlast r)
      | stop bResult r =>
          simp only [round, hstate, roundHeaders] at hround
          split at hround
          · rename_i hsearch
            cases hround
            exact .inl ⟨hsearch, rfl⟩
          · split at hround
            · cases hround
            · split at hround
              · cases hround
                exact .inr rfl
              · cases hround

end CHttpRequestParser

/-! ## Header values -/

theorem length_trimSpaces (szValue : StdString) :
    ∀ {i n : ℕ}, i ≤ n → n ≤ szValue.length →
      (trimSpaces i (szValue.take n)).length + (szValue.take i).countP isspace = n
  | 0, n, _, hn => by simpa [trimSpaces] using hn
  | i + 1, n, hi, hn => by
      have hbyte : (szValue.take n).getD i 0 = szValue[i] := by
        simp [List.getElem?_eq_getElem (show i < szValue.length by omega),
          show i < n by omega]
      have hcount : (szValue.take (i + 1)).countP isspace =
          (szValue.take i).countP isspace + if isspace szValue[i] then 1 else 0 := by
        rw [List.take_succ_eq_append_getElem (by omega), List.countP_append,
          List.countP_singleton]
      rw [trimSpaces, hbyte, hcount]
      split
      · have hlast : (szValue.take n).dropLast = szValue.take (n - 1) := by
          rw [List.dropLast_eq_take, List.take_take, List.length_take]
          congr 1
          omega
        have ih := length_trimSpaces szValue (i := i) (n := n - 1)
          (by omega) (by omega)
        rw [hlast]
        omega
      · have ih := length_trimSpaces szValue (i := i) (n := n)
          (by omega) hn
        omega

/-- A stored value is as long as there are bytes in the value that are not spaces. -/
theorem length_headerValue (szValue : StdString) :
    (headerValue szValue).length = szValue.countP fun c => !isspace c := by
  have htrim := length_trimSpaces (szValue.dropWhile isspace)
    (i := (szValue.dropWhile isspace).length) (Nat.le_refl _) (Nat.le_refl _)
  have hcount := List.length_eq_countP_add_countP isspace (l := szValue.dropWhile isspace)
  have hfront : (szValue.takeWhile isspace).countP (fun c => !isspace c) = 0 := by
    rw [List.countP_eq_zero]
    intro c hc
    have hspace := List.all_eq_true.mp List.all_takeWhile c hc
    simp [hspace]
  have hsplit : szValue.countP (fun c => !isspace c) =
      (szValue.dropWhile isspace).countP fun c => !isspace c := by
    conv_lhs => rw [← List.takeWhile_append_dropWhile (p := isspace) (l := szValue)]
    rw [List.countP_append, hfront, Nat.zero_add]
  have hnot : (szValue.dropWhile isspace).countP (fun c => ¬ isspace c) =
      (szValue.dropWhile isspace).countP fun c => !isspace c := by
    simp
  rw [List.take_length] at htrim
  rw [headerValue, hsplit]
  omega

/-- The name in a header line. -/
def headerName (szHeader : StdString) : StdString := szHeader.take (szHeader.idxOf 58)

/-- What is behind the name. -/
def headerText (szHeader : StdString) : StdString := szHeader.drop (szHeader.idxOf 58 + 1)

theorem headerName_append_headerText {szHeader : StdString} (h : 58 ∈ szHeader) :
    headerName szHeader ++ 58 :: headerText szHeader = szHeader := by
  have hlt := List.idxOf_lt_length_of_mem h
  have hcolon : szHeader[szHeader.idxOf 58] = 58 := List.getElem_idxOf hlt
  rw [headerName, headerText]
  conv_rhs => rw [← List.take_append_drop (szHeader.idxOf 58) szHeader,
    List.drop_eq_getElem_cons hlt, hcolon]

/-- A header line that has lost bytes at its front has another name, or a shorter
value. -/
theorem length_headerValue_lt {szFront szHeader : StdString} (hfront : szFront ≠ [])
    (hcolon : 58 ∈ szHeader)
    (hname : headerName (szFront ++ szHeader) = headerName szHeader) :
    (headerValue (headerText szHeader)).length <
      (headerValue (headerText (szFront ++ szHeader))).length := by
  by_cases hmem : (58 : UInt8) ∈ szFront
  · have hidx : (szFront ++ szHeader).idxOf 58 = szFront.idxOf 58 := by
      rw [List.idxOf_append, if_pos hmem]
    have hlt := List.idxOf_lt_length_of_mem hmem
    have htext : headerText (szFront ++ szHeader) =
        szFront.drop (szFront.idxOf 58 + 1) ++
          (headerName szHeader ++ 58 :: headerText szHeader) := by
      rw [headerName_append_headerText hcolon, headerText, hidx,
        List.drop_append_of_le_length hlt]
    have hspace : isspace 58 = false := by decide
    rw [length_headerValue, length_headerValue, htext, List.countP_append,
      List.countP_append, List.countP_cons, hspace]
    simp only [Bool.not_false, if_true]
    omega
  · have hidx : (szFront ++ szHeader).idxOf 58 = szHeader.idxOf 58 + szFront.length := by
      rw [List.idxOf_append, if_neg hmem]
    have hlong : headerName (szFront ++ szHeader) = szFront ++ headerName szHeader := by
      rw [headerName, hidx, Nat.add_comm, List.take_length_add_append, headerName]
    have hlength := congrArg List.length (hlong.symm.trans hname)
    rw [List.length_append] at hlength
    exact absurd (List.eq_nil_of_length_eq_zero (by omega)) hfront

/-- A header line ending in a colon and a text of `K` letters. -/
def withText (szName : StdString) (K : ℕ) : StdString :=
  szName ++ 58 :: List.replicate K 118

theorem mem_withText (szName : StdString) (K : ℕ) : 58 ∈ withText szName K := by
  simp [withText]

/-- The name does not depend on the text. -/
theorem headerName_withText (szName : StdString) (K : ℕ) :
    headerName (withText szName K) = headerName (szName ++ [58]) := by
  have hsplit : withText szName K = szName ++ [58] ++ List.replicate K 118 := by
    simp [withText]
  have hmem : (58 : UInt8) ∈ szName ++ [58] := by simp
  rw [headerName, headerName, hsplit, List.idxOf_append, if_pos hmem]
  exact List.take_append_of_le_length (Nat.le_of_lt (List.idxOf_lt_length_of_mem hmem))

theorem le_length_headerValue_withText (szName : StdString) (K : ℕ) :
    K ≤ (headerValue (headerText (withText szName K))).length := by
  have hidx : (withText szName K).idxOf 58 ≤ szName.length := by
    rw [withText, List.idxOf_append]
    split
    · rename_i hmem
      exact Nat.le_of_lt (List.idxOf_lt_length_of_mem hmem)
    · simp
  have hsplit : withText szName K = szName ++ [58] ++ List.replicate K 118 := by
    simp [withText]
  have htext : headerText (withText szName K) =
      (szName ++ [58]).drop ((withText szName K).idxOf 58 + 1) ++
        List.replicate K 118 := by
    rw [headerText]
    conv_lhs => rw [hsplit]
    rw [List.drop_append_of_le_length (by simpa [← hsplit] using hidx), ← hsplit]
  have hletters : (List.replicate K (118 : UInt8)).countP (fun c => !isspace c) = K := by
    rw [List.countP_replicate, if_pos (by decide)]
  rw [length_headerValue, htext, List.countP_append, hletters]
  exact Nat.le_add_left _ _

/-! ## The last lines of a request -/

theorem not_infix_append {szText szMore : StdString} (h : ¬ szCRLF <:+: szText)
    (hmore : (10 : UInt8) ∉ szMore) : ¬ szCRLF <:+: szText ++ szMore := by
  induction szText with
  | nil =>
      intro hwithin
      exact hmore (hwithin.subset (by decide))
  | cons c szText ih =>
      rw [List.infix_cons_iff, not_or] at h
      rw [List.cons_append, List.infix_cons_iff, not_or]
      refine ⟨?_, ih h.2⟩
      intro hfront
      obtain ⟨hc, htail⟩ := List.cons_prefix_cons.mp hfront
      cases szText with
      | nil => exact hmore (htail.subset (by decide))
      | cons d szText =>
          obtain ⟨hd, -⟩ := List.cons_prefix_cons.mp htail
          refine h.1 (List.cons_prefix_cons.mpr ⟨hc, ?_⟩)
          exact List.cons_prefix_cons.mpr ⟨hd, List.nil_prefix⟩

/-- What completes a request: the rest of a header, and the end of the headers. -/
def completion (K : ℕ) : StdString := 58 :: List.replicate K 118 ++ szCRLF ++ szCRLF

theorem search_line {szLine szMore : StdString} (h : ¬ szCRLF <:+: szLine ++ [13]) :
    search szCRLF (szLine ++ szCRLF ++ szMore) = some szLine.length :=
  search_append_of_not_infix (by decide) h

namespace CHttpRequestParser

variable {szData szLine : StdString} {p q : CHttpRequestParser}

theorem round_body_get (hstate : p.eParseState = .body)
    (hmethod : p.request.eMethod = .get) :
    p.round szData = some (.stop true { p with eParseState := .finish }) := by
  rw [round, hstate]
  simp only [roundBody, hmethod, if_true]

/-- The last header and the empty line behind it finish a `GET` request. -/
theorem parseRequest_last_header (hstate : p.eParseState = .headers)
    (hmethod : p.request.eMethod = .get) (hline : ¬ szCRLF <:+: szLine ++ [13])
    (hcolon : 58 ∈ szLine)
    (hdata : szData.drop p.nParseDataCount = szLine ++ szCRLF ++ szCRLF) :
    p.parseRequest szData = some (true,
      { eParseState := .finish
        nParseDataCount := p.nParseDataCount + szLine.length + 4
        request := p.request.addHeader (headerName szLine) (headerText szLine) }) := by
  let q : CHttpRequestParser :=
    { eParseState := .headers
      nParseDataCount := p.nParseDataCount + szLine.length + 2
      request := p.request.addHeader (headerName szLine) (headerText szLine) }
  have hheader : Advances szData p q := by
    refine .header szLine hstate ?_ ?_ ?_ (by rw [hstate]; rfl)
    · rw [hdata]
      exact search_line hline
    · rw [hdata, List.append_assoc, List.take_left]
    · exact Nat.ne_of_lt (List.idxOf_lt_length_of_mem hcolon)
  have hrest : szData.drop q.nParseDataCount = szCRLF := by
    have hlength : (szLine ++ szCRLF).length = szLine.length + 2 := by simp [szCRLF]
    show szData.drop (p.nParseDataCount + szLine.length + 2) = szCRLF
    rw [Nat.add_assoc, ← List.drop_drop, hdata, ← hlength, List.drop_left]
  have hend : Advances szData q
      { q with eParseState := .body, nParseDataCount := q.nParseDataCount + 2 } :=
    .headersEnd rfl (by rw [hrest]; decide) rfl
  rw [parseRequest_of_again (round_of_advances hheader),
    parseRequest_of_again (round_of_advances hend)]
  exact parseRequest_of_stop (round_body_get rfl hmethod)

/-- A line without a colon that is not empty is no header. -/
theorem parseRequest_no_header (hstate : p.eParseState = .headers)
    (hline : ¬ szCRLF <:+: szLine ++ [13]) (hcolon : 58 ∉ szLine) (hne : szLine ≠ [])
    {szMore : StdString}
    (hdata : szData.drop p.nParseDataCount = szLine ++ szCRLF ++ szMore) :
    p.parseRequest szData = some (false, p) := by
  refine parseRequest_of_stop ?_
  have hidx : szLine.idxOf 58 = szLine.length := List.idxOf_eq_length_iff.mpr hcolon
  simp only [round, hstate, roundHeaders, hdata, search_line hline]
  rw [List.append_assoc, List.take_left]
  simp [hidx, hne]

end CHttpRequestParser

/-! ## Requests -/

/-- A request that the parser accepts to its last byte when it arrives in one read. -/
def UpgradeRequest (szData : StdString) : Prop :=
  ∃ p, ({} : CHttpRequestParser).parseRequest szData = some (true, p) ∧
    p.eParseState = .finish ∧ p.nParseDataCount = szData.length ∧
    p.request.eMethod = .get

namespace CHttpRequestParser

variable {szData szMore : StdString} {p q : CHttpRequestParser}

/-- The parser in the headers, behind the last line that is complete. -/
structure InHeaders (szData : StdString) (p : CHttpRequestParser) : Prop where
  state : p.eParseState = .headers
  method : p.request.eMethod = .get
  line : szCRLF <:+ szData.take p.nParseDataCount
  le : p.nParseDataCount ≤ szData.length
  rest : ¬ szCRLF <:+: szData.drop p.nParseDataCount

/-- The parser behind the request line of a `GET` request, wherever it looks for the
next line. -/
structure BehindLine (p : CHttpRequestParser) : Prop where
  state : p.eParseState = .headers ∨ p.eParseState = .body
  method : p.request.eMethod = .get
  pos : 2 ≤ p.nParseDataCount

theorem PastLine.behindLine (hp : PastLine szData .get p) : BehindLine p := by
  have hlength := hp.line.length_le
  have htwo : szCRLF.length = 2 := rfl
  rw [htwo, List.length_take] at hlength
  exact ⟨hp.state, hp.method, by omega⟩

theorem BehindLine.reaches (hp : BehindLine p)
    (h : ReflTransGen (Advances szData) p q) : BehindLine q := by
  induction h with
  | refl => exact hp
  | tail _ hstep ih =>
      cases hstep with
      | requestLine nLineEnd hstate =>
          rcases ih.state with hheaders | hbody
          · rw [hstate] at hheaders
            cases hheaders
          · rw [hstate] at hbody
            cases hbody
      | header szHeader hstate hsearch hheader hname heq =>
          subst heq
          exact ⟨.inl hstate, ih.method, Nat.le_add_left _ _⟩
      | headersEnd hstate hsearch heq =>
          subst heq
          exact ⟨.inr rfl, ih.method, Nat.le_add_left _ _⟩

/-- From behind the request line of a `GET` request the parser gets to the last line
that is complete, to a line that is no header, or to the end of the headers. -/
theorem BehindLine.parse (hp : BehindLine p) (szData : StdString) :
    ∃ q, ReflTransGen (Advances szData) p q ∧ BehindLine q ∧
      (q.eParseState = .headers ∧ search szCRLF (szData.drop q.nParseDataCount) = none ∧
          q.round szData = some (.stop true q) ∨
        q.eParseState = .headers ∧ q.round szData = some (.stop false q) ∨
        q.eParseState = .body ∧
          q.round szData = some (.stop true { q with eParseState := .finish })) := by
  obtain ⟨q, hreach, hlast⟩ := exists_last_round szData p
  have hq := hp.reaches hreach
  refine ⟨q, hreach, hq, ?_⟩
  rcases hq.state with hheaders | hbody
  · rcases round_headers_cases hheaders hlast with ⟨hsearch, hround⟩ | hround
    · exact .inl ⟨hheaders, hsearch, hround⟩
    · exact .inr (.inl ⟨hheaders, hround⟩)
  · exact .inr (.inr ⟨hbody, round_body_get hbody hq.method⟩)

/-- The method does not change any more behind the request line. -/
theorem eMethod_of_pastLine {eMethod : EHttpMethodType} (hp : PastLine szData eMethod p)
    {bResult : Bool} (h : p.parseRequest szData = some (bResult, q)) :
    q.request.eMethod = eMethod := by
  obtain ⟨r, hreach, hlast⟩ := exists_last_round szData p
  have hr := hp.reaches hreach
  rw [parseRequest_of_reaches hreach] at h
  rcases hr.state with hheaders | hbody
  · rcases round_headers_cases hheaders hlast with ⟨-, hround⟩ | hround
    · rw [parseRequest_of_stop hround] at h
      cases h
      exact hr.method
    · rw [parseRequest_of_stop hround] at h
      cases h
      exact hr.method
  · cases hround : r.round szData with
    | none => simp [round, hbody] at hround
    | some result =>
        cases result with
        | again r' => exact absurd (advances_of_round hround) (hlast r')
        | stop bStop r' =>
            rw [parseRequest_of_stop hround] at h
            cases h
            simp only [round, hbody, roundBody] at hround
            split at hround
            · cases hround
              exact hr.method
            · split at hround
              · cases hround
                exact hr.method
              · split at hround
                · cases hround
                  exact hr.method
                · split at hround
                  · cases hround
                    exact hr.method
                  · cases hround
                    exact hr.method

/-- Before the request line is complete the parser waits. -/
theorem parseRequest_no_line (h : ¬ szCRLF <:+: szData) :
    ({} : CHttpRequestParser).parseRequest szData = some (true, {}) := by
  have hsearch := (search_eq_none_iff (by decide)).mpr h
  exact parseRequest_of_stop (by simp [round, roundRequestLine, hsearch])

/-- The beginning of a request is read up to its last complete line. -/
theorem inHeaders_of_begins (hrequest : UpgradeRequest (szData ++ szMore))
    (hmore : szMore ≠ []) (hline : szCRLF <:+: szData) :
    ∃ p, Advances szData {} p ∧ PastLine szData .get p ∧
      ∃ q, ReflTransGen (Advances szData) p q ∧ InHeaders szData q := by
  obtain ⟨fin, hparse, hfin, hcount, hget⟩ := hrequest
  cases hsearch : search szCRLF szData with
  | none => exact absurd hline ((search_eq_none_iff (by decide)).mp hsearch)
  | some nLineEnd =>
      have hmoreSearch := search_append szMore hsearch (by decide)
      have hle := (prefix_drop_of_search hsearch).2
      have htake : (szData ++ szMore).take nLineEnd = szData.take nLineEnd :=
        List.take_append_of_le_length (by omega)
      cases hok : (parseRequestLine (szData.take nLineEnd) {}).1 with
      | false =>
          have hstop : ({} : CHttpRequestParser).round (szData ++ szMore) =
              some (.stop false
                { request := (parseRequestLine (szData.take nLineEnd) {}).2 }) := by
            simp [round, roundRequestLine, hmoreSearch, htake, hok]
          rw [parseRequest_of_stop hstop] at hparse
          cases hparse
      | true =>
          have hfirst : Advances szData {}
              { eParseState := .headers
                nParseDataCount := nLineEnd + 2
                request := (parseRequestLine (szData.take nLineEnd) {}).2 } :=
            .requestLine nLineEnd rfl hsearch hok rfl
          have hpast := pastLine_of_advances rfl hfirst
          have hmorePast := pastLine_of_advances rfl (hfirst.append szMore)
          rw [parseRequest_of_again (round_of_advances (hfirst.append szMore))] at hparse
          have hmethod := (eMethod_of_pastLine hmorePast hparse).symm.trans hget
          rw [hmethod] at hpast
          obtain ⟨q, hreach, -, hcases⟩ := hpast.behindLine.parse szData
          have hq := hpast.reaches hreach
          refine ⟨_, hfirst, hpast, q, hreach, ?_⟩
          rw [parseRequest_of_reaches (reaches_append hreach szMore)] at hparse
          have hpos := List.length_pos_of_ne_nil hmore
          rcases hcases with ⟨hheaders, hnone, -⟩ | ⟨hheaders, hround⟩ | ⟨hbody, -⟩
          · exact ⟨hheaders, hq.method, hq.line, hq.le,
              (search_eq_none_iff (by decide)).mp hnone⟩
          · rw [parseRequest_of_stop (round_false_append hheaders hround szMore)] at hparse
            cases hparse
          · rw [parseRequest_of_stop (round_body_get hbody hq.method)] at hparse
            cases hparse
            have hlong : q.nParseDataCount ≤ szData.length := hq.le
            rw [List.length_append] at hcount
            dsimp only at hcount
            omega

/-- In the headers, the request can be completed with a header of any length. -/
theorem InHeaders.completed (hq : InHeaders szData q)
    (hreach : ReflTransGen (Advances szData) {} q) (K : ℕ) :
    ({} : CHttpRequestParser).parseRequest (szData ++ completion K) = some (true,
      { eParseState := .finish
        nParseDataCount := (szData ++ completion K).length
        request := q.request.addHeader
          (headerName (withText (szData.drop q.nParseDataCount) K))
          (headerText (withText (szData.drop q.nParseDataCount) K)) }) := by
  have hdata : (szData ++ completion K).drop q.nParseDataCount =
      withText (szData.drop q.nParseDataCount) K ++ szCRLF ++ szCRLF := by
    rw [List.drop_append_of_le_length hq.le]
    simp [withText, completion]
  have hline : ¬ szCRLF <:+: withText (szData.drop q.nParseDataCount) K ++ [13] := by
    rw [withText, List.append_assoc]
    exact not_infix_append hq.rest (by simp)
  have hlength : q.nParseDataCount +
      (withText (szData.drop q.nParseDataCount) K).length + 4 =
        (szData ++ completion K).length := by
    have hle := hq.le
    simp only [withText, completion, szCRLF, List.length_append, List.length_cons,
      List.length_replicate, List.length_drop, List.length_nil]
    omega
  rw [parseRequest_of_reaches (reaches_append hreach (completion K)),
    parseRequest_last_header hq.state hq.method hline (mem_withText _ K) hdata, hlength]

theorem InHeaders.upgradeRequest (hq : InHeaders szData q)
    (hreach : ReflTransGen (Advances szData) {} q) (K : ℕ) :
    UpgradeRequest (szData ++ completion K) :=
  ⟨_, hq.completed hreach K, rfl, rfl, hq.method⟩

end CHttpRequestParser

/-! ## Reads -/

namespace CCoreWebsocketConnection

open CHttpRequestParser

variable (shared : Shared)

/-- How a handshake ends: whether the connection is connected, whether it is closed,
what has been parsed, and how much has been consumed. -/
structure HandshakeEnd where
  bConnected : Bool
  bClosed : Bool
  requests : List CHttpRequest
  nConsumed : ℕ

/-- How a handshake ends after a series of reads. -/
def handshakeEnd (nSocketID : UInt64) (reads : List (List UInt8)) : HandshakeEnd :=
  let (pending, c) := CNetConnecter.receive (handler shared) (accepted nSocketID) reads
  { bConnected := c.eWebSocketState = .connected
    bClosed := c.shutdowns ≠ []
    requests := c.requests
    nConsumed := reads.flatten.length - pending.length }

variable {c : CCoreWebsocketConnection} {pending szData szMore : List UInt8}
  {p : CHttpRequestParser}

/-- A connection that is waiting for a request. -/
structure Waits (c : CCoreWebsocketConnection) : Prop where
  hangs : c.hangs = false
  mode : c.eMode = .passive
  state : c.eWebSocketState = .connectting

theorem Waits.onRecv_eq (hc : c.Waits) :
    onRecv shared szData c = c.onRecvRequest shared szData := by
  rw [onRecv, hc.hangs, if_neg (by decide), if_pos hc.state]

theorem Waits.onRecv_of_incomplete (hc : c.Waits)
    (hparse : c.httpRequestParser.parseRequest szData = some (true, p))
    (hstate : p.eParseState ≠ .finish) :
    onRecv shared szData c = (p.nParseDataCount, { c with httpRequestParser := p }) := by
  rw [hc.onRecv_eq shared, onRecvRequest, if_neg (not_not.mpr hc.mode), hparse]
  exact if_neg hstate

theorem Waits.onRecv_of_broken (hc : c.Waits)
    (hparse : c.httpRequestParser.parseRequest szData = some (false, p)) :
    onRecv shared szData c = (szData.length,
      ({ c with httpRequestParser := p }.send badRequest).shutdown false "bad request") := by
  rw [hc.onRecv_eq shared, onRecvRequest, if_neg (not_not.mpr hc.mode), hparse]

/-- A request that is complete is passed to `handshark`, whatever that says. -/
theorem Waits.requests_onRecv_of_finish (hc : c.Waits)
    (hparse : c.httpRequestParser.parseRequest szData = some (true, p))
    (hstate : p.eParseState = .finish) :
    (onRecv shared szData c).2.requests = c.requests ++ [p.request] := by
  rw [hc.onRecv_eq shared, onRecvRequest, if_neg (not_not.mpr hc.mode), hparse]
  simp only [hstate, if_true]
  cases handshark shared.acceptKey p.request with
  | none => rfl
  | some szAnswer => rfl

theorem requests_onRecvFrames (c : CCoreWebsocketConnection) (pData : List UInt8) :
    (c.onRecvFrames shared pData).2.requests = c.requests := by
  have hsend : ∀ (c : CCoreWebsocketConnection) (nOpcode : UInt8),
      (c.sendFrame shared nOpcode).requests = c.requests := by
    intro c nOpcode
    rw [sendFrame]
    split
    · rfl
    · split <;> rfl
  have hframe : ∀ (c : CCoreWebsocketConnection) (frame : WebsocketFrame),
      (c.onFrame frame).requests = c.requests := by
    intro c frame
    rw [onFrame]
    split <;> rfl
  fun_induction onRecvFrames shared c pData with
  | case1 => rfl
  | case2 => rfl
  | case3 => exact hsend _ _
  | case4 c pData hdata frame hframe' hclose hpong =>
      split
      · exact hsend _ _
      · rfl
  | case5 => rfl
  | case6 c pData hdata frame _ _ _ hret nRecvSize c' hrest ih =>
      rw [hrest] at ih
      exact ih.trans (hframe c frame)

/-- A request that has been parsed stays the first one. -/
theorem requests_prefix_onRecv (c : CCoreWebsocketConnection) (pData : List UInt8) :
    c.requests <+: (onRecv shared pData c).2.requests := by
  rw [onRecv]
  split
  · exact List.prefix_refl _
  · split
    · rw [onRecvRequest]
      split
      · exact List.prefix_refl _
      · split
        · exact List.prefix_refl _
        · exact List.prefix_refl _
        · rename_i r hparse
          dsimp only
          split
          · split
            · exact List.prefix_append _ _
            · exact List.prefix_append _ _
          · exact List.prefix_refl _
    · rw [requests_onRecvFrames]

/-- Before the request line is complete a connection keeps everything it receives. -/
theorem receive_of_no_line {nSocketID : UInt64} {reads : List (List UInt8)}
    (h : ¬ szCRLF <:+: reads.flatten) :
    CNetConnecter.receive (handler shared) (accepted nSocketID) reads =
      (reads.flatten, accepted nSocketID) := by
  induction reads using List.reverseRecOn with
  | nil => rfl
  | append_singleton reads bytes ih =>
      rw [List.flatten_append, List.flatten_singleton] at h ⊢
      have hbefore : ¬ szCRLF <:+: reads.flatten := fun hwithin =>
        h (hwithin.trans (List.prefix_append _ bytes).isInfix)
      have hwaits : (accepted nSocketID).Waits := ⟨rfl, rfl, rfl⟩
      have honRecv := hwaits.onRecv_of_incomplete shared
        (parseRequest_no_line h) (by decide)
      rw [CNetConnecter.receive_append_singleton, ih hbefore, CNetConnecter.take]
      simp only [handler, honRecv]
      rfl

/-- A connection whose parser is behind the request line and has still to skip bytes:
what is pending does not hold a line end, or is less than what is skipped. -/
structure Skips (szReceived pending : List UInt8) (c : CCoreWebsocketConnection) : Prop
    extends Waits c where
  parser : BehindLine c.httpRequestParser
  headers : c.httpRequestParser.eParseState = .headers
  requests : c.requests = []
  suffix : pending <:+ szReceived
  lost : ¬ szCRLF <:+: pending ∨ pending.length < c.httpRequestParser.nParseDataCount

/-- A read after which the parser is behind the request line. -/
theorem skips_take (hc : c.Waits) (hrequests : c.requests = []) (hp : BehindLine p)
    {bytes szReceived : List UInt8}
    (hparse : c.httpRequestParser.parseRequest (pending ++ bytes) =
      p.parseRequest (pending ++ bytes))
    (hsuffix : pending ++ bytes <:+ szReceived) :
    (CNetConnecter.take (handler shared) (pending, c) bytes).2.requests ≠ [] ∨
      Skips szReceived (CNetConnecter.take (handler shared) (pending, c) bytes).1
        (CNetConnecter.take (handler shared) (pending, c) bytes).2 := by
  obtain ⟨q, hreach, hq, hcases⟩ := hp.parse (pending ++ bytes)
  rw [parseRequest_of_reaches hreach] at hparse
  rcases hcases with ⟨hheaders, hnone, hround⟩ | ⟨hheaders, hround⟩ | ⟨-, hround⟩
  · have honRecv := hc.onRecv_of_incomplete shared
      (hparse.trans (parseRequest_of_stop hround)) (by rw [hheaders]; decide)
    rw [CNetConnecter.take]
    simp only [handler, honRecv]
    refine .inr ⟨⟨hc.hangs, hc.mode, hc.state⟩, hq, hheaders, hrequests, ?_, ?_⟩
    · split
      · exact (List.drop_suffix _ _).trans hsuffix
      · exact hsuffix
    · split
      · exact .inl ((search_eq_none_iff (by decide)).mp hnone)
      · rename_i hlong
        exact .inr (Nat.lt_of_not_le hlong)
  · have honRecv := hc.onRecv_of_broken shared
      (hparse.trans (parseRequest_of_stop hround))
    rw [CNetConnecter.take]
    simp only [handler, honRecv]
    have hpos := hq.pos
    refine .inr ⟨⟨hc.hangs, hc.mode, hc.state⟩, hq, hheaders, hrequests, ?_, .inr ?_⟩
    · rw [if_pos (Nat.le_refl _), List.drop_length]
      exact List.nil_suffix
    · rw [if_pos (Nat.le_refl _), List.drop_length]
      exact Nat.lt_of_lt_of_le (by decide) hpos
  · have hrest := hc.requests_onRecv_of_finish shared
      (hparse.trans (parseRequest_of_stop hround)) rfl
    refine .inl ?_
    rw [CNetConnecter.take]
    simp only [handler, hrest]
    simp

/-- Once the request line of a request has been read, a connection has parsed a
request or skips bytes. -/
theorem requests_or_skips (nSocketID : UInt64) {reads : List (List UInt8)}
    (hrequest : UpgradeRequest (reads.flatten ++ szMore)) (hmore : szMore ≠ [])
    (hline : szCRLF <:+: reads.flatten) :
    (CNetConnecter.receive (handler shared) (accepted nSocketID) reads).2.requests ≠ [] ∨
      Skips reads.flatten
        (CNetConnecter.receive (handler shared) (accepted nSocketID) reads).1
        (CNetConnecter.receive (handler shared) (accepted nSocketID) reads).2 := by
  induction reads using List.reverseRecOn generalizing szMore with
  | nil => exact absurd hline (by decide)
  | append_singleton reads bytes ih =>
      rw [List.flatten_append, List.flatten_singleton] at hline hrequest ⊢
      rw [CNetConnecter.receive_append_singleton]
      by_cases hbefore : szCRLF <:+: reads.flatten
      · have hlonger : bytes ++ szMore ≠ [] := by simp [hmore]
        rw [List.append_assoc] at hrequest
        rcases ih hrequest hlonger hbefore with hparsed | hskips
        · left
          intro hnil
          have hfront := requests_prefix_onRecv shared
            (CNetConnecter.receive (handler shared) (accepted nSocketID) reads).2
            ((CNetConnecter.receive (handler shared) (accepted nSocketID) reads).1 ++ bytes)
          have hempty : (onRecv shared _
              (CNetConnecter.receive (handler shared) (accepted nSocketID) reads).2).2.requests =
              [] := hnil
          rw [hempty] at hfront
          exact hparsed (List.prefix_nil.mp hfront)
        · refine skips_take shared hskips.toWaits hskips.requests hskips.parser rfl ?_
          obtain ⟨szFront, hfront⟩ := hskips.suffix
          exact ⟨szFront, (List.append_assoc _ _ _).symm.trans
            (congrArg (· ++ bytes) hfront)⟩
      · -- the read that completes the request line
        obtain ⟨p, hfirst, hpast, -⟩ := inHeaders_of_begins hrequest hmore hline
        rw [receive_of_no_line shared hbefore]
        exact skips_take shared ⟨rfl, rfl, rfl⟩ rfl hpast.behindLine
          (parseRequest_of_again (round_of_advances hfirst)) (List.suffix_refl _)

/-- What a skipping connection parses out of the completion of a request is not the
request. -/
theorem Skips.requests_ne {szReceived : List UInt8} (hs : Skips szReceived pending c)
    {q : CHttpRequestParser} (hq : InHeaders szReceived q) {K : ℕ}
    (hcount : c.httpRequestParser.nParseDataCount ≤ K)
    (hold : ∀ szValue,
      c.httpRequestParser.request.mapHeader[headerName
        (withText (szReceived.drop q.nParseDataCount) K)]? = some szValue →
      szValue.length < K) :
    (CNetConnecter.take (handler shared) (pending, c) (completion K)).2.requests ≠
      [q.request.addHeader
        (headerName (withText (szReceived.drop q.nParseDataCount) K))
        (headerText (withText (szReceived.drop q.nParseDataCount) K))] := by
  set szTail := szReceived.drop q.nParseDataCount with htail
  have hpos := hs.parser.pos
  have htake : (CNetConnecter.take (handler shared) (pending, c) (completion K)).2 =
      (onRecv shared (pending ++ completion K) c).2 := rfl
  rw [htake]
  by_cases hlong : pending.length < c.httpRequestParser.nParseDataCount
  · -- the colon is skipped
    have hdata : (pending ++ completion K).drop c.httpRequestParser.nParseDataCount =
        List.replicate (K + 1 + pending.length - c.httpRequestParser.nParseDataCount) 118 ++
          szCRLF ++ szCRLF := by
      obtain ⟨m, hm⟩ : ∃ m, c.httpRequestParser.nParseDataCount = pending.length + (m + 1) :=
        ⟨c.httpRequestParser.nParseDataCount - pending.length - 1, by omega⟩
      have hmK : m ≤ K := by omega
      have hletters : K + 1 + pending.length - (pending.length + (m + 1)) = K - m := by omega
      rw [hm, hletters, List.drop_length_add_append, completion, List.cons_append, List.cons_append,
        List.drop_succ_cons, List.append_assoc,
        List.drop_append_of_le_length (by rw [List.length_replicate]; exact hmK),
        List.drop_replicate, ← List.append_assoc]
    have hletters : (10 : UInt8) ∉
        List.replicate (K + 1 + pending.length - c.httpRequestParser.nParseDataCount) 118 ++
          [13] := by simp
    have hparse := parseRequest_no_header hs.headers
      (fun hwithin => hletters (hwithin.subset (by decide)))
      (by simp) (by simp; omega) hdata
    rw [hs.toWaits.onRecv_of_broken shared hparse]
    show c.requests ≠ _
    rw [hs.requests]
    simp
  · have hline : ¬ szCRLF <:+: pending := hs.lost.resolve_right hlong
    have hcount' := Nat.le_of_not_lt hlong
    -- what is pending is at most one byte more than the incomplete line
    have hshort : pending.length ≤ szTail.length + 1 := by
      by_contra hcontra
      have hline' : szCRLF ++ szTail <:+ szReceived := by
        obtain ⟨szFront, hfront⟩ := hq.line
        refine ⟨szFront, ?_⟩
        rw [← List.append_assoc, hfront, htail, List.take_append_drop]
      have hlength : (szCRLF ++ szTail).length = szTail.length + 2 := by
        rw [List.length_append, Nat.add_comm]
        rfl
      have hinside := List.suffix_of_suffix_length_le hline' hs.suffix (by omega)
      exact hline ((List.prefix_append szCRLF szTail).isInfix.trans hinside.isInfix)
    set szRest := pending.drop c.httpRequestParser.nParseDataCount with hrest
    have hrestLength : szRest.length =
        pending.length - c.httpRequestParser.nParseDataCount := List.length_drop
    obtain ⟨szFront, hfront⟩ : szRest <:+ szTail :=
      List.suffix_of_suffix_length_le ((List.drop_suffix _ _).trans hs.suffix)
        (List.drop_suffix _ _) (by omega)
    have hne : szFront ≠ [] := by
      rintro rfl
      have hsame := congrArg List.length hfront
      rw [List.nil_append] at hsame
      omega
    have hwhole : withText szTail K = szFront ++ withText szRest K := by
      rw [← hfront, withText, withText, List.append_assoc]
    have hdata : (pending ++ completion K).drop c.httpRequestParser.nParseDataCount =
        withText szRest K ++ szCRLF ++ szCRLF := by
      rw [List.drop_append_of_le_length hcount', withText, completion, hrest]
      simp
    have hlineRest : ¬ szCRLF <:+: withText szRest K ++ [13] := by
      rw [withText, List.append_assoc]
      exact not_infix_append (fun hwithin =>
        hline (hwithin.trans (List.drop_suffix _ _).isInfix)) (by simp)
    have hparse := parseRequest_last_header hs.headers hs.parser.method hlineRest
      (mem_withText szRest K) hdata
    rw [hs.toWaits.requests_onRecv_of_finish shared hparse rfl, hs.requests, List.nil_append]
    intro hsame
    have hmaps := congrArg CHttpRequest.mapHeader (List.cons.inj hsame).1
    have hvalue := congrArg (fun m => m[headerName (withText szTail K)]?) hmaps
    simp only [CHttpRequest.addHeader, StdMap.getElem?_insert, if_true] at hvalue
    have hK := le_length_headerValue_withText szTail K
    split at hvalue
    · rename_i hname
      have hlt := length_headerValue_lt hne (mem_withText szRest K)
        (by rw [← hwhole]; exact hname.symm)
      rw [← hwhole, Option.some.inj hvalue] at hlt
      exact Nat.lt_irrefl _ hlt
    · have hlt := hold _ hvalue
      omega

theorem requests_handshakeEnd (nSocketID : UInt64) (reads : List (List UInt8)) :
    (handshakeEnd shared nSocketID reads).requests =
      (CNetConnecter.receive (handler shared) (accepted nSocketID) reads).2.requests := rfl

/-- What a request that arrives in one read is parsed into. -/
theorem requests_one_read {nSocketID : UInt64}
    (hparse : ({} : CHttpRequestParser).parseRequest szData = some (true, p))
    (hstate : p.eParseState = .finish) :
    (handshakeEnd shared nSocketID [szData]).requests = [p.request] :=
  Waits.requests_onRecv_of_finish (c := accepted nSocketID) shared ⟨rfl, rfl, rfl⟩ hparse hstate

/-- The end of a handshake is that of the connection in every run of its connecter. -/
theorem handshakeEnd_of_run {nSocketID : UInt64} {ls : List ReadResult}
    {conn : CNetConnecter CCoreWebsocketConnection}
    (h : (reading shared nSocketID).Run (CNetConnecter.fresh (accepted nSocketID)) ls conn) :
    handshakeEnd shared nSocketID (CNetConnecter.dataReads ls) =
      { bConnected := conn.handler.eWebSocketState = .connected
        bClosed := conn.handler.shutdowns ≠ []
        requests := conn.handler.requests
        nConsumed :=
          (CNetConnecter.dataReads ls).flatten.length - conn.recvBuffer.readable.length } := by
  rw [handshakeEnd, ← CNetConnecter.receive_of_run (handler shared) h]

/-- Some completion of the request is parsed into something else. -/
theorem exists_completion_ne (nSocketID : UInt64) {reads : List (List UInt8)}
    (hrequest : UpgradeRequest (reads.flatten ++ szMore)) (hmore : szMore ≠ [])
    (hline : szCRLF <:+: reads.flatten) :
    ∃ last, UpgradeRequest (reads.flatten ++ last) ∧
      (handshakeEnd shared nSocketID (reads ++ [last])).requests ≠
        (handshakeEnd shared nSocketID [reads.flatten ++ last]).requests := by
  obtain ⟨p, hfirst, -, q, hreach, hq⟩ := inHeaders_of_begins hrequest hmore hline
  have hwhole := ReflTransGen.head hfirst hreach
  generalize hstate : CNetConnecter.receive (handler shared) (accepted nSocketID) reads =
    state
  obtain ⟨pending, c⟩ := state
  have hcases := requests_or_skips shared nSocketID
    hrequest hmore hline
  rw [hstate] at hcases
  rcases hcases with hparsed | hskips
  · -- a request has been parsed too early, and it stays the first one
    obtain ⟨r, rs, hr⟩ := List.exists_cons_of_ne_nil hparsed
    dsimp only at hr
    let szOld := (r.mapHeader[headerName
      (reads.flatten.drop q.nParseDataCount ++ [58])]?).getD []
    refine ⟨completion (szOld.length + 1), hq.upgradeRequest hwhole _, ?_⟩
    rw [requests_one_read shared (hq.completed hwhole _) rfl, requests_handshakeEnd,
      CNetConnecter.receive_append_singleton, hstate]
    intro hsame
    have hfront := requests_prefix_onRecv shared c
      (pending ++ completion (szOld.length + 1))
    have hfinal : (onRecv shared (pending ++ completion (szOld.length + 1)) c).2.requests =
        _ := hsame
    rw [hfinal, hr] at hfront
    obtain ⟨hfirst, -⟩ := List.cons_prefix_cons.mp hfront
    have hvalue : szOld = headerValue (headerText
        (withText (reads.flatten.drop q.nParseDataCount) (szOld.length + 1))) := by
      have hget : r.mapHeader[headerName
          (reads.flatten.drop q.nParseDataCount ++ [58])]? = _ :=
        congrArg (fun m => m[headerName (reads.flatten.drop q.nParseDataCount ++ [58])]?)
          (congrArg CHttpRequest.mapHeader hfirst)
      simp only [CHttpRequest.addHeader, StdMap.getElem?_insert, headerName_withText,
        if_true] at hget
      exact congrArg (Option.getD · []) hget
    have hlength := le_length_headerValue_withText
      (reads.flatten.drop q.nParseDataCount) (szOld.length + 1)
    rw [← hvalue] at hlength
    omega
  · let szOld := (c.httpRequestParser.request.mapHeader[headerName
      (reads.flatten.drop q.nParseDataCount ++ [58])]?).getD []
    let K := c.httpRequestParser.nParseDataCount + szOld.length + 1
    refine ⟨completion K, hq.upgradeRequest hwhole K, ?_⟩
    rw [requests_one_read shared (hq.completed hwhole K) rfl, requests_handshakeEnd,
      CNetConnecter.receive_append_singleton, hstate]
    have hcount : c.httpRequestParser.nParseDataCount ≤ K := by omega
    refine hskips.requests_ne shared hq hcount ?_
    intro szValue hvalue
    rw [headerName_withText] at hvalue
    have hold : szOld = szValue := by simp [szOld, hvalue]
    rw [← hold]
    omega

/-- The reads before the last one do not matter, whatever the last one completes the
request with, if and only if they do not complete the request line. -/
theorem handshakeEnd_eq_iff (nSocketID : UInt64)
    {reads : List (List UInt8)}
    (hbegins : ∃ last, last ≠ [] ∧ UpgradeRequest (reads.flatten ++ last)) :
    (∀ last, UpgradeRequest (reads.flatten ++ last) →
      handshakeEnd shared nSocketID (reads ++ [last]) =
        handshakeEnd shared nSocketID [reads.flatten ++ last]) ↔
      ¬ szCRLF <:+: reads.flatten := by
  constructor
  · intro hsame hline
    obtain ⟨szMore, hmore, hrequest⟩ := hbegins
    obtain ⟨last, hlast, hne⟩ := exists_completion_ne shared nSocketID hrequest hmore hline
    exact hne (congrArg HandshakeEnd.requests (hsame last hlast))
  · intro hline last _
    have hwhole : CNetConnecter.receive (handler shared) (accepted nSocketID)
        [reads.flatten ++ last] =
          CNetConnecter.take (handler shared) ([], accepted nSocketID)
            (reads.flatten ++ last) := rfl
    rw [handshakeEnd, handshakeEnd, CNetConnecter.receive_append_singleton,
      receive_of_no_line shared hline, hwhole]
    simp [CNetConnecter.take]

/-- The beginning of a request, up to the end of its only header. -/
def requestBegin : StdString := ascii "GET / HTTP/1.1\r\nSec-WebSocket-Key:dGhl\r\n"

/-- The parser behind the request line. -/
def afterLine : CHttpRequestParser where
  eParseState := .headers
  nParseDataCount := 16
  request := (parseRequestLine (requestBegin.take 14) {}).2

/-- The parser behind the header. -/
def afterHeader : CHttpRequestParser where
  eParseState := .headers
  nParseDataCount := 40
  request := afterLine.request.addHeader secWebSocketKeyHeader (ascii "dGhl")

theorem reaches_requestBegin : ReflTransGen (Advances requestBegin) {} afterHeader := by
  have hline : Advances requestBegin {} afterLine :=
    .requestLine 14 rfl (by decide) (by decide) rfl
  have hheader : Advances requestBegin afterLine afterHeader :=
    .header (ascii "Sec-WebSocket-Key:dGhl") rfl (by decide) (by decide) (by decide) rfl
  exact .head hline (.single hheader)

/-- With the empty line behind it, the request is complete. -/
theorem parseRequest_requestBegin :
    ({} : CHttpRequestParser).parseRequest (requestBegin ++ szCRLF) =
      some (true, { afterHeader with eParseState := .finish, nParseDataCount := 42 }) := by
  have hend : Advances (requestBegin ++ szCRLF) afterHeader
      { afterHeader with eParseState := .body, nParseDataCount := 42 } :=
    .headersEnd rfl (by decide) rfl
  rw [parseRequest_of_reaches (reaches_append reaches_requestBegin szCRLF),
    parseRequest_of_again (round_of_advances hend)]
  exact parseRequest_of_stop (round_body_get rfl (by decide))

theorem upgradeRequest_requestBegin : UpgradeRequest (requestBegin ++ szCRLF) :=
  ⟨_, parseRequest_requestBegin, rfl, by decide, by decide⟩

/-- The request, with its first five bytes in a read of their own. -/
theorem handshakeEnd_eq_iff_requestBegin :
    handshakeEnd ⟨65535, id⟩ 1 [requestBegin.take 5, requestBegin.drop 5 ++ szCRLF] =
      handshakeEnd ⟨65535, id⟩ 1 [requestBegin ++ szCRLF] := by
  have hsplit : [requestBegin.take 5].flatten ++ (requestBegin.drop 5 ++ szCRLF) =
      requestBegin ++ szCRLF := by
    rw [List.flatten_singleton, ← List.append_assoc, List.take_append_drop]
  have hrequest : UpgradeRequest
      ([requestBegin.take 5].flatten ++ (requestBegin.drop 5 ++ szCRLF)) := by
    rw [hsplit]
    exact upgradeRequest_requestBegin
  have hsame := (handshakeEnd_eq_iff ⟨65535, id⟩ 1 ⟨_, by decide, hrequest⟩).mpr
    (by decide) _ hrequest
  rw [hsplit] at hsame
  exact hsame

/-- A request of which the empty line arrives in a read of its own is not parsed. -/
theorem not_handshakeEnd_eq_flatten :
    ¬ ∀ (reads : List (List UInt8)), UpgradeRequest reads.flatten →
      handshakeEnd ⟨65535, id⟩ 1 reads = handshakeEnd ⟨65535, id⟩ 1 [reads.flatten] := by
  intro h
  have hrequest : UpgradeRequest [requestBegin, szCRLF].flatten :=
    upgradeRequest_requestBegin
  -- the parser stays in the headers, and so does the connection
  have hwait : ∀ szData : StdString, search szCRLF (szData.drop 40) = none →
      afterHeader.parseRequest szData = some (true, afterHeader) := by
    intro szData hsearch
    exact parseRequest_of_stop (by
      simp only [CHttpRequestParser.round, afterHeader, roundHeaders, hsearch])
  have hfirst := (parseRequest_of_reaches reaches_requestBegin).trans
    (hwait requestBegin (by decide))
  have hread := Waits.onRecv_of_incomplete ⟨65535, id⟩
    (c := accepted 1) ⟨rfl, rfl, rfl⟩ hfirst (by decide)
  have hread' := Waits.onRecv_of_incomplete ⟨65535, id⟩
    (c := { accepted 1 with httpRequestParser := afterHeader }) ⟨rfl, rfl, rfl⟩
    (hwait szCRLF (by decide)) (by decide)
  have hpending : CNetConnecter.receive (handler ⟨65535, id⟩) (accepted 1)
      ([] ++ [requestBegin]) = ([], { accepted 1 with httpRequestParser := afterHeader }) := by
    rw [CNetConnecter.receive_append_singleton, CNetConnecter.receive, List.foldl_nil,
      CNetConnecter.take]
    simp only [handler, List.nil_append, hread]
    rfl
  have hsplit : (handshakeEnd ⟨65535, id⟩ 1 [requestBegin, szCRLF]).requests = [] := by
    show (CNetConnecter.receive (handler ⟨65535, id⟩) (accepted 1)
      (([] ++ [requestBegin]) ++ [szCRLF])).2.requests = []
    rw [CNetConnecter.receive_append_singleton, hpending, CNetConnecter.take]
    simp only [handler, List.nil_append, hread']
    rfl
  have hsame := congrArg HandshakeEnd.requests (h [requestBegin, szCRLF] hrequest)
  have hone : (handshakeEnd ⟨65535, id⟩ 1 [[requestBegin, szCRLF].flatten]).requests = _ :=
    requests_one_read _ parseRequest_requestBegin rfl
  rw [hsplit, hone] at hsame
  cases hsame

end CCoreWebsocketConnection

end RealtimeEx.Core
