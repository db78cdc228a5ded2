import Mathlib.Algebra.Order.Ring.Int
import Mathlib.Data.List.DropRight
import RealtimeEx.Core.HandshakeSplit

/-!
# What the parser makes of a well-formed request

A request is put together from its method, its path and query, and its headers with the
blanks around their names and values.  What the parser stores of it is compared with these
parts.
-/

namespace RealtimeEx.Core

open Base

/-! ## Blanks -/

/-- A text without the blanks around it. -/
def trim (szText : StdString) : StdString := (szText.dropWhile isspace).rdropWhile isspace

theorem trim_trim (szText : StdString) : trim (trim szText) = trim szText := by
  have hprefix : trim szText <+: szText.dropWhile isspace := List.rdropWhile_prefix _ _
  have hfront : (trim szText).dropWhile isspace = trim szText := by
    rw [List.dropWhile_eq_self_iff]
    intro hlength
    obtain ⟨szBlanks, hsplit⟩ := hprefix
    have hlonger : 0 < (szText.dropWhile isspace).length := by
      rw [← hsplit, List.length_append]
      omega
    have hhead : (trim szText)[0] = (szText.dropWhile isspace)[0] := by
      simp only [← hsplit, List.getElem_append_left hlength]
    have hidem : (szText.dropWhile isspace).dropWhile isspace = szText.dropWhile isspace :=
      List.dropWhile_idempotent _ _
    rw [hhead]
    exact List.dropWhile_eq_self_iff.mp hidem hlonger
  rw [trim, hfront, trim]
  exact List.rdropWhile_idempotent _ _

/-- The blanks around a text are all that is not in it. -/
theorem countP_trim (szText : StdString) :
    szText.countP (fun c => !isspace c) = (trim szText).countP fun c => !isspace c := by
  have hfront : (szText.takeWhile isspace).countP (fun c => !isspace c) = 0 := by
    rw [List.countP_eq_zero]
    intro c hc
    have hspace := List.all_eq_true.mp List.all_takeWhile c hc
    simp [hspace]
  have hback : ((szText.dropWhile isspace).rtakeWhile isspace).countP
      (fun c => !isspace c) = 0 := by
    rw [List.countP_eq_zero]
    intro c hc
    have hspace := List.mem_rtakeWhile_imp hc
    simp [hspace]
  calc szText.countP (fun c => !isspace c)
      = (szText.takeWhile isspace ++ szText.dropWhile isspace).countP
          (fun c => !isspace c) := by rw [List.takeWhile_append_dropWhile]
    _ = (szText.dropWhile isspace).countP (fun c => !isspace c) := by
        rw [List.countP_append, hfront, Nat.zero_add]
    _ = (trim szText ++ (szText.dropWhile isspace).rtakeWhile isspace).countP
          (fun c => !isspace c) := by rw [trim, List.rdropWhile_append_rtakeWhile]
    _ = (trim szText).countP fun c => !isspace c := by
        rw [List.countP_append, hback, Nat.add_zero]

theorem trimSpaces_prefix (i : ℕ) (szValue : StdString) :
    trimSpaces i szValue <+: szValue := by
  induction i generalizing szValue with
  | zero => exact List.prefix_refl _
  | succ i ih =>
      rw [trimSpaces]
      by_cases hspace : isspace (szValue.getD i 0) = true
      · rw [if_pos hspace]
        exact (ih _).trans (List.dropLast_prefix _)
      · rw [if_neg hspace]
        exact ih _

/-- The loop takes one byte for every blank, so it takes the right ones if and only if all of
them are behind the value. -/
theorem headerValue_eq_trim_iff (szValue : StdString) :
    headerValue szValue = trim szValue ↔ ∀ c ∈ trim szValue, isspace c = false := by
  have hlength := length_headerValue szValue
  rw [countP_trim] at hlength
  constructor
  · intro heq
    rw [heq] at hlength
    have hall := List.countP_eq_length.mp hlength.symm
    intro c hc
    have hnot := hall c hc
    simpa using hnot
  · intro hnone
    have hall : (trim szValue).countP (fun c => !isspace c) = (trim szValue).length := by
      rw [List.countP_eq_length]
      intro c hc
      rw [hnone c hc]
      rfl
    have hvalue : headerValue szValue <+: szValue.dropWhile isspace := trimSpaces_prefix _ _
    have htrim : trim szValue <+: szValue.dropWhile isspace := List.rdropWhile_prefix _ _
    have hprefix : headerValue szValue <+: trim szValue :=
      List.prefix_of_prefix_length_le hvalue htrim (by omega)
    exact hprefix.eq_of_length (by omega)

/-! ## Requests -/

/-- A text without line ends. -/
def OneLine (szText : StdString) : Prop := 13 ∉ szText ∧ 10 ∉ szText

instance (szText : StdString) : Decidable (OneLine szText) :=
  inferInstanceAs (Decidable (13 ∉ szText ∧ 10 ∉ szText))

/-- A header as it is sent, with the blanks around its name and its value. -/
structure HeaderText where
  szName : StdString
  szValue : StdString
  colon : 58 ∉ szName
  nameLine : OneLine szName
  valueLine : OneLine szValue

def HeaderText.line (header : HeaderText) : StdString :=
  header.szName ++ 58 :: header.szValue

/-- The word of a method, in small letters. -/
def methodWord : EHttpMethodType → Option StdString
  | .unknown => none
  | .get => some (ascii "get")
  | .post => some (ascii "post")
  | .put => some (ascii "put")
  | .delete => some (ascii "delete")

def versionText : EHttpVersion → Option StdString
  | .unknown => none
  | .http10 => some (ascii "HTTP/1.0")
  | .http11 => some (ascii "HTTP/1.1")

/-- A well-formed request as it is sent, and what comes behind its headers. -/
structure RequestText where
  eMethod : EHttpMethodType
  szMethod : StdString
  szPath : StdString
  query : Option StdString
  eVersion : EHttpVersion
  szVersion : StdString
  headers : List HeaderText
  szRest : StdString
  method : methodWord eMethod = some (szMethod.map tolower)
  version : versionText eVersion = some szVersion
  path : 32 ∉ szPath ∧ 63 ∉ szPath ∧ OneLine szPath
  queryLine : ∀ szQuery ∈ query, 32 ∉ szQuery ∧ OneLine szQuery

namespace RequestText

def uri (r : RequestText) : StdString :=
  r.szPath ++ r.query.elim [] fun szQuery => 63 :: szQuery

def requestLine (r : RequestText) : StdString :=
  r.szMethod ++ 32 :: (r.uri ++ 32 :: r.szVersion)

def text (r : RequestText) : StdString :=
  r.requestLine ++ szCRLF ++
    (r.headers.flatMap (fun header => header.line ++ szCRLF) ++ (szCRLF ++ r.szRest))

/-- The parser accepts the request and stores its parts, the headers without the blanks
around them. -/
def Exact (r : RequestText) : Prop :=
  ∃ p, ({} : CHttpRequestParser).parseRequest r.text = some (true, p) ∧
    p.request.eMethod = r.eMethod ∧ p.request.szRequestURI = r.szPath ∧
    p.request.szQuery = r.query.getD [] ∧
    ∀ szName szValue, p.request.getHeader szName = some szValue ↔
      ∃ header ∈ r.headers, trim header.szName = szName ∧ trim header.szValue = szValue

/-- The requests that the parser reads exactly: there is no query, no blank stands around a
name or within a value, headers of one name have one value, and the length of the body can
be converted where it is looked at. -/
structure Plain (r : RequestText) : Prop where
  noQuery : r.query = none
  names : ∀ header ∈ r.headers, trim header.szName = header.szName
  values : ∀ header ∈ r.headers, ∀ c ∈ trim header.szValue, isspace c = false
  sameName : ∀ header ∈ r.headers, ∀ header' ∈ r.headers,
    trim header.szName = trim header'.szName → trim header.szValue = trim header'.szValue
  contentLength : r.eMethod ≠ .get → ∀ header ∈ r.headers,
    trim header.szName = ascii "Content-Length" →
      (convertToUint32 (trim header.szValue)).isSome

end RequestText

/-! ## The request line -/

theorem strnicmp_word (szWord szMore szLiteral : StdString) :
    strnicmp (szWord ++ 32 :: szMore) szLiteral =
      decide ((szWord.map tolower ++ 32 :: szMore.map tolower).take szLiteral.length =
        szLiteral.map tolower) := by
  have hspace : tolower 32 = 32 := by decide
  rw [strnicmp, List.map_take, List.map_append, List.map_cons, hspace]

theorem setMethod_word {eMethod : EHttpMethodType} {szWord : StdString}
    (h : methodWord eMethod = some (szWord.map tolower)) (request : CHttpRequest)
    (szMore : StdString) :
    request.setMethod (szWord ++ 32 :: szMore) = (true, { request with eMethod }) := by
  rw [CHttpRequest.setMethod]
  simp only [strnicmp_word]
  cases eMethod with
  | unknown => cases h
  | get =>
      rw [← Option.some.inj h]
      rfl
  | post =>
      rw [← Option.some.inj h]
      rfl
  | put =>
      rw [← Option.some.inj h]
      rfl
  | delete =>
      rw [← Option.some.inj h]
      rfl

/-- The words of the methods are letters. -/
theorem not_mem_word {eMethod : EHttpMethodType} {szWord : StdString} {c : UInt8}
    (hc : c = 32 ∨ c = 10) (h : methodWord eMethod = some (szWord.map tolower)) :
    c ∉ szWord := by
  intro hmem
  have hlower : c ∈ szWord.map tolower :=
    List.mem_map.mpr ⟨c, hmem, by obtain rfl | rfl := hc <;> decide⟩
  have hwords : ∀ szWord ∈ methodWord eMethod, 32 ∉ szWord ∧ 10 ∉ szWord := by
    cases eMethod <;> decide
  have hneither := hwords _ h
  obtain rfl | rfl := hc
  · exact hneither.1 hlower
  · exact hneither.2 hlower

/-- What `parseRequestLine` makes of the line: the query is followed by the space behind it
and the first letter of the version. -/
def RequestText.parsedLine (r : RequestText) : CHttpRequest where
  eMethod := r.eMethod
  eVersion := r.eVersion
  szRequestURI := r.szPath
  szQuery := r.query.elim [] fun szQuery => szQuery ++ [32, 72]

/-- The version as the parser reads it: its length, its front and its last letter. -/
theorem version_cases (r : RequestText) :
    r.szVersion.length = 8 ∧ strnicmp r.szVersion (ascii "HTTP/1.") = true ∧
      r.szVersion.head? = some 72 ∧
      ((r.eVersion = .http11 ∧ r.szVersion.getLast? = some 49) ∨
        (r.eVersion = .http10 ∧ r.szVersion.getLast? = some 48)) := by
  have h := r.version
  cases hversion : r.eVersion with
  | unknown =>
      rw [hversion] at h
      cases h
  | http10 =>
      rw [hversion] at h
      rw [← Option.some.inj h]
      decide
  | http11 =>
      rw [hversion] at h
      rw [← Option.some.inj h]
      decide

theorem space_not_mem_uri (r : RequestText) : 32 ∉ r.uri := by
  rw [RequestText.uri]
  cases hquery : r.query with
  | none => simpa using r.path.1
  | some szQuery =>
      have hspace := (r.queryLine szQuery hquery).1
      simp [r.path.1, hspace]

theorem idxOf_mark_uri (r : RequestText) : r.uri.idxOf 63 = r.szPath.length := by
  have hpath := r.path.2.1
  rw [RequestText.uri, List.idxOf_append_of_notMem hpath]
  cases r.query with
  | none => rfl
  | some szQuery => rw [Option.elim_some, List.idxOf_cons_self, Nat.add_zero]

/-- The path and the query as they are cut out of the line. -/
theorem parsed_uri (r : RequestText) :
    (if r.szPath.length ≠ r.uri.length then
        { ({ eMethod := r.eMethod } : CHttpRequest) with
          szRequestURI := r.uri.take r.szPath.length
          szQuery := ((r.requestLine ++ szCRLF).drop
            (r.szMethod.length + 1 + r.szPath.length + 1)).take
              (r.uri.length - r.szPath.length + 1) }
      else
        { ({ eMethod := r.eMethod } : CHttpRequest) with szRequestURI := r.uri }) =
      { r.parsedLine with eVersion := .unknown } := by
  cases hquery : r.query with
  | none =>
      have huri : r.uri = r.szPath := by
        rw [RequestText.uri, hquery, Option.elim_none, List.append_nil]
      rw [huri, if_neg (by simp), RequestText.parsedLine, hquery]
      rfl
  | some szQuery =>
      have huri : r.uri = r.szPath ++ ([63] ++ szQuery) := by
        rw [RequestText.uri, hquery]
        rfl
      have hlength : r.uri.length = r.szPath.length + 1 + szQuery.length := by
        rw [huri, List.length_append, List.length_append, List.length_singleton]
        omega
      have hbehind : (r.requestLine ++ szCRLF).drop
          (r.szMethod.length + 1 + r.szPath.length + 1) =
            szQuery ++ 32 :: (r.szVersion ++ szCRLF) := by
        have hsplit : r.requestLine ++ szCRLF = (r.szMethod ++ 32 :: (r.szPath ++ [63])) ++
            (szQuery ++ 32 :: (r.szVersion ++ szCRLF)) := by
          simp [RequestText.requestLine, huri]
        rw [hsplit]
        refine List.drop_left' ?_
        rw [List.length_append, List.length_cons, List.length_append, List.length_singleton]
        omega
      have htake : (szQuery ++ 32 :: (r.szVersion ++ szCRLF)).take
          (r.uri.length - r.szPath.length + 1) = szQuery ++ [32, 72] := by
        obtain ⟨szMore, hversion⟩ := List.head?_eq_some_iff.mp (version_cases r).2.2.1
        have hsplit : szQuery ++ 32 :: (r.szVersion ++ szCRLF) =
            (szQuery ++ [32, 72]) ++ (szMore ++ szCRLF) := by
          simp [hversion]
        rw [hsplit]
        refine List.take_left' ?_
        rw [List.length_append, hlength]
        simp only [List.length_cons, List.length_nil]
        omega
      rw [if_pos (by omega), hbehind, htake, RequestText.parsedLine, hquery]
      rw [huri, List.take_left]
      rfl

theorem parseRequestLine_requestLine (r : RequestText) :
    parseRequestLine r.requestLine {} = (true, r.parsedLine) := by
  obtain ⟨hlength, hfront, hhead, hlast⟩ := version_cases r
  have hmethod : r.requestLine.idxOf 32 = r.szMethod.length := by
    rw [RequestText.requestLine, List.idxOf_append_of_notMem (not_mem_word (.inl rfl) r.method),
      List.idxOf_cons_self, Nat.add_zero]
  have htotal : r.requestLine.length = r.szMethod.length + 1 + r.uri.length + 1 + 8 := by
    rw [RequestText.requestLine, List.length_append, List.length_cons, List.length_append,
      List.length_cons, hlength]
    omega
  have hrest : r.requestLine.drop (r.szMethod.length + 1) = r.uri ++ 32 :: r.szVersion := by
    rw [RequestText.requestLine, ← List.drop_drop, List.drop_left]
    rfl
  have huri : (r.uri ++ 32 :: r.szVersion).takeWhile (· ≠ 32) = r.uri := by
    have hall : ∀ c ∈ r.uri, decide (c ≠ 32) = true := by
      intro c hc
      exact decide_eq_true fun heq => space_not_mem_uri r (heq ▸ hc)
    rw [List.takeWhile_append_of_pos hall, List.takeWhile_cons_of_neg (by decide),
      List.append_nil]
  have hversion : r.requestLine.drop (r.szMethod.length + 1 + r.uri.length + 1) =
      r.szVersion := by
    rw [Nat.add_assoc, ← List.drop_drop, hrest, ← List.drop_drop, List.drop_left]
    rfl
  have hgetLast : r.requestLine.getLast? = r.szVersion.getLast? := by
    have hne : r.szVersion ≠ [] := by
      rintro hnil
      rw [hnil] at hlength
      cases hlength
    have hsplit : r.requestLine = (r.szMethod ++ 32 :: (r.uri ++ [32])) ++ r.szVersion := by
      simp [RequestText.requestLine]
    rw [hsplit, List.getLast?_append_of_ne_nil _ hne]
  have hparsed := parsed_uri r
  rw [parseRequestLine]
  simp only [hmethod]
  rw [if_neg (by omega), RequestText.requestLine, setMethod_word r.method,
    ← RequestText.requestLine]
  simp only [hrest, huri, idxOf_mark_uri, hversion, hlength, hfront, hgetLast, hparsed]
  rw [if_neg (by simp), if_neg (by omega), if_neg (by simp), if_neg (by simp)]
  obtain ⟨heVersion, hdigit⟩ | ⟨heVersion, hdigit⟩ := hlast
  · rw [if_pos hdigit, ← heVersion]
    rfl
  · rw [hdigit, if_neg (by decide), if_pos rfl, ← heVersion]
    rfl

/-! ## The request -/

namespace CHttpRequestParser

variable {p : CHttpRequestParser} {szData : StdString}

/-- The headers are read one after the other, and the empty line behind them. -/
theorem parseRequest_headers (headers : List HeaderText) {szRest : StdString}
    (hstate : p.eParseState = .headers)
    (hdata : szData.drop p.nParseDataCount =
      headers.flatMap (fun header => header.line ++ szCRLF) ++ (szCRLF ++ szRest)) :
    ∃ nParseDataCount, p.parseRequest szData =
      ({ eParseState := .body
         nParseDataCount
         request := headers.foldl
          (fun request header => request.addHeader header.szName header.szValue) p.request } :
        CHttpRequestParser).parseRequest szData := by
  induction headers generalizing p with
  | nil =>
      have hend : Advances szData p
          { p with eParseState := .body, nParseDataCount := p.nParseDataCount + 2 } := by
        refine .headersEnd hstate ?_ rfl
        rw [hdata]
        exact @search_line [] szRest (by decide)
      exact ⟨p.nParseDataCount + 2, parseRequest_of_again (round_of_advances hend)⟩
  | cons header headers ih =>
      rw [List.flatMap_cons, List.append_assoc] at hdata
      have hcolon : header.line.idxOf 58 = header.szName.length := by
        rw [HeaderText.line, List.idxOf_append_of_notMem header.colon, List.idxOf_cons_self,
          Nat.add_zero]
      have hlength : header.line.length = header.szName.length + 1 + header.szValue.length := by
        rw [HeaderText.line, List.length_append, List.length_cons]
        omega
      have hline : ¬ szCRLF <:+: header.line ++ [13] := by
        intro hwithin
        have hmem : (10 : UInt8) ∈ header.line ++ [13] := hwithin.subset (by decide)
        simp [HeaderText.line, header.nameLine.2, header.valueLine.2] at hmem
      have hname : header.line.take header.szName.length = header.szName := by
        rw [HeaderText.line, List.take_left]
      have hvalue : header.line.drop (header.szName.length + 1) = header.szValue := by
        rw [HeaderText.line, ← List.drop_drop, List.drop_left]
        rfl
      let q : CHttpRequestParser :=
        { p with
          nParseDataCount := p.nParseDataCount + header.line.length + 2
          request := p.request.addHeader header.szName header.szValue }
      have hheader : Advances szData p q := by
        refine .header header.line hstate ?_ ?_ ?_ ?_
        · rw [hdata]
          exact search_line hline
        · rw [hdata, List.append_assoc, List.take_left]
        · omega
        · rw [hcolon, hname, hvalue]
      obtain ⟨nParseDataCount, hrest⟩ := ih (p := q) hstate (by
        show szData.drop (p.nParseDataCount + header.line.length + 2) = _
        have hstep : (header.line ++ szCRLF).length = header.line.length + 2 := by
          simp [szCRLF]
        rw [Nat.add_assoc, ← List.drop_drop, hdata, ← hstep, List.drop_left])
      exact ⟨nParseDataCount,
        (parseRequest_of_again (round_of_advances hheader)).trans hrest⟩

/-- The body fails only if its length cannot be converted, and changes nothing else of the
request. -/
theorem parseRequest_body (szData : StdString) (hstate : p.eParseState = .body) :
    ∃ b q, p.parseRequest szData = some (b, q) ∧
      (∃ szBody, q.request = { p.request with szBody }) ∧
      (b = true ↔ p.request.eMethod = .get ∨
        ∀ szValue, p.request.getHeader (ascii "Content-Length") = some szValue →
          (convertToUint32 szValue).isSome) := by
  have hround : p.round szData = some (p.roundBody szData) := by
    rw [round, hstate]
  rw [roundBody] at hround
  by_cases hget : p.request.eMethod = .get
  · rw [if_pos hget] at hround
    exact ⟨true, _, parseRequest_of_stop hround, ⟨_, rfl⟩, iff_of_true rfl (.inl hget)⟩
  rw [if_neg hget] at hround
  cases hheader : p.request.getHeader (ascii "Content-Length") with
  | none =>
      rw [hheader] at hround
      exact ⟨true, _, parseRequest_of_stop hround, ⟨_, rfl⟩, by simp⟩
  | some szContentLength =>
      rw [hheader] at hround
      dsimp only at hround
      cases hconvert : convertToUint32 szContentLength with
      | none =>
          rw [hconvert] at hround
          refine ⟨false, _, parseRequest_of_stop hround, ⟨_, rfl⟩, ?_⟩
          simp [hget, hconvert]
      | some nContentLength =>
          rw [hconvert] at hround
          dsimp only at hround
          by_cases hsize :
              (nContentLength + p.nParseDataCount) % 2 ^ 32 > szData.length
          · rw [if_pos hsize] at hround
            exact ⟨true, _, parseRequest_of_stop hround, ⟨_, rfl⟩, by simp [hconvert]⟩
          · rw [if_neg hsize] at hround
            exact ⟨true, _, parseRequest_of_stop hround, ⟨_, rfl⟩, by simp [hconvert]⟩

end CHttpRequestParser

namespace RequestText

/-- What the parser keeps of the headers: the names as they are sent, and the last value that
is sent for each. -/
def mapHeader (headers : List HeaderText) : StdMap StdString StdString :=
  headers.foldl (fun m header => m.insert header.szName (headerValue header.szValue)) ∅

theorem foldl_addHeader (headers : List HeaderText) (request : CHttpRequest) :
    headers.foldl (fun request header => request.addHeader header.szName header.szValue)
        request =
      { request with
        mapHeader := headers.foldl
          (fun m header => m.insert header.szName (headerValue header.szValue))
          request.mapHeader } := by
  induction headers generalizing request with
  | nil => rfl
  | cons header headers ih =>
      rw [List.foldl_cons, List.foldl_cons, ih]
      rfl

theorem parseRequest_text (r : RequestText) :
    ∃ b p szBody, ({} : CHttpRequestParser).parseRequest r.text = some (b, p) ∧
      p.request = { r.parsedLine with szBody, mapHeader := mapHeader r.headers } ∧
      (b = true ↔ r.eMethod = .get ∨
        ∀ szValue, (mapHeader r.headers)[ascii "Content-Length"]? = some szValue →
          (convertToUint32 szValue).isSome) := by
  have hline : ¬ szCRLF <:+: r.requestLine ++ [13] := by
    intro hwithin
    have hmem : (10 : UInt8) ∈ r.requestLine ++ [13] := hwithin.subset (by decide)
    have hmethod := not_mem_word (.inr rfl) r.method
    have huri : 10 ∉ r.uri := by
      rw [uri]
      cases hquery : r.query with
      | none => simpa using r.path.2.2.2
      | some szQuery =>
          have hone := (r.queryLine szQuery hquery).2.2
          simp [r.path.2.2.2, hone]
    have hversion : 10 ∉ r.szVersion := by
      have hversions : ∀ szVersion ∈ versionText r.eVersion, 10 ∉ szVersion := by
        cases r.eVersion <;> decide
      exact hversions _ r.version
    simp [requestLine, hmethod, huri, hversion] at hmem
  let q : CHttpRequestParser :=
    { eParseState := .headers
      nParseDataCount := r.requestLine.length + 2
      request := r.parsedLine }
  have htake : r.text.take r.requestLine.length = r.requestLine := by
    rw [text, List.append_assoc, List.take_left]
  have hfirst : CHttpRequestParser.Advances r.text {} q := by
    refine .requestLine r.requestLine.length rfl (search_line hline) ?_ ?_
    · rw [htake, parseRequestLine_requestLine]
    · rw [htake, parseRequestLine_requestLine]
  have hdata : r.text.drop q.nParseDataCount =
      r.headers.flatMap (fun header => header.line ++ szCRLF) ++ (szCRLF ++ r.szRest) := by
    have hstep : (r.requestLine ++ szCRLF).length = r.requestLine.length + 2 := by
      simp [szCRLF]
    show r.text.drop (r.requestLine.length + 2) = _
    rw [← hstep, text, List.drop_left]
  obtain ⟨nParseDataCount, hheaders⟩ :=
    CHttpRequestParser.parseRequest_headers r.headers (p := q) rfl hdata
  obtain ⟨b, p, hbody, ⟨szBody, hrequest⟩, hb⟩ := CHttpRequestParser.parseRequest_body r.text
    (p := { eParseState := .body
            nParseDataCount
            request := r.headers.foldl (fun request header =>
              request.addHeader header.szName header.szValue) r.parsedLine }) rfl
  refine ⟨b, p, szBody, ?_, ?_, ?_⟩
  · rw [CHttpRequestParser.parseRequest_of_again
      (CHttpRequestParser.round_of_advances hfirst), hheaders]
    exact hbody
  · rw [hrequest, foldl_addHeader]
    rfl
  · rw [hb, foldl_addHeader]
    rfl

/-- An entry of the map is one of the headers. -/
theorem exists_of_mapHeader {headers : List HeaderText} {szName szValue : StdString}
    (h : (mapHeader headers)[szName]? = some szValue) :
    ∃ header ∈ headers, header.szName = szName ∧ headerValue header.szValue = szValue := by
  obtain hempty | hentry := StdMap.exists_of_getElem?_foldl_insert h
  · simp at hempty
  · exact hentry

/-- The name of every header is in the map. -/
theorem exists_mapHeader {headers : List HeaderText} {header : HeaderText}
    (h : header ∈ headers) : ∃ szValue, (mapHeader headers)[header.szName]? = some szValue := by
  obtain ⟨last, -, -, hget⟩ := StdMap.exists_getElem?_foldl_insert
    (f := HeaderText.szName) (g := fun header => headerValue header.szValue) ∅ h
  exact ⟨_, hget⟩

/-- The map has the headers without the blanks around them. -/
def Trimmed (headers : List HeaderText) : Prop :=
  ∀ szName szValue, (mapHeader headers)[szName]? = some szValue ↔
    ∃ header ∈ headers, trim header.szName = szName ∧ trim header.szValue = szValue

theorem trimmed_iff (headers : List HeaderText) :
    Trimmed headers ↔
      (∀ header ∈ headers, trim header.szName = header.szName) ∧
        (∀ header ∈ headers, ∀ c ∈ trim header.szValue, isspace c = false) ∧
        ∀ header ∈ headers, ∀ header' ∈ headers,
          trim header.szName = trim header'.szName →
            trim header.szValue = trim header'.szValue := by
  constructor
  · intro h
    have hnames : ∀ header ∈ headers, trim header.szName = header.szName := by
      intro header hheader
      obtain ⟨szValue, hget⟩ := exists_mapHeader hheader
      obtain ⟨header', -, hname, -⟩ := (h _ _).mp hget
      rw [← hname, trim_trim]
    have hsame : ∀ header ∈ headers, ∀ header' ∈ headers,
        trim header.szName = trim header'.szName →
          trim header.szValue = trim header'.szValue := by
      intro header hheader header' hheader' hname
      have hget := (h _ _).mpr ⟨header, hheader, rfl, rfl⟩
      have hget' := (h _ _).mpr ⟨header', hheader', rfl, rfl⟩
      rw [hname] at hget
      exact Option.some.inj (hget.symm.trans hget')
    refine ⟨hnames, fun header hheader => ?_, hsame⟩
    have hget := (h _ _).mpr ⟨header, hheader, rfl, rfl⟩
    obtain ⟨last, hlast, hname, hvalue⟩ := exists_of_mapHeader hget
    have hequal : trim last.szValue = trim header.szValue := by
      refine hsame last hlast header hheader ?_
      rw [hname, trim_trim]
    rw [← hequal]
    exact (headerValue_eq_trim_iff last.szValue).mp (hvalue.trans hequal.symm)
  · rintro ⟨hnames, hvalues, hsame⟩ szName szValue
    constructor
    · intro hget
      obtain ⟨header, hheader, hname, hvalue⟩ := exists_of_mapHeader hget
      refine ⟨header, hheader, (hnames header hheader).trans hname, ?_⟩
      rw [← hvalue]
      exact ((headerValue_eq_trim_iff _).mpr (hvalues header hheader)).symm
    · rintro ⟨header, hheader, rfl, rfl⟩
      obtain ⟨szValue, hget⟩ := exists_mapHeader hheader
      obtain ⟨last, hlast, hname, hvalue⟩ := exists_of_mapHeader hget
      have hequal := hsame last hlast header hheader (by rw [hname])
      rw [hnames header hheader, hget, ← hvalue,
        (headerValue_eq_trim_iff _).mpr (hvalues last hlast), hequal]

/-- The query is stored with two bytes behind it. -/
theorem noQuery_of_exact {r : RequestText} (h : r.Exact) : r.query = none := by
  obtain ⟨b, p, szBody, hparse, hrequest, -⟩ := parseRequest_text r
  obtain ⟨p', hparse', -, -, hquery, -⟩ := h
  rw [hparse] at hparse'
  obtain ⟨-, rfl⟩ := Prod.mk.inj (Option.some.inj hparse')
  rw [hrequest, parsedLine] at hquery
  cases hnone : r.query with
  | none => rfl
  | some szQuery =>
      rw [hnone] at hquery
      have hlength := congrArg List.length hquery
      simp at hlength

/-- A well-formed request is read exactly if and only if it is plain. -/
theorem exact_iff_plain (r : RequestText) : r.Exact ↔ r.Plain := by
  obtain ⟨b, p, szBody, hparse, hrequest, hb⟩ := parseRequest_text r
  have hheader : ∀ szName, p.request.getHeader szName = (mapHeader r.headers)[szName]? := by
    intro szName
    rw [hrequest]
    rfl
  have hquery : p.request.szQuery = r.query.elim [] fun szQuery => szQuery ++ [32, 72] := by
    rw [hrequest]
    rfl
  constructor
  · intro h
    have hnone := noQuery_of_exact h
    obtain ⟨p', hparse', -, -, -, hall⟩ := h
    rw [hparse] at hparse'
    obtain ⟨rfl, rfl⟩ := Prod.mk.inj (Option.some.inj hparse')
    have htrimmed : Trimmed r.headers := fun szName szValue => by
      rw [← hheader]
      exact hall szName szValue
    obtain ⟨hnames, hvalues, hsame⟩ := (trimmed_iff r.headers).mp htrimmed
    refine ⟨hnone, hnames, hvalues, hsame, fun hmethod header hmem hname => ?_⟩
    have hget := (htrimmed _ _).mpr ⟨header, hmem, hname, rfl⟩
    exact ((hb.mp rfl).resolve_left hmethod) _ hget
  · intro h
    have htrimmed := (trimmed_iff r.headers).mpr ⟨h.names, h.values, h.sameName⟩
    have htrue : b = true := by
      refine hb.mpr ?_
      by_cases hmethod : r.eMethod = .get
      · exact .inl hmethod
      · refine .inr fun szValue hget => ?_
        obtain ⟨header, hmem, hname, hvalue⟩ := (htrimmed _ _).mp hget
        rw [← hvalue]
        exact h.contentLength hmethod header hmem hname
    subst htrue
    refine ⟨p, hparse, ?_, ?_, ?_, fun szName szValue => ?_⟩
    · rw [hrequest]
      rfl
    · rw [hrequest]
      rfl
    · rw [hquery, h.noQuery]
      rfl
    · rw [hheader]
      exact htrimmed szName szValue

/-- `GET /a?b HTTP/1.1`, whose query is stored as `b H`. -/
def withQuery : RequestText where
  eMethod := .get
  szMethod := ascii "GET"
  szPath := ascii "/a"
  query := some (ascii "b")
  eVersion := .http11
  szVersion := ascii "HTTP/1.1"
  headers := []
  szRest := []
  method := by decide
  version := by decide
  path := by decide
  queryLine := by decide

theorem not_exact_withQuery : ¬ withQuery.Exact :=
  fun h => absurd (noQuery_of_exact h) (by decide)

end RequestText

end RealtimeEx.Core
