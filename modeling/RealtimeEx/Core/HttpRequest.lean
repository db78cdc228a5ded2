import RealtimeEx.Base.BufFile
import RealtimeEx.Support.Search
import RealtimeEx.Support.StdContainers

/-!
# Http requests

`CHttpRequest` and `CHttpRequestParser`.  The parser is handed everything that has
arrived and not been consumed, works through the request line, the headers and the
body, and remembers in `m_nParseDataCount` how far it has come.
-/

namespace RealtimeEx.Core

open Base

/-! ## Texts -/

/-- The bytes of a literal. -/
def ascii (s : String) : StdString := s.toList.map fun c => c.toNat.toUInt8

/-- `isspace`. -/
def isspace (c : UInt8) : Bool := c = 32 ∨ (9 ≤ c ∧ c ≤ 13)

/-- `tolower`. -/
def tolower (c : UInt8) : UInt8 := if 65 ≤ c ∧ c ≤ 90 then c + 32 else c

/-- `_strnicmp` with a literal and its length: whether they agree. -/
def strnicmp (szText szLiteral : StdString) : Bool :=
  (szText.take szLiteral.length).map tolower = szLiteral.map tolower

/-- `szCRLF`. -/
def szCRLF : StdString := [13, 10]

/-- `convert_to_value` to a `uint32_t`: what `std::istringstream` makes of it. -/
def convertToUint32 (str : StdString) : Option ℕ :=
  let szNumber := str.dropWhile isspace
  let bNegative := szNumber.head? = some 45
  let szDigits := (if bNegative ∨ szNumber.head? = some 43 then szNumber.tail
    else szNumber).takeWhile fun c => 48 ≤ c ∧ c ≤ 57
  let nValue := szDigits.foldl (fun n c => n * 10 + (c.toNat - 48)) 0
  if szDigits = [] ∨ nValue ≥ 2 ^ 32 then
    none
  else if bNegative then
    some ((2 ^ 32 - nValue) % 2 ^ 32)
  else
    some nValue

/-! ## Requests -/

/-- `EHttpMethodType`. -/
inductive EHttpMethodType
  | unknown
  | get
  | post
  | put
  | delete
  deriving DecidableEq

/-- `EHttpVersion`. -/
inductive EHttpVersion
  | unknown
  | http10
  | http11
  deriving DecidableEq

/-- `CHttpRequest`. -/
structure CHttpRequest where
  eMethod : EHttpMethodType := .unknown
  eVersion : EHttpVersion := .unknown
  szRequestURI : StdString := []
  szQuery : StdString := []
  szBody : StdString := []
  mapHeader : StdMap StdString StdString := ∅

/-- The loop behind a header's value: for every space in it, wherever it is, one
byte is cut off the end. -/
def trimSpaces : ℕ → StdString → StdString
  | 0, szValue => szValue
  | i + 1, szValue =>
      trimSpaces i (if isspace (szValue.getD i 0) then szValue.dropLast else szValue)

/-- The value that `addHeader` stores. -/
def headerValue (szValue : StdString) : StdString :=
  let szValue := szValue.dropWhile isspace
  trimSpaces szValue.length szValue

namespace CHttpRequest

/-- `setMethod`, and what it returns.  The comparisons end at the space behind the
method. -/
def setMethod (request : CHttpRequest) (szMethod : StdString) : Bool × CHttpRequest :=
  let eMethod : EHttpMethodType :=
    if strnicmp szMethod (ascii "GET") then .get
    else if strnicmp szMethod (ascii "POST") then .post
    else if strnicmp szMethod (ascii "PUT") then .put
    else if strnicmp szMethod (ascii "DELETE") then .delete
    else .unknown
  (eMethod ≠ .unknown, { request with eMethod })

/-- `addHeader`; a header of the same name is replaced. -/
def addHeader (request : CHttpRequest) (szName szValue : StdString) : CHttpRequest :=
  { request with mapHeader := request.mapHeader.insert szName (headerValue szValue) }

/-- `getHeader`. -/
def getHeader (request : CHttpRequest) (szName : StdString) : Option StdString :=
  request.mapHeader[szName]?

end CHttpRequest

/-! ## The parser -/

/-- `EHttpParseState`. -/
inductive EHttpParseState
  | requestLine
  | headers
  | body
  | finish
  deriving DecidableEq

/-- `CHttpRequestParser`. -/
structure CHttpRequestParser where
  eParseState : EHttpParseState := .requestLine
  nParseDataCount : ℕ := 0
  request : CHttpRequest := {}

/-- `parseRequestLine` of a line, and what it returns.  The query is taken two bytes
too long: with the space behind the URI and the byte behind that, which is the
first one of `szCRLF` if the line ends there. -/
def parseRequestLine (szLine : StdString) (request : CHttpRequest) :
    Bool × CHttpRequest :=
  let nMethodEnd := szLine.idxOf 32
  if nMethodEnd = szLine.length then
    (false, request)
  else
    let (bMethod, request) := request.setMethod szLine
    if ¬ bMethod then
      (false, request)
    else
      let nURIBegin := nMethodEnd + 1
      let szURI := (szLine.drop nURIBegin).takeWhile (· ≠ 32)
      let nURIEnd := nURIBegin + szURI.length
      if nURIEnd = szLine.length then
        (false, request)
      else
        let nQueryBegin := szURI.idxOf 63
        let request :=
          if nQueryBegin ≠ szURI.length then
            { request with
              szRequestURI := szURI.take nQueryBegin
              szQuery := ((szLine ++ szCRLF).drop (nURIBegin + nQueryBegin + 1)).take
                (szURI.length - nQueryBegin + 1) }
          else
            { request with szRequestURI := szURI }
        let szVersion := szLine.drop (nURIEnd + 1)
        if szVersion.length ≠ 8 then
          (false, request)
        else if ¬ strnicmp szVersion (ascii "HTTP/1.") then
          (false, request)
        else if szLine.getLast? = some 49 then
          (true, { request with eVersion := .http11 })
        else if szLine.getLast? = some 48 then
          (true, { request with eVersion := .http10 })
        else
          (false, request)

/-- One round of the loop of `parseRequest`: it goes on, or it is left with a
result. -/
inductive ParseRound
  | again (parser : CHttpRequestParser)
  | stop (bResult : Bool) (parser : CHttpRequestParser)

namespace CHttpRequestParser

/-- The round of the state `eHPS_RequestLine`. -/
def roundRequestLine (p : CHttpRequestParser) (szData : StdString) : ParseRound :=
  match search szCRLF szData with
  | none => .stop true p
  | some nLineEnd =>
      let result := parseRequestLine (szData.take nLineEnd) p.request
      if result.1 then
        .again
          { eParseState := .headers
            nParseDataCount := nLineEnd + 2
            request := result.2 }
      else
        .stop false { p with request := result.2 }

/-- The round of the state `eHPS_Headers`.  If the parser has counted further than
there is data, the search is in an empty range. -/
def roundHeaders (p : CHttpRequestParser) (szData : StdString) : ParseRound :=
  match search szCRLF (szData.drop p.nParseDataCount) with
  | none => .stop true p
  | some nHeaderEnd =>
      let szHeader := (szData.drop p.nParseDataCount).take nHeaderEnd
      let nNameEnd := szHeader.idxOf 58
      let nParseDataCount := p.nParseDataCount + nHeaderEnd + 2
      if nNameEnd ≠ szHeader.length then
        .again { p with
          nParseDataCount
          request := p.request.addHeader (szHeader.take nNameEnd)
            (szHeader.drop (nNameEnd + 1)) }
      else if szHeader ≠ [] then
        .stop false p
      else
        .again { p with eParseState := .body, nParseDataCount }

/-- The round of the state `eHPS_Body`; the numbers are `uint32_t`. -/
def roundBody (p : CHttpRequestParser) (szData : StdString) : ParseRound :=
  if p.request.eMethod = .get then
    .stop true { p with eParseState := .finish }
  else
    match p.request.getHeader (ascii "Content-Length") with
    | none => .stop true { p with eParseState := .finish }
    | some szContentLength =>
        match convertToUint32 szContentLength with
        | none => .stop false p
        | some nContentLength =>
            if (nContentLength + p.nParseDataCount) % 2 ^ 32 > szData.length then
              .stop true p
            else
              .stop true
                { eParseState := .finish
                  nParseDataCount := (p.nParseDataCount + nContentLength) % 2 ^ 32
                  request :=
                    { p.request with
                      szBody := (szData.drop p.nParseDataCount).take nContentLength } }

/-- One round of the loop; there is none for the state `eHPS_Finish`, in which the
loop does nothing for ever. -/
def round (p : CHttpRequestParser) (szData : StdString) : Option ParseRound :=
  match p.eParseState with
  | .requestLine => some (p.roundRequestLine szData)
  | .headers => some (p.roundHeaders szData)
  | .body => some (p.roundBody szData)
  | .finish => none

/-- What a round that is not the last one has done: it has read the request line,
a header or the empty line behind the headers. -/
inductive Advances (szData : StdString) (p p' : CHttpRequestParser) : Prop
  | requestLine (nLineEnd : ℕ) (hstate : p.eParseState = .requestLine)
      (hsearch : search szCRLF szData = some nLineEnd)
      (hline : (parseRequestLine (szData.take nLineEnd) p.request).1 = true)
      (heq : p' =
        { eParseState := .headers
          nParseDataCount := nLineEnd + 2
          request := (parseRequestLine (szData.take nLineEnd) p.request).2 })
  | header (szHeader : StdString) (hstate : p.eParseState = .headers)
      (hsearch : search szCRLF (szData.drop p.nParseDataCount) = some szHeader.length)
      (hheader : szHeader = (szData.drop p.nParseDataCount).take szHeader.length)
      (hname : szHeader.idxOf 58 ≠ szHeader.length)
      (heq : p' =
        { p with
          nParseDataCount := p.nParseDataCount + szHeader.length + 2
          request := p.request.addHeader (szHeader.take (szHeader.idxOf 58))
            (szHeader.drop (szHeader.idxOf 58 + 1)) })
  | headersEnd (hstate : p.eParseState = .headers)
      (hsearch : search szCRLF (szData.drop p.nParseDataCount) = some 0)
      (heq : p' =
        { p with eParseState := .body, nParseDataCount := p.nParseDataCount + 2 })

theorem advances_of_round {p p' : CHttpRequestParser} {szData : StdString}
    (h : p.round szData = some (.again p')) : Advances szData p p' := by
  rw [round] at h
  split at h
  · rename_i hstate
    rw [roundRequestLine] at h
    split at h
    · cases h
    · rename_i nLineEnd hsearch
      dsimp only at h
      split at h
      · rename_i hline
        cases h
        exact .requestLine nLineEnd hstate hsearch hline rfl
      · cases h
  · rename_i hstate
    rw [roundHeaders] at h
    split at h
    · cases h
    · rename_i nHeaderEnd hsearch
      have hle := (prefix_drop_of_search hsearch).2
      have hlength : ((szData.drop p.nParseDataCount).take nHeaderEnd).length =
          nHeaderEnd := by
        rw [List.length_take]
        omega
      dsimp only at h
      split at h
      · rename_i hname
        cases h
        exact .header _ hstate (by rw [hlength]; exact hsearch) (by rw [hlength]) hname
          (by rw [hlength])
      · split at h
        · cases h
        · rename_i hempty
          have hzero : nHeaderEnd = 0 := by
            rw [← hlength, not_not.mp hempty, List.length_nil]
          subst hzero
          cases h
          exact .headersEnd hstate hsearch rfl
  · rw [roundBody] at h
    split at h
    · cases h
    · split at h
      · cases h
      · split at h
        · cases h
        · split at h <;> cases h
  · cases h

/-- What is left for the loop: states and, in the same state, bytes. -/
def left (p : CHttpRequestParser) (szData : StdString) : ℕ × ℕ :=
  (match p.eParseState with
    | .requestLine => 3
    | .headers => 2
    | .body => 1
    | .finish => 0,
    szData.length - p.nParseDataCount)

theorem Advances.left_lt {p p' : CHttpRequestParser} {szData : StdString}
    (h : Advances szData p p') :
    Prod.Lex (· < ·) (· < ·) (p'.left szData) (p.left szData) := by
  cases h with
  | requestLine nLineEnd hstate hsearch hline heq =>
      subst heq
      exact .left _ _ (by simp [hstate])
  | header szHeader hstate hsearch hheader hname heq =>
      have hle := (prefix_drop_of_search hsearch).2
      have hcrlf : szCRLF.length = 2 := rfl
      rw [List.length_drop, hcrlf] at hle
      subst heq
      exact .right _ (by dsimp only; omega)
  | headersEnd hstate hsearch heq =>
      subst heq
      exact .left _ _ (by simp [hstate])

/-- `parseRequest`: its result and the parser afterwards; `none` if it does not
return. -/
def parseRequest (p : CHttpRequestParser) (szData : StdString) :
    Option (Bool × CHttpRequestParser) :=
  match _h : p.round szData with
  | none => none
  | some (.stop bResult p') => some (bResult, p')
  | some (.again p') => p'.parseRequest szData
termination_by p.left szData
decreasing_by exact (advances_of_round _h).left_lt

theorem parseRequest_of_again {p p' : CHttpRequestParser} {szData : StdString}
    (h : p.round szData = some (.again p')) :
    p.parseRequest szData = p'.parseRequest szData := by
  rw [parseRequest]
  split
  · simp_all
  · simp_all
  · rename_i q hq
    rw [h] at hq
    cases hq
    rfl

theorem parseRequest_of_stop {p p' : CHttpRequestParser} {szData : StdString}
    {bResult : Bool} (h : p.round szData = some (.stop bResult p')) :
    p.parseRequest szData = some (bResult, p') := by
  rw [parseRequest]
  split
  · simp_all
  · simp_all
  · simp_all

end CHttpRequestParser

end RealtimeEx.Core
