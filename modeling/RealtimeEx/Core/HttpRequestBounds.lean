import Mathlib.Algebra.Order.Ring.Int
import RealtimeEx.Core.HttpRequest
import RealtimeEx.Support.History

/-!
# The bytes that the http parser looks at

The parser is handed a pointer and a size.  Every search, comparison and copy of a round
is a range of positions, and a range is read in bounds when it does not end before it
starts and does not end behind the data.
-/

namespace RealtimeEx.Core

open Base

/-! ## What a round reads -/

/-- How many characters `_strnicmp` compares with a literal: it stops at the first pair
that differs. -/
def strnicmpReads : StdString → StdString → ℕ
  | _, [] => 0
  | [], _ :: _ => 1
  | c :: szText, d :: szLiteral =>
      if tolower c = tolower d then strnicmpReads szText szLiteral + 1 else 1

/-- The comparisons of `setMethod`, each of which is made if those before it failed. -/
def methodReads (szData : StdString) : List StdString → List (ℕ × ℕ)
  | [] => []
  | szMethod :: szMethods =>
      (0, strnicmpReads szData szMethod) ::
        if strnicmp szData szMethod then [] else methodReads szData szMethods

/-- The literals that `setMethod` compares with, in its order. -/
def szMethods : List StdString := [ascii "GET", ascii "POST", ascii "PUT", ascii "DELETE"]

/-- The ranges that `parseRequestLine` reads of a line that ends at `nLineEnd`. -/
def requestLineReads (szData : StdString) (nLineEnd : ℕ) : List (ℕ × ℕ) :=
  let szLine := szData.take nLineEnd
  let nMethodEnd := szLine.idxOf 32
  (0, nLineEnd) ::
    if nMethodEnd = szLine.length then
      []
    else
      methodReads szData szMethods ++
        if ¬ (({} : CHttpRequest).setMethod szLine).1 then
          []
        else
          let nURIBegin := nMethodEnd + 1
          let szURI := (szLine.drop nURIBegin).takeWhile (· ≠ 32)
          let nURIEnd := nURIBegin + szURI.length
          (nURIBegin, nLineEnd) ::
            if nURIEnd = szLine.length then
              []
            else
              let nQueryBegin := nURIBegin + szURI.idxOf 63
              (nURIBegin, nURIEnd) ::
                ((if szURI.idxOf 63 ≠ szURI.length then
                    [(nURIBegin, nQueryBegin), (nQueryBegin + 1, nURIEnd + 2)]
                  else
                    [(nURIBegin, nURIEnd)]) ++
                  if (szLine.drop (nURIEnd + 1)).length ≠ 8 then
                    []
                  else
                    [(nURIEnd + 1, nURIEnd + 1 +
                        strnicmpReads (szData.drop (nURIEnd + 1)) (ascii "HTTP/1.")),
                      (nLineEnd - 1, nLineEnd)])

namespace CHttpRequestParser

/-- The length of the body that the parser waits for in the state `eHPS_Body`. -/
def contentLength (p : CHttpRequestParser) : Option ℕ :=
  if p.request.eMethod = .get then
    none
  else
    (p.request.getHeader (ascii "Content-Length")).bind convertToUint32

/-- The ranges that a round reads. -/
def reads (p : CHttpRequestParser) (szData : StdString) : List (ℕ × ℕ) :=
  match p.eParseState with
  | .requestLine =>
      (0, szData.length) ::
        ((search szCRLF szData).elim [] fun nLineEnd => requestLineReads szData nLineEnd)
  | .headers =>
      (p.nParseDataCount, szData.length) ::
        ((search szCRLF (szData.drop p.nParseDataCount)).elim [] fun nHeaderEnd =>
          let szHeader := (szData.drop p.nParseDataCount).take nHeaderEnd
          let nNameEnd := p.nParseDataCount + szHeader.idxOf 58
          (p.nParseDataCount, p.nParseDataCount + nHeaderEnd) ::
            if szHeader.idxOf 58 ≠ szHeader.length then
              [(p.nParseDataCount, nNameEnd),
                (nNameEnd + 1, p.nParseDataCount + nHeaderEnd)]
            else
              [])
  | .body =>
      p.contentLength.elim [] fun nContentLength =>
        if (nContentLength + p.nParseDataCount) % 2 ^ 32 > szData.length then
          []
        else
          [(p.nParseDataCount, p.nParseDataCount + nContentLength)]
  | .finish => []

/-- The parser after a round. -/
def afterRound (p : CHttpRequestParser) (szData : StdString) : CHttpRequestParser :=
  match p.round szData with
  | some (.again q) => q
  | some (.stop _ q) => q
  | none => p

/-- A round stays within the data, counts no byte that it was not given, and takes a body
only if all of it is there.  In the state `eHPS_Finish` there is no round. -/
def RoundExact (p : CHttpRequestParser) (szData : StdString) : Prop :=
  (∀ r ∈ p.reads szData, r.1 ≤ r.2 ∧ r.2 ≤ szData.length) ∧
    (p.eParseState ≠ .finish → (p.afterRound szData).nParseDataCount ≤ szData.length) ∧
    (p.eParseState = .body → (p.afterRound szData).eParseState = .finish →
      ∀ nContentLength ∈ p.contentLength,
        p.nParseDataCount + nContentLength ≤ szData.length)

/-- The data still has the bytes that the parser has counted, and the end of the body that
it waits for is a `uint32_t`. -/
def Fits (p : CHttpRequestParser) (szData : StdString) : Prop :=
  match p.eParseState with
  | .requestLine => True
  | .headers => p.nParseDataCount ≤ szData.length
  | .body =>
      p.nParseDataCount ≤ szData.length ∧
        ∀ nContentLength ∈ p.contentLength, p.nParseDataCount + nContentLength < 2 ^ 32
  | .finish => True

end CHttpRequestParser

/-! ## The request line -/

theorem strnicmpReads_le_length (szText : StdString) :
    ∀ szLiteral : StdString, strnicmpReads szText szLiteral ≤ szLiteral.length := by
  intro szLiteral
  induction szLiteral generalizing szText with
  | nil => simp [strnicmpReads]
  | cons d szLiteral ih =>
      cases szText with
      | nil => simp [strnicmpReads]
      | cons c szText =>
          have htail := ih szText
          rw [strnicmpReads, List.length_cons]
          split <;> omega

/-- A comparison with a literal without spaces goes no further than to the first space. -/
theorem strnicmpReads_le_idxOf {szLiteral : StdString}
    (hspace : ∀ d ∈ szLiteral, tolower d ≠ 32) (szText : StdString) (h : 32 ∈ szText) :
    strnicmpReads szText szLiteral ≤ szText.idxOf 32 + 1 := by
  induction szLiteral generalizing szText with
  | nil => simp [strnicmpReads]
  | cons d szLiteral ih =>
      cases szText with
      | nil => simp at h
      | cons c szText =>
          rw [strnicmpReads]
          by_cases heq : tolower c = tolower d
          · have hc : c ≠ 32 := by
              rintro rfl
              have hd := hspace d List.mem_cons_self
              rw [← heq] at hd
              exact hd (by decide)
            have hmem : 32 ∈ szText := (List.mem_cons.mp h).resolve_left (Ne.symm hc)
            have htail := ih (fun e he => hspace e (List.mem_cons_of_mem _ he)) szText hmem
            rw [if_pos heq, List.idxOf_cons_ne _ hc]
            omega
          · rw [if_neg heq]
            omega

theorem methodReads_inside {szData : StdString} (h : 32 ∈ szData)
    (szMethods : List StdString) (hspace : ∀ szMethod ∈ szMethods, ∀ d ∈ szMethod,
      tolower d ≠ 32) :
    ∀ r ∈ methodReads szData szMethods, r.1 ≤ r.2 ∧ r.2 ≤ szData.idxOf 32 + 1 := by
  induction szMethods with
  | nil => simp [methodReads]
  | cons szMethod szMethods ih =>
      intro r hr
      rw [methodReads, List.mem_cons] at hr
      obtain rfl | hr := hr
      · exact ⟨Nat.zero_le _,
          strnicmpReads_le_idxOf (hspace szMethod List.mem_cons_self) szData h⟩
      · by_cases hequal : strnicmp szData szMethod = true
        · rw [if_pos hequal] at hr
          cases hr
        · rw [if_neg hequal] at hr
          exact ih (fun m hm => hspace m (List.mem_cons_of_mem _ hm)) r hr

/-- What is read of a request line ends at the line's end, but for the query, which is
taken with the byte behind it. -/
theorem requestLineReads_inside {szData : StdString} {nLineEnd : ℕ}
    (hle : nLineEnd ≤ szData.length) :
    ∀ r ∈ requestLineReads szData nLineEnd, r.1 ≤ r.2 ∧ r.2 ≤ nLineEnd + 1 := by
  have hlength : (szData.take nLineEnd).length = nLineEnd := by
    rw [List.length_take]
    omega
  have hfirst : (szData.take nLineEnd).idxOf 32 ≤ nLineEnd := by
    conv_rhs => rw [← hlength]
    exact List.idxOf_le_length
  intro r hr
  rw [requestLineReads] at hr
  simp only [hlength, List.length_drop] at hr
  rw [List.mem_cons] at hr
  obtain rfl | hr := hr
  · exact ⟨Nat.zero_le _, Nat.le_succ _⟩
  by_cases hspace : (szData.take nLineEnd).idxOf 32 = nLineEnd
  · rw [if_pos hspace] at hr
    cases hr
  rw [if_neg hspace, List.mem_append] at hr
  obtain hr | hr := hr
  · have hmem : 32 ∈ szData.take nLineEnd := by
      rw [← List.idxOf_lt_length_iff (a := (32 : UInt8)), hlength]
      omega
    have hidx : szData.idxOf 32 = (szData.take nLineEnd).idxOf 32 := by
      conv_lhs => rw [← List.take_append_drop nLineEnd szData, List.idxOf_append,
        if_pos hmem]
    have hmethod := methodReads_inside (List.mem_of_mem_take hmem) szMethods
      (by decide +kernel) r hr
    omega
  by_cases hmethod : ¬ (({} : CHttpRequest).setMethod (szData.take nLineEnd)).1 = true
  · rw [if_pos hmethod] at hr
    cases hr
  rw [if_neg hmethod] at hr
  set nURIBegin := (szData.take nLineEnd).idxOf 32 + 1 with hbegin
  set szURI := ((szData.take nLineEnd).drop nURIBegin).takeWhile (· ≠ 32) with huri
  have hend : nURIBegin + szURI.length ≤ nLineEnd := by
    have hsub := (List.takeWhile_sublist (l := (szData.take nLineEnd).drop nURIBegin)
      (· ≠ 32)).length_le
    rw [List.length_drop, hlength, ← huri] at hsub
    omega
  rw [List.mem_cons] at hr
  obtain rfl | hr := hr
  · dsimp only
    omega
  by_cases hlast : nURIBegin + szURI.length = nLineEnd
  · rw [if_pos hlast] at hr
    cases hr
  have hquery : szURI.idxOf 63 ≤ szURI.length := List.idxOf_le_length
  rw [if_neg hlast, List.mem_cons, List.mem_append] at hr
  obtain rfl | hr | hr := hr
  · dsimp only
    omega
  · by_cases hmark : szURI.idxOf 63 ≠ szURI.length
    · rw [if_pos hmark] at hr
      simp only [List.mem_cons, List.not_mem_nil, or_false] at hr
      obtain rfl | rfl := hr
      · dsimp only
        omega
      · dsimp only
        omega
    · rw [if_neg hmark, List.mem_singleton] at hr
      subst hr
      dsimp only
      omega
  · have hversion := strnicmpReads_le_length
      (szData.drop (nURIBegin + szURI.length + 1)) (ascii "HTTP/1.")
    have hseven : (ascii "HTTP/1.").length = 7 := by decide
    by_cases height : nLineEnd - (nURIBegin + szURI.length + 1) ≠ 8
    · rw [if_pos height] at hr
      cases hr
    · rw [if_neg height] at hr
      simp only [List.mem_cons, List.not_mem_nil, or_false] at hr
      obtain rfl | rfl := hr
      · dsimp only
        omega
      · dsimp only
        omega

/-! ## The rounds -/

/-- What is converted is below the type's limit, with or without a sign. -/
theorem lt_of_converted {P Q : Prop} [Decidable P] [Decidable Q] {n nValue : ℕ}
    (h : (if P ∨ nValue ≥ 2 ^ 32 then none
      else if Q then some ((2 ^ 32 - nValue) % 2 ^ 32) else some nValue) = some n) :
    n < 2 ^ 32 := by
  by_cases hfails : P ∨ nValue ≥ 2 ^ 32
  · rw [if_pos hfails] at h
    cases h
  · rw [if_neg hfails] at h
    rw [not_or] at hfails
    by_cases hnegative : Q
    · rw [if_pos hnegative] at h
      have hn := Option.some.inj h
      omega
    · rw [if_neg hnegative] at h
      have hn := Option.some.inj h
      omega

theorem convertToUint32_lt {n : ℕ} {str : StdString} (h : convertToUint32 str = some n) :
    n < 2 ^ 32 := by
  rw [convertToUint32] at h
  exact lt_of_converted h

namespace CHttpRequestParser

variable {p : CHttpRequestParser} {szData : StdString}

theorem lt_of_mem_contentLength {n : ℕ} (h : n ∈ p.contentLength) : n < 2 ^ 32 := by
  rw [contentLength] at h
  by_cases hget : p.request.eMethod = .get
  · rw [if_pos hget] at h
    cases h
  · rw [if_neg hget] at h
    obtain ⟨szContentLength, -, hconvert⟩ := Option.bind_eq_some_iff.mp h
    exact convertToUint32_lt hconvert

theorem roundExact_requestLine (hstate : p.eParseState = .requestLine)
    (hzero : p.nParseDataCount = 0) : p.RoundExact szData := by
  have hround : p.round szData = some (p.roundRequestLine szData) := by
    rw [round, hstate]
  refine ⟨?_, ?_, fun h => by rw [hstate] at h; cases h⟩
  · intro r hr
    rw [reads, hstate] at hr
    dsimp only at hr
    rw [List.mem_cons] at hr
    obtain rfl | hr := hr
    · exact ⟨Nat.zero_le _, Nat.le_refl _⟩
    · cases hsearch : search szCRLF szData with
      | none =>
          rw [hsearch] at hr
          cases hr
      | some nLineEnd =>
          rw [hsearch] at hr
          have hle := (prefix_drop_of_search hsearch).2
          have htwo : szCRLF.length = 2 := rfl
          have hinside := requestLineReads_inside (by omega) r hr
          omega
  · intro _
    rw [afterRound, hround, roundRequestLine]
    cases hsearch : search szCRLF szData with
    | none =>
        dsimp only
        omega
    | some nLineEnd =>
        have hle := (prefix_drop_of_search hsearch).2
        have htwo : szCRLF.length = 2 := rfl
        dsimp only
        by_cases hline : (parseRequestLine (szData.take nLineEnd) p.request).1 = true
        · rw [if_pos hline]
          dsimp only
          omega
        · rw [if_neg hline]
          dsimp only
          omega

/-- What a round of the headers leaves behind. -/
theorem roundHeaders_cases (p : CHttpRequestParser) (szData : StdString) :
    (∃ b, p.roundHeaders szData = .stop b p) ∨
      ∃ q nHeaderEnd, p.roundHeaders szData = .again q ∧
        search szCRLF (szData.drop p.nParseDataCount) = some nHeaderEnd ∧
        q.nParseDataCount = p.nParseDataCount + nHeaderEnd + 2 ∧
        (p.eParseState = .headers → q.eParseState ≠ .requestLine) := by
  rw [roundHeaders]
  cases hsearch : search szCRLF (szData.drop p.nParseDataCount) with
  | none => exact .inl ⟨true, rfl⟩
  | some nHeaderEnd =>
      dsimp only
      by_cases hname : ((szData.drop p.nParseDataCount).take nHeaderEnd).idxOf 58 ≠
          ((szData.drop p.nParseDataCount).take nHeaderEnd).length
      · rw [if_pos hname]
        refine .inr ⟨_, nHeaderEnd, rfl, rfl, rfl, fun hstate => ?_⟩
        rw [hstate]
        decide
      · rw [if_neg hname]
        by_cases hempty : (szData.drop p.nParseDataCount).take nHeaderEnd ≠ []
        · rw [if_pos hempty]
          exact .inl ⟨false, rfl⟩
        · rw [if_neg hempty]
          exact .inr ⟨_, nHeaderEnd, rfl, rfl, rfl, fun _ => by simp⟩

theorem roundExact_headers_iff (hstate : p.eParseState = .headers) :
    p.RoundExact szData ↔ p.nParseDataCount ≤ szData.length := by
  have hround : p.round szData = some (p.roundHeaders szData) := by
    rw [round, hstate]
  constructor
  · intro h
    have hrange : (p.nParseDataCount, szData.length) ∈ p.reads szData := by
      rw [reads, hstate]
      exact List.mem_cons_self
    exact (h.1 _ hrange).1
  · intro hcount
    refine ⟨?_, ?_, fun h => by rw [hstate] at h; cases h⟩
    · intro r hr
      rw [reads, hstate] at hr
      dsimp only at hr
      rw [List.mem_cons] at hr
      obtain rfl | hr := hr
      · exact ⟨hcount, Nat.le_refl _⟩
      cases hsearch : search szCRLF (szData.drop p.nParseDataCount) with
      | none =>
          rw [hsearch] at hr
          cases hr
      | some nHeaderEnd =>
          have hle := (prefix_drop_of_search hsearch).2
          have htwo : szCRLF.length = 2 := rfl
          rw [List.length_drop, htwo] at hle
          have hlength : ((szData.drop p.nParseDataCount).take nHeaderEnd).length =
              nHeaderEnd := by
            rw [List.length_take, List.length_drop]
            omega
          have hidx : ((szData.drop p.nParseDataCount).take nHeaderEnd).idxOf 58 ≤
              nHeaderEnd := by
            conv_rhs => rw [← hlength]
            exact List.idxOf_le_length
          rw [hsearch, Option.elim_some, List.mem_cons, hlength] at hr
          obtain rfl | hr := hr
          · dsimp only
            omega
          by_cases hname :
              ((szData.drop p.nParseDataCount).take nHeaderEnd).idxOf 58 ≠ nHeaderEnd
          · rw [if_pos hname] at hr
            simp only [List.mem_cons, List.not_mem_nil, or_false] at hr
            obtain rfl | rfl := hr
            · dsimp only
              omega
            · dsimp only
              omega
          · rw [if_neg hname] at hr
            cases hr
    · intro _
      rw [afterRound, hround]
      obtain ⟨b, hstop⟩ | ⟨q, nHeaderEnd, hagain, hsearch, hq, -⟩ :=
        roundHeaders_cases p szData
      · rw [hstop]
        exact hcount
      · have hle := (prefix_drop_of_search hsearch).2
        have htwo : szCRLF.length = 2 := rfl
        rw [List.length_drop, htwo] at hle
        rw [hagain]
        dsimp only
        omega

/-- What a round of the body leaves behind: it takes no body, or one whose end it has
compared with the size. -/
theorem roundBody_cases (p : CHttpRequestParser) (szData : StdString) :
    (∃ b q, p.roundBody szData = .stop b q ∧ q.nParseDataCount = p.nParseDataCount ∧
        (p.eParseState = .body → q.eParseState ≠ .requestLine) ∧
        (∀ n ∈ p.contentLength, szData.length < (n + p.nParseDataCount) % 2 ^ 32 ∧
          q.eParseState = p.eParseState)) ∨
      ∃ q n, n ∈ p.contentLength ∧ (n + p.nParseDataCount) % 2 ^ 32 ≤ szData.length ∧
        p.roundBody szData = .stop true q ∧ q.eParseState = .finish ∧
        q.nParseDataCount = (p.nParseDataCount + n) % 2 ^ 32 := by
  rw [roundBody, contentLength]
  by_cases hget : p.request.eMethod = .get
  · rw [if_pos hget, if_pos hget]
    refine .inl ⟨true, _, rfl, rfl, fun _ => by simp, ?_⟩
    rintro n ⟨⟩
  · rw [if_neg hget, if_neg hget]
    cases hheader : p.request.getHeader (ascii "Content-Length") with
    | none =>
        refine .inl ⟨true, _, rfl, rfl, fun _ => by simp, ?_⟩
        rintro n ⟨⟩
    | some szContentLength =>
        rw [Option.bind_some]
        dsimp only
        cases hconvert : convertToUint32 szContentLength with
        | none =>
            refine .inl ⟨false, _, rfl, rfl, fun hstate => ?_, ?_⟩
            · rw [hstate]
              decide
            · rintro n ⟨⟩
        | some n =>
            dsimp only
            by_cases hsize : (n + p.nParseDataCount) % 2 ^ 32 > szData.length
            · rw [if_pos hsize]
              refine .inl ⟨true, _, rfl, rfl, fun hstate => ?_, ?_⟩
              · rw [hstate]
                decide
              · rintro m hm
                cases hm
                exact ⟨hsize, rfl⟩
            · rw [if_neg hsize]
              exact .inr ⟨_, n, rfl, Nat.not_lt.mp hsize, rfl, rfl, rfl⟩

theorem roundExact_body_iff (hstate : p.eParseState = .body)
    (hlength : szData.length < 2 ^ 32) : p.RoundExact szData ↔ p.Fits szData := by
  have hround : p.round szData = some (p.roundBody szData) := by
    rw [round, hstate]
  have hreads : p.reads szData = p.contentLength.elim [] fun n =>
      if (n + p.nParseDataCount) % 2 ^ 32 > szData.length then []
      else [(p.nParseDataCount, p.nParseDataCount + n)] := by
    rw [reads, hstate]
  have hnot : p.eParseState ≠ .finish := by
    rw [hstate]
    decide
  rw [RoundExact, Fits, hstate, hreads, afterRound, hround]
  dsimp only
  obtain ⟨b, q, hstop, hq, -, hlong⟩ | ⟨q, n, hn, hsize, hstop, hfinish, hq⟩ :=
    roundBody_cases p szData
  · rw [hstop]
    dsimp only
    rw [hq]
    cases hcontent : p.contentLength with
    | none => simp
    | some n =>
        obtain ⟨hwaits, hsame⟩ := hlong n hcontent
        have hbound := lt_of_mem_contentLength hcontent
        rw [Option.elim_some, if_pos hwaits, hsame, hstate]
        constructor
        · rintro ⟨-, hcount, -⟩
          have hcounted := hcount (by decide)
          refine ⟨hcounted, ?_⟩
          rintro m hm
          cases hm
          omega
        · rintro ⟨hcount, -⟩
          refine ⟨?_, fun _ => hcount, ?_⟩
          · rintro r ⟨⟩
          · rintro - ⟨⟩
  · rw [hstop]
    dsimp only
    rw [Option.mem_def.mp hn, hq, hfinish, Option.elim_some,
      if_neg (Nat.not_lt.mpr hsize)]
    constructor
    · rintro ⟨-, -, hall⟩
      have hfits := hall rfl rfl n rfl
      refine ⟨by omega, ?_⟩
      rintro m hm
      cases hm
      omega
    · rintro ⟨hcount, hall⟩
      have hsum := hall n rfl
      have hfits : p.nParseDataCount + n ≤ szData.length := by omega
      refine ⟨?_, fun _ => by omega, ?_⟩
      · intro r hr
        rw [List.mem_singleton] at hr
        subst hr
        exact ⟨Nat.le_add_right _ _, hfits⟩
      · rintro - - m hm
        cases hm
        exact hfits

theorem roundExact_iff (hzero : p.eParseState = .requestLine → p.nParseDataCount = 0)
    (hlength : szData.length < 2 ^ 32) : p.RoundExact szData ↔ p.Fits szData := by
  cases hstate : p.eParseState with
  | requestLine =>
      rw [Fits, hstate]
      exact iff_of_true (roundExact_requestLine hstate (hzero hstate)) trivial
  | headers =>
      rw [roundExact_headers_iff hstate, Fits, hstate]
  | body => exact roundExact_body_iff hstate hlength
  | finish =>
      rw [Fits, hstate]
      refine iff_of_true ⟨?_, fun h => absurd hstate h, ?_⟩ trivial
      · rw [reads, hstate]
        rintro r ⟨⟩
      · rw [hstate]
        rintro ⟨⟩

/-- Only a round that reads the request line leaves its state, and then it has counted. -/
theorem afterRound_requestLine
    (hzero : p.eParseState = .requestLine → p.nParseDataCount = 0)
    (h : (p.afterRound szData).eParseState = .requestLine) :
    (p.afterRound szData).nParseDataCount = 0 := by
  rw [afterRound, round] at h ⊢
  cases hstate : p.eParseState with
  | requestLine =>
      rw [hstate] at h
      dsimp only at h ⊢
      rw [roundRequestLine] at h ⊢
      cases hsearch : search szCRLF szData with
      | none => exact hzero hstate
      | some nLineEnd =>
          rw [hsearch] at h
          dsimp only at h ⊢
          by_cases hline : (parseRequestLine (szData.take nLineEnd) p.request).1 = true
          · rw [if_pos hline] at h
            cases h
          · rw [if_neg hline]
            exact hzero hstate
  | headers =>
      rw [hstate] at h
      dsimp only at h
      obtain ⟨b, hstop⟩ | ⟨q, nHeaderEnd, hagain, -, -, hq⟩ :=
        roundHeaders_cases p szData
      · rw [hstop] at h
        dsimp only at h
        rw [hstate] at h
        cases h
      · rw [hagain] at h
        exact absurd h (hq hstate)
  | body =>
      rw [hstate] at h
      dsimp only at h
      obtain ⟨b, q, hstop, -, hq, -⟩ | ⟨q, n, -, -, hstop, hfinish, -⟩ :=
        roundBody_cases p szData
      · rw [hstop] at h
        exact absurd h (hq hstate)
      · rw [hstop] at h
        dsimp only at h
        rw [hfinish] at h
        cases h
  | finish =>
      rw [hstate] at h
      dsimp only at h
      rw [hstate] at h
      cases h

end CHttpRequestParser

/-! ## Histories -/

/-- Data as it is handed to the parser; its size is a `uint32_t`. -/
abbrev RecvData : Type := { szData : StdString // szData.length < 2 ^ 32 }

/-- A parser and the data of the call that it is in. -/
structure Parsing where
  parser : CHttpRequestParser
  szData : RecvData

/-- A call of `parseRequest`, a round of its loop, and `reset`. -/
inductive ParseEvent
  | parseRequest (szData : RecvData)
  | round
  | reset

namespace Parsing

/-- The parser has just been made. -/
def empty : Parsing where
  parser := {}
  szData := ⟨[], by decide⟩

def step (s : Parsing) : ParseEvent → Parsing
  | .parseRequest szData => { s with szData }
  | .round => { s with parser := s.parser.afterRound s.szData.1 }
  | .reset => { s with parser := {} }

/-- A call that returns is a number of rounds on the data it is handed. -/
theorem parseRequest_eq_rounds {szData : RecvData} (p p' : CHttpRequestParser) {b : Bool}
    (h : p.parseRequest szData.1 = some (b, p')) :
    ∃ n, (List.replicate n ParseEvent.round).foldl step ⟨p, szData⟩ = ⟨p', szData⟩ := by
  induction p using CHttpRequestParser.parseRequest.induct szData.1 with
  | case1 p hround =>
      rw [CHttpRequestParser.parseRequest] at h
      split at h
      · cases h
      · simp_all
      · simp_all
  | case2 p bResult q hround =>
      rw [CHttpRequestParser.parseRequest_of_stop hround] at h
      cases h
      refine ⟨1, ?_⟩
      simp only [List.replicate_one, List.foldl_cons, List.foldl_nil, step,
        CHttpRequestParser.afterRound, hround]
  | case3 p q hround ih =>
      rw [CHttpRequestParser.parseRequest_of_again hround] at h
      obtain ⟨n, hn⟩ := ih h
      refine ⟨n + 1, ?_⟩
      rw [List.replicate_succ, List.foldl_cons, ← hn]
      simp only [step, CHttpRequestParser.afterRound, hround]

/-- If the next event is a round, the round is in bounds. -/
def Exact (s : Parsing) : ParseEvent → Prop
  | .round => s.parser.RoundExact s.szData.1
  | _ => True

def Fits (s : Parsing) : ParseEvent → Prop
  | .round => s.parser.Fits s.szData.1
  | _ => True

/-- In every history of calls, with any data and in any pieces, all rounds are in bounds if
and only if in every one the data still has the bytes that have been counted and the end of
the body is a `uint32_t`. -/
theorem exact_iff_fits (es : List ParseEvent) :
    Meets step Exact empty es ↔ Meets step Fits empty es := by
  have hI : ∀ (s : Parsing) (e : ParseEvent),
      (s.parser.eParseState = .requestLine → s.parser.nParseDataCount = 0) → Exact s e →
        ((step s e).parser.eParseState = .requestLine →
          (step s e).parser.nParseDataCount = 0) := by
    intro s e hzero _
    cases e with
    | parseRequest szData => exact hzero
    | round => exact CHttpRequestParser.afterRound_requestLine hzero
    | reset => exact fun _ => rfl
  refine meets_congr hI (fun s e hzero => ?_) (fun _ => rfl) es
  cases e with
  | parseRequest szData => exact Iff.rfl
  | round => exact CHttpRequestParser.roundExact_iff hzero s.szData.2
  | reset => exact Iff.rfl

instance : ∀ (s : Parsing) (e : ParseEvent), Decidable (Exact s e)
  | s, .round =>
      inferInstanceAs (Decidable
        ((∀ r ∈ s.parser.reads s.szData.1, r.1 ≤ r.2 ∧ r.2 ≤ s.szData.1.length) ∧
          (s.parser.eParseState ≠ .finish →
            (s.parser.afterRound s.szData.1).nParseDataCount ≤ s.szData.1.length) ∧
          (s.parser.eParseState = .body →
            (s.parser.afterRound s.szData.1).eParseState = .finish →
            ∀ nContentLength ∈ s.parser.contentLength,
              s.parser.nParseDataCount + nContentLength ≤ s.szData.1.length)))
  | _, .parseRequest _ => inferInstanceAs (Decidable True)
  | _, .reset => inferInstanceAs (Decidable True)

/-- A request whose body has the greatest length that the header can give. -/
def longBody : RecvData :=
  ⟨ascii "PUT / HTTP/1.1\r\nContent-Length:4294967295\r\n\r\n", by decide⟩

/-- Its end is not a `uint32_t`, so the body is taken at once, and four gigabytes behind the
data with it. -/
theorem not_exact_longBody : ¬ Meets step Exact empty
    [.parseRequest longBody, .round, .round, .round, .round] := by
  decide +kernel

end Parsing

end RealtimeEx.Core
