import RealtimeEx.Base.BufFile

/-!
# `CTokenParser`

A text is split at a delimiter; its pieces are read as numbers or as strings.
-/

namespace RealtimeEx.Base

/-- What a function that takes a C string sees of a string. -/
def cStr (str : StdString) : StdString := str.takeWhile (· ≠ 0)

/-- `split` at a delimiter of one character.  Empty pieces are left out. -/
def split (str : StdString) (delim : UInt8) : List StdString :=
  (str.splitOn delim).filter (· ≠ [])

/-- `trim`: the spaces on both sides are removed. -/
def trim (str : StdString) : StdString :=
  ((str.dropWhile (· = 32)).reverse.dropWhile (· = 32)).reverse

/-- `convert_to_value` to a `uint64_t`: what `std::istringstream` makes of it.  A
negative number is taken modulo `2 ^ 64`. -/
def convertToUint64 (str : StdString) : Option UInt64 :=
  let szNumber := str.dropWhile fun c => c = 32 ∨ (9 ≤ c ∧ c ≤ 13)
  let bNegative := szNumber.head? = some 45
  let szDigits := (if bNegative ∨ szNumber.head? = some 43 then szNumber.tail
    else szNumber).takeWhile fun c => 48 ≤ c ∧ c ≤ 57
  let nValue := szDigits.foldl (fun n c => n * 10 + (c.toNat - 48)) 0
  if szDigits = [] ∨ nValue ≥ 2 ^ 64 then
    none
  else if bNegative then
    some (UInt64.ofNat (2 ^ 64 - nValue))
  else
    some (UInt64.ofNat nValue)

/-- `CTokenParser`. -/
structure CTokenParser where
  vecElement : List StdString := []

namespace CTokenParser

/-- `parse` of a C string. -/
def parse (szBuf : StdString) (szDelim : UInt8) : CTokenParser where
  vecElement := split (cStr szBuf) szDelim

/-- `getElementCount`. -/
def getElementCount (sTokenParser : CTokenParser) : ℕ :=
  sTokenParser.vecElement.length

/-- `getUint64Element`. -/
def getUint64Element (sTokenParser : CTokenParser) (nIndex : ℕ) : Option UInt64 :=
  match sTokenParser.vecElement[nIndex]? with
  | none => none
  | some str => convertToUint64 (trim str)

/-- `getStringElement` into a buffer of `nBufSize` characters. -/
def getStringElement (sTokenParser : CTokenParser) (nIndex nBufSize : ℕ) :
    Option StdString :=
  match sTokenParser.vecElement[nIndex]? with
  | none => none
  | some str => if nBufSize ≤ str.length then none else some str

end CTokenParser

end RealtimeEx.Base
