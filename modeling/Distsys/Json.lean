import Distsys.Text
import Distsys.Lib.SortedMap

/-!
# JSON documents and their canonical text

The values `json.loads` returns, and the text `json.dumps` writes for them with
sorted keys, compact separators and `ensure_ascii=False`. A float is kept by its
`repr`, the only thing the writer uses of it.
-/

namespace Distsys

/-- A Python value read from a JSON document. -/
inductive Json
  | null
  | bool (value : Bool)
  | int (value : Int)
  | float (repr : String)
  | str (text : PyStr)
  | list (elements : List Json)
  | dict (members : List (PyStr × Json))

/-- The code points of a string of scalar values. -/
def PyStr.ofString (text : String) : PyStr := text.toList.map CodePoint.ofChar

namespace Json

/-- One hexadecimal digit, in lower case. -/
def hexDigit (digit : Fin 16) : CodePoint :=
  if digit.val < 10 then ⟨48 + digit.val, by omega⟩ else ⟨87 + digit.val, by omega⟩

/-- The text written for one code point of a string: the short escapes, `\u00XX`
for the other control characters, everything else as it stands. -/
def escapePoint (point : CodePoint) : PyStr :=
  if point = 92 then [92, 92]
  else if point = 34 then [92, 34]
  else if point = 8 then [92, 98]
  else if point = 12 then [92, 102]
  else if point = 10 then [92, 110]
  else if point = 13 then [92, 114]
  else if point = 9 then [92, 116]
  else if point.val < 32 then
    [92, 117, 48, 48, hexDigit ⟨point.val / 16 % 16, by omega⟩,
      hexDigit ⟨point.val % 16, by omega⟩]
  else [point]

/-- A JSON string literal. -/
def quote (text : PyStr) : PyStr := 34 :: (text.flatMap escapePoint ++ [34])

/-- The text that `repr` writes for one code point. Beyond Latin-1 only surrogates are escaped;
the other unprintable code points are written as they stand. -/
def reprPoint (point : CodePoint) : PyStr :=
  if point = 92 then [92, 92]
  else if point = 9 then [92, 116]
  else if point = 10 then [92, 110]
  else if point = 13 then [92, 114]
  else if point.val < 32 ∨ (127 ≤ point.val ∧ point.val ≤ 160) ∨ point = 173 then
    [92, 120, hexDigit ⟨point.val / 16 % 16, by omega⟩, hexDigit ⟨point.val % 16, by omega⟩]
  else if point.IsSurrogate then
    [92, 117, hexDigit ⟨point.val / 4096 % 16, by omega⟩, hexDigit ⟨point.val / 256 % 16, by omega⟩,
      hexDigit ⟨point.val / 16 % 16, by omega⟩, hexDigit ⟨point.val % 16, by omega⟩]
  else [point]

/-- `repr(text)`: double quotes are used when there is an apostrophe and no double quote. -/
def reprText (text : PyStr) : PyStr :=
  if 39 ∈ text ∧ 34 ∉ text then 34 :: text.flatMap reprPoint ++ [34]
  else 39 :: text.flatMap (fun point => if point = 39 then [92, 39] else reprPoint point) ++ [39]

/-- Texts separated by commas. -/
def commaSeparated : List PyStr → PyStr
  | [] => []
  | [text] => text
  | text :: rest => text ++ 44 :: commaSeparated rest

mutual

/-- `json.dumps(value, sort_keys=True, separators=(",", ":"), ensure_ascii=False)`. -/
def dumps : Json → PyStr
  | .null => PyStr.ofString "null"
  | .bool true => PyStr.ofString "true"
  | .bool false => PyStr.ofString "false"
  | .int value => PyStr.ofString (toString value)
  | .float repr => PyStr.ofString repr
  | .str text => quote text
  | .list elements => 91 :: (commaSeparated (dumpsElements elements) ++ [93])
  | .dict members =>
      -- the member texts are written first and sorted by key afterwards
      let texts := SortedMap.ofList (dumpsMembers members)
      123 :: (commaSeparated (texts.items.map fun member => quote member.1 ++ 58 :: member.2) ++
        [125])

/-- The texts of the elements of a list. -/
def dumpsElements : List Json → List PyStr
  | [] => []
  | element :: rest => dumps element :: dumpsElements rest

/-- The keys of an object with the texts of their values. -/
def dumpsMembers : List (PyStr × Json) → List (PyStr × PyStr)
  | [] => []
  | (key, value) :: rest => (key, dumps value) :: dumpsMembers rest

end

mutual

/-- No string and no key of the document holds a surrogate. -/
def Encodable : Json → Prop
  | .null | .bool _ | .int _ | .float _ => True
  | .str text => PyStr.Encodable text
  | .list elements => ElementsEncodable elements
  | .dict members => MembersEncodable members

/-- All elements are. -/
def ElementsEncodable : List Json → Prop
  | [] => True
  | element :: rest => Encodable element ∧ ElementsEncodable rest

/-- All keys and values are. -/
def MembersEncodable : List (PyStr × Json) → Prop
  | [] => True
  | (key, value) :: rest => (PyStr.Encodable key ∧ Encodable value) ∧ MembersEncodable rest

end

mutual

/-- A decision procedure, by recursion on the document. -/
def decideEncodable : (value : Json) → Decidable (Encodable value)
  | .null | .bool _ | .int _ | .float _ => isTrue (by simp only [Encodable])
  | .str text => decidable_of_iff (PyStr.Encodable text) (by simp only [Encodable])
  | .list elements =>
      @decidable_of_iff _ (ElementsEncodable elements) (by simp only [Encodable])
        (decideElementsEncodable elements)
  | .dict members =>
      @decidable_of_iff _ (MembersEncodable members) (by simp only [Encodable])
        (decideMembersEncodable members)

/-- The same for a list of elements. -/
def decideElementsEncodable : (elements : List Json) → Decidable (ElementsEncodable elements)
  | [] => isTrue (by simp only [ElementsEncodable])
  | element :: rest =>
      have := decideEncodable element
      have := decideElementsEncodable rest
      decidable_of_iff (Encodable element ∧ ElementsEncodable rest)
        (by simp only [ElementsEncodable])

/-- The same for the members of an object. -/
def decideMembersEncodable : (members : List (PyStr × Json)) → Decidable (MembersEncodable members)
  | [] => isTrue (by simp only [MembersEncodable])
  | (key, value) :: rest =>
      have := decideEncodable value
      have := decideMembersEncodable rest
      decidable_of_iff ((PyStr.Encodable key ∧ Encodable value) ∧ MembersEncodable rest)
        (by simp only [MembersEncodable])

end

instance (value : Json) : Decidable value.Encodable := decideEncodable value

end Json

end Distsys
