import Mathlib.Algebra.GroupWithZero.Nat
import Mathlib.Data.List.Lex

/-!
# Python strings and exceptions

A Python `str` is a sequence of code points, lone surrogates included, compared
code point by code point. UTF-8 covers the strings without surrogates only, so
encoding is partial; the wire and the database both depend on that difference.
-/

namespace Distsys

/-- A Unicode code point, surrogates included. -/
abbrev CodePoint := Fin 0x110000

instance neZeroCodePoints : NeZero 0x110000 := ⟨by decide⟩

/-- A Python `str`, ordered lexicographically by code point. -/
abbrev PyStr := List CodePoint

instance : LawfulBEq PyStr := inferInstance

/-- The error codes of the wire protocol that this development uses. -/
inductive ErrorCode
  | invalidRequest
  | internalError
  | timeout
  | noRoute
  | peerUnavailable
  | causalUnavailable
  | replicationBackpressure
  | keyNotFound
  | persistenceUnavailable
  | persistenceBackpressure
  deriving DecidableEq, Repr

/-- The exception classes that the modelled functions raise or catch. -/
inductive ErrorKind
  | typeError
  | valueError
  | keyError
  | runtimeError
  | assertionError
  | decodeError
  | noRouteError
  | causalUnavailable
  | replicationBackpressure
  | persistenceBackpressure
  | persistenceUnavailable
  | deadlineExceeded
  | connectionError
  | structError
  | crdtRemoteError (code : ErrorCode)
  deriving DecidableEq, Repr

/-- A raised exception: its class and the text that it is raised with. -/
structure PyError where
  kind : ErrorKind
  message : String := ""
  deriving DecidableEq, Repr

/-- Every raised class is an `Exception`; these are the ones `except (ConnectionError,
TimeoutError, OSError)` catches. -/
def PyError.isTransport (error : PyError) : Bool :=
  match error.kind with
  | .connectionError | .deadlineExceeded => true
  | _ => false

/-- A surrogate code point, which UTF-8 cannot encode. -/
def CodePoint.IsSurrogate (point : CodePoint) : Prop := 0xD800 ≤ point.val ∧ point.val ≤ 0xDFFF

instance (point : CodePoint) : Decidable point.IsSurrogate :=
  inferInstanceAs (Decidable (_ ∧ _))

/-- The string has a UTF-8 encoding. -/
def PyStr.Encodable (text : PyStr) : Prop := ∀ point ∈ text, ¬ CodePoint.IsSurrogate point

instance (text : PyStr) : Decidable (PyStr.Encodable text) :=
  List.decidableBAll (fun point => ¬ CodePoint.IsSurrogate point) text

/-- A text of one letter is not empty. -/
theorem PyStr.letter_ne_nil (letter : CodePoint) : ([letter] : PyStr) ≠ [] := List.cons_ne_nil _ _

/-- The character of a code point; surrogates have none and are never asked for. -/
def CodePoint.toChar (point : CodePoint) : Char := Char.ofNat point.val

/-- The code point of a character. -/
def CodePoint.ofChar (char : Char) : CodePoint :=
  ⟨char.toNat, by
    rcases char.valid with below | ⟨_, below⟩
    · exact below.trans (by decide)
    · exact below⟩

/-- `text.encode("utf-8")`. -/
def encodeUtf8 (text : PyStr) : Except PyError ByteArray :=
  if PyStr.Encodable text then
    .ok (String.ofList (text.map CodePoint.toChar)).toByteArray
  else
    .error ⟨.valueError, "surrogates not allowed"⟩

/-- `data.decode("utf-8")`. -/
def decodeUtf8 (data : ByteArray) : Except PyError PyStr :=
  match String.fromUTF8? data with
  | some text => .ok (text.toList.map CodePoint.ofChar)
  | none => .error ⟨.valueError, "invalid UTF-8"⟩

theorem CodePoint.ofChar_toChar {point : CodePoint} (scalar : ¬ point.IsSurrogate) :
    CodePoint.ofChar point.toChar = point := by
  have valid : point.val.isValidChar := by
    have bound := point.isLt
    unfold IsSurrogate at scalar
    unfold Nat.isValidChar
    omega
  refine Fin.ext ?_
  change (Char.ofNat point.val).toNat = point.val
  rw [Char.ofNat, dif_pos valid]
  rfl

/-- Encoding succeeds exactly on the strings without surrogates. -/
theorem encodeUtf8_isOk_iff (text : PyStr) :
    (encodeUtf8 text).isOk = true ↔ PyStr.Encodable text := by
  unfold encodeUtf8
  split
  · next encodable => exact iff_of_true rfl encodable
  · next unencodable => exact iff_of_false Bool.false_ne_true unencodable

theorem encodeUtf8_of_encodable {text : PyStr} (encodable : PyStr.Encodable text) :
    encodeUtf8 text = .ok (String.ofList (text.map CodePoint.toChar)).toByteArray :=
  if_pos encodable

/-- Decoding what was encoded gives the string back. -/
theorem decodeUtf8_of_encodeUtf8 {text : PyStr} {data : ByteArray}
    (encoded : encodeUtf8 text = .ok data) : decodeUtf8 data = .ok text := by
  unfold encodeUtf8 at encoded
  split at encoded
  · next encodable =>
    cases encoded
    have valid : String.fromUTF8? (String.ofList (text.map CodePoint.toChar)).toByteArray =
        some (String.ofList (text.map CodePoint.toChar)) := by
      simp only [String.fromUTF8?, String.fromUTF8, String.isValidUTF8, ↓reduceDIte]
    unfold decodeUtf8
    simp only [valid, String.toList_ofList, List.map_map]
    refine congrArg Except.ok ((List.map_congr_left
      fun point member => ?_).trans (List.map_id text))
    exact CodePoint.ofChar_toChar (encodable point member)
  · cases encoded

end Distsys
