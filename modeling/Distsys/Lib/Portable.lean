import Mathlib.Algebra.Group.Nat.Defs
import Mathlib.Data.Nat.Basic

/-!
# Values as bytes

A way to write the values of a type as bytes, so that a value can be read back from the
front of any bytes that start with it. There is one for bounded numbers, for subtypes, sums,
pairs and lists of what has one, and for every type whose values are made from such values.
-/

/-- A writer and a reader, of which the reader finds where the value ends. -/
structure Portable (α : Type) where
  put : α → List UInt8
  get : List UInt8 → Option (α × List UInt8)
  get_put : ∀ value rest, get (put value ++ rest) = some (value, rest)

namespace Portable

variable {α β : Type}

/-- The lowest bytes of a number, from the least significant one on. -/
def bytesOf : Nat → Nat → List UInt8
  | 0, _ => []
  | count + 1, value => UInt8.ofNat (value % 256) :: bytesOf count (value / 256)

/-- The number that the digits spell, lowest first. -/
def valueOf : List UInt8 → Nat
  | [] => 0
  | byte :: rest => byte.toNat + 256 * valueOf rest

theorem length_bytesOf (count value : Nat) : (bytesOf count value).length = count := by
  induction count generalizing value with
  | zero => rfl
  | succ count ih => rw [bytesOf, List.length_cons, ih]

/-- The bytes of a small number give it back. -/
theorem valueOf_bytesOf {count value : Nat} (small : value < 256 ^ count) :
    valueOf (bytesOf count value) = value := by
  induction count generalizing value with
  | zero =>
      rw [Nat.pow_zero, Nat.lt_one_iff] at small
      exact small.symm
  | succ count ih =>
      have byte : (UInt8.ofNat (value % 256)).toNat = value % 256 := by
        rw [UInt8.toNat_ofNat']
        omega
      rw [bytesOf, valueOf, byte, ih (by rw [Nat.pow_succ] at small; omega)]
      omega

/-- A number below a bound that fits eight bytes. -/
def number (bound : Nat) (fits : bound ≤ 256 ^ 8) : Portable (Fin bound) where
  put value := bytesOf 8 value
  get data :=
    if small : valueOf (data.take 8) < bound then some (⟨_, small⟩, data.drop 8) else none
  get_put value rest := by
    have front : (bytesOf 8 value ++ rest).take 8 = bytesOf 8 value :=
      List.take_left' (length_bytesOf 8 value)
    have back : (bytesOf 8 value ++ rest).drop 8 = rest :=
      List.drop_left' (length_bytesOf 8 value)
    have same : valueOf (bytesOf 8 value) = value := 
      valueOf_bytesOf (Nat.lt_of_lt_of_le value.isLt fits)
    simp only [front, back, same, value.isLt, dif_pos]

/-- The values of another type, each of which is made from one that can be written. -/
def retract (portable : Portable α) (take : β → α) (make : α → Option β)
    (inverse : ∀ value, make (take value) = some value) : Portable β where
  put value := portable.put (take value)
  get data := do
    let (parts, rest) ← portable.get data
    let value ← make parts
    return (value, rest)
  get_put value rest := by
    rw [portable.get_put]
    change (make (take value)).bind (fun value => some (value, rest)) = _
    rw [inverse]
    rfl

/-- Values with a property that can be checked. -/
def subtype (portable : Portable α) (property : α → Prop) [DecidablePred property] :
    Portable { value // property value } :=
  portable.retract Subtype.val
    (fun value => if holds : property value then some ⟨value, holds⟩ else none)
    fun value => dif_pos value.property

/-- One value after the other. -/
def pair (first : Portable α) (second : Portable β) : Portable (α × β) where
  put value := first.put value.1 ++ second.put value.2
  get data := do
    let (left, rest) ← first.get data
    let (right, rest) ← second.get rest
    return ((left, right), rest)
  get_put value rest := by
    rw [List.append_assoc, first.get_put]
    change (second.get (second.put value.2 ++ rest)).bind _ = _
    rw [second.get_put]
    rfl

/-- A value of either kind, after a tag. -/
def either (first : Portable α) (second : Portable β) : Portable (α ⊕ β) where
  put
    | .inl value => 0 :: first.put value
    | .inr value => 1 :: second.put value
  get
    | 0 :: data => (first.get data).map fun (value, rest) => (.inl value, rest)
    | 1 :: data => (second.get data).map fun (value, rest) => (.inr value, rest)
    | _ => none
  get_put
    | .inl value, rest => congrArg (Option.map _) (first.get_put value rest)
    | .inr value, rest => congrArg (Option.map _) (second.get_put value rest)

/-- The items of a list, each after a byte that announces it. -/
def putItems (item : Portable α) : List α → List UInt8
  | [] => [0]
  | value :: rest => 1 :: (item.put value ++ putItems item rest)

/-- Read items while they are announced, at most as many as the fuel allows. -/
def getItems (item : Portable α) : Nat → List UInt8 → Option (List α × List UInt8)
  | _ + 1, 0 :: data => some ([], data)
  | fuel + 1, 1 :: data => do
      let (value, data) ← item.get data
      let (values, data) ← getItems item fuel data
      return (value :: values, data)
  | _, _ => none

theorem length_le_putItems (item : Portable α) (values : List α) :
    values.length + 1 ≤ (putItems item values).length := by
  induction values with
  | nil => exact le_rfl
  | cons value rest ih =>
      rw [putItems, List.length_cons, List.length_cons, List.length_append]
      omega

/-- A list is read back with enough fuel. -/
theorem getItems_putItems (item : Portable α) {values : List α} {fuel : Nat}
    (enough : values.length + 1 ≤ fuel) (rest : List UInt8) :
    getItems item fuel (putItems item values ++ rest) = some (values, rest) := by
  induction values generalizing fuel with
  | nil =>
      obtain ⟨fuel, rfl⟩ := Nat.exists_eq_succ_of_ne_zero (Nat.ne_of_gt enough)
      rfl
  | cons value others ih =>
      obtain ⟨fuel, rfl⟩ := Nat.exists_eq_succ_of_ne_zero (Nat.ne_zero_of_lt enough)
      rw [putItems, List.cons_append, List.append_assoc]
      change (item.get (item.put value ++ _)).bind _ = _
      rw [item.get_put]
      change (getItems item fuel (putItems item others ++ rest)).bind _ = _
      rw [ih (Nat.le_of_succ_le_succ enough)]
      rfl

/-- A list, item by item. -/
def list (item : Portable α) : Portable (List α) where
  put := putItems item
  get data := getItems item data.length data
  get_put values rest := by
    refine getItems_putItems item (Nat.le_trans (length_le_putItems item values) ?_) rest
    rw [List.length_append]
    exact Nat.le_add_right _ _

end Portable
