import DynamicForms.Dictionary
import DynamicForms.Number.Binary64

/-!
# JSON values

A numeral is a whole number of the 64-bit ranges, kept exactly, or a number of the binary 64-bit
format; the two kinds stay apart, so that `1` and `1.0` differ.  Objects list their entries in
the order in which they are written.  `Value.sorted` puts all entries in the order of their keys,
and `Value.agrees` compares values the way rules do, where the two zeros are equal.
-/

set_option autoImplicit false

namespace DynamicForms.Json

/-- The whole numbers that are kept exactly: those of the signed and the unsigned 64-bit range. -/
abbrev FitsWord (n : Int) : Prop := -9223372036854775808 ≤ n ∧ n < 18446744073709551616

/-- A JSON number. -/
inductive Numeral where
  | whole (n : Int) (fits : FitsWord n)
  | real (x : Number.Binary64)
deriving DecidableEq, Repr

/-- A JSON value. -/
inductive Value where
  | null
  | boolean (b : Bool)
  | number (n : Numeral)
  | string (s : String)
  | array (items : List Value)
  | object (entries : List (String × Value))
deriving Repr, Inhabited

namespace Value

mutual
/-- Equality of values is decidable. -/
def decideEq : (a b : Value) → Decidable (a = b)
  | .null, .null => .isTrue rfl
  | .boolean a, .boolean b => if h : a = b then .isTrue (h ▸ rfl) else .isFalse (by simp [h])
  | .number a, .number b => if h : a = b then .isTrue (h ▸ rfl) else .isFalse (by simp [h])
  | .string a, .string b => if h : a = b then .isTrue (h ▸ rfl) else .isFalse (by simp [h])
  | .array a, .array b => match decideEqItems a b with
    | .isTrue h => .isTrue (h ▸ rfl)
    | .isFalse h => .isFalse (by simp [h])
  | .object a, .object b => match decideEqEntries a b with
    | .isTrue h => .isTrue (h ▸ rfl)
    | .isFalse h => .isFalse (by simp [h])
  | .null, .boolean _ | .null, .number _ | .null, .string _ | .null, .array _ | .null, .object _
  | .boolean _, .null | .boolean _, .number _ | .boolean _, .string _ | .boolean _, .array _
  | .boolean _, .object _
  | .number _, .null | .number _, .boolean _ | .number _, .string _ | .number _, .array _
  | .number _, .object _
  | .string _, .null | .string _, .boolean _ | .string _, .number _ | .string _, .array _
  | .string _, .object _
  | .array _, .null | .array _, .boolean _ | .array _, .number _ | .array _, .string _
  | .array _, .object _
  | .object _, .null | .object _, .boolean _ | .object _, .number _ | .object _, .string _
  | .object _, .array _ => .isFalse (by intro h; cases h)

/-- Equality of lists of values is decidable. -/
def decideEqItems : (a b : List Value) → Decidable (a = b)
  | [], [] => .isTrue rfl
  | [], _ :: _ | _ :: _, [] => .isFalse (by simp)
  | a :: as, b :: bs => match decideEq a b, decideEqItems as bs with
    | .isTrue h, .isTrue t => .isTrue (by rw [h, t])
    | .isFalse h, _ => .isFalse (by simp [h])
    | _, .isFalse t => .isFalse (by simp [t])

/-- Equality of lists of entries is decidable. -/
def decideEqEntries : (a b : List (String × Value)) → Decidable (a = b)
  | [], [] => .isTrue rfl
  | [], _ :: _ | _ :: _, [] => .isFalse (by simp)
  | (k, a) :: as, (l, b) :: bs =>
    match decEq k l, decideEq a b, decideEqEntries as bs with
    | .isTrue i, .isTrue h, .isTrue t => .isTrue (by rw [i, h, t])
    | .isFalse i, _, _ => .isFalse (by simp [i])
    | _, .isFalse h, _ => .isFalse (by simp [h])
    | _, _, .isFalse t => .isFalse (by simp [t])
end

instance : DecidableEq Value := decideEq

mutual
/-- The value with the entries of every object in the order of their keys. -/
def sorted : Value → Value
  | .array items => .array (sortedItems items)
  | .object entries => .object (collectEntries (sortedEntries entries))
  | v => v

/-- The items with the entries of every object in the order of their keys. -/
def sortedItems : List Value → List Value
  | [] => []
  | v :: rest => v.sorted :: sortedItems rest

/-- The entries, with those of every object below them in the order of their keys. -/
def sortedEntries : List (String × Value) → List (String × Value)
  | [] => []
  | (key, v) :: rest => (key, v.sorted) :: sortedEntries rest
end

end Value

/-- Numerals agree when they are equal and of one kind; the two zeros of the binary format
agree. -/
def Numeral.agrees : Numeral → Numeral → Bool
  | .whole m _, .whole n _ => m == n
  | .real x, .real y => x.toInt == y.toInt
  | _, _ => false

namespace Value

mutual
/-- Values agree when they are equal up to the sign of zeros. -/
def agrees : Value → Value → Bool
  | .null, .null => true
  | .boolean a, .boolean b => a == b
  | .number a, .number b => a.agrees b
  | .string a, .string b => a == b
  | .array a, .array b => agreeItems a b
  | .object a, .object b => agreeEntries a b
  | _, _ => false

/-- Lists of values agree item by item. -/
def agreeItems : List Value → List Value → Bool
  | [], [] => true
  | a :: as, b :: bs => agrees a b && agreeItems as bs
  | _, _ => false

/-- Lists of entries agree entry by entry. -/
def agreeEntries : List (String × Value) → List (String × Value) → Bool
  | [], [] => true
  | (k, a) :: as, (l, b) :: bs => k == l && agrees a b && agreeEntries as bs
  | _, _ => false
end

end Value

end DynamicForms.Json
