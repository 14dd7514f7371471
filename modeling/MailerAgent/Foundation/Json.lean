import Mathlib.Data.Rat.Defs
import Mathlib.Algebra.Order.Ring.Rat
import Mathlib.Data.Nat.Log

/-!
# JSON values and floats of Python

The values that `json.loads` returns, with the truth value and the conversion to a float
of Python. A float is an exact number, an infinity or not a number; `json.loads` accepts
the tokens for the last two.
-/

namespace MailerAgent

/-- A float. -/
inductive PyFloat where
  | finite (value : ℚ)
  | infinity (negative : Bool)
  | nan
  deriving DecidableEq, Repr

namespace PyFloat

/-- `value < bound`, which is false for what is not a number. -/
def lessThan : PyFloat → ℚ → Bool
  | finite value, bound => value < bound
  | infinity negative, _ => negative
  | nan, _ => false

/-- A number that is at least the bound. -/
def AtLeast (bound : ℚ) : PyFloat → Prop
  | finite value => bound ≤ value
  | infinity negative => negative = false
  | nan => False

theorem not_atLeast_nan {bound : ℚ} : ¬AtLeast bound nan := id

/-- The test that a float is not too small accepts the numbers that are not, and what is
not a number. -/
theorem lessThan_eq_false_iff
    {number : PyFloat}
    {bound : ℚ} :
    number.lessThan bound = false ↔ number.AtLeast bound ∨ number = nan := by
  cases number with
  | finite value => simp [lessThan, AtLeast]
  | infinity negative => simp [lessThan, AtLeast]
  | nan => simp [lessThan]

end PyFloat

/-- A natural number rounded to 53 significant bits, ties to even. -/
def roundToDouble (number : Nat) : Nat :=
  let unit := 2 ^ (Nat.log2 number + 1 - 53)
  let quotient := number / unit
  let remainder := number % unit
  if 2 * remainder < unit ∨ (2 * remainder = unit ∧ quotient % 2 = 0) then quotient * unit
  else (quotient + 1) * unit

/-- `float(number)` of an integer. -/
def floatOfInt (number : Int) : Except String PyFloat :=
  let magnitude := roundToDouble number.natAbs
  if 2 ^ 1024 ≤ magnitude then .error "OverflowError"
  else .ok (.finite (number.sign * magnitude))

/-- A value of `json.loads`. -/
inductive Json where
  | null
  | bool (value : Bool)
  | int (value : Int)
  | float (value : PyFloat)
  | string (value : String)
  | array (elements : List Json)
  | object (members : List (String × Json))

/-- Functions of Python on texts and values, and of `datetime`. -/
structure PyFunctions where
  /-- `float` of a text. -/
  floatOfText : String → Option PyFloat
  /-- `str`. -/
  str : Json → String
  /-- A float with two decimals. -/
  twoDecimals : PyFloat → String
  /-- `datetime.fromisoformat`, UTC without a time zone. -/
  instantOfText : String → Option Int

namespace Json

/-- The truth value. -/
def truth : Json → Bool
  | null => false
  | bool value => value
  | int value => value != 0
  | float value => value != .finite 0
  | string value => value != ""
  | array elements => !elements.isEmpty
  | object members => !members.isEmpty

/-- `value or None`. -/
def orNone (value : Json) : Option Json :=
  if value.truth then some value else none

/-- `float(value)`. -/
def toFloat (functions : PyFunctions) : Json → Except String PyFloat
  | null => .error "TypeError"
  | bool value => .ok (.finite (if value then 1 else 0))
  | int value => floatOfInt value
  | float value => .ok value
  | string value =>
      match functions.floatOfText value with
      | some number => .ok number
      | none => .error "ValueError"
  | array _ => .error "TypeError"
  | object _ => .error "TypeError"

/-- The member of a dictionary, if there is one. -/
def member
    (members : List (String × Json))
    (name : String) : Option Json :=
  (members.find? fun entry => entry.1 == name).map Prod.snd

/-- `response.get(name, default)`. -/
def getD
    (members : List (String × Json))
    (name : String)
    (default : Json) : Json :=
  (member members name).getD default

/-- `response.get(name)`. -/
def get
    (members : List (String × Json))
    (name : String) : Json :=
  getD members name .null

/-- The elements of an iteration. -/
def iterate : Json → Except String (List Json)
  | string value => .ok (value.toList.map fun character => .string (String.singleton character))
  | array elements => .ok elements
  | object members => .ok (members.map fun entry => .string entry.1)
  | _ => .error "TypeError"

/-- The iteration over `value or []`. -/
def iterateOrEmpty (value : Json) : Except String (List Json) :=
  match value.orNone with
  | some present => present.iterate
  | none => .ok []

end Json
end MailerAgent
