import HostCall.Library.Basic

/-!
# Integers in text

`parseInteger` reads an optional sign and ASCII digits or letters in a radix, within bounds; the
other members write integers.
-/

namespace HostCall

namespace Library

def intMin : Int := -2 ^ 31
def intMax : Int := 2 ^ 31 - 1
def longMin : Int := -2 ^ 63
def longMax : Int := 2 ^ 63 - 1

/-- ASCII digits and letters. -/
def isNumeralLetter (c : CodePoint) : Bool := c.digitValue?.isSome

/-- An optional sign before one or more digits or letters. -/
def isNumeralShape (t : Text) : Bool :=
  let body := (Literal.splitSign t).2
  body != [] && body.all isNumeralLetter

/-- The integer that a text writes in a radix, if it lies between the bounds. -/
def parseInteger (text : Option Text) (radix low high : Int) : Except HostError Int :=
  match text with
  | none => .error (.inputText "null")
  | some t =>
    if ¬(2 ≤ radix ∧ radix ≤ 36) then .error (.citing [radix] (.radixRange radix))
    else if !isNumeralShape t then .error (.inputText t)
    else do
      let n ← Value.readInteger radix.toNat t.quoted t
      if low ≤ n ∧ n ≤ high then return n else throw (.inputRange t)

/-- A text or null as an argument. -/
def textOrNull : Value → Except HostError (Option Text)
  | .null => .ok none
  | .text t => .ok (some t)
  | _ => .error (.raised .type "expected string or bytes-like object")

def parseIntegerValue (text radix : Value) (low high : Int) : Except HostError Int := do
  let radix ← radix.toInteger
  parseInteger (← textOrNull text) radix low high

/-- The numeral of an integer modulo `2 ^ bits`. -/
def unsignedNumeral (bits base : Nat) (n : Int) : Text :=
  Text.numeral base (n % (2 ^ bits : Nat)).toNat

/-- Members of boxed integers. -/
def integerMembers : List (Text × Member) := [
  ("parseInt", .variants "parseInt" [
    (["Ljava/lang/String;"], .unary "JavaInteger.parseInt" "text" fun t => HostM.scalar do
      return .int (Int32.ofInt (← parseIntegerValue t (.integer 10) intMin intMax))),
    (["Ljava/lang/String;", "I"], .binary "JavaInteger._parse_int_radix" "text" "radix" fun t r =>
      HostM.scalar do return .int (Int32.ofInt (← parseIntegerValue t r intMin intMax)))]),
  ("valueOf", .variants "valueOf" [
    (["I"], .unary "JavaInteger.valueOf" "value" fun v => HostM.integer v.toInteger),
    (["Ljava/lang/String;"], .unary "JavaInteger._value_of_string" "text" fun t =>
      HostM.integer (parseIntegerValue t (.integer 10) intMin intMax))]),
  ("toString", .variants "toString" [
    ([], .unary "JavaInteger.toString" "self" fun v => HostM.text do
      decimalText (← v.toInteger)),
    (["I"], .unary "JavaInteger._to_string_static" "value" fun v => HostM.text do
      decimalText (← v.toInteger))]),
  ("toHexString", .staticMethod (.unary "JavaInteger.toHexString" "value" fun v => HostM.text do
    return unsignedNumeral 32 16 (← v.toInteger))),
  ("toBinaryString", .staticMethod (.unary "JavaInteger.toBinaryString" "value" fun v =>
    HostM.text do return unsignedNumeral 32 2 (← v.toInteger))),
  ("intValue", .method (.unary "JavaInteger.intValue" "self" fun v => do
    return .scalar (← HostM.read fun h => HostM.narrow h .int v))),
  ("longValue", .method (.unary "JavaInteger.longValue" "self" fun v => do
    return .scalar (← HostM.read fun h => HostM.narrow h .long v)))]

/-- Members of boxed long integers. -/
def longMembers : List (Text × Member) := [
  ("parseLong", .variants "parseLong" [
    (["Ljava/lang/String;"], .unary "JavaLong.parseLong" "text" fun t => HostM.scalar do
      return .long (Int64.ofInt (← parseIntegerValue t (.integer 10) longMin longMax))),
    (["Ljava/lang/String;", "I"], .binary "JavaLong._parse_long_radix" "text" "radix" fun t r =>
      HostM.scalar do return .long (Int64.ofInt (← parseIntegerValue t r longMin longMax)))]),
  ("valueOf", .staticMethod (.unary "JavaLong.valueOf" "value" fun v =>
    HostM.integer v.toInteger)),
  ("toHexString", .staticMethod (.unary "JavaLong.toHexString" "value" fun v => HostM.text do
    return unsignedNumeral 64 16 (← v.toInteger)))]

end Library

end HostCall
