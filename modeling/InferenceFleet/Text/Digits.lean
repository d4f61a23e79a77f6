/-!
# Unsigned decimal numerals

Reading and writing of natural numbers in decimal. A numeral is one optional plus sign and at
least one ASCII digit; it is read only if its value fits the given bound. Writing gives no sign
and no leading zero, and reading back what was written gives the number.
-/

namespace InferenceFleet.Text

/-- The value of an ASCII digit. -/
def digit? (c : Char) : Option Nat :=
  if '0' ≤ c ∧ c ≤ '9' then some (c.toNat - '0'.toNat) else none

/-- The value of a hexadecimal digit, in either case. -/
def hexDigit? (c : Char) : Option Nat :=
  if '0' ≤ c ∧ c ≤ '9' then some (c.toNat - '0'.toNat)
  else if 'a' ≤ c ∧ c ≤ 'f' then some (c.toNat - 'a'.toNat + 10)
  else if 'A' ≤ c ∧ c ≤ 'F' then some (c.toNat - 'A'.toNat + 10)
  else none

/-- The number that a list of digits, most significant first, continues from `acc` in a base. -/
def ofDigits (base : Nat) (acc : Nat) (ds : List Nat) : Nat :=
  ds.foldl (fun n d => n * base + d) acc

/-- Every character as a digit, or nothing. -/
def digits? (cs : List Char) : Option (List Nat) :=
  cs.mapM digit?

/-- The number that a numeral without sign stands for, up to `bound`. -/
def readUnsigned? (bound : Nat) (cs : List Char) : Option Nat :=
  match cs with
  | [] => none
  | cs => do
      let n := ofDigits 10 0 (← digits? cs)
      if n ≤ bound then some n else none

/-- The number that a numeral stands for, up to `bound`. -/
def readNumeral? (bound : Nat) : List Char → Option Nat
  | '+' :: rest => readUnsigned? bound rest
  | cs => readUnsigned? bound cs

/-- The number that a text stands for, up to `bound`. -/
def readNat? (bound : Nat) (s : String) : Option Nat :=
  readNumeral? bound s.toList

/-- The numeral of a number. -/
def numeral (n : Nat) : String :=
  String.ofList (Nat.toDigits 10 n)

/-- The largest unsigned word of 16 bits. -/
def maxWord16 : Nat := 0xFFFF

/-- The largest unsigned word of 32 bits. -/
def maxWord32 : Nat := 0xFFFFFFFF

/-- The largest unsigned word of 64 bits. -/
def maxWord64 : Nat := 0xFFFFFFFFFFFFFFFF

/-- The largest signed word of 64 bits. -/
def maxSigned64 : Nat := 0x7FFFFFFFFFFFFFFF

end InferenceFleet.Text
