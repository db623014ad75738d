/-! Numbers in the text of scripts: decimal, octal after a zero, hexadecimal after `0x`, in 64 bits
with a sign. -/

namespace StraightLine.Sandbox

def leastNumber : Int := -9223372036854775808

def greatestNumber : Int := 9223372036854775807

/-- A number brought into 64 bits with a sign. -/
def wrapNumber (n : Int) : Int :=
  Int.bmod n 18446744073709551616

/-- The value of a digit in a base up to sixteen. -/
def digitValue? (base : Nat) (c : Char) : Option Nat :=
  let value :=
    if c.isDigit then c.toNat - '0'.toNat
    else if 'a' ≤ c ∧ c ≤ 'f' then c.toNat - 'a'.toNat + 10
    else if 'A' ≤ c ∧ c ≤ 'F' then c.toNat - 'A'.toNat + 10
    else base
  if value < base then some value else none

def digitsValue (base : Nat) (digits : List Char) : Nat :=
  digits.foldl (fun n c => n * base + (digitValue? base c).getD 0) 0

def leadingDigits (base : Nat) (chars : List Char) : List Char :=
  chars.takeWhile fun c => (digitValue? base c).isSome

/-- The number at the front of a text without a sign, and what comes after it. Nothing if no digit
comes first. -/
def magnitude? (chars : List Char) : Option (Nat × List Char) :=
  let hexadecimal :=
    match chars with
    | '0' :: x :: rest =>
        if x = 'x' ∨ x = 'X' then
          let digits := leadingDigits 16 rest
          if digits.isEmpty then none
          else some (digitsValue 16 digits, rest.drop digits.length)
        else none
    | _ => none
  match hexadecimal with
  | some found => some found
  | none =>
      let base := if chars.head? = some '0' then 8 else 10
      let digits := leadingDigits base chars
      if digits.isEmpty then none
      else some (digitsValue base digits, chars.drop digits.length)

/-- Whether a character is a blank to those who read numbers. -/
def isSpaceChar (c : Char) : Bool :=
  c == ' ' || (9 ≤ c.toNat && c.toNat ≤ 13)

/-- The number at the front of a text after blanks and a sign, and what comes after it. -/
def leadingNumber? (chars : List Char) : Option (Int × List Char) :=
  match chars.dropWhile isSpaceChar with
  | '-' :: rest => (magnitude? rest).map fun (n, rest) => (-(n : Int), rest)
  | '+' :: rest => (magnitude? rest).map fun (n, rest) => ((n : Int), rest)
  | rest => (magnitude? rest).map fun (n, rest) => ((n : Int), rest)

/-- The number that a whole text stands for, in decimal only. -/
def decimal? (text : String) : Option Int :=
  let chars := text.toList.dropWhile isSpaceChar
  let (negative, digits) :=
    match chars with
    | '-' :: rest => (true, rest)
    | '+' :: rest => (false, rest)
    | rest => (false, rest)
  let number := digits.takeWhile Char.isDigit
  let after := (digits.drop number.length).dropWhile isSpaceChar
  if number.isEmpty || !after.isEmpty then none
  else
    let n : Int := digitsValue 10 number
    let n := if negative then -n else n
    if n < leastNumber ∨ greatestNumber < n then none else some n

end StraightLine.Sandbox
