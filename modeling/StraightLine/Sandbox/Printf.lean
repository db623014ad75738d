import StraightLine.Sandbox.Numeral

/-! Printing with escapes and formats. Text is text of octets. -/

namespace StraightLine.Sandbox

def isOctal (c : Char) : Bool :=
  '0' ≤ c && c ≤ '7'

/-- The octet that a letter after a backslash stands for. -/
def escapedChar? : Char → Option Char
  | 'a' => some '\x07'
  | 'b' => some '\x08'
  | 'e' => some '\x1b'
  | 't' => some '\t'
  | 'n' => some '\n'
  | 'v' => some '\x0b'
  | 'f' => some '\x0c'
  | 'r' => some '\r'
  | '\\' => some '\\'
  | _ => none

/-- What a backslash before these characters stands for, and how many of them it takes. Up to three
octal digits make an octet, and a backslash before anything unknown stands for itself. -/
def readEscape (chars : List Char) : Char × Nat :=
  match chars with
  | [] => ('\\', 0)
  | c :: _ =>
      if isOctal c then
        let digits := (chars.take 3).takeWhile isOctal
        (Char.ofNat (digitsValue 8 digits % 256), digits.length)
      else
        match escapedChar? c with
        | some octet => (octet, 1)
        | none => ('\\', 0)

/-- The text that a text with escapes stands for, up to an escape that ends all output, and whether
there was one. Here a zero comes before octal digits; `skip` characters have been read already. -/
def unescape (skip : Nat) : List Char → List Char × Bool
  | [] => ([], false)
  | c :: rest =>
      match skip with
      | skip + 1 => unescape skip rest
      | 0 =>
          if c = '\\' then
            match rest with
            | 'c' :: _ => ([], true)
            | '0' :: digits =>
                let used := ((digits.take 3).takeWhile isOctal)
                let (text, stops) := unescape (used.length + 1) rest
                (Char.ofNat (digitsValue 8 used % 256) :: text, stops)
            | _ =>
                let (octet, used) := readEscape rest
                let (text, stops) := unescape used rest
                (octet :: text, stops)
          else
            let (text, stops) := unescape 0 rest
            (c :: text, stops)

/-- What words print, with blanks between them and a newline at the end unless the first word says
otherwise. -/
def echoText (words : List String) : String :=
  let (ending, words) :=
    match words with
    | "-n" :: words => ("", words)
    | words => ("\n", words)
  let add := fun (state : String × Bool × Bool) (word : String) =>
    let (text, stopped, later) := state
    if stopped then state
    else
      let (chars, stops) := unescape 0 word.toList
      ((if later then text ++ " " else text) ++ String.ofList chars, stops, true)
  let (text, stopped, _) := words.foldl add ("", false, false)
  if stopped then text else text ++ ending

structure Layout where
  flags : List Char := []
  width : Option Nat := none
  precision : Option Nat := none
  deriving DecidableEq, Repr

/-- A text brought to a width with blanks. -/
def Layout.pad (layout : Layout) (text : String) : String :=
  let fill := String.ofList (List.replicate (layout.width.getD 0 - text.length) ' ')
  if '-' ∈ layout.flags then text ++ fill else fill ++ text

/-- Digits after a sign, brought to a precision and a width. -/
def Layout.number (layout : Layout) (sign digits : String) : String :=
  let least := layout.precision.getD 1
  let digits := if layout.precision = some 0 ∧ digits = "0" then "" else digits
  let digits := String.ofList (List.replicate (least - digits.length) '0') ++ digits
  let zeros :=
    if '0' ∈ layout.flags ∧ '-' ∉ layout.flags ∧ layout.precision.isNone then
      layout.width.getD 0 - sign.length - digits.length
    else 0
  layout.pad (sign ++ String.ofList (List.replicate zeros '0') ++ digits)

def Layout.signed (layout : Layout) (n : Int) : String :=
  let sign :=
    if n < 0 then "-"
    else if '+' ∈ layout.flags then "+"
    else if ' ' ∈ layout.flags then " "
    else ""
  layout.number sign (toString n.natAbs)

/-- A number without a sign in the base that a letter names. -/
def Layout.unsigned (layout : Layout) (letter : Char) (n : Nat) : String :=
  let alternate := '#' ∈ layout.flags
  match letter with
  | 'o' =>
      let digits := String.ofList (Nat.toDigits 8 n)
      layout.number "" (if alternate ∧ n ≠ 0 then "0" ++ digits else digits)
  | 'x' =>
      layout.number (if alternate ∧ n ≠ 0 then "0x" else "") (String.ofList (Nat.toDigits 16 n))
  | 'X' =>
      layout.number (if alternate ∧ n ≠ 0 then "0X" else "")
        (String.ofList ((Nat.toDigits 16 n).map Char.toUpper))
  | _ => layout.number "" (toString n)

/-- A decimal fraction as a numerator over a power of ten, at the front of a text after a sign. -/
def fraction? (chars : List Char) : Option (Bool × Nat × Nat) :=
  let (negative, chars) :=
    match chars with
    | '-' :: rest => (true, rest)
    | '+' :: rest => (false, rest)
    | rest => (false, rest)
  let whole := chars.takeWhile Char.isDigit
  let (places, rest) :=
    match chars.drop whole.length with
    | '.' :: rest =>
        let places := rest.takeWhile Char.isDigit
        (places, rest.drop places.length)
    | rest => ([], rest)
  if (whole ++ places).isEmpty || !rest.isEmpty then none
  else some (negative, digitsValue 10 (whole ++ places), places.length)

/-- A decimal fraction with a set number of places, a half going to the even neighbour. -/
def Layout.fixed (layout : Layout) (negative : Bool) (numerator scale : Nat) : String :=
  let places := layout.precision.getD 6
  let scaled := numerator * Nat.pow 10 places
  let unit := Nat.pow 10 scale
  let quotient := scaled / unit
  let twice := 2 * (scaled % unit)
  let rounded :=
    if unit < twice ∨ (twice = unit ∧ quotient % 2 = 1) then quotient + 1 else quotient
  let digits := toString rounded
  let digits := String.ofList (List.replicate (places + 1 - digits.length) '0') ++ digits
  let point := digits.length - places
  let text :=
    if places = 0 then digits
    else (digits.take point).copy ++ "." ++ (digits.drop point).copy
  let sign :=
    if negative then "-"
    else if '+' ∈ layout.flags then "+"
    else if ' ' ∈ layout.flags then " "
    else ""
  let plain := { layout with precision := none }
  plain.number sign text

/-- A print under way: what it has printed, the words that are left for it, its complaints, and
whether it has ended, be it for a reason that ends it as a failure. -/
structure Printing where
  text : String := ""
  words : List String := []
  complaints : List String := []
  ended : Bool := false
  fault : Option String := none
  deriving DecidableEq, Repr

namespace Printing

def add (printing : Printing) (text : String) : Printing :=
  { printing with text := printing.text ++ text }

/-- The next word, empty if there is none. -/
def word (printing : Printing) : String × Printing :=
  (printing.words.headD "", { printing with words := printing.words.tail })

/-- The next word as a number in a range. A quote in front of a character asks for its code. -/
def number (printing : Printing) (least greatest : Int) : Int × Printing :=
  match printing.words with
  | [] => (0, printing)
  | word :: rest =>
      let next := { printing with words := rest }
      let complain := fun (reason : String) =>
        { next with complaints := next.complaints ++ [word ++ ": " ++ reason] }
      match word.toList with
      | [] => (0, next)
      | '\'' :: after => ((after.headD '\x00').toNat, next)
      | '"' :: after => ((after.headD '\x00').toNat, next)
      | chars =>
          match leadingNumber? chars with
          | none => (0, complain "expected numeric value")
          | some (n, after) =>
              if !after.isEmpty then (n, complain "not completely converted")
              else if greatest < n then (greatest, complain "Numerical result out of range")
              else if n < least then (least, complain "Numerical result out of range")
              else (n, next)

/-- Prints the next word, or words, by a directive. -/
def convert (printing : Printing) (layout : Layout) (letter : Char) : Printing :=
  match letter with
  | 's' =>
      let (word, next) := printing.word
      let text :=
        match layout.precision with
        | some n => (word.take n).copy
        | none => word
      next.add (layout.pad text)
  | 'b' =>
      let (word, next) := printing.word
      let (chars, stops) := unescape 0 word.toList
      let text := String.ofList chars
      let text :=
        match layout.precision with
        | some n => (text.take n).copy
        | none => text
      { next.add (layout.pad text) with ended := stops }
  | 'c' =>
      let (word, next) := printing.word
      next.add (layout.pad (word.toList.headD '\x00').toString)
  | 'f' =>
      let (word, next) := printing.word
      if word.isEmpty then next.add (layout.fixed false 0 0)
      else
        match fraction? word.toList with
        | some (negative, numerator, scale) => next.add (layout.fixed negative numerator scale)
        | none =>
            { next.add (layout.fixed false 0 0) with
              complaints := next.complaints ++ [word ++ ": expected numeric value"] }
  | letter =>
      if letter = 'd' ∨ letter = 'i' then
        let (n, next) := printing.number leastNumber greatestNumber
        next.add (layout.signed n)
      else
        let size : Int := 18446744073709551616
        let (n, next) := printing.number (1 - size) (size - 1)
        next.add (layout.unsigned letter (n % size).toNat)

/-- A width or precision that is written out or taken from the next word, and what comes after it.
-/
def measure (printing : Printing) (format : List Char) : Option Int × Printing × List Char :=
  match format with
  | '*' :: rest =>
      let (n, next) := printing.number leastNumber greatestNumber
      (some n, next, rest)
  | format =>
      let digits := format.takeWhile Char.isDigit
      (if digits.isEmpty then none else some (digitsValue 10 digits : Int), printing,
        format.drop digits.length)

/-- Prints by one directive, whose percent sign has been read, and gives what comes after it. -/
def directive (printing : Printing) (format : List Char) : Printing × List Char :=
  let flags := format.takeWhile (· ∈ ['#', '-', '+', ' ', '0'])
  let (width, printing, rest) := printing.measure (format.drop flags.length)
  let (precision, printing, rest) : Option Int × Printing × List Char :=
    match rest with
    | '.' :: rest =>
        let (precision, printing, rest) := printing.measure rest
        (some (precision.getD 0), printing, rest)
    | rest => (none, printing, rest)
  let flags := if width.any (· < 0) then '-' :: flags else flags
  let layout : Layout :=
    { flags
      width := width.map Int.natAbs
      precision := precision.bind fun n => if n < 0 then none else some n.toNat }
  match rest with
  | [] => ({ printing with ended := true, fault := some "missing format character" }, [])
  | letter :: rest =>
      if letter ∈ ['s', 'b', 'c', 'd', 'i', 'o', 'u', 'x', 'X', 'f'] then
        if max (layout.width.getD 0) (layout.precision.getD 0) > 2147483647 then
          ({ printing with ended := true, fault := some "xvsnprintf failed" }, [])
        else (printing.convert layout letter, rest)
      else
        let shown := String.ofList ('%' :: format.take (format.length - rest.length))
        ({ printing with ended := true, fault := some (shown ++ ": invalid directive") }, [])

def pass (fuel : Nat) (printing : Printing) (format : List Char) : Printing :=
  match fuel, format with
  | 0, _ => printing
  | _, [] => printing
  | fuel + 1, '\\' :: rest =>
      let (octet, used) := readEscape rest
      pass fuel (printing.add octet.toString) (rest.drop used)
  | fuel + 1, '%' :: '%' :: rest => pass fuel (printing.add "%") rest
  | fuel + 1, '%' :: rest =>
      let (printing, rest) := printing.directive rest
      if printing.ended then printing else pass fuel printing rest
  | fuel + 1, c :: rest => pass fuel (printing.add c.toString) rest

/-- Prints by a format as often as it takes up words. -/
def passes (fuel : Nat) (format : List Char) (printing : Printing) : Printing :=
  match fuel with
  | 0 => printing
  | fuel + 1 =>
      let next := pass (format.length + 1) printing format
      if next.ended || next.words.isEmpty || next.words.length = printing.words.length then next
      else passes fuel format next

end Printing

def printf (format : String) (words : List String) : Printing :=
  Printing.passes (words.length + 1) format.toList { words }

end StraightLine.Sandbox
