/-! Reading bytes as UTF-8. Every stretch of bytes that begins a character without completing it,
and every byte that begins none, counts as one fault. -/

namespace StraightLine.Text

/-- A character of which `needed` more bytes are to come. The next one lies between `low` and
`high`, all others between 0x80 and 0xBF; `value` collects the bits. -/
structure Unfinished where
  value : Nat
  needed : Nat
  low : Nat
  high : Nat
  deriving DecidableEq, Repr

/-- What has been read before a byte: whole characters only, or part of one. -/
abbrev Utf8State := Option Unfinished

/-- Reads a byte between characters: what it settles and what it leaves open. A fault is `none`. -/
def beginChar (byte : Nat) : List (Option Char) × Utf8State :=
  if byte < 0x80 then ([some (Char.ofNat byte)], none)
  else if byte < 0xC2 then ([none], none)
  else if byte < 0xE0 then ([], some ⟨byte - 0xC0, 1, 0x80, 0xBF⟩)
  else if byte = 0xE0 then ([], some ⟨0, 2, 0xA0, 0xBF⟩)
  else if byte = 0xED then ([], some ⟨0xD, 2, 0x80, 0x9F⟩)
  else if byte < 0xF0 then ([], some ⟨byte - 0xE0, 2, 0x80, 0xBF⟩)
  else if byte = 0xF0 then ([], some ⟨0, 3, 0x90, 0xBF⟩)
  else if byte < 0xF4 then ([], some ⟨byte - 0xF0, 3, 0x80, 0xBF⟩)
  else if byte = 0xF4 then ([], some ⟨4, 3, 0x80, 0x8F⟩)
  else ([none], none)

/-- Reads a byte. One that does not continue an unfinished character ends it with a fault and is
then read as the start of the next. -/
def utf8Step (state : Utf8State) (byte : Nat) : List (Option Char) × Utf8State :=
  match state with
  | none => beginChar byte
  | some part =>
      if part.low ≤ byte ∧ byte ≤ part.high then
        let value := part.value * 64 + (byte - 0x80)
        if part.needed = 1 then ([some (Char.ofNat value)], none)
        else ([], some ⟨value, part.needed - 1, 0x80, 0xBF⟩)
      else
        let (settled, state) := beginChar byte
        (none :: settled, state)

/-- The characters and faults of bytes that come after `state`. -/
def utf8Chars (state : Utf8State) : List UInt8 → List (Option Char)
  | [] => if state.isSome then [none] else []
  | byte :: rest =>
      let (settled, state) := utf8Step state byte.toNat
      settled ++ utf8Chars state rest

/-- The text that bytes spell, with U+FFFD for every fault. -/
def lossyText (bytes : List UInt8) : String :=
  String.ofList ((utf8Chars none bytes).map (·.getD '�'))

/-- The text that bytes spell if they have no fault. -/
def exactText? (bytes : List UInt8) : Option String :=
  ((utf8Chars none bytes).mapM id).map String.ofList

def utf8Bytes (text : String) : List UInt8 :=
  text.toUTF8.data.toList

/-! Programs that work on bytes see a text as one character for every byte, so a byte that is part of
no character is kept as it is. -/

/-- Bytes as a text with one character for each. -/
def octetsOfBytes (bytes : List UInt8) : String :=
  String.ofList (bytes.map fun byte => Char.ofNat byte.toNat)

def bytesOfOctets (octets : String) : List UInt8 :=
  octets.toList.map fun c => UInt8.ofNat c.toNat

/-- A text by its bytes. -/
def octets (text : String) : String :=
  octetsOfBytes (utf8Bytes text)

/-- The text that octets spell, with U+FFFD for every fault. -/
def ofOctets (octets : String) : String :=
  lossyText (bytesOfOctets octets)

end StraightLine.Text
