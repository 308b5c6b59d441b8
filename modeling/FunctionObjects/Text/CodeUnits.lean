/-!
# Strings of UTF-16 code units

A string value of the language is a finite sequence of 16-bit code units. Well-formed text is one
kind of such sequence, but nothing forbids a surrogate that stands alone, and two strings are
equal only if their units are. `CodeUnits` is that type.

Text comes in by `CodeUnits.ofString`, the UTF-16 encoding, and goes out by `CodeUnits.toText`.
The way out is total: a surrogate without its partner is read as U+FFFD, each one separately.
Where the loss matters, `CodeUnits.text?` answers only if the units are the encoding of a text.
-/

namespace FunctionObjects

namespace Utf16

def unit (n : Nat) : UInt16 := UInt16.ofNat n

/-- The first half of a pair: 0xD800 to 0xDBFF. -/
def isHigh (u : UInt16) : Bool := 0xD800 ≤ u.toNat && u.toNat < 0xDC00

/-- The second half of a pair: 0xDC00 to 0xDFFF. -/
def isLow (u : UInt16) : Bool := 0xDC00 ≤ u.toNat && u.toNat < 0xE000

/-- What a surrogate without its partner is read as. -/
def replacement : Char := '\uFFFD'

/-- A character of the basic plane is one unit; any other is a pair that shares its offset from
U+10000 between ten high and ten low bits. -/
def encodeChar (c : Char) : List UInt16 :=
  if c.toNat < 0x10000 then [unit c.toNat]
  else
    let offset := c.toNat - 0x10000
    [unit (0xD800 + offset / 0x400), unit (0xDC00 + offset % 0x400)]

/-- The character that a high and a low surrogate stand for. -/
def pair (high low : UInt16) : Char :=
  Char.ofNat (0x10000 + (high.toNat - 0xD800) * 0x400 + (low.toNat - 0xDC00))

def encode (text : List Char) : List UInt16 := text.flatMap encodeChar

/-- The text of a sequence of units. A pair is one character, and each surrogate outside a pair
is one `replacement`. -/
def decode : List UInt16 → List Char
  | [] => []
  | u :: rest =>
    if isHigh u then
      match rest with
      | [] => [replacement]
      | v :: rest' =>
        if isLow v then pair u v :: decode rest' else replacement :: decode (v :: rest')
    else if isLow u then replacement :: decode rest
    else Char.ofNat u.toNat :: decode rest

/-- Whether the units are those of the text, read off character by character without building
the encoding of the whole. -/
def spells (units : List UInt16) : List Char → Bool
  | [] => units.isEmpty
  | c :: rest =>
    let first := encodeChar c
    first.isPrefixOf units && spells (units.drop first.length) rest

/-- The encoding of a text is the encodings of its parts, one after the other. -/
theorem encode_append (s t : List Char) : encode (s ++ t) = encode s ++ encode t :=
  List.flatMap_append

theorem encode_cons (c : Char) (rest : List Char) :
    encode (c :: rest) = encodeChar c ++ encode rest :=
  List.flatMap_cons

end Utf16

/-- A string value: a sequence of UTF-16 code units, surrogates not necessarily in pairs. -/
structure CodeUnits : Type where
  units : List UInt16 := []
deriving DecidableEq, Inhabited

namespace CodeUnits

def ofString (s : String) : CodeUnits := ⟨Utf16.encode s.toList⟩

/-- The text of the units, with U+FFFD for each surrogate outside a pair. -/
def toText (u : CodeUnits) : String := String.ofList (Utf16.decode u.units)

/-- The text whose encoding the units are, if they are well-formed. -/
def text? (u : CodeUnits) : Option String :=
  if ofString u.toText = u then some u.toText else none

def length (u : CodeUnits) : Nat := u.units.length

def isEmpty (u : CodeUnits) : Bool := u.units.isEmpty

/-- Whether the units are those of a text. Units are compared as they stand: nothing is
normalised, and no ill-formed sequence spells a text. -/
def spells (u : CodeUnits) (s : String) : Bool := Utf16.spells u.units s.toList

/-- Concatenation of units. A high surrogate at the end of the first part and a low one at the
start of the second become a pair. -/
instance : Append CodeUnits := ⟨fun a b => ⟨a.units ++ b.units⟩⟩

@[simp] theorem units_append (a b : CodeUnits) : (a ++ b).units = a.units ++ b.units := rfl

@[simp] theorem units_ofString (s : String) : (ofString s).units = Utf16.encode s.toList := rfl

end CodeUnits

end FunctionObjects
