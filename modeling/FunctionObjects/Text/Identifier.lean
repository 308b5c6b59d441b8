import FunctionObjects.Text.Unicode.IdentifierStart
import FunctionObjects.Text.Unicode.IdentifierExtra

/-!
# Names

Which texts may name a function or a parameter. A name is not empty; it begins with a letter, `_`
or `$` and goes on with letters, digits, marks, `_`, `$` and the two joiners. The rule for ASCII
is written out here; beyond ASCII an alphabet decides. Names are those by the alphabet of Unicode,
which is made of the properties XID_Start and XID_Continue.
-/

namespace FunctionObjects

/-- Which characters may begin a name, and which may follow in one. An alphabet is asked about
characters beyond ASCII only. -/
structure Alphabet : Type where
  starts : Char → Bool
  continues : Char → Bool

namespace Alphabet

open Text

/-- The alphabet of Unicode. -/
def unicode : Alphabet where
  starts c := CodePoints.identifierStart.contains c
  continues c := CodePoints.identifierStart.contains c || CodePoints.identifierExtra.contains c

/-- Whether a character lies beyond ASCII. -/
def isWide (c : Char) : Bool := 0x80 ≤ c.toNat

/-- Characters that may begin a name. -/
def isStart (a : Alphabet) (c : Char) : Bool :=
  c == '_' || c == '$' || c.isAlpha || (isWide c && a.starts c)

/-- Characters that may follow in a name: those that may begin one, digits, marks, and the
zero-width joiner and non-joiner. -/
def isPart (a : Alphabet) (c : Char) : Bool :=
  c == '_' || c == '$' || c.isAlphanum ||
    (isWide c && (a.continues c || c == '\u200C' || c == '\u200D'))

def isNameChars (a : Alphabet) : List Char → Bool
  | [] => false
  | c :: rest => a.isStart c && rest.all a.isPart

def isName (a : Alphabet) (s : String) : Bool := a.isNameChars s.toList

end Alphabet

def Identifier.isName (s : String) : Bool := Alphabet.unicode.isName s

end FunctionObjects
