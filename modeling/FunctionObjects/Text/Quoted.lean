import FunctionObjects.Text.Unicode.GraphemeExtend
import FunctionObjects.Text.Unicode.Unprintable

/-!
# Quoted text

The form in which listings and summaries show a name: between double quotes, on one line, with
every character visible. A quote and a backslash are escaped, four control characters have
letters of their own, and a character that would not show, or that would attach itself to its
neighbour, is given by its number.

Two Unicode properties say which characters these are, each with a correction. Fillers are letters,
but letters without a shape, and so they do not show. The two halfwidth voicing marks of katakana
extend the character before them, but take a place of their own beside it, and so they do show.
-/

namespace FunctionObjects.Quoted

open Text

/-- The number of a character in braces, in lower-case hexadecimal digits without padding. -/
def byNumber (c : Char) : String :=
  "\\u\x7b" ++ String.ofList (Nat.toDigits 16 c.toNat) ++ "\x7d"

/-- The fillers of the Korean alphabet: letters that stand for a missing part of a syllable and are
not displayed. -/
def isFiller (c : Char) : Bool := c == '\u115F' || c == '\u1160' || c == '\u3164' || c == '\uFFA0'

/-- The halfwidth katakana marks for a voiced and a half-voiced sound. -/
def isVoicingMark (c : Char) : Bool := c == '\uFF9E' || c == '\uFF9F'

/-- Whether a character by itself shows nothing. -/
def isInvisible (c : Char) : Bool := CodePoints.unprintable.contains c || isFiller c

/-- Whether a character has no place of its own, but is drawn onto the one before. -/
def attaches (c : Char) : Bool := CodePoints.graphemeExtend.contains c && !isVoicingMark c

/-- One character inside the quotes. -/
def escape (c : Char) : String :=
  if c = '\x00' then "\\0"
  else if c = '\t' then "\\t"
  else if c = '\r' then "\\r"
  else if c = '\n' then "\\n"
  else if c = '"' then "\\\""
  else if c = '\\' then "\\\\"
  else if attaches c || isInvisible c then byNumber c
  else c.toString

/-- A text between quotes. -/
def quote (s : String) : String := "\"" ++ String.join (s.toList.map escape) ++ "\""

/-- Several texts, each quoted, in brackets. -/
def quoteAll (texts : List String) : String :=
  "[" ++ String.intercalate ", " (texts.map quote) ++ "]"

end FunctionObjects.Quoted
