import RenderCore.Number.Shortest
import RenderCore.Text.GraphemeExtend
namespace RenderCore.Document

inductive Found where
  | unsigned (n : Nat)
  | signed (i : Int)
  | float (f : Float)
  | text (s : String)
  | boolean (b : Bool)
  | null
  | sequence
  | map

-- Grapheme extenders and characters that are not printable are written as `\u{hex}`.
def quoted (s : String) : String :=
  let body := s.toList.map fun c =>
    if c = '"' then "\\\""
    else if c = '\\' then "\\\\"
    else if c = '\n' then "\\n"
    else if c = '\r' then "\\r"
    else if c = '\t' then "\\t"
    else if c = '\x00' then "\\0"
    -- a grapheme extender would attach to the character written before it
    else if Text.isGraphemeExtender c || !Text.isPrintable c then
      "\\u\x7b" ++ String.ofList (Nat.toDigits 16 c.toNat) ++ "\x7d"
    else c.toString
  "\"" ++ String.join body ++ "\""

-- Numbers in messages: the shortest digits, positional from `1e-5` up to below `1e16` with `.0` on
-- integers, otherwise one digit before the point and an exponent such as `1e+16` or `1.5e-7`.
def floatLayout : Shortest.Layout :=
  { positionalAbove := -5, positionalUpTo := 16, pointZero := true, exponentPlus := true }

def floatText (f : Float) : String :=
  Shortest.text floatLayout f

def Found.describe : Found → String
  | .unsigned n => s!"integer `{n}`"
  | .signed i => s!"integer `{i}`"
  | .float f => "floating point `" ++ floatText f ++ "`"
  | .text s => "string " ++ quoted s
  | .boolean b => s!"boolean `{b}`"
  | .null => "null"
  | .sequence => "sequence"
  | .map => "map"

inductive Problem where
  | eofValue
  | eofString
  | eofObject
  | eofList
  | expectedColon
  | expectedListEnd
  | expectedObjectEnd
  | expectedIdent
  | expectedValue
  | invalidEscape
  | invalidNumber
  | numberOutOfRange
  | controlCharacter
  | loneSurrogate
  | unexpectedHexEnd
  | keyNotString
  | trailingComma
  | trailingCharacters
  | recursionLimit
  | invalidType (found : Found) (expected : String)
  | invalidValue (found : Found) (expected : String)
  | duplicateField (name : String)
  | invalidLength (n : Nat) (expected : String)

def Problem.message : Problem → String
  | .eofValue => "EOF while parsing a value"
  | .eofString => "EOF while parsing a string"
  | .eofObject => "EOF while parsing an object"
  | .eofList => "EOF while parsing a list"
  | .expectedColon => "expected `:`"
  | .expectedListEnd => "expected `,` or `]`"
  | .expectedObjectEnd => "expected `,` or `\x7d`"
  | .expectedIdent => "expected ident"
  | .expectedValue => "expected value"
  | .invalidEscape => "invalid escape"
  | .invalidNumber => "invalid number"
  | .numberOutOfRange => "number out of range"
  | .controlCharacter => "control character (\\u0000-\\u001F) found while parsing a string"
  | .loneSurrogate => "lone leading surrogate in hex escape"
  | .unexpectedHexEnd => "unexpected end of hex escape"
  | .keyNotString => "key must be a string"
  | .trailingComma => "trailing comma"
  | .trailingCharacters => "trailing characters"
  | .recursionLimit => "recursion limit exceeded"
  | .invalidType found expected => s!"invalid type: {found.describe}, expected {expected}"
  | .invalidValue found expected => s!"invalid value: {found.describe}, expected {expected}"
  | .duplicateField name => "duplicate field `" ++ name ++ "`"
  | .invalidLength n expected => s!"invalid length {n}, expected {expected}"

end RenderCore.Document
