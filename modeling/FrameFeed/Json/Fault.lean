import FrameFeed.Json.Printer
import FrameFeed.Text.Quoted
/-!
# Why a JSON document is refused

A document can be ill-formed, or well-formed and not of the expected shape. `Fault.message` is the
wording of both.
-/
namespace FrameFeed.Json

/-- What stands in a document where something else was expected. -/
inductive Found where
  | null
  | bool (b : Bool)
  | int (i : Int)
  | double (b : Binary64)
  | text (s : String)
  | list
  | map
deriving DecidableEq, Repr

/-- A name between grave accents. -/
def ticked (s : String) : String := "`" ++ s ++ "`"

def Found.message : Found → String
  | .null => "null"
  | .bool b => "boolean " ++ ticked (if b then "true" else "false")
  | .int i => "integer " ++ ticked (Bytes.text (printInt i))
  | .double b => "floating point " ++ ticked (Bytes.text (printDouble b))
  | .text s => "string " ++ Text.quote s
  | .list => "sequence"
  | .map => "map"

def Number.found : Number → Found
  | .int i => .int i
  | .double b => .double b

def found : Json → Found
  | .null => .null
  | .bool b => .bool b
  | .num n => n.found
  | .str s => .text s
  | .arr _ => .list
  | .obj _ => .map

inductive Fault where
  -- the document ends too soon
  | endInList
  | endInObject
  | endInText
  | endInValue
  -- something else should stand here
  | noColon
  | noListEnd
  | noObjectEnd
  | noWord
  | noValue
  | keyNotText
  | trailingComma
  | trailingText
  -- a text or a number is ill-formed
  | badEscape
  | shortEscape
  | loneSurrogate
  | badUtf8
  | controlCharacter
  | badNumber
  | numberOutOfRange
  | tooDeep
  -- the shape is not the expected one
  | wrongType (found : Found) (expected : String)
  | wrongValue (found : Found) (expected : String)
  | wrongLength (n : Nat) (expected : String)
  | unknownName (name : String) (known : List String)
  | missingField (name : String)
  | repeatedField (name : String)
deriving DecidableEq, Repr

def Fault.message : Fault → String
  | .endInList => "EOF while parsing a list"
  | .endInObject => "EOF while parsing an object"
  | .endInText => "EOF while parsing a string"
  | .endInValue => "EOF while parsing a value"
  | .noColon => "expected " ++ ticked ":"
  | .noListEnd => "expected " ++ ticked "," ++ " or " ++ ticked "]"
  | .noObjectEnd => "expected " ++ ticked "," ++ " or " ++ ticked "\x7d"
  | .noWord => "expected ident"
  | .noValue => "expected value"
  | .keyNotText => "key must be a string"
  | .trailingComma => "trailing comma"
  | .trailingText => "trailing characters"
  | .badEscape => "invalid escape"
  | .shortEscape => "unexpected end of hex escape"
  | .loneSurrogate => "lone leading surrogate in hex escape"
  | .badUtf8 => "invalid unicode code point"
  | .controlCharacter => "control character (\\u0000-\\u001F) found while parsing a string"
  | .badNumber => "invalid number"
  | .numberOutOfRange => "number out of range"
  | .tooDeep => "recursion limit exceeded"
  | .wrongType f e => "invalid type: " ++ f.message ++ ", expected " ++ e
  | .wrongValue f e => "invalid value: " ++ f.message ++ ", expected " ++ e
  | .wrongLength n e => s!"invalid length {n}, expected " ++ e
  | .unknownName s known =>
    "unknown variant " ++ ticked s ++ ", " ++ match known with
      | [] => "there are no variants"
      | [a] => "expected " ++ ticked a
      | [a, b] => "expected " ++ ticked a ++ " or " ++ ticked b
      | _ => "expected one of " ++ ", ".intercalate (known.map ticked)
  | .missingField s => "missing field " ++ ticked s
  | .repeatedField s => "duplicate field " ++ ticked s

end FrameFeed.Json
