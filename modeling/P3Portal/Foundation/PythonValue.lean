import P3Portal.Foundation.OrderedMap
import P3Portal.Foundation.PythonNumber
import P3Portal.Foundation.PythonText

namespace P3Portal.Foundation

/-- What `str` and `repr` show of an element of a list. -/
structure Shown where
  str : String
  repr : String
  deriving DecidableEq

/-- A value of a parsed JSON document. Floats, elements of lists and objects carry the texts that Python shows. -/
inductive JsonValue where
  | null
  | bool (value : Bool)
  | int (value : Int)
  | float (shown : String) (truncated : Int) (zero : Bool)
  | text (content : String)
  | list (items : List Shown)
  | object (shown : String) (filled : Bool)
  deriving DecidableEq

namespace JsonValue

def str : JsonValue → String
  | null => "None"
  | bool true => "True"
  | bool false => "False"
  | int value => toString value
  | float shown _ _ => shown
  | text content => content
  | list items => "[" ++ ", ".intercalate (items.map Shown.repr) ++ "]"
  | object shown _ => shown

/-- A value that a condition accepts. -/
def truthy : JsonValue → Bool
  | null => false
  | bool value => value
  | int value => value ≠ 0
  | float _ _ zero => !zero
  | text content => content ≠ ""
  | list items => !items.isEmpty
  | object _ filled => filled

/-- `int` with the two exceptions for a value that is no number. -/
def toInt : JsonValue → Option Int
  | bool value => some (if value then 1 else 0)
  | int value => some value
  | float _ truncated _ => some truncated
  | text content => Number.intOfText content
  | null | list _ | object _ _ => none

/-- A value that stands for a missing one. -/
def blank (value : JsonValue) : Bool := value = .null || value = .text ""

end JsonValue

/-- A parsed JSON object. -/
abbrev JsonObject := OrderedMap String JsonValue

namespace JsonObject

/-- `dict.get` with a default. -/
def getOr (object : JsonObject) (key : String) (default : JsonValue) : JsonValue := (object.get? key).getD default

/-- `dict.get` without a default. -/
def get (object : JsonObject) (key : String) : JsonValue := object.getOr key .null

/-- An object with these members; a later member of a key replaces an earlier one. -/
def ofMembers (members : List (String × JsonValue)) : JsonObject :=
  members.foldl (fun object member => object.set member.1 member.2) OrderedMap.empty

end JsonObject

namespace Text

/-- `str.split` at a comma. -/
def splitCommas (text : String) : List String := (text.toList.splitOn ',').map String.ofList

/-- `str.lower` of a text that is compared with a word of ASCII: the Kelvin sign is the only other character
whose lower case is a letter of ASCII. -/
def lowerWord (text : String) : String :=
  String.ofList (text.toList.map fun character => if character = Char.ofNat 8490 then 'k' else character.toLower)

end Text
end P3Portal.Foundation
