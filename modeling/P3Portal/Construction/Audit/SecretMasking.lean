import P3Portal.Foundation.JsonWriter
import P3Portal.Foundation.PythonText

namespace P3Portal.Audit
open Foundation Json
variable {C : Type} [Annotated C]

/-- A letter of the pattern matches both cases, and two letters of Unicode that fold to ASCII. -/
def caseless (wanted character : Char) : Bool :=
  character.toLower = wanted || (wanted = 'k' && character.toNat = 0x212a) ||
    (wanted = 's' && character.toNat = 0x17f)

/-- What stands behind a keyword at the start of the text. -/
def behindKeyword : List Char → List C → Option (List C)
  | [], text => some text
  | _ :: _, [] => none
  | wanted :: keyword, c :: rest => if caseless wanted (char c) then behindKeyword keyword rest else none

def isSpaceAt (c : C) : Bool := Text.isSpace (char c)

/-- The value of a form field ends at white space and at an ampersand. -/
def isValueAt (c : C) : Bool := !(char c = '&' || isSpaceAt c)

/-- What stands behind the equality sign of a form field, without white space. -/
def behindSign (text : List C) : Option (List C) :=
  match text.dropWhile isSpaceAt with
  | [] => none
  | sign :: value => if char sign = '=' then some (value.dropWhile isSpaceAt) else none

def formKeywords : List (List Char) := ["password".toList, "passwd".toList, "kennwort".toList]

/-- A form field at the start of the text: its keyword as it is written, and the text from its value on. -/
def fieldAt (text : List C) : Option (List C × List C) :=
  formKeywords.findSome? fun keyword =>
    ((behindKeyword keyword text).bind behindSign).map fun value => (text.take keyword.length, value)

/-- `_FORM_FIELD_RE` at the start of the text: the keyword, and the text behind a value that is not empty. -/
def formFieldAt (text : List C) : Option (List C × List C) :=
  (fieldAt text).bind fun field =>
    if (field.2.takeWhile isValueAt).isEmpty then none else some (field.1, field.2.dropWhile isValueAt)

/-- Fields are replaced from left to right; the characters of a replaced field are skipped. -/
def maskFrom : Nat → List C → List C
  | _, [] => []
  | skip + 1, _ :: rest => maskFrom skip rest
  | 0, c :: rest =>
      match formFieldAt (c :: rest) with
      | none => c :: maskFrom 0 rest
      | some (keyword, behind) =>
          keyword ++ fresh "=<redacted>".toList ++ maskFrom (rest.length - behind.length) rest

def maskForm (text : List C) : List C := maskFrom 0 text

/-- The letters that `str.lower` turns into letters of ASCII. -/
def lowerUnit (unit : Nat) : Nat :=
  if 65 ≤ unit && unit ≤ 90 then unit + 32 else if unit = 0x212a then 107 else unit

/-- `_SECRET_JSON_KEYS`, as code units. -/
def secretJsonKeys : List (List Nat) :=
  ["password", "passwd", "kennwort", "secret", "token"].map fun key => key.toList.map Char.toNat

def isSecretKey (key : List C) : Bool := (spelled key).map lowerUnit ∈ secretJsonKeys

mutual

/-- The value of a secret key is replaced as a whole. -/
def maskJsonObj : Document C → Document C
  | .atom text => .atom text
  | .literal content => .literal content
  | .array items => .array (maskItems items)
  | .object members => .object (maskMembers members)

def maskItems : List (Document C) → List (Document C)
  | [] => []
  | item :: rest => maskJsonObj item :: maskItems rest

def maskMembers : List (List C × Document C) → List (List C × Document C)
  | [] => []
  | (key, value) :: rest =>
      (key, if isSecretKey key then .literal (fresh "<redacted>".toList) else maskJsonObj value) :: maskMembers rest

end

/-- A text is read as JSON when it starts like an object or an array. -/
def looksLikeJson (text : List C) : Bool :=
  ((text.dropWhile isSpaceAt).head?.bind fun c => markOf (char c)).any fun mark =>
    mark = .openObject || mark = .openArray

/-- The form fields of the body are masked first, and then the keys of what is still JSON. -/
def maskSensitiveBody (numberText : List Char → List Char) (body : List C) : List C :=
  if body.isEmpty then body
  else if looksLikeJson (maskForm body) then
    match loads (maskForm body) with
    | some data => dumps numberText (maskJsonObj data)
    | none => maskForm body
  else maskForm body

end P3Portal.Audit
