import P3Portal.Foundation.PythonText
import P3Portal.Foundation.Regex
import P3Portal.Foundation.TextStream

namespace P3Portal.Help
open Foundation Regex

structure ValueError where
  message : String
deriving DecidableEq

/-- The tables of Unicode that the interpreter brings along. -/
structure UnicodeTables where
  isWord : Char → Bool
  lower : String → String

def maxSizeBytes : Nat := 200 * 1024

def allowedExtensions : List String := [".md", ".markdown"]

/-- A letter of a pattern with `re.IGNORECASE`; three letters have more spellings than two. -/
def ignoreCase (letter c : Char) : Bool :=
  c.toLower = letter || letter = 'i' && ['\u0130', '\u0131'].contains c || letter = 's' && c = '\u017f' ||
    letter = 'k' && c = '\u212a'

def letters (word : String) : Pattern := .word (word.toList.map ignoreCase)

def symbol (c : Char) : Pattern := .one (· = c)

/-- `\s*`. -/
def spaces : Pattern := .many (.one Text.isSpace)

/-- `<\s*(script|iframe|object|embed|base|form|meta|link)\b`. -/
def dangerousTags (tables : UnicodeTables) : Pattern :=
  .seq (symbol '<') (.seq spaces (.seq
    (.oneOf (["script", "iframe", "object", "embed", "base", "form", "meta", "link"].map letters))
    (.boundary tables.isWord)))

/-- `\bon\w+\s*=`. -/
def onHandler (tables : UnicodeTables) : Pattern :=
  .seq (.boundary tables.isWord) (.seq (letters "on") (.seq (.plus (.one tables.isWord)) (.seq spaces (symbol '='))))

/-- `(?:href|src)\s*=\s*['"]?\s*(?:javascript|data)\s*:`. -/
def jsLink : Pattern :=
  .seq (.oneOf (["href", "src"].map letters)) (.seq spaces (.seq (symbol '=') (.seq spaces (.seq
    (.optional (.one fun c => c = '\'' || c = '"')) (.seq spaces (.seq
      (.oneOf (["javascript", "data"].map letters)) (.seq spaces (symbol ':'))))))))

/-- `!\[.*?\]\(.+?\)`, where a dot is any character. -/
def mdImage : Pattern :=
  .seq (symbol '!') (.seq (symbol '[') (.seq (.many (.one fun _ => true)) (.seq (symbol ']') (.seq (symbol '(')
    (.seq (.plus (.one fun _ => true)) (symbol ')'))))))

/-- `<\s*img\b`. -/
def htmlImg (tables : UnicodeTables) : Pattern :=
  .seq (symbol '<') (.seq spaces (.seq (letters "img") (.boundary tables.isWord)))

/-- The extension with its dot, or nothing for a name without a dot. -/
def suffixOf (tables : UnicodeTables) (filename : String) : String :=
  match Text.rsplit '.' filename with
  | some (_, last) => "." ++ tables.lower last
  | none => ""

/-- The patterns are looked for in the decoded text. -/
def checkPatterns (tables : UnicodeTables) (content : List Char) : Except ValueError (List Char) :=
  if mdImage.search content || (htmlImg tables).search content then
    .error ⟨"Bilder in eigenen Hilfen sind nicht erlaubt. " ++
      "Bitte beschreibe Screenshots textuell oder reiche einen Repo-PR ein."⟩
  else if (dangerousTags tables).search content then
    .error ⟨"Unerlaubte HTML-Elemente gefunden (<script>, <iframe>, <object>, <embed> etc.)."⟩
  else if (onHandler tables).search content then .error ⟨"Inline-Event-Handler (on*=) sind nicht erlaubt."⟩
  else if jsLink.search content then .error ⟨"javascript:- und data:-URLs sind nicht erlaubt."⟩
  else .ok content

def validateAndSanitize (tables : UnicodeTables) (contentBytes : List UInt8) (filename : String) :
    Except ValueError (List Char) :=
  let size := contentBytes.length / 1024
  let limit := maxSizeBytes / 1024
  let suffix := suffixOf tables filename
  if contentBytes.length = 0 then .error ⟨"Datei darf nicht leer sein."⟩
  else if contentBytes.length > maxSizeBytes then .error ⟨s!"Datei zu groß ({size} KB). Maximal {limit} KB erlaubt."⟩
  else if filename ≠ "" ∧ suffix ∉ allowedExtensions then
    .error ⟨s!"Ungueltiger Dateiendung '{suffix}'. Nur .md / .markdown erlaubt."⟩
  else
    match Utf8.decode contentBytes with
    | none => .error ⟨"Ungültige Zeichenkodierung. Datei muss UTF-8 kodiert sein."⟩
    | some content => checkPatterns tables content

end P3Portal.Help
