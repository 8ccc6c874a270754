import P3Portal.Foundation.IpAddress

namespace P3Portal.Foundation.PythonUrl
open IpAddress

/-- The six parts that `urllib.parse.urlparse` returns. -/
structure ParseResult where
  scheme : List Char
  netloc : List Char
  path : List Char
  params : List Char := []
  query : List Char := []
  fragment : List Char := []
  deriving DecidableEq

/-- `str.partition` keeps apart a missing separator and an empty end. -/
def divide (separator : Char) (text : List Char) : List Char × Option (List Char) :=
  match text.dropWhile (· ≠ separator) with
  | [] => (text, none)
  | _ :: after => (text.takeWhile (· ≠ separator), some after)

def isAsciiLetter (character : Char) : Bool :=
  ('a' ≤ character && character ≤ 'z') || ('A' ≤ character && character ≤ 'Z')

def isSchemeChar (character : Char) : Bool :=
  isAsciiLetter character || isDigit character || character = '+' || character = '-' || character = '.'

/-- A scheme starts with a letter and ends at the first colon. -/
def splitScheme (url : List Char) : List Char × List Char :=
  match divide ':' url with
  | (before, some after) =>
      if before.head?.any isAsciiLetter && before.all isSchemeChar then (before.map Char.toLower, after)
      else ([], url)
  | (_, none) => ([], url)

/-- The authority, the query or the fragment starts at one of these characters. -/
def endsNetloc (character : Char) : Bool := character = '/' || character = '?' || character = '#'

/-- Leading control characters and spaces and all tabs and line breaks are removed first. -/
def cleaned (url : List Char) : List Char :=
  (url.dropWhile fun character => character.toNat ≤ 32).filter fun character =>
    character ≠ '\t' && character ≠ '\r' && character ≠ '\n'

def splitNetloc (url : List Char) : List Char × List Char :=
  match url with
  | '/' :: '/' :: rest => (rest.takeWhile fun c => !endsNetloc c, rest.dropWhile fun c => !endsNetloc c)
  | _ => ([], url)

/-- The parameters follow the first semicolon of the last segment. -/
def splitParams (path : List Char) : List Char × List Char :=
  let last := (path.reverse.takeWhile (· ≠ '/')).reverse
  match divide ';' last with
  | (_, none) => (path, [])
  | (before, some params) => (path.take (path.length - last.length) ++ before, params)

def usesParams : List String :=
  ["", "ftp", "hdl", "prospero", "http", "imap", "https", "shttp", "rtsp", "rtsps", "rtspu", "sip", "sips", "mms",
    "sftp", "tel"]

/-- The library refuses brackets that do not match, and what its own check of the authority refuses. -/
def urlparse (checkNetloc : List Char → Except String Unit) (url : List Char) : Except String ParseResult := do
  let (scheme, rest) := splitScheme (cleaned url)
  let (netloc, rest) := splitNetloc rest
  if netloc.contains '[' != netloc.contains ']' then throw "Invalid IPv6 URL"
  checkNetloc netloc
  let (rest, fragment) := divide '#' rest
  let (path, query) := divide '?' rest
  let (path, params) := if String.ofList scheme ∈ usesParams then splitParams path else (path, [])
  return ⟨scheme, netloc, path, params, query.getD [], fragment.getD []⟩

/-- A path after an authority starts with a slash. -/
def rooted (path : List Char) : List Char := if path ≠ [] && path.head? ≠ some '/' then '/' :: path else path

/-- An empty query or fragment leaves no mark. -/
def appendPart (mark : Char) (url part : List Char) : List Char := if part = [] then url else url ++ mark :: part

namespace ParseResult
variable (parsed : ParseResult)

/-- The host and the port follow the last `@`; a bracket protects the colons of an address. -/
def hostinfo : List Char × List Char :=
  let hostinfo := (parsed.netloc.reverse.takeWhile (· ≠ '@')).reverse
  match divide '[' hostinfo with
  | (_, some bracketed) =>
      let (hostname, port) := divide ']' bracketed
      (hostname, ((divide ':' (port.getD [])).2).getD [])
  | (_, none) =>
      let (hostname, port) := divide ':' hostinfo
      (hostname, port.getD [])

/-- The scope of an address keeps its case. -/
def hostname : Option (List Char) :=
  if parsed.hostinfo.1 = [] then none
  else
    let name := parsed.hostinfo.1
    some ((name.takeWhile (· ≠ '%')).map Char.toLower ++ name.dropWhile (· ≠ '%'))

/-- A port is a number up to 65535. -/
def port : Except String (Option Nat) :=
  let text := parsed.hostinfo.2
  if text = [] then .ok none
  else if !text.all isDigit || 4300 < text.length then
    .error ("Port could not be cast to integer value as '" ++ String.ofList text ++ "'")
  else if 65535 < decimalValue text then .error "Port out of range 0-65535"
  else .ok (some (decimalValue text))

/-- `geturl` puts the parts of a URL with an authority together again. -/
def geturl : List Char :=
  let path := rooted (if parsed.params = [] then parsed.path else parsed.path ++ ';' :: parsed.params)
  let url := parsed.scheme ++ ':' :: '/' :: '/' :: (parsed.netloc ++ path)
  appendPart '#' (appendPart '?' url parsed.query) parsed.fragment

end ParseResult

/-- After its authority a URL is over, or a path, a query or a fragment starts. -/
def AfterNetloc (rest : List Char) : Prop := ∀ character, rest.head? = some character → endsNetloc character = true

theorem rooted_after (path : List Char) : AfterNetloc (rooted path) := by
  intro character head
  unfold rooted at head
  split at head
  · exact Option.some.inj head ▸ rfl
  · rename_i plain
    cases path with
    | nil => cases head
    | cons first rest =>
        have slash : first = '/' := by simpa using plain
        rw [List.head?_cons, slash] at head
        exact Option.some.inj head ▸ rfl

theorem AfterNetloc.appendPart {url : List Char} (after : AfterNetloc url) {character : Char}
    (ends : endsNetloc character = true) (part : List Char) : AfterNetloc (appendPart character url part) := by
  intro first head
  unfold PythonUrl.appendPart at head
  split at head
  · exact after first head
  · cases url with
    | nil => exact Option.some.inj head ▸ ends
    | cons letter letters => exact after first head

theorem appendPart_append (character : Char) (before url part : List Char) :
    appendPart character (before ++ url) part = before ++ appendPart character url part := by
  unfold appendPart
  split
  · rfl
  · rw [List.append_assoc]

/-- The text that `geturl` writes behind the authority. -/
def ParseResult.behind (parsed : ParseResult) : List Char :=
  appendPart '#' (appendPart '?'
    (rooted (if parsed.params = [] then parsed.path else parsed.path ++ ';' :: parsed.params)) parsed.query) parsed.fragment

theorem ParseResult.behind_after (parsed : ParseResult) : AfterNetloc parsed.behind := by
  have query : endsNetloc '?' = true := rfl
  have fragment : endsNetloc '#' = true := rfl
  exact ((rooted_after _).appendPart query parsed.query).appendPart fragment parsed.fragment

theorem ParseResult.geturl_behind (parsed : ParseResult) :
    parsed.geturl = parsed.scheme ++ ':' :: '/' :: '/' :: (parsed.netloc ++ parsed.behind) := by
  have grouped (path : List Char) : parsed.scheme ++ ':' :: '/' :: '/' :: (parsed.netloc ++ path) =
      (parsed.scheme ++ ':' :: '/' :: '/' :: parsed.netloc) ++ path := by simp
  simp only [ParseResult.geturl, ParseResult.behind, grouped, appendPart_append]

/-- The composed URL is the scheme, the authority and something that ends the authority. -/
theorem ParseResult.geturl_eq (parsed : ParseResult) : ∃ rest, AfterNetloc rest ∧
    parsed.geturl = parsed.scheme ++ ':' :: '/' :: '/' :: (parsed.netloc ++ rest) :=
  ⟨parsed.behind, parsed.behind_after, parsed.geturl_behind⟩

end P3Portal.Foundation.PythonUrl
