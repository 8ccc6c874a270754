import P3Portal.Construction.Auth.CurrentUser
import P3Portal.Construction.Help.Sanitizer
import P3Portal.Foundation.KeyedRows
import P3Portal.Foundation.Run

namespace P3Portal.Help
open Foundation Auth Http

inductive Scope where
  | user
  | global
  deriving DecidableEq

structure HelpOverride where
  id : Int
  key : String
  lang : String
  scope : Scope
  ownerUserId : Option Int
  content : List Char
  contentMd5 : String
  originalUploaderUserId : Option Int
  createdAt : String
  updatedAt : String
  deriving DecidableEq

structure HelpAudit where
  eventType : String
  username : String
  detail : String
  deriving DecidableEq

structure HelpStore where
  overrides : List HelpOverride := []
  audits : List HelpAudit := []

/-- What the service takes from the libraries below it: the tables of Unicode, the test of an identifier, the hash of a
text and the printed form of a list. -/
structure HelpSite where
  tables : UnicodeTables
  isIdentifier : String → Bool
  md5 : List Char → String
  repr : List String → String

def listUserOverrides (overrides : List HelpOverride) (userId : Int) : List HelpOverride :=
  overrides.filter fun row => row.scope = .user && row.ownerUserId = some userId

def listGlobalOverrides (overrides : List HelpOverride) : List HelpOverride :=
  overrides.filter fun row => row.scope = .global

/-- The partial unique indexes name a row by its slot, for a row of a user together with the user. -/
def sameSlot (first second : HelpOverride) : Bool :=
  first.scope = second.scope && first.key = second.key && first.lang = second.lang &&
    (first.scope = .global || first.ownerUserId = second.ownerUserId)

/-- The database refuses a used identifier or a second row in a slot. -/
def insertOverride (overrides : List HelpOverride) (row : HelpOverride) : Except HttpException (List HelpOverride) :=
  if overrides.any fun other => other.id = row.id || sameSlot other row then .error ⟨500, "Internal Server Error"⟩
  else .ok (overrides ++ [row])

def updateOverride (overrides : List HelpOverride) (id : Int) (change : HelpOverride → HelpOverride) :
    List HelpOverride :=
  overrides.map fun row => if row.id = id then change row else row

def deleteRow (overrides : List HelpOverride) (id : Int) : List HelpOverride := overrides.filter fun row => row.id ≠ id

/-- A braced text of the audit log. -/
def braced (parts : List String) : String := "\x7b" ++ ", ".intercalate parts ++ "\x7d"

def quoted (name value : String) : String := "\"" ++ name ++ "\": \"" ++ value ++ "\""

section Service
variable (site : HelpSite)

/-- The limit counts the rows of the user and is asked for a new row only. -/
def uploadUserOverride (maxOverrides : Option Nat) (newId userId : Int) (key lang : String) (content : List Char)
    (now : String) (overrides : List HelpOverride) : Except HttpException (List HelpOverride) :=
  match (listUserOverrides overrides userId).find? fun row => row.key = key && row.lang = lang with
  | some existing => .ok (updateOverride overrides existing.id fun row =>
      { row with content := content, contentMd5 := site.md5 content, updatedAt := now })
  | none =>
      match maxOverrides with
      | some most =>
          if most ≤ (listUserOverrides overrides userId).length then
            .error ⟨412, "Max. " ++ toString most ++ " eigene Hilfen in Core-Edition. " ++
              "Upgrade auf Plus für unbegrenzte Overrides."⟩
          else insertOverride overrides
            ⟨newId, key, lang, .user, some userId, content, site.md5 content, some userId, now, now⟩
      | none => insertOverride overrides
          ⟨newId, key, lang, .user, some userId, content, site.md5 content, some userId, now, now⟩

def deleteOverride (overrideId currentUserId : Int) (isAdmin : Bool) (overrides : List HelpOverride) :
    Except HttpException (List HelpOverride × HelpOverride) :=
  match overrides.find? fun row => row.id = overrideId with
  | none => .error ⟨404, "Override " ++ toString overrideId ++ " nicht gefunden."⟩
  | some record =>
      if record.scope = .global then
        if isAdmin then .ok (deleteRow overrides overrideId, record)
        else .error ⟨403, "Globale Overrides erfordern manage_help."⟩
      else if record.ownerUserId ≠ some currentUserId && !isAdmin then
        .error ⟨403, "Kein Zugriff auf fremde Overrides."⟩
      else .ok (deleteRow overrides overrideId, record)

/-- A text of a user becomes the global one of its slot, with the user as its uploader. -/
def promoteToGlobal (overrideId newId : Int) (now : String) (overrides : List HelpOverride) :
    Except HttpException (List HelpOverride × HelpOverride) :=
  match overrides.find? fun row => row.id = overrideId with
  | none => .error ⟨404, "Override " ++ toString overrideId ++ " nicht gefunden."⟩
  | some record =>
      if record.scope ≠ .user then .error ⟨409, "Nur User-Overrides können zu global promotet werden."⟩
      else
        match (listGlobalOverrides overrides).find? fun row => row.key = record.key && row.lang = record.lang with
        | some existing => .ok (updateOverride overrides existing.id fun row =>
            { row with
              content := record.content
              contentMd5 := record.contentMd5
              originalUploaderUserId := record.ownerUserId
              updatedAt := now }, record)
        | none =>
            (insertOverride overrides ⟨newId, record.key, record.lang, .global, none, record.content, record.contentMd5,
              record.ownerUserId, now, now⟩).map fun overrides => (overrides, record)

def removeGlobalOverride (key lang : String) (overrides : List HelpOverride) :
    Except HttpException (List HelpOverride × HelpOverride) :=
  match (listGlobalOverrides overrides).find? fun row => row.key = key && row.lang = lang with
  | none => .error ⟨404, "Kein globaler Override für key='" ++ key ++ "', lang='" ++ lang ++ "' gefunden."⟩
  | some record => .ok (deleteRow overrides record.id, record)

def purgeOrphanOverrides (validKeys : List String) (overrides : List HelpOverride) :
    List HelpOverride × List HelpOverride :=
  overrides.partition fun row => validKeys.contains row.key

def forgetUploader (userId : Int) (row : HelpOverride) : HelpOverride :=
  if row.originalUploaderUserId = some userId then { row with originalUploaderUserId := none } else row

/-- The foreign keys delete the rows of a deleted user and forget the user as an uploader. -/
def deleteUserRows (userId : Int) (overrides : List HelpOverride) : List HelpOverride :=
  (overrides.filter fun row => row.ownerUserId ≠ some userId).map (forgetUploader userId)

end Service

structure UploadForm where
  key : String
  lang : String
  consent : String
  contentBytes : List UInt8
  filename : String
  deriving DecidableEq

def isHelpManager (user : CurrentUser) : Bool := user.role = .admin || user.portalPermissions.contains "manage_help"

section Endpoints
variable (site : HelpSite)

/-- A key is an identifier when points and dashes are read as underscores. -/
def isKey (key : String) : Bool :=
  key ≠ "" && site.isIdentifier (String.ofList (key.toList.map fun c => if c = '.' || c = '-' then '_' else c))

/-- The form is checked in the order of the endpoint, and the text is read last. -/
def checkUpload (user : CurrentUser) (form : UploadForm) : Except HttpException (Int × List Char) :=
  match user.userId with
  | none => .error ⟨403, "Help-Uploads sind nur für lokale Portal-Nutzer verfügbar."⟩
  | some userId =>
      if site.tables.lower (Text.strip form.consent) ≠ "true" then
        .error ⟨400, "Einwilligung zur möglichen Globalisierung ist erforderlich."⟩
      else if form.lang ∉ ["de", "en"] then .error ⟨422, "Ungültige Sprache. Erlaubt: de, en."⟩
      else if !isKey site form.key then .error ⟨422, "Ungültiger Hilfe-Schlüssel."⟩
      else match validateAndSanitize site.tables form.contentBytes form.filename with
        | .error error => .error ⟨400, error.message⟩
        | .ok content => .ok (userId, content)

def uploadOverride (maxOverrides : Option Nat) (newId : Int) (now : String) (user : CurrentUser) (form : UploadForm)
    (store : HelpStore) : Except HttpException HelpStore := do
  let (userId, content) ← checkUpload site user form
  let overrides ← uploadUserOverride site maxOverrides newId userId form.key form.lang content now store.overrides
  .ok ⟨overrides, store.audits ++ [⟨"help_user_override_uploaded", user.username,
    braced [quoted "key" form.key, quoted "lang" form.lang,
      "\"size_bytes\": " ++ toString (String.ofList content).utf8ByteSize, quoted "content_md5" (site.md5 content)]⟩]⟩

def deleteOverrideEndpoint (user : CurrentUser) (overrideId : Int) (store : HelpStore) :
    Except HttpException HelpStore := do
  if user.userId.isNone && !isHelpManager user then throw ⟨403, "Kein Zugriff."⟩
  let currentUserId := user.userId.getD (-1)
  let (overrides, record) ← deleteOverride overrideId currentUserId (isHelpManager user) store.overrides
  let deletedBySelf : Bool := record.ownerUserId = some currentUserId
  .ok ⟨overrides, store.audits ++ [⟨if isHelpManager user && !deletedBySelf then "help_user_override_moderated"
      else "help_user_override_deleted", user.username,
    braced [quoted "key" record.key, quoted "lang" record.lang,
      "\"deleted_by_self\": " ++ if deletedBySelf then "true" else "false"]⟩]⟩

/-- Without the extension no global text is allowed. -/
def promoteOverride (maxGlobal : Option Nat) (newId : Int) (now : String) (user : CurrentUser) (overrideId : Int)
    (store : HelpStore) : Except HttpException HelpStore := do
  let _ ← requireAdminOr "manage_help" user
  if maxGlobal = some 0 then
    throw ⟨412, "Globale Hilfe-Overrides sind Plus-only. Bitte Plus-Lizenz aktivieren."⟩
  let (overrides, record) ← promoteToGlobal overrideId newId now store.overrides
  .ok ⟨overrides, store.audits ++ [⟨"help_global_override_set", user.username,
    braced [quoted "key" record.key, quoted "lang" record.lang,
      "\"source_user_override_id\": " ++ toString overrideId,
      "\"original_uploader_user_id\": " ++ (record.ownerUserId.map toString).getD "None",
      quoted "content_md5" record.contentMd5]⟩]⟩

def removeGlobalEndpoint (user : CurrentUser) (key lang : String) (store : HelpStore) :
    Except HttpException HelpStore := do
  let _ ← requireAdminOr "manage_help" user
  if lang ∉ ["de", "en"] then throw ⟨422, "Ungültige Sprache. Erlaubt: de, en."⟩
  let (overrides, record) ← removeGlobalOverride key lang store.overrides
  .ok ⟨overrides, store.audits ++ [⟨"help_global_override_removed", user.username,
    braced [quoted "key" key, quoted "lang" lang, quoted "content_md5" record.contentMd5]⟩]⟩

def purgeOrphans (validKeys : List String) (username : String) (store : HelpStore) : HelpStore :=
  let (kept, orphans) := purgeOrphanOverrides validKeys store.overrides
  if orphans.isEmpty then store
  else ⟨kept, store.audits ++ [⟨"help_orphan_overrides_purged", username,
    braced ["\"count\": " ++ toString orphans.length,
      "\"keys\": " ++ site.repr (orphans.map HelpOverride.key).dedup]⟩]⟩

/-- The limits of the edition are those of the moment of the request; the database chooses the identifier of a row. -/
inductive HelpRequest where
  | upload (maxOverrides : Option Nat) (newId : Int) (now : String) (user : CurrentUser) (form : UploadForm)
  | delete (user : CurrentUser) (overrideId : Int)
  | promote (maxGlobal : Option Nat) (newId : Int) (now : String) (user : CurrentUser) (overrideId : Int)
  | removeGlobal (user : CurrentUser) (key lang : String)
  | purge (validKeys : List String) (username : String)
  | deleteUser (userId : Int)
  deriving DecidableEq

def answer (store : HelpStore) : HelpRequest → Except HttpException HelpStore
  | .upload maxOverrides newId now user form => uploadOverride site maxOverrides newId now user form store
  | .delete user overrideId => deleteOverrideEndpoint user overrideId store
  | .promote maxGlobal newId now user overrideId => promoteOverride maxGlobal newId now user overrideId store
  | .removeGlobal user key lang => removeGlobalEndpoint user key lang store
  | .purge validKeys username => .ok (purgeOrphans site validKeys username store)
  | .deleteUser userId => .ok { store with overrides := deleteUserRows userId store.overrides }

/-- A refused request changes nothing. -/
def helpStep (store : HelpStore) (request : HelpRequest) : HelpStore :=
  match answer site store request with
  | .ok after => after
  | .error _ => store

end Endpoints

/-- The origin of a shown text. -/
inductive Source where
  | user
  | global
  | repo
  | none
  deriving DecidableEq

structure Resolved where
  content : Option (List Char)
  source : Source
  languageFallback : Bool
  deriving DecidableEq

/-- The path of a text in the bundle of the repository. -/
def keyToRepoBundleKey (key lang : String) : String :=
  lang ++ "/" ++ String.ofList (key.toList.map fun c => if c = '.' then '/' else c)

/-- The bundle holds the texts of the repository by their path; an empty text counts as absent. -/
def bundled (repoBundle : String → Option (List Char)) (key lang : String) : Option (List Char) :=
  (repoBundle (keyToRepoBundleKey key lang)).filter (· ≠ [])

def findOverride (overrides : List HelpOverride) (key lang : String) : Option HelpOverride :=
  overrides.find? fun row => row.key = key && row.lang = lang

/-- The frontend resolves a text in the language of the user first, and without one in English. -/
def resolveHelpContent (key lang : String) (overridesMe overridesGlobal : List HelpOverride)
    (repoBundle : String → Option (List Char)) : Resolved :=
  match findOverride overridesMe key lang with
  | some mine => ⟨some mine.content, .user, false⟩
  | none =>
  match findOverride overridesGlobal key lang with
  | some shared => ⟨some shared.content, .global, false⟩
  | none =>
  match bundled repoBundle key lang with
  | some content => ⟨some content, .repo, false⟩
  | none =>
  match if lang ≠ "en" then findOverride overridesGlobal key "en" else none with
  | some shared => ⟨some shared.content, .global, true⟩
  | none =>
  match if lang ≠ "en" then bundled repoBundle key "en" else none with
  | some content => ⟨some content, .repo, true⟩
  | none => ⟨none, .none, false⟩

end P3Portal.Help
