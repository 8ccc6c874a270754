import P3Portal.Construction.Automation.Parameters
import P3Portal.Construction.Automation.ZipExtraction

namespace P3Portal.Automation.Uploads
open Foundation FileTree PlaybookFiles ZipSafety

/-- An upload raises `ValueError`, `FileExistsError` or an exception of another function. -/
inductive Refusal where
  | value (detail : String)
  | taken (detail : String)
  | raised
  deriving DecidableEq

/-- What the checks of an archive find out: the id, the validated meta and the entries to extract. -/
structure Accepted (Content Meta : Type) where
  id : String
  found : Meta
  members : List (Member Content)
  deriving DecidableEq

/-- A directory of files that may not exist yet. -/
abbrev Root (Content : Type) := Option (FileTree Content)

section Archives
variable {Content : Type}

def namelist (entries : List (ZipEntry Content)) : List String := (entries.map ZipEntry.name).filter (· ≠ "")

/-- Both uploads refuse a name with a parent reference before anything else. -/
def refuseParents (names : List String) : Except Refusal Unit :=
  match names.find? fun name => ".." ∈ pathParts (Text.slashes name) with
  | some name => .error (.value ("Ungültiger Pfad in ZIP: " ++ name))
  | none => .ok ()

def firstPart (name : String) : String := String.ofList ((Text.rstrip '/' name).toList.takeWhile (· ≠ '/'))

/-- A single top-level directory with files wraps the archive. -/
def wrapping (names : List String) : String :=
  match names.map firstPart with
  | [] => ""
  | candidate :: rest =>
      if rest.all (· = candidate) &&
          names.any fun name => Text.startsWith (candidate ++ "/") name && !Text.endsWith "/" name
      then candidate ++ "/" else ""

/-- The dollar sign also matches before a line feed at the end. -/
def matchesId (punctuation : List Char) (text : String) : Bool :=
  let characters := text.toList
  let body := if characters.getLast? = some (Char.ofNat 10) then characters.dropLast else characters
  match body with
  | [] => false
  | first :: rest =>
      first.isAlphanum && rest.length ≤ 63 &&
        rest.all fun character => character.isAlphanum || character ∈ punctuation

/-- Reading a damaged entry raises, and so do loaders; an exception that is caught comes with its text. -/
def load {A : Type} (wrong : String) (loaded : Except (Option String) A) : Except Refusal A :=
  match loaded with
  | .ok found => .ok found
  | .error (some detail) => .error (.value (wrong ++ detail))
  | .error none => .error .raised

end Archives

section Storing
variable {Content Meta : Type} (platform : Platform)

/-- `mkdir` with `parents` makes the root as well, and here an existing directory is an error. -/
def mkdir (id : String) : Script (Root Content) Unit := fun root =>
  match root with
  | none =>
      if platform.refuses [] then (.error (), none)
      else if platform.refuses [id] then (.error (), some OrderedMap.empty)
      else (.ok (), some (OrderedMap.empty.set [id] .directory))
  | some tree =>
      if (tree.get? [id]).isSome || platform.refuses [id] then (.error (), some tree)
      else (.ok (), some (tree.set [id] .directory))

/-- A script in the existing root. -/
def within (script : Script (FileTree Content) Unit) : Script (Root Content) Unit := fun root =>
  match root with
  | none => (.error (), none)
  | some tree => ((script tree).1, some (script tree).2)

/-- An exception of the extraction removes the directory and is raised again. -/
def unpack (id : String) (members : List (Member Content)) : Script (Root Content) Unit :=
  Script.recover (within (extractZipSafely platform [id] members)) do
    within (Script.write false fun tree => rmtree tree [id])
    Script.call true

def place (id : String) (members : List (Member Content)) : Script (Root Content) Unit := do
  mkdir platform id
  unpack platform id members

/-- The upload returns the id. -/
def answer (id : String) : Except Unit Unit × Root Content → Except Refusal String × Root Content
  | (.ok _, after) => (.ok id, after)
  | (.error _, after) => (.error .raised, after)

/-- Both uploads end in this way. -/
def store (taken : String) (accepted : Accepted Content Meta) (root : Root Content) :
    Except Refusal String × Root Content :=
  if (root.bind fun tree => tree.get? [accepted.id]).isSome then (.error (.taken taken), root)
  else answer accepted.id (place platform accepted.id accepted.members root)

end Storing

section Playbooks
variable {Content : Type} (readers : Readers Content) (enumeration : Enumeration) (platform : Platform)

/-- The answer of `get_playbook`. -/
structure PlaybookDetail where
  id : String
  name : String
  description : String
  requiredRole : Option String
  category : Option String
  parameters : List Parameter
  labels : List (String × ParamValue)
  presets : List PlaybookPreset
  targets : PlaybookTargets
  deriving DecidableEq

def playbookDetail (id : String) (found : MetaFile) : PlaybookDetail where
  id := id
  name := found.name
  description := found.description
  requiredRole := found.detail.requiredRole
  category := found.detail.category
  parameters := found.detail.parameters
  labels := found.labels
  presets := found.presets
  targets := found.detail.targets

/-- Without the directory there is no playbook. -/
def listPlaybooks (root : Root Content) : Except Unit (List Playbook) :=
  match root with
  | none => .ok []
  | some tree => loadAllMetas readers enumeration tree

def getPlaybookDetail (root : Root Content) (id : String) : Except Unit (Option PlaybookDetail) :=
  (listPlaybooks readers enumeration root).map fun playbooks =>
    (playbooks.find? fun playbook => playbook.id = id).map fun playbook => playbookDetail playbook.id playbook.metaFile

/-- `_PLAYBOOK_ID_RE`. -/
def isPlaybookId (id : String) : Bool := matchesId ['_', '.', '-'] id

/-- The checks of `save_playbook_zip` on the archive itself; the loader sees the bytes of one entry. -/
def checkPlaybook (metaOfBytes : Content → Except (Option String) MetaFile)
    (archive : Option (List (ZipEntry Content))) : Except Refusal (Accepted Content MetaFile) :=
  match archive with
  | none => .error (.value "Ungültige ZIP-Datei")
  | some entries => do
      let names := namelist entries
      refuseParents names
      let start := wrapping names
      let below (wanted : String) (name : String) : Bool :=
        Text.startsWith start name && Text.sliceFrom start.length name = wanted
      match names.filter (below "meta.yaml") with
      | [] => .error (.value "ZIP enthält keine meta.yaml")
      | metaEntry :: _ => do
          let found ← load "meta.yaml ungültig: " ((read entries metaEntry).elim (.error none) metaOfBytes)
          let id := playbookId found.playbook
          if !isPlaybookId id then
            .error (.value ("Playbook-Dateiname '" ++ id ++ "' ist ungültig (erlaubt: Buchstaben, Ziffern, - _ .)"))
          else if !names.any (below found.playbook) then
            .error (.value ("Playbook-Datei '" ++ found.playbook ++ "' fehlt im ZIP"))
          else .ok ⟨id, found, members entries names start⟩

def savePlaybookZip (metaOfBytes : Content → Except (Option String) MetaFile)
    (archive : Option (List (ZipEntry Content))) (root : Root Content) : Except Refusal String × Root Content :=
  match checkPlaybook metaOfBytes archive with
  | .error refusal => (.error refusal, root)
  | .ok accepted =>
      match listPlaybooks readers enumeration root with
      | .error _ => (.error .raised, root)
      | .ok playbooks =>
          if playbooks.any fun playbook => playbook.id = accepted.id then
            (.error (.taken ("Playbook '" ++ accepted.id ++ "' existiert bereits")), root)
          else store platform ("Verzeichnis '" ++ accepted.id ++ "' existiert bereits") accepted root

end Playbooks

section Templates

/-- A parameter with what the form shows of it. -/
structure PackerParameter extends Parameter where
  label : String
  default : ParamValue := .null
  deriving DecidableEq

/-- The validated `meta.yaml` of a template. -/
structure TemplateMeta where
  name : String
  description : String
  requiredRole : Option String := none
  parameters : List PackerParameter := []
  deriving DecidableEq

/-- The answer of `get_packer_template`. -/
structure PackerDetail where
  id : String
  name : String
  description : String
  requiredRole : Option String
  parameters : List PackerParameter
  deriving DecidableEq

/-- The injected parameters are not shown. -/
def packerDetail (id : String) (found : TemplateMeta) : PackerDetail where
  id := id
  name := found.name
  description := found.description
  requiredRole := found.requiredRole
  parameters := found.parameters.filter fun parameter => parameter.id ∉ credentialIds

/-- The upload decodes the bytes and the list reads the file; both parse a YAML document, which may be a mapping, and
validate it. An exception of the parser that is caught comes with its text. -/
structure TemplateReaders (Content Mapping : Type) where
  decode : Content → Option String
  readText : Content → Option String
  safeLoad : String → Except (Option String) (Option Mapping)
  hasValue : Mapping → String → Bool
  validate : Mapping → Except String TemplateMeta

variable {Content Mapping : Type} (readers : TemplateReaders Content Mapping) (enumeration : Enumeration)
  (platform : Platform)

/-- Only YAML errors and validation errors are caught. -/
def TemplateReaders.metaOfText (content : Content) : MetaReading TemplateMeta :=
  match readers.readText content with
  | none => .raised
  | some text =>
      match readers.safeLoad text with
      | .error none => .raised
      | .error (some _) => .skipped
      | .ok none => .skipped
      | .ok (some mapping) =>
          match readers.validate mapping with
          | .error _ => .skipped
          | .ok found => .valid found

/-- `_load_template` reads this one file of the directory. -/
def loadTemplate (tree : FileTree Content) (folder : Path) : MetaReading TemplateMeta :=
  match tree.get? (folder ++ ["meta.yaml"]) with
  | some (.file content) => readers.metaOfText content
  | _ => .skipped

/-- The loop of `_list_all`. -/
def collectTemplates (tree : FileTree Content) : List Path → Except Unit (List (String × TemplateMeta))
  | [] => .ok []
  | path :: rest =>
      match tree.get? path with
      | some .directory =>
          match loadTemplate readers tree path with
          | .raised => .error ()
          | .skipped => collectTemplates tree rest
          | .valid found => (collectTemplates tree rest).map ((path.getLastD "", found) :: ·)
      | _ => collectTemplates tree rest

/-- `_list_all` goes through the items of the root. -/
def listAll (root : Root Content) : Except Unit (List (String × TemplateMeta)) :=
  match root with
  | none => .ok []
  | some tree => collectTemplates readers tree (sorted (enumeration.order (search tree fun path => path.length = 1)))

def getPackerTemplate (root : Root Content) (id : String) : Except Unit (Option PackerDetail) :=
  (listAll readers enumeration root).map fun templates =>
    (templates.find? fun template => template.1 = id).map fun template => packerDetail template.1 template.2

/-- `_TEMPLATE_ID_RE`. -/
def isTemplateId (id : String) : Bool := matchesId ['_', '-'] id

/-- The checks of the upload on the bytes of the meta entry. -/
def validateTemplate (content : Content) : Except Refusal TemplateMeta :=
  match readers.decode content with
  | none => .error .raised
  | some text => do
      match ← load "meta.yaml ist kein gültiges YAML: " (readers.safeLoad text) with
      | none => .error (.value "meta.yaml muss ein YAML-Mapping sein")
      | some mapping =>
          if !readers.hasValue mapping "name" then .error (.value "meta.yaml: Pflichtfeld 'name' fehlt")
          else if !readers.hasValue mapping "description" then
            .error (.value "meta.yaml: Pflichtfeld 'description' fehlt")
          else
            match readers.validate mapping with
            | .error detail => .error (.value ("meta.yaml Validierungsfehler: " ++ detail))
            | .ok found => .ok found

/-- The checks of `save_template_zip` on the archive itself. -/
def checkTemplate (archive : Option (List (ZipEntry Content))) : Except Refusal (Accepted Content TemplateMeta) :=
  match archive with
  | none => .error (.value "Ungültige ZIP-Datei")
  | some entries => do
      let names := namelist entries
      refuseParents names
      let start := wrapping names
      let suffix (name : String) : String := Text.sliceFrom start.length name
      match names.filter fun name =>
          Text.startsWith start name && Text.endsWith ".pkr.hcl" name && '/' ∉ (suffix name).toList with
      | [] => .error (.value "ZIP enthält keine .pkr.hcl Datei im Template-Verzeichnis")
      | _ :: _ :: _ => .error (.value "ZIP enthält mehrere .pkr.hcl Dateien")
      | [definition] => do
          let stem := String.ofList ((suffix definition).toList.rdrop ".pkr.hcl".length)
          if !isTemplateId stem then
            .error (.value ("HCL-Dateiname '" ++ stem ++
              "' ist ungültig. Erlaubt: Buchstaben, Ziffern, - und _ (max. 64 Zeichen)"))
          else
            match [start ++ "meta.yaml", start ++ "meta.yml"].find? (· ∈ names) with
            | none => .error (.value "ZIP enthält keine meta.yaml")
            | some metaName => do
                let found ← (read entries metaName).elim (.error .raised) (validateTemplate readers)
                return ⟨stem, found, members entries names start⟩

def saveTemplateZip (archive : Option (List (ZipEntry Content))) (root : Root Content) :
    Except Refusal String × Root Content :=
  match checkTemplate readers archive with
  | .error refusal => (.error refusal, root)
  | .ok accepted => store platform ("Template '" ++ accepted.id ++ "' existiert bereits") accepted root

end Templates

end P3Portal.Automation.Uploads
