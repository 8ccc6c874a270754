import P3Portal.Construction.Automation.Parameters
import P3Portal.Foundation.FileTree
import P3Portal.Foundation.PythonText

namespace P3Portal.Automation.PlaybookFiles
open Foundation FileTree

/-- Values that a form can fill in at once. -/
structure PlaybookPreset where
  label : String
  values : List (String × ParamValue)
  deriving DecidableEq

/-- The validated content of a `meta.yaml`, with the name of its playbook file and the label and default of each
parameter. -/
structure MetaFile where
  name : String
  description : String
  playbook : String
  detail : PlaybookMeta := {}
  labels : List (String × ParamValue) := []
  presets : List PlaybookPreset := []
  deriving DecidableEq

/-- Reading a meta file gives its content, an error that the loops skip, or any other exception. -/
inductive MetaReading (Meta : Type) where
  | valid (found : Meta)
  | skipped
  | raised
  deriving DecidableEq

/-- The contents of files are read as metas or as UTF-8 texts. -/
structure Readers (Content : Type) where
  metaOfText : Content → MetaReading MetaFile
  utf8 : Content → Option String

/-- The parts of a POSIX path without the empty ones and the dots. -/
def pathParts (path : String) : Path := ((path.toList.splitOn '/').map String.ofList).filter fun part => part ≠ "" && part ≠ "."

/-- `PurePath.stem` drops the suffix of the last part. -/
def stem (path : String) : String :=
  let name := (pathParts path).getLastD ""
  match Text.rsplit '.' name with
  | some (base, suffix) => if base = "" || suffix = "" then name else base
  | none => name

/-- `_playbook_id`. -/
def playbookId (playbookFile : String) : String := stem playbookFile

/-- A listed playbook, with the directory of its meta file. -/
structure Playbook where
  id : String
  folder : Path
  metaFile : MetaFile
  deriving DecidableEq

/-- The portal searches meta files of this name. -/
def isMetaPath (path : Path) : Bool := path.getLast? = some "meta.yaml"

variable {Content : Type} (readers : Readers Content) (enumeration : Enumeration) (tree : FileTree Content)

/-- A directory of this name cannot be read, and the error is skipped. -/
def readMeta (path : Path) : MetaReading MetaFile :=
  match tree.get? path with
  | some (.file content) => readers.metaOfText content
  | _ => .skipped

/-- Only the root and its direct subdirectories hold the metas of playbooks. -/
def shallowMetas : List Path := search tree fun path => isMetaPath path && path.length ≤ 2

/-- The loop of `_load_all_metas`; the first meta of an id counts. -/
def collectMetas (seenIds : List String) : List Path → Except Unit (List Playbook)
  | [] => .ok []
  | path :: rest =>
      match readMeta readers tree path with
      | .raised => .error ()
      | .skipped => collectMetas seenIds rest
      | .valid found =>
          let pid := playbookId found.playbook
          if pid ∈ seenIds then collectMetas seenIds rest
          else (collectMetas (pid :: seenIds) rest).map (⟨pid, path.dropLast, found⟩ :: ·)

def loadAllMetas : Except Unit (List Playbook) :=
  collectMetas readers tree [] (sorted (enumeration.order (shallowMetas tree)))

def getPlaybook (id : String) : Except Unit (Option Playbook) :=
  (loadAllMetas readers enumeration tree).map fun playbooks => playbooks.find? fun playbook => playbook.id = id

/-- The first meta of an id decides about its directory. -/
def folderOf (id : String) : List Path → Except Unit (Option Path)
  | [] => .ok none
  | path :: rest =>
      match readMeta readers tree path with
      | .raised => .error ()
      | .skipped => folderOf id rest
      | .valid found => if playbookId found.playbook = id then .ok (some path.dropLast) else folderOf id rest

/-- The search for the description goes through metas of any depth. -/
def describedFolder (id : String) : Except Unit (Option Path) :=
  folderOf readers tree id (sorted (enumeration.order (search tree isMetaPath)))

def getPlaybookDescription (id : String) : Except Unit (Option String) := do
  match ← describedFolder readers enumeration tree id with
  | none => return none
  | some folder =>
      match tree.get? (folder ++ ["description.md"]) with
      | some (.file content) =>
          match readers.utf8 content with
          | some text => return some text
          | none => throw ()
      | _ => return none

/-- The removal goes through the metas of direct subdirectories in no certain order. -/
def deletePlaybook (id : String) : Except Unit (Bool × FileTree Content) :=
  (folderOf readers tree id (enumeration.order (search tree fun path => isMetaPath path && path.length = 2))).map
    fun folder =>
      match folder with
      | some folder => (true, rmtree tree folder)
      | none => (false, tree)

/-- The items of any depth that the name of the playbook file matches. -/
def definitions (playbook : String) : List Path :=
  search tree fun path => path.getLast?.any (Glob.fnmatch (playbook ++ ".yml"))

/-- `_sync_run` runs the file in the directory of the first match; two stars inside a name are an invalid
pattern. -/
def syncRunFile (playbook : String) : Option Path :=
  if ['*', '*'] <:+: playbook.toList then none
  else (enumeration.order (definitions tree playbook)).head?.map fun path => path.dropLast ++ [playbook ++ ".yml"]

/-- One part of a path leads back or on. -/
def enter (path : Path) (part : String) : Option Path :=
  if part = ".." then (if path = [] then none else some path.dropLast) else some (path ++ [part])

/-- The file that the meta names, unless that is outside of the tree. -/
def Playbook.namedFile (playbook : Playbook) : Option Path :=
  if Text.startsWith "/" playbook.metaFile.playbook then none
  else (pathParts playbook.metaFile.playbook).foldlM enter playbook.folder

end P3Portal.Automation.PlaybookFiles
