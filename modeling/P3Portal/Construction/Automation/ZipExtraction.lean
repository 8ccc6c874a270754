import P3Portal.Construction.Automation.PlaybookFiles
import P3Portal.Foundation.PosixPath

namespace P3Portal.Automation.ZipSafety
open Foundation FileTree PlaybookFiles

/-- An entry of an archive; reading a damaged one raises. -/
structure ZipEntry (Content : Type) where
  name : String
  content : Option Content
  deriving DecidableEq

/-- The letters of Unicode, and the paths at which the file system makes nothing, such as those with long names. -/
structure Platform where
  isalpha : Char → Bool
  refuses : Path → Bool

section
variable {Content : Type} (platform : Platform)

/-- `ZipFile.read` takes the last entry of a name. -/
def read (entries : List (ZipEntry Content)) (name : String) : Option Content :=
  (entries.reverse.find? fun entry => entry.name = name).bind ZipEntry.content

def hasDriveLetter (component : String) : Bool :=
  match component.toList with
  | first :: ':' :: _ => platform.isalpha first
  | _ => false

/-- The reason comes with the answer. -/
def componentsAreSafe : List String → Bool × String
  | [] => (true, "")
  | component :: rest =>
      if component = ".." then (false, "entry contains a parent reference (..)")
      else if component = "" then (false, "entry contains an empty segment")
      else if hasDriveLetter platform component then (false, "entry contains a Windows drive letter prefix")
      else componentsAreSafe rest

/-- `_path_components_are_safe`. -/
def pathComponentsAreSafe (member : String) : Bool × String :=
  let cleaned := Text.strip member
  if cleaned = "" then (false, "empty entry name")
  else
    let normalised := Text.slashes cleaned
    if Text.startsWith "/" normalised then (false, "entry resolves to an absolute path")
    else componentsAreSafe platform (pathParts normalised)

/-- An entry to extract, with its name behind the prefix. -/
structure Member (Content : Type) where
  name : String
  relative : String
  content : Option Content
  deriving DecidableEq

/-- The entries below the prefix, in the order of the archive. -/
def members (entries : List (ZipEntry Content)) (names : List String) (start : String) : List (Member Content) :=
  (names.filter (Text.startsWith start)).map fun name =>
    ⟨name, Text.sliceFrom start.length name, read entries name⟩

/-- `os.path.normpath` of the joined path, unless it lies outside of the target. -/
def candidate (target : Path) (relative : String) : Option Path :=
  ((pathParts relative).foldlM enter target).filter fun path => target.isPrefixOf path

/-- One turn of the loop in `extract_zip_safely`. -/
def extractMember (target : Path) (member : Member Content) : Script (FileTree Content) Unit := do
  Script.call (!(pathComponentsAreSafe platform member.name).1)
  if member.relative = "" then pure ()
  else do
    Script.call (!(pathComponentsAreSafe platform member.relative).1)
    match candidate target member.relative with
    | none => Script.call true
    | some path =>
        if Text.endsWith "/" member.name then makedirs platform.refuses [] path
        else do
          makedirs platform.refuses [] path.dropLast
          match member.content with
          | none => Script.call true
          | some content => writeFile platform.refuses path content

/-- The first entry that raises ends the loop. -/
def extractZipSafely (target : Path) : List (Member Content) → Script (FileTree Content) Unit
  | [] => pure ()
  | member :: rest => do
      extractMember platform target member
      extractZipSafely target rest
end
end P3Portal.Automation.ZipSafety

namespace P3Portal.Automation.ZipExtraction
open Foundation PosixPath ZipSafety
open UriPath (Segment)

/-- An absolute directory, as `Path.resolve` answers it. -/
structure Root where
  path : List Segment
  proper : ∀ segment ∈ path, Proper segment

def Root.text (root : Root) : List Char := absolute root.path

/-- A directory that was made, or a file that was opened for writing. -/
inductive Change where
  | directory (path : List Segment)
  | file (path : List Segment)
  deriving DecidableEq

def Change.path : Change → List Segment
  | .directory path => path
  | .file path => path

def Change.isFile : Change → Bool
  | .directory _ => false
  | .file _ => true

/-- What stands at each absolute path, and all changes so far. -/
structure Disk (Content : Type) where
  item : List Segment → Option (FileTree.Item Content)
  changes : List Change

/-- The exceptions of an extraction; the first three are `UnsafeZipMember` with the parts of their texts. -/
inductive Trouble where
  | refusedEntry (name reason : String)
  | refusedRemainder (name reason : String)
  | escapes (name : String)
  | other
  deriving DecidableEq

def Trouble.isUnsafe : Trouble → Bool
  | .other => false
  | _ => true

/-- Copying an entry leaves this content in the file, and may break off. -/
structure Reading (Content : Type) where
  content : Content
  complete : Bool

/-- The letters of Unicode, the failures of the file system, and the entries of the archive that can be opened. -/
structure System (Content : Type) where
  isalpha : Char → Bool
  ascii : ∀ c : Char, c.isAlpha = true → isalpha c = true
  fails : Disk Content → List Segment → Bool
  opened : Disk Content → String → Option (Reading Content)

section
variable {Content : Type}

def System.platform (system : System Content) : Platform := ⟨system.isalpha, fun _ => false⟩

namespace Disk

def makeDirectory (path : List Segment) (disk : Disk Content) : Disk Content where
  item other := if other = path then some .directory else disk.item other
  changes := disk.changes ++ [.directory path]

def putFile (path : List Segment) (content : Content) (disk : Disk Content) : Disk Content where
  item other := if other = path then some (.file content) else disk.item other
  changes := disk.changes ++ [.file path]

end Disk

section Files
variable (system : System Content)

/-- `os.mkdir`, for which an existing directory is no failure. -/
def mkdir (path : List Segment) (disk : Disk Content) : Except Trouble Unit × Disk Content :=
  match disk.item path with
  | some .directory => (.ok (), disk)
  | some (.file _) => (.error .other, disk)
  | none => if system.fails disk path then (.error .other, disk) else (.ok (), disk.makeDirectory path)

/-- `os.makedirs` with `exist_ok` makes the missing directories from the base down. -/
def makedirs (base : List Segment) : List Segment → Disk Content → Except Trouble Unit × Disk Content
  | [], disk => (.ok (), disk)
  | segment :: rest, disk =>
      match mkdir system (base ++ [segment]) disk with
      | (.error trouble, after) => (.error trouble, after)
      | (.ok _, after) => makedirs (base ++ [segment]) rest after

/-- The entry is opened before its file; the file is empty before the chunks are copied. -/
def copyEntry (rawName : String) (path : List Segment) (disk : Disk Content) : Except Trouble Unit × Disk Content :=
  match system.opened disk rawName with
  | none => (.error .other, disk)
  | some reading =>
      match disk.item path with
      | some .directory => (.error .other, disk)
      | _ =>
          if system.fails disk path then (.error .other, disk)
          else (if reading.complete then .ok () else .error .other, disk.putFile path reading.content)

end Files

/-- `_verify_inside_root`: mixed paths raise and count as outside. -/
def verifyInsideRoot (targetRoot candidate : List Char) : Bool := commonpath targetRoot candidate = some targetRoot

/-- The stripped name behind the target directory. -/
def candidate (root : Root) (relative : String) : List Char := normpath (joinPath root.text relative.toList)

section Extraction
variable (system : System Content) (root : Root)

/-- A directory entry makes its directory, and a file entry its parents and its file. -/
def writeEntry (rawName : String) (target : List Char) (disk : Disk Content) : Except Trouble Bool × Disk Content :=
  if Text.endsWith "/" rawName then
    match makedirs system [] (segments target) disk with
    | (.error trouble, after) => (.error trouble, after)
    | (.ok _, after) => (.ok false, after)
  else
    match makedirs system [] (segments (dirname target)) disk with
    | (.error trouble, after) => (.error trouble, after)
    | (.ok _, made) =>
        match copyEntry system rawName (segments target) made with
        | (.error trouble, after) => (.error trouble, after)
        | (.ok _, after) => (.ok true, after)

/-- One turn of the loop answers whether it wrote a file. -/
def extractEntry (start rawName : String) (disk : Disk Content) : Except Trouble Bool × Disk Content :=
  if !Text.startsWith start rawName then (.ok false, disk)
  else
    match pathComponentsAreSafe system.platform rawName with
    | (false, reason) => (.error (.refusedEntry rawName reason), disk)
    | (true, _) =>
        let relative := Text.sliceFrom start.length rawName
        if relative = "" then (.ok false, disk)
        else
          match pathComponentsAreSafe system.platform relative with
          | (false, reason) => (.error (.refusedRemainder rawName reason), disk)
          | (true, _) =>
              if !verifyInsideRoot root.text (candidate root relative) then (.error (.escapes rawName), disk)
              else writeEntry system rawName (candidate root relative) disk

/-- The loop over the names, with the files written so far. -/
def extractEntries (start : String) : List String → Nat → Disk Content → Except Trouble Nat × Disk Content
  | [], filesWritten, disk => (.ok filesWritten, disk)
  | rawName :: rest, filesWritten, disk =>
      match extractEntry system root start rawName disk with
      | (.error trouble, after) => (.error trouble, after)
      | (.ok wrote, after) => extractEntries start rest (if wrote then filesWritten + 1 else filesWritten) after

def extractZipSafely (start : String) (names : List String) (disk : Disk Content) : Except Trouble Nat × Disk Content :=
  extractEntries system root start names 0 disk

end Extraction
end
end P3Portal.Automation.ZipExtraction
