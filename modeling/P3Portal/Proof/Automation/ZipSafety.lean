import P3Portal.Construction.Automation.ZipExtraction
import P3Portal.Foundation.Precedence

namespace P3Portal.Automation.ZipSafety
open Foundation FileTree

section Layout
variable {Content : Type} (platform : Platform) (target : Path)

/-- An entry with the name of the prefix itself makes nothing, and other directories end in a slash. -/
def Member.isDirectory (member : Member Content) : Bool := member.relative = "" || Text.endsWith "/" member.name

/-- The path at which the entry is stored. -/
def Member.path (member : Member Content) : Path := (candidate target member.relative).getD target

/-- The directory that has to exist for the entry. -/
def Member.folder (member : Member Content) : Path :=
  if member.isDirectory then member.path target else (member.path target).dropLast

/-- The entry itself gives no reason to stop. -/
structure Member.Sound (member : Member Content) : Prop where
  safe : (pathComponentsAreSafe platform member.name).1 = true
  inside : member.relative = "" ∨
    (pathComponentsAreSafe platform member.relative).1 = true ∧ (candidate target member.relative).isSome = true
  folders : ∀ path, target <+: path → path ≠ target → path <+: member.folder target → platform.refuses path = false
  file : member.isDirectory = false →
    member.path target ≠ target ∧ member.content.isSome = true ∧ platform.refuses (member.path target) = false

/-- Every entry is sound, and no file stands where an entry needs a directory. -/
structure Extractable (made : List (Member Content)) : Prop where
  sound : ∀ member ∈ made, member.Sound platform target
  apart : ∀ file ∈ made, file.isDirectory = false → ∀ member ∈ made, ¬ file.path target <+: member.folder target

/-- The file that an entry stores. -/
def Member.stored (member : Member Content) : Option (Path × Content) :=
  if member.isDirectory then none else member.content.map fun content => (member.path target, content)

/-- The content that the last entry of a path leaves there. -/
def written (made : List (Member Content)) : Path → Option Content :=
  Precedence.assigned (made.filterMap (Member.stored target))

/-- What stands at a path after the entries are extracted. -/
def layout (made : List (Member Content)) (path : Path) : Option (Item Content) :=
  match written target made path with
  | some content => some (.file content)
  | none => if path = target ∨ ∃ member ∈ made, path <+: member.folder target then some .directory else none

variable {platform target} {made : List (Member Content)} {member : Member Content}

/-- A further entry overwrites the content of its own path. -/
theorem written_concat (path : Path) : written target (made ++ [member]) path =
    (Precedence.assigned (member.stored target).toList path).or (written target made path) := by
  unfold written
  rw [List.filterMap_append, Precedence.assigned_append]
  cases stored : member.stored target <;> simp [stored]

/-- Every entry is stored below the target. -/
theorem prefix_path : target <+: member.path target := by
  unfold Member.path
  cases found : candidate target member.relative with
  | none => exact List.prefix_refl target
  | some path =>
      have inside := (Option.filter_eq_some_iff.mp found).2
      exact List.isPrefixOf_iff_prefix.mp inside

/-- Paths that begin with each other are the same. -/
theorem prefix_antisymm {first second : Path} (start : first <+: second) (back : second <+: first) : first = second :=
  start.eq_of_length (Nat.le_antisymm start.length_le back.length_le)

/-- The entry of the prefix itself stands for the target. -/
theorem path_of_empty (empty : member.relative = "") : member.path target = target := by
  have nothing : PlaybookFiles.pathParts "" = [] := by decide
  have itself : target.isPrefixOf target = true := List.isPrefixOf_iff_prefix.mpr (List.prefix_refl target)
  unfold Member.path candidate
  rw [empty, nothing]
  simp [Option.filter, itself]

/-- A directory needs itself. -/
theorem folder_of_directory (directory : member.isDirectory = true) : member.folder target = member.path target := by
  unfold Member.folder
  rw [if_pos directory]

/-- A file needs its parent. -/
theorem folder_of_file (ordinary : member.isDirectory = false) :
    member.folder target = (member.path target).dropLast := by
  unfold Member.folder
  rw [ordinary]
  rfl

/-- The parent of a path below the target is below the target or is the target. -/
theorem prefix_dropLast {path : Path} (start : target <+: path) (other : path ≠ target) : target <+: path.dropLast := by
  obtain ⟨rest, rfl⟩ := start
  have further : rest ≠ [] := by
    rintro rfl
    exact other (List.append_nil target)
  rw [List.dropLast_append_of_ne_nil further]
  exact List.prefix_append target _

/-- No path is above its own parent. -/
theorem not_prefix_dropLast {path : Path} (filled : path ≠ []) : ¬ path <+: path.dropLast := by
  intro below
  have shorter := below.length_le
  have positive := List.length_pos_of_ne_nil filled
  rw [List.length_dropLast] at shorter
  omega

/-- A stored file stands at the path of one of the entries. -/
theorem exists_of_written {path : Path} (found : (written target made path).isSome = true) :
    ∃ file ∈ made, file.isDirectory = false ∧ file.path target = path := by
  unfold written at found
  rw [Precedence.assigned_isSome_iff, List.mem_map] at found
  obtain ⟨assignment, stored, same⟩ := found
  obtain ⟨file, member, storing⟩ := List.mem_filterMap.mp stored
  unfold Member.stored at storing
  split at storing
  · cases storing
  · rename_i ordinary
    obtain ⟨content, -, equal⟩ := Option.map_eq_some_iff.mp storing
    refine ⟨file, member, Bool.eq_false_iff.mpr ordinary, ?_⟩
    rw [← same, ← equal]

/-- A file among the entries leaves its content at its path. -/
theorem Extractable.written_file (extractable : Extractable platform target made) {file : Member Content}
    (member : file ∈ made) (ordinary : file.isDirectory = false) :
    (written target made (file.path target)).isSome = true := by
  unfold written
  rw [Precedence.assigned_isSome_iff, List.mem_map]
  obtain ⟨-, readable, -⟩ := (extractable.sound file member).file ordinary
  obtain ⟨content, same⟩ := Option.isSome_iff_exists.mp readable
  refine ⟨(file.path target, content), List.mem_filterMap.mpr ⟨file, member, ?_⟩, rfl⟩
  unfold Member.stored
  rw [ordinary, same]
  rfl

/-- No file is stored where a directory is needed. -/
theorem Extractable.written_eq_none (extractable : Extractable platform target made) {path : Path}
    (needed : path = target ∨ ∃ member ∈ made, path <+: member.folder target) : written target made path = none := by
  rw [← Option.not_isSome_iff_eq_none]
  intro found
  obtain ⟨file, member, ordinary, same⟩ := exists_of_written found
  rcases needed with root | ⟨other, inside, below⟩
  · exact ((extractable.sound file member).file ordinary).1 (same.trans root)
  · exact extractable.apart file member ordinary other inside (same ▸ below)

/-- A directory stands at the target and at every folder that an entry needs. -/
theorem Extractable.layout_directory (extractable : Extractable platform target made) {path : Path} :
    layout target made path = some .directory ↔ path = target ∨ ∃ member ∈ made, path <+: member.folder target := by
  unfold layout
  constructor
  · intro found
    split at found
    · cases found
    · split at found
      · assumption
      · cases found
  · intro needed
    rw [extractable.written_eq_none needed]
    exact if_pos needed

/-- A file stands where an entry left its content. -/
theorem layout_file {path : Path} {content : Content} :
    layout target made path = some (.file content) ↔ written target made path = some content := by
  unfold layout
  cases written target made path with
  | some other => simp
  | none =>
      constructor
      · intro found
        dsimp only at found
        split at found
        · cases found
        · cases found
      · intro found
        cases found

/-- A further entry fits when the files before it leave its folder free, and it leaves theirs free. -/
theorem extractable_concat : Extractable platform target (made ++ [member]) ↔
    Extractable platform target made ∧ member.Sound platform target ∧
      (∀ file ∈ made, file.isDirectory = false → ¬ file.path target <+: member.folder target) ∧
      (member.isDirectory = false → ∀ other ∈ made, ¬ member.path target <+: other.folder target) := by
  have last : member ∈ made ++ [member] := List.mem_append_right made (List.mem_singleton.mpr rfl)
  constructor
  · rintro ⟨sound, apart⟩
    have keep {other : Member Content} (inside : other ∈ made) : other ∈ made ++ [member] :=
      List.mem_append_left [member] inside
    exact ⟨⟨fun other inside => sound other (keep inside), fun file inside ordinary other further =>
        apart file (keep inside) ordinary other (keep further)⟩,
      sound member last, fun file inside ordinary => apart file (keep inside) ordinary member last,
      fun ordinary other inside => apart member last ordinary other (keep inside)⟩
  · rintro ⟨extractable, sound, before, after⟩
    constructor
    · intro other inside
      rcases List.mem_append.mp inside with earlier | here
      · exact extractable.sound other earlier
      · rw [List.mem_singleton.mp here]
        exact sound
    · intro file inside ordinary other further
      rcases List.mem_append.mp inside with earlier | here
      · rcases List.mem_append.mp further with known | new
        · exact extractable.apart file earlier ordinary other known
        · rw [List.mem_singleton.mp new]
          exact before file earlier ordinary
      · rw [List.mem_singleton.mp here] at ordinary ⊢
        rcases List.mem_append.mp further with known | new
        · exact after ordinary other known
        · rw [List.mem_singleton.mp new]
          intro below
          have named : member.path target ≠ [] := by
            intro nameless
            have below : target <+: member.path target := prefix_path
            rw [nameless] at below
            have root : target = [] := List.prefix_nil.mp below
            exact (sound.file ordinary).1 (nameless.trans root.symm)
          rw [folder_of_file ordinary] at below
          exact not_prefix_dropLast named below

end Layout

section Extraction
variable {Content : Type} {platform : Platform} {target : Path} {made : List (Member Content)} {member : Member Content}
  {tree after : FileTree Content}

/-- The tree below the target holds exactly what the entries made. -/
structure Laid (platform : Platform) (target : Path) (made : List (Member Content)) (tree : FileTree Content) : Prop where
  named : target ≠ []
  fits : Extractable platform target made
  above : ∀ path, path ≠ [] → path <+: target → tree.get? path = some .directory
  below : ∀ path, target <+: path → tree.get? path = layout target made path

/-- From the root of the tree down, all prefixes of a path are on the way. -/
theorem onTheWay_root {folder path : Path} : OnTheWay [] folder path ↔ path ≠ [] ∧ path <+: folder := by
  constructor
  · rintro ⟨start, filled, inside, rfl⟩
    exact ⟨filled, inside⟩
  · rintro ⟨filled, inside⟩
    exact ⟨path, filled, inside, rfl⟩

/-- The directories for a folder can be made exactly when the file system agrees and no file is in the way. -/
theorem Laid.passable_iff (laid : Laid platform target made tree) {folder : Path} (inside : target <+: folder) :
    (∀ path, OnTheWay [] folder path → Passable platform.refuses tree path) ↔
      (∀ path, target <+: path → path ≠ target → path <+: folder → platform.refuses path = false) ∧
        ∀ file ∈ made, file.isDirectory = false → ¬ file.path target <+: folder := by
  simp only [onTheWay_root]
  constructor
  · intro passable
    have filled {path : Path} (start : target <+: path) (other : path ≠ target) : path ≠ [] := by
      intro empty
      rw [empty] at start other
      exact other (List.prefix_nil.mp start).symm
    constructor
    · intro path start other below
      rcases passable path ⟨filled start other, below⟩ with stands | ⟨-, agrees⟩
      · rw [laid.below path start, laid.fits.layout_directory] at stands
        obtain ⟨known, stored, needed⟩ := stands.resolve_left other
        exact (laid.fits.sound known stored).folders path start other needed
      · exact agrees
    · intro file stored ordinary below
      have other := ((laid.fits.sound file stored).file ordinary).1
      obtain ⟨content, found⟩ := Option.isSome_iff_exists.mp (laid.fits.written_file stored ordinary)
      have there : tree.get? (file.path target) = some (.file content) := by
        rw [laid.below _ prefix_path, layout, found]
      rcases passable _ ⟨filled prefix_path other, below⟩ with stands | ⟨absent, -⟩
      · rw [there] at stands
        cases stands
      · rw [there] at absent
        cases absent
  · rintro ⟨agrees, free⟩ path ⟨filled, below⟩
    rcases List.prefix_or_prefix_of_prefix below inside with higher | start
    · exact .inl (laid.above path filled higher)
    · by_cases same : path = target
      · rw [same] at filled ⊢
        exact .inl (laid.above target filled (List.prefix_refl target))
      · unfold Passable
        rw [laid.below path start]
        unfold layout
        cases found : written target made path with
        | some content =>
            obtain ⟨file, stored, ordinary, equal⟩ := exists_of_written (Option.isSome_of_eq_some found)
            exact absurd (equal ▸ below) (free file stored ordinary)
        | none =>
            dsimp only
            split
            · exact .inl rfl
            · exact .inr ⟨rfl, agrees path start same below⟩

/-- The directories of a folder join the layout. -/
theorem Laid.get?_of_makedirs (laid : Laid platform target made tree) {folder : Path}
    (done : Script.RunsTo (makedirs platform.refuses [] folder) tree after) (path : Path) :
    (path ≠ [] → path <+: target → after.get? path = some .directory) ∧
      (target <+: path → path ≠ [] → path <+: folder → after.get? path = some .directory) ∧
      (target <+: path → ¬ path <+: folder → after.get? path = layout target made path) := by
  obtain ⟨passed, kept⟩ := FileTree.get?_of_makedirs platform.refuses done path
  rw [onTheWay_root] at passed kept
  refine ⟨?_, fun _ filled below => passed ⟨filled, below⟩, ?_⟩
  · intro filled higher
    by_cases below : path <+: folder
    · exact passed ⟨filled, below⟩
    · rw [kept fun both => below both.2]
      exact laid.above path filled higher
  · intro start outside
    rw [kept fun both => outside both.2]
    exact laid.below path start

/-- A further entry changes nothing elsewhere. -/
theorem layout_concat_of_outside {path : Path}
    (unstored : Precedence.assigned (member.stored target).toList path = none)
    (outside : ¬ path <+: member.folder target) : layout target (made ++ [member]) path = layout target made path := by
  unfold layout
  rw [written_concat, unstored, Option.none_or]
  simp [or_and_right, exists_or, outside]

theorem stored_directory (directory : member.isDirectory = true) : member.stored target = none := by
  unfold Member.stored
  rw [directory]
  rfl

/-- The files before leave the target itself free. -/
theorem Extractable.not_prefix_target (extractable : Extractable platform target made) {file : Member Content}
    (stored : file ∈ made) (ordinary : file.isDirectory = false) : ¬ file.path target <+: target := by
  intro above
  exact ((extractable.sound file stored).file ordinary).1 (prefix_antisymm above prefix_path)

/-- The entry of the prefix itself only passes the check of its name. -/
theorem runsTo_extractMember_empty (empty : member.relative = "") :
    Script.RunsTo (extractMember platform target member) tree after ↔
      (pathComponentsAreSafe platform member.name).1 = true ∧ after = tree := by
  unfold extractMember
  rw [Script.runsTo_bind, if_pos empty]
  simp

/-- A directory entry passes both checks and makes its directories. -/
theorem runsTo_extractMember_directory (named : member.relative ≠ "") (slash : Text.endsWith "/" member.name = true) :
    Script.RunsTo (extractMember platform target member) tree after ↔
      (pathComponentsAreSafe platform member.name).1 = true ∧
        ((pathComponentsAreSafe platform member.relative).1 = true ∧ (candidate target member.relative).isSome = true) ∧
        Script.RunsTo (makedirs platform.refuses [] (member.path target)) tree after := by
  unfold extractMember Member.path
  rw [Script.runsTo_bind, if_neg named]
  simp only [Script.runsTo_bind, Script.runsTo_call, Bool.not_eq_false']
  cases candidate target member.relative with
  | none => simp
  | some path => simp [slash]

/-- A file entry passes both checks, makes its parents and writes its content. -/
theorem runsTo_extractMember_file (named : member.relative ≠ "") (slash : Text.endsWith "/" member.name = false) :
    Script.RunsTo (extractMember platform target member) tree after ↔
      (pathComponentsAreSafe platform member.name).1 = true ∧
        ((pathComponentsAreSafe platform member.relative).1 = true ∧ (candidate target member.relative).isSome = true) ∧
        ∃ content, member.content = some content ∧ ∃ middle,
          Script.RunsTo (makedirs platform.refuses [] (member.path target).dropLast) tree middle ∧
            Script.RunsTo (writeFile platform.refuses (member.path target) content) middle after := by
  unfold extractMember Member.path
  rw [Script.runsTo_bind, if_neg named]
  simp only [Script.runsTo_bind, Script.runsTo_call, Bool.not_eq_false']
  cases candidate target member.relative with
  | none => simp
  | some path => cases member.content <;> simp [slash, Script.runsTo_bind]

/-- No entry is stored at the root of the tree. -/
theorem Laid.filled (laid : Laid platform target made tree) : member.path target ≠ [] := by
  intro nothing
  exact laid.named (List.prefix_nil.mp (nothing ▸ prefix_path))

/-- The entry of the prefix succeeds exactly when it fits. -/
theorem Laid.succeeds_empty_iff (laid : Laid platform target made tree) (empty : member.relative = "") :
    (∃ after, Script.RunsTo (extractMember platform target member) tree after) ↔
      Extractable platform target (made ++ [member]) := by
  have directory : member.isDirectory = true := by simp [Member.isDirectory, empty]
  have folder : member.folder target = target := by rw [folder_of_directory directory, path_of_empty empty]
  rw [extractable_concat, folder]
  simp only [runsTo_extractMember_empty empty, exists_and_left, exists_eq, and_true]
  constructor
  · intro safe
    refine ⟨laid.fits, ⟨safe, .inl empty, ?_, by simp [directory]⟩, ?_, by simp [directory]⟩
    · intro path start other below
      rw [folder] at below
      exact absurd (prefix_antisymm below start) other
    · intro file stored ordinary
      exact laid.fits.not_prefix_target stored ordinary
  · intro fits
    exact fits.2.1.safe

/-- A directory entry succeeds exactly when it fits. -/
theorem Laid.succeeds_directory_iff (laid : Laid platform target made tree) (named : member.relative ≠ "")
    (slash : Text.endsWith "/" member.name = true) :
    (∃ after, Script.RunsTo (extractMember platform target member) tree after) ↔
      Extractable platform target (made ++ [member]) := by
  have directory : member.isDirectory = true := by simp [Member.isDirectory, slash]
  have below : target <+: member.folder target := by
    rw [folder_of_directory directory]
    exact prefix_path
  rw [extractable_concat]
  simp only [runsTo_extractMember_directory named slash, exists_and_left, ← folder_of_directory directory,
    makedirs_succeeds_iff, laid.passable_iff below]
  constructor
  · rintro ⟨safe, inside, agrees, free⟩
    exact ⟨laid.fits, ⟨safe, .inr inside, agrees, by simp [directory]⟩, free, by simp [directory]⟩
  · rintro ⟨-, sound, free, -⟩
    exact ⟨sound.safe, sound.inside.resolve_left named, sound.folders, free⟩

/-- A file entry succeeds exactly when it fits. -/
theorem Laid.succeeds_file_iff (laid : Laid platform target made tree) (named : member.relative ≠ "")
    (slash : Text.endsWith "/" member.name = false) :
    (∃ after, Script.RunsTo (extractMember platform target member) tree after) ↔
      Extractable platform target (made ++ [member]) := by
  have ordinary : member.isDirectory = false := by simp [Member.isDirectory, slash, named]
  have filled : member.path target ≠ [] := laid.filled
  have below := not_prefix_dropLast filled
  rw [extractable_concat]
  simp only [runsTo_extractMember_file named slash, exists_and_left]
  constructor
  · rintro ⟨safe, inside, after, content, same, middle, first, last⟩
    obtain ⟨closed, agrees, -⟩ := (runsTo_writeFile platform.refuses).mp last
    have there := laid.get?_of_makedirs first
    have other : member.path target ≠ target := by
      intro equal
      rw [equal] at closed
      exact closed ((there target).1 laid.named (List.prefix_refl target))
    have passable := (laid.passable_iff (prefix_dropLast prefix_path other)).mp
      ((makedirs_succeeds_iff platform.refuses).mp ⟨middle, first⟩)
    rw [← folder_of_file ordinary] at passable
    refine ⟨laid.fits, ⟨safe, .inr inside, passable.1, fun _ => ⟨other, ?_, agrees⟩⟩, passable.2, ?_⟩
    · rw [same]
      rfl
    · intro _ known stored needed
      rw [(there _).2.2 prefix_path below] at closed
      exact closed (laid.fits.layout_directory.mpr (.inr ⟨known, stored, needed⟩))
  · rintro ⟨-, sound, before, leaves⟩
    obtain ⟨other, readable, agrees⟩ := sound.file ordinary
    obtain ⟨content, same⟩ := Option.isSome_iff_exists.mp readable
    have agree := sound.folders
    rw [folder_of_file ordinary] at agree before
    obtain ⟨middle, first⟩ := (makedirs_succeeds_iff platform.refuses).mpr
      ((laid.passable_iff (prefix_dropLast prefix_path other)).mpr ⟨agree, before⟩)
    have closed : middle.get? (member.path target) ≠ some .directory := by
      rw [(laid.get?_of_makedirs first _).2.2 prefix_path below, Ne, laid.fits.layout_directory]
      rintro (root | ⟨known, stored, needed⟩)
      · exact other root
      · exact leaves ordinary known stored needed
    exact ⟨sound.safe, sound.inside.resolve_left named, _, content, same, middle, first,
      (runsTo_writeFile platform.refuses).mpr ⟨closed, agrees, rfl⟩⟩

/-- The next entry succeeds exactly when it fits behind the ones before. -/
theorem Laid.succeeds_iff (laid : Laid platform target made tree) :
    (∃ after, Script.RunsTo (extractMember platform target member) tree after) ↔
      Extractable platform target (made ++ [member]) := by
  by_cases named : member.relative = ""
  · exact laid.succeeds_empty_iff named
  · cases slash : Text.endsWith "/" member.name with
    | true => exact laid.succeeds_directory_iff named slash
    | false => exact laid.succeeds_file_iff named slash

/-- A directory joins the layout when its folders stand afterwards and nothing else has changed. -/
theorem Laid.concat_directory (laid : Laid platform target made tree) (directory : member.isDirectory = true)
    (fits : Extractable platform target (made ++ [member]))
    (above : ∀ path, path ≠ [] → path <+: target → after.get? path = some .directory)
    (stands : ∀ path, target <+: path → path <+: member.folder target → after.get? path = some .directory)
    (kept : ∀ path, target <+: path → ¬ path <+: member.folder target → after.get? path = layout target made path) :
    Laid platform target (made ++ [member]) after := by
  refine ⟨laid.named, fits, above, ?_⟩
  intro path start
  by_cases below : path <+: member.folder target
  · rw [stands path start below, eq_comm, fits.layout_directory]
    exact .inr ⟨member, List.mem_append_right made (List.mem_singleton.mpr rfl), below⟩
  · rw [kept path start below, layout_concat_of_outside _ below]
    rw [stored_directory directory]
    rfl

theorem Laid.filled_of_prefix (laid : Laid platform target made tree) {path : Path} (start : target <+: path) :
    path ≠ [] := by
  rintro rfl
  exact laid.named (List.prefix_nil.mp start)

/-- The next entry adds its folders and its file to the layout. -/
theorem Laid.extractMember (laid : Laid platform target made tree)
    (done : Script.RunsTo (ZipSafety.extractMember platform target member) tree after) :
    Laid platform target (made ++ [member]) after := by
  have fits := laid.succeeds_iff.mp ⟨after, done⟩
  by_cases named : member.relative = ""
  · have directory : member.isDirectory = true := by simp [Member.isDirectory, named]
    have folder : member.folder target = target := by rw [folder_of_directory directory, path_of_empty named]
    rw [((runsTo_extractMember_empty named).mp done).2]
    refine laid.concat_directory directory fits laid.above ?_ fun path start _ => laid.below path start
    intro path start below
    rw [folder] at below
    exact laid.above path (laid.filled_of_prefix start) below
  · cases slash : Text.endsWith "/" member.name with
    | true =>
        have directory : member.isDirectory = true := by simp [Member.isDirectory, slash]
        obtain ⟨-, -, made⟩ := (runsTo_extractMember_directory named slash).mp done
        rw [← folder_of_directory directory] at made
        have there := laid.get?_of_makedirs made
        exact laid.concat_directory directory fits (fun path => (there path).1)
          (fun path start => (there path).2.1 start (laid.filled_of_prefix start)) fun path => (there path).2.2
    | false =>
        have ordinary : member.isDirectory = false := by simp [Member.isDirectory, slash, named]
        obtain ⟨-, -, content, same, middle, first, last⟩ := (runsTo_extractMember_file named slash).mp done
        obtain ⟨-, -, rfl⟩ := (runsTo_writeFile platform.refuses).mp last
        have there := laid.get?_of_makedirs first
        have new : member ∈ made ++ [member] := List.mem_append_right made (List.mem_singleton.mpr rfl)
        have other := ((fits.sound member new).file ordinary).1
        have stored : member.stored target = some (member.path target, content) := by
          unfold Member.stored
          rw [ordinary, same]
          rfl
        refine ⟨laid.named, fits, ?_, ?_⟩
        · intro path filled higher
          rw [OrderedMap.get?_set, if_neg]
          · exact (there path).1 filled higher
          · rintro rfl
            exact other (prefix_antisymm higher prefix_path)
        · intro path start
          rw [OrderedMap.get?_set]
          by_cases here : path = member.path target
          · rw [if_pos here, layout, written_concat, stored, here]
            simp [Precedence.assigned_cons]
          · rw [if_neg here]
            by_cases below : path <+: member.folder target
            · have needed := fits.layout_directory.mpr (.inr ⟨member, new, below⟩)
              rw [needed]
              rw [folder_of_file ordinary] at below
              exact (there path).2.1 start (laid.filled_of_prefix start) below
            · rw [layout_concat_of_outside _ below]
              · rw [folder_of_file ordinary] at below
                exact (there path).2.2 start below
              · rw [stored]
                simp [Precedence.assigned_cons, here]

/-- The extraction succeeds exactly when all entries fit together. -/
theorem Laid.extracts_iff (laid : Laid platform target made tree) (rest : List (Member Content)) :
    (∃ after, Script.RunsTo (extractZipSafely platform target rest) tree after) ↔
      Extractable platform target (made ++ rest) := by
  induction rest generalizing made tree with
  | nil =>
      rw [List.append_nil]
      exact ⟨fun _ => laid.fits, fun _ => ⟨tree, Script.runsTo_pure.mpr rfl⟩⟩
  | cons member rest ih =>
      rw [List.append_cons]
      constructor
      · rintro ⟨after, done⟩
        obtain ⟨middle, first, later⟩ := Script.runsTo_bind.mp done
        exact (ih (laid.extractMember first)).mp ⟨after, later⟩
      · intro fits
        have start : Extractable platform target (made ++ [member]) := by
          constructor
          · intro other inside
            exact fits.sound other (List.mem_append_left rest inside)
          · intro file inside ordinary other further
            exact fits.apart file (List.mem_append_left rest inside) ordinary other (List.mem_append_left rest further)
        obtain ⟨middle, first⟩ := laid.succeeds_iff.mpr start
        obtain ⟨after, later⟩ := (ih (laid.extractMember first)).mpr fits
        exact ⟨after, Script.runsTo_bind.mpr ⟨middle, first, later⟩⟩

/-- Afterwards the tree holds what all entries made. -/
theorem Laid.extractZipSafely (laid : Laid platform target made tree) {rest : List (Member Content)}
    (done : Script.RunsTo (ZipSafety.extractZipSafely platform target rest) tree after) :
    Laid platform target (made ++ rest) after := by
  induction rest generalizing made tree with
  | nil =>
      rw [List.append_nil, Script.runsTo_pure.mp done]
      exact laid
  | cons member rest ih =>
      obtain ⟨middle, first, later⟩ := Script.runsTo_bind.mp done
      rw [List.append_cons]
      exact ih (laid.extractMember first) later

end Extraction

section Frame
variable {Content : Type} (platform : Platform) (id : String)

/-- Directories that are made in the target leave the rest of the tree alone. -/
theorem keeps_makedirs_below (rest : Path) : Script.Keeps (rmtree · [id])
    (makedirs platform.refuses [] (id :: rest) : Script (FileTree Content) Unit) :=
  (keeps_ensureDirectory platform.refuses (List.prefix_refl [id])).bind fun _ =>
    keeps_makedirs platform.refuses (List.prefix_refl [id]) rest

/-- An entry leaves the rest of the tree alone. -/
theorem keeps_extractMember (member : Member Content) :
    Script.Keeps (rmtree · [id]) (extractMember platform [id] member) := by
  unfold extractMember
  refine (Script.Keeps.call _ _).bind fun _ => ?_
  split
  · exact Script.Keeps.pure _ ()
  · refine (Script.Keeps.call _ _).bind fun _ => ?_
    cases found : candidate [id] member.relative with
    | none => exact Script.Keeps.call _ true
    | some path =>
        obtain ⟨rest, rfl⟩ := List.isPrefixOf_iff_prefix.mp (Option.filter_eq_some_iff.mp found).2
        dsimp only
        split
        · exact keeps_makedirs_below platform id rest
        · apply Script.Keeps.bind
          · cases rest with
            | nil => exact Script.Keeps.pure _ ()
            | cons part rest => exact keeps_makedirs_below platform id _
          · intro _
            cases member.content with
            | none => exact Script.Keeps.call _ true
            | some content => exact keeps_writeFile platform.refuses (List.prefix_append [id] rest) content

/-- The extraction touches nothing outside of its directory. -/
theorem keeps_extractZipSafely (members : List (Member Content)) :
    Script.Keeps (rmtree · [id]) (extractZipSafely platform [id] members) := by
  induction members with
  | nil => exact Script.Keeps.pure _ ()
  | cons member rest ih => exact (keeps_extractMember platform id member).bind fun _ => ih

end Frame

end P3Portal.Automation.ZipSafety
