import P3Portal.Proof.Automation.UploadStore
import P3Portal.Proof.Automation.ZipExtraction

namespace P3Portal.Automation.ZipExtraction
open Foundation PosixPath ZipSafety
open UriPath (Segment)

section Hosting
variable {Content : Type}

/-- The system on which the uploads extract an archive below a directory of theirs. -/
def hosting (platform : Platform) (letters : ∀ c : Char, c.isAlpha = true → platform.isalpha c = true)
    (entries : List (ZipEntry Content)) (root : List Segment) (target : FileTree.Path) : System Content where
  isalpha := platform.isalpha
  ascii := letters
  fails _ path := platform.refuses (target ++ (path.drop root.length).map String.ofList)
  opened _ name := (read entries name).map fun content => ⟨content, true⟩

/-- Below their roots the disk and the tree hold the same. -/
structure Mirrors (root : List Segment) (target : FileTree.Path) (disk : Disk Content) (tree : FileTree Content) :
    Prop where
  standing : Standing disk root
  above : ∀ path, path ≠ [] → path <+: target → tree.get? path = some .directory
  same : ∀ path, path ≠ [] → disk.item (root ++ path) = tree.get? (target ++ path.map String.ofList)

/-- Both steps succeed or both raise, and the file systems mirror each other afterwards. -/
def Alike {A B : Type} (root : List Segment) (target : FileTree.Path) (first : Except Trouble A × Disk Content)
    (second : Except Unit B × FileTree Content) : Prop :=
  first.1.isOk = second.1.isOk ∧ Mirrors root target first.2 second.2

theorem Alike.cases {A B : Type} {root : List Segment} {target : FileTree.Path}
    {first : Except Trouble A × Disk Content} {second : Except Unit B × FileTree Content}
    (alike : Alike root target first second) :
    (∃ value other disk tree, first = (.ok value, disk) ∧ second = (.ok other, tree) ∧ Mirrors root target disk tree) ∨
      ∃ trouble failure disk tree, first = (.error trouble, disk) ∧ second = (.error failure, tree) ∧
        Mirrors root target disk tree := by
  obtain ⟨result, disk⟩ := first
  obtain ⟨answer, tree⟩ := second
  obtain ⟨verdict, mirrors⟩ := alike
  cases result with
  | ok value =>
      cases answer with
      | ok other => exact .inl ⟨value, other, disk, tree, rfl, rfl, mirrors⟩
      | error failure => cases verdict
  | error trouble =>
      cases answer with
      | ok other => cases verdict
      | error failure => exact .inr ⟨trouble, failure, disk, tree, rfl, rfl, mirrors⟩

variable (platform : Platform) (letters : ∀ c : Char, c.isAlpha = true → platform.isalpha c = true)
  (entries : List (ZipEntry Content)) {root : List Segment} {target : FileTree.Path} {disk after : Disk Content}
  {tree : FileTree Content}

/-- Both file systems get the same item at the same place. -/
theorem Mirrors.put (mirrors : Mirrors root target disk tree) {path : List Segment} (below : path ≠ [])
    {item : FileTree.Item Content}
    (stored : ∀ other, after.item other = if other = root ++ path then some item else disk.item other) :
    Mirrors root target after (tree.set (target ++ path.map String.ofList) item) where
  standing := by
    intro front start
    have apart : front ≠ root ++ path := by
      rintro rfl
      have whole := (List.prefix_append root path).eq_of_length_le start.length_le
      exact below (List.append_right_eq_self.mp whole.symm)
    rw [stored, if_neg apart]
    exact mirrors.standing front start
  above := by
    intro front filled start
    have apart : front ≠ target ++ path.map String.ofList := by
      rintro rfl
      have whole := (List.prefix_append target (path.map String.ofList)).eq_of_length_le start.length_le
      exact below (List.map_eq_nil_iff.mp (List.append_right_eq_self.mp whole.symm))
    rw [OrderedMap.get?_set, if_neg apart]
    exact mirrors.above front filled start
  same := by
    intro other filled
    have names : Function.Injective String.ofList := fun _ _ => String.ofList_inj.mp
    have place : root ++ other = root ++ path ↔ target ++ other.map String.ofList = target ++ path.map String.ofList := by
      rw [List.append_right_inj, List.append_right_inj, (List.map_injective_iff.mpr names).eq_iff]
    rw [stored, OrderedMap.get?_set, mirrors.same other filled]
    simp only [place]

theorem hosting_fails (path : List Segment) :
    (hosting platform letters entries root target).fails disk (root ++ path) =
      platform.refuses (target ++ path.map String.ofList) := by
  show platform.refuses (target ++ ((root ++ path).drop root.length).map String.ofList) = _
  rw [List.drop_left]

/-- A missing directory is made at the same place. -/
theorem mkdir_alike (mirrors : Mirrors root target disk tree) {path : List Segment} (below : path ≠ []) :
    Alike root target (mkdir (hosting platform letters entries root target) (root ++ path) disk)
      (FileTree.ensureDirectory platform.refuses (target ++ path.map String.ofList) tree) := by
  unfold mkdir FileTree.ensureDirectory
  rw [mirrors.same path below, hosting_fails]
  cases tree.get? (target ++ path.map String.ofList) with
  | none =>
      cases platform.refuses (target ++ path.map String.ofList) with
      | true => exact ⟨rfl, mirrors⟩
      | false => exact ⟨rfl, mirrors.put below fun _ => rfl⟩
  | some item => cases item <;> exact ⟨rfl, mirrors⟩

/-- Missing directories are made at the same places. -/
theorem makedirs_alike (more : List Segment) :
    ∀ (path : List Segment) {disk : Disk Content} {tree : FileTree Content}, Mirrors root target disk tree →
      Alike root target (makedirs (hosting platform letters entries root target) (root ++ path) more disk)
        (FileTree.makedirs platform.refuses (target ++ path.map String.ofList) (more.map String.ofList) tree) := by
  induction more with
  | nil =>
      intro path disk tree mirrors
      exact ⟨rfl, mirrors⟩
  | cons segment rest ih =>
      intro path disk tree mirrors
      have filled : path ++ [segment] ≠ [] := List.append_ne_nil_of_right_ne_nil path (List.cons_ne_nil segment [])
      have first := mkdir_alike platform letters entries mirrors filled
      rw [← List.append_assoc, List.map_append, List.map_singleton, ← List.append_assoc] at first
      rw [List.map_cons, makedirs, FileTree.makedirs]
      rcases first.cases with ⟨_, _, made, grown, ran, done, still⟩ | ⟨_, _, made, grown, ran, done, still⟩
      · rw [ran, Script.bind_of_ok done]
        have later := ih (path ++ [segment]) still
        rw [← List.append_assoc, List.map_append, List.map_singleton, ← List.append_assoc] at later
        exact later
      · rw [ran, Script.bind_of_error done]
        exact ⟨rfl, still⟩

/-- Directories that stand are passed. -/
theorem makedirs_standing (system : System Content) {stands : List Segment} (more : List Segment) :
    ∀ base : List Segment, (∀ front, front <+: stands → disk.item (base ++ front) = some .directory) →
      makedirs system base (stands ++ more) disk = makedirs system (base ++ stands) more disk := by
  induction stands with
  | nil =>
      intro base _
      rw [List.append_nil, List.nil_append]
  | cons segment rest ih =>
      intro base standing
      have here : mkdir system (base ++ [segment]) disk = (.ok (), disk) := by
        unfold mkdir
        rw [standing [segment] ((List.prefix_cons_inj segment).mpr List.nil_prefix)]
      rw [List.cons_append, makedirs, here]
      dsimp only
      rw [ih, List.append_assoc, List.singleton_append]
      intro front start
      rw [List.append_assoc]
      exact standing (segment :: front) ((List.prefix_cons_inj segment).mpr start)

theorem makedirs_standing_tree (refuses : FileTree.Path → Bool) {stands : FileTree.Path} (more : FileTree.Path) :
    ∀ base : FileTree.Path,
      (∀ front, front ≠ [] → front <+: stands → tree.get? (base ++ front) = some .directory) →
      FileTree.makedirs refuses base (stands ++ more) tree = FileTree.makedirs refuses (base ++ stands) more tree := by
  induction stands with
  | nil =>
      intro base _
      rw [List.append_nil, List.nil_append]
  | cons part rest ih =>
      intro base standing
      have here : FileTree.ensureDirectory refuses (base ++ [part]) tree = (.ok (), tree) := by
        unfold FileTree.ensureDirectory
        rw [standing [part] (List.cons_ne_nil part []) ((List.prefix_cons_inj part).mpr List.nil_prefix)]
      rw [List.cons_append, FileTree.makedirs, Script.bind_of_ok here, ih, List.append_assoc, List.singleton_append]
      intro front _ start
      rw [List.append_assoc]
      exact standing (part :: front) (List.cons_ne_nil part front) ((List.prefix_cons_inj part).mpr start)

/-- From the roots of both file systems down, nothing else is made. -/
theorem makedirs_below_alike (mirrors : Mirrors root target disk tree) (more : List Segment) :
    Alike root target (makedirs (hosting platform letters entries root target) [] (root ++ more) disk)
      (FileTree.makedirs platform.refuses [] (target ++ more.map String.ofList) tree) := by
  have start := makedirs_alike platform letters entries more [] mirrors
  rw [List.append_nil, List.map_nil, List.append_nil] at start
  rw [makedirs_standing _ _ [] mirrors.standing, makedirs_standing_tree _ _ [] mirrors.above]
  exact start

/-- The parent of an entry is made at the same place. -/
theorem makedirs_parent_alike (mirrors : Mirrors root target disk tree) (more : List Segment) :
    Alike root target (makedirs (hosting platform letters entries root target) [] (root ++ more).dropLast disk)
      (FileTree.makedirs platform.refuses [] (target ++ more.map String.ofList).dropLast tree) := by
  by_cases itself : more = []
  · have first : makedirs (hosting platform letters entries root target) [] (root.dropLast ++ []) disk = (.ok (), disk) :=
      makedirs_standing _ [] [] fun front start => mirrors.standing front (start.trans (List.dropLast_prefix root))
    have second : FileTree.makedirs platform.refuses [] (target.dropLast ++ []) tree = (.ok (), tree) :=
      makedirs_standing_tree _ [] [] fun front filled start =>
        mirrors.above front filled (start.trans (List.dropLast_prefix target))
    rw [List.append_nil] at first second
    rw [itself, List.map_nil, List.append_nil, List.append_nil, first, second]
    exact ⟨rfl, mirrors⟩
  · have named : more.map String.ofList ≠ [] := mt List.map_eq_nil_iff.mp itself
    rw [List.dropLast_append_of_ne_nil itself, List.dropLast_append_of_ne_nil named, ← List.map_dropLast]
    exact makedirs_below_alike platform letters entries mirrors more.dropLast

/-- What the tree does with the content of a file. -/
def storeContent (refuses : FileTree.Path → Bool) (path : FileTree.Path) (content : Option Content) :
    Script (FileTree Content) Unit :=
  match content with
  | none => Script.call true
  | some content => FileTree.writeFile refuses path content

/-- A file is written at the same place. -/
theorem copyEntry_alike (filled : target ≠ []) (mirrors : Mirrors root target disk tree) (rawName : String)
    (more : List Segment) :
    Alike root target (copyEntry (hosting platform letters entries root target) rawName (root ++ more) disk)
      (storeContent platform.refuses (target ++ more.map String.ofList) (read entries rawName) tree) := by
  have opening : (hosting platform letters entries root target).opened disk rawName =
      (read entries rawName).map fun content => ⟨content, true⟩ := rfl
  unfold copyEntry storeContent
  rw [opening]
  cases read entries rawName with
  | none => exact ⟨rfl, mirrors⟩
  | some content =>
      unfold FileTree.writeFile
      dsimp only [Option.map_some]
      by_cases itself : more = []
      · rw [itself, List.map_nil, List.append_nil, List.append_nil, mirrors.standing root (List.prefix_refl root),
          mirrors.above target filled (List.prefix_refl target)]
        exact ⟨rfl, mirrors⟩
      · rw [mirrors.same more itself, hosting_fails]
        cases tree.get? (target ++ more.map String.ofList) with
        | none =>
            cases platform.refuses (target ++ more.map String.ofList) with
            | true => exact ⟨rfl, mirrors⟩
            | false => exact ⟨rfl, mirrors.put itself fun _ => rfl⟩
        | some item =>
            cases item with
            | directory => exact ⟨rfl, mirrors⟩
            | file _ =>
                cases platform.refuses (target ++ more.map String.ofList) with
                | true => exact ⟨rfl, mirrors⟩
                | false => exact ⟨rfl, mirrors.put itself fun _ => rfl⟩

/-- Only the letters matter to the check of a name. -/
theorem safe_hosting (name : String) :
    pathComponentsAreSafe (hosting platform letters entries root target).platform name =
      pathComponentsAreSafe platform name := by
  have each (components : List String) :
      componentsAreSafe (hosting platform letters entries root target).platform components =
        componentsAreSafe platform components := by
    induction components with
    | nil => rfl
    | cons component rest ih =>
        rw [componentsAreSafe, componentsAreSafe, ih]
        rfl
  unfold pathComponentsAreSafe
  simp only [each]

/-- A safe entry does the same to both. -/
theorem writeEntry_alike (filled : target ≠ []) (mirrors : Mirrors root target disk tree) (rawName : String)
    {more : List Segment} (base : ∀ segment ∈ root, Proper segment) (proper : ∀ segment ∈ more, Proper segment) :
    Alike root target
      (writeEntry (hosting platform letters entries root target) rawName (absolute (root ++ more)) disk)
      ((if Text.endsWith "/" rawName then
          FileTree.makedirs platform.refuses [] (target ++ more.map String.ofList)
        else
          FileTree.makedirs platform.refuses [] (target ++ more.map String.ofList).dropLast >>= fun _ =>
            storeContent platform.refuses (target ++ more.map String.ofList) (read entries rawName)) tree) := by
  have every : ∀ segment ∈ root ++ more, Proper segment := List.forall_mem_append.mpr ⟨base, proper⟩
  have parent : ∀ segment ∈ (root ++ more).dropLast, Proper segment :=
    fun segment member => every segment (List.mem_of_mem_dropLast member)
  unfold writeEntry
  rw [segments_absolute every, dirname_absolute every, segments_absolute parent]
  split
  · rcases (makedirs_below_alike platform letters entries mirrors more).cases with
      ⟨_, _, _, _, ran, done, still⟩ | ⟨_, _, _, _, ran, done, still⟩
    · rw [ran, done]
      exact ⟨rfl, still⟩
    · rw [ran, done]
      exact ⟨rfl, still⟩
  · rcases (makedirs_parent_alike platform letters entries mirrors more).cases with
      ⟨_, _, _, _, ran, done, still⟩ | ⟨_, _, _, _, ran, done, still⟩
    · rw [ran, Script.bind_of_ok done]
      dsimp only
      rcases (copyEntry_alike platform letters entries filled still rawName more).cases with
        ⟨_, _, _, _, copied, stored, last⟩ | ⟨_, _, _, _, copied, stored, last⟩
      · rw [copied, stored]
        exact ⟨rfl, last⟩
      · rw [copied, stored]
        exact ⟨rfl, last⟩
    · rw [ran, Script.bind_of_error done]
      exact ⟨rfl, still⟩

/-- One turn of the loop over the names is one of the loop over the entries. -/
theorem extractEntry_alike (base : Root) (start : String) (filled : target ≠ [])
    (mirrors : Mirrors base.path target disk tree) {rawName : String}
    (considered : Text.startsWith start rawName = true) :
    Alike base.path target (extractEntry (hosting platform letters entries base.path target) base start rawName disk)
      (extractMember platform target ⟨rawName, Text.sliceFrom start.length rawName, read entries rawName⟩ tree) := by
  unfold extractEntry extractMember
  rw [considered, Bool.not_true, if_neg Bool.false_ne_true]
  dsimp only
  rw [safe_hosting, safe_hosting]
  cases first : pathComponentsAreSafe platform rawName with
  | mk verdict reason =>
    cases verdict with
    | false => exact ⟨rfl, mirrors⟩
    | true =>
      have passed : (Script.call false : Script (FileTree Content) Unit) tree = (.ok (), tree) := rfl
      rw [Bool.not_true, Script.bind_of_ok passed]
      by_cases empty : Text.sliceFrom start.length rawName = ""
      · rw [if_pos empty, if_pos empty]
        exact ⟨rfl, mirrors⟩
      · rw [if_neg empty, if_neg empty]
        cases second : pathComponentsAreSafe platform (Text.sliceFrom start.length rawName) with
        | mk verdict reason =>
          cases verdict with
          | false => exact ⟨rfl, mirrors⟩
          | true =>
            have safe : (pathComponentsAreSafe (hosting platform letters entries base.path target).platform
                (Text.sliceFrom start.length rawName)).1 = true := by
              rw [safe_hosting, second]
            obtain ⟨proper, same⟩ := candidate_below _ base safe
            rw [Bool.not_true, Script.bind_of_ok passed, candidate_tree _ safe, same, verified base _ proper]
            have written := writeEntry_alike platform letters entries filled mirrors rawName base.proper proper
            exact written

/-- The loops run alike, whatever was written before. -/
theorem extractEntries_alike (base : Root) (start : String) (filled : target ≠ []) (names : List String) :
    ∀ {disk : Disk Content} {tree : FileTree Content} (number : Nat), Mirrors base.path target disk tree →
      Alike base.path target
        (extractEntries (hosting platform letters entries base.path target) base start names number disk)
        (ZipSafety.extractZipSafely platform target (members entries names start) tree) := by
  induction names with
  | nil =>
      intro disk tree number mirrors
      exact ⟨rfl, mirrors⟩
  | cons rawName rest ih =>
      intro disk tree number mirrors
      unfold extractEntries
      cases considered : Text.startsWith start rawName with
      | false =>
          have skipped : extractEntry (hosting platform letters entries base.path target) base start rawName disk =
              (.ok false, disk) := by
            unfold extractEntry
            rw [considered]
            rfl
          have listed : members entries (rawName :: rest) start = members entries rest start := by
            unfold members
            rw [List.filter_cons_of_neg (Bool.eq_false_iff.mp considered)]
          rw [skipped, listed]
          exact ih number mirrors
      | true =>
          have listed : members entries (rawName :: rest) start =
              ⟨rawName, Text.sliceFrom start.length rawName, read entries rawName⟩ :: members entries rest start := by
            unfold members
            rw [List.filter_cons_of_pos considered, List.map_cons]
          rw [listed, ZipSafety.extractZipSafely]
          rcases (extractEntry_alike platform letters entries base start filled mirrors considered).cases with
            ⟨wrote, _, _, _, ran, done, still⟩ | ⟨_, _, _, _, ran, done, still⟩
          · rw [ran, Script.bind_of_ok done]
            exact ih _ still
          · rw [ran, Script.bind_of_error done]
            exact ⟨rfl, still⟩

/-- The directory exists and is empty. -/
structure EmptyDirectory (disk : Disk Content) (root : List Segment) : Prop where
  standing : Standing disk root
  empty : ∀ path, path ≠ [] → disk.item (root ++ path) = none

/-- A new directory of the uploads mirrors an empty one. -/
theorem EmptyDirectory.mirrors (fresh : EmptyDirectory disk root) (id : String) :
    Mirrors root [id] disk (OrderedMap.empty.set [id] .directory) where
  standing := fresh.standing
  above := by
    intro path filled start
    obtain ⟨rest, rfl, short⟩ := (List.prefix_cons_iff.mp start).resolve_left filled
    rw [List.prefix_nil.mp short, OrderedMap.get?_set, if_pos rfl]
  same := by
    intro path filled
    have apart : [id] ++ path.map String.ofList ≠ [id] := by
      intro same
      exact filled (List.map_eq_nil_iff.mp (List.append_right_eq_self.mp same))
    rw [fresh.empty path filled, OrderedMap.get?_set, if_neg apart, OrderedMap.get?_empty]

/-- An extraction into an empty directory succeeds exactly when the entries fit together, and then the directory holds
what they made and nothing else. -/
theorem extraction_laid_out (root : Root) (start : String) (names : List String) (id : String) (disk : Disk Content)
    (fresh : EmptyDirectory disk root.path) :
    ((extractZipSafely (hosting platform letters entries root.path [id]) root start names disk).1.isOk = true ↔
      Extractable platform [id] (members entries names start)) ∧
    (Extractable platform [id] (members entries names start) →
      ∀ path, (extractZipSafely (hosting platform letters entries root.path [id]) root start names disk).2.item
        (root.path ++ path) = layout [id] (members entries names start) (id :: path.map String.ofList)) := by
  have absent : ∀ path, [id] <+: path → (OrderedMap.empty : FileTree Content).get? path = none :=
    fun path _ => OrderedMap.get?_empty path
  have begun := @Uploads.laid_nil Content platform _ id absent
  obtain ⟨verdict, mirrors⟩ := extractEntries_alike platform letters entries root start (List.cons_ne_nil id []) names 0
    (fresh.mirrors id)
  have fits := begun.extracts_iff (members entries names start)
  rw [List.nil_append, Script.exists_runsTo_iff, ← verdict] at fits
  refine ⟨fits, ?_⟩
  intro extractable path
  have done := (begun.extracts_iff (members entries names start)).mpr extractable
  obtain ⟨tree, done⟩ := done
  have laid := begun.extractZipSafely done
  rw [done] at mirrors
  by_cases itself : path = []
  · rw [itself, List.append_nil, List.map_nil]
    exact (mirrors.standing root.path (List.prefix_refl root.path)).trans
      ((mirrors.above [id] (List.cons_ne_nil id []) (List.prefix_refl [id])).symm.trans
        (laid.below [id] (List.prefix_refl [id])))
  · exact (mirrors.same path itself).trans (laid.below _ (List.prefix_append [id] _))

end Hosting

/-- Two files unpacked into an empty directory. -/
theorem two_files_laid_out :
    (extractZipSafely (hosting ⟨Char.isAlpha, fun _ => false⟩ (fun _ letter => letter)
        [⟨"p/a", some "first"⟩, ⟨"p/b/c", some "second"⟩] plainRoot.path ["srv"])
      plainRoot "p/" ["p/a", "p/b/c"] emptyDisk).1.isOk = true ∧
    (extractZipSafely (hosting ⟨Char.isAlpha, fun _ => false⟩ (fun _ letter => letter)
        [⟨"p/a", some "first"⟩, ⟨"p/b/c", some "second"⟩] plainRoot.path ["srv"])
      plainRoot "p/" ["p/a", "p/b/c"] emptyDisk).2.item ["srv".toList, "b".toList, "c".toList] =
        layout ["srv"] (members [⟨"p/a", some "first"⟩, ⟨"p/b/c", some "second"⟩] ["p/a", "p/b/c"] "p/")
          ["srv", "b", "c"] := by
  have fresh : EmptyDirectory emptyDisk plainRoot.path := by
    refine ⟨emptyDisk_standing, ?_⟩
    intro path filled
    apply if_neg
    rw [List.isPrefixOf_iff_prefix]
    intro start
    exact filled (List.append_right_eq_self.mp ((List.prefix_append _ path).eq_of_length_le start.length_le).symm)
  have ran : (extractZipSafely (hosting ⟨Char.isAlpha, fun _ => false⟩ (fun _ letter => letter)
        [⟨"p/a", some "first"⟩, ⟨"p/b/c", some "second"⟩] plainRoot.path ["srv"])
      plainRoot "p/" ["p/a", "p/b/c"] emptyDisk).1.isOk = true := by decide +kernel
  obtain ⟨fits, held⟩ := extraction_laid_out ⟨Char.isAlpha, fun _ => false⟩ (fun _ letter => letter)
    [⟨"p/a", some "first"⟩, ⟨"p/b/c", some "second"⟩] plainRoot "p/" ["p/a", "p/b/c"] "srv" emptyDisk fresh
  exact ⟨ran, held (fits.mp ran) ["b".toList, "c".toList]⟩
end P3Portal.Automation.ZipExtraction
