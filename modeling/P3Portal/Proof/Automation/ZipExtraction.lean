import P3Portal.Proof.Automation.ZipNames

namespace P3Portal.Automation.ZipExtraction
open Foundation PosixPath ZipSafety
open UriPath (Segment)

/-- The path leads into the directory and nowhere else. -/
def StrictlyBelow (root path : List Segment) : Prop :=
  ∃ more, more ≠ [] ∧ (∀ segment ∈ more, Proper segment) ∧ path = root ++ more

section Changes
variable {Content : Type} {root : List Segment} {before middle after : Disk Content} {made later : List Change}

/-- The directory and those above it exist. -/
def Standing (disk : Disk Content) (path : List Segment) : Prop := ∀ front, front <+: path → disk.item front = some .directory

/-- All changes lie below the directory, and everything else is as before. -/
structure Kept (root : List Segment) (before after : Disk Content) (made : List Change) : Prop where
  changes : after.changes = before.changes ++ made
  below : ∀ change ∈ made, StrictlyBelow root change.path
  same : ∀ path, ¬ StrictlyBelow root path → after.item path = before.item path

theorem Kept.refl (root : List Segment) (disk : Disk Content) : Kept root disk disk [] where
  changes := (List.append_nil _).symm
  below := by simp
  same _ _ := rfl

theorem Kept.trans (first : Kept root before middle made) (second : Kept root middle after later) :
    Kept root before after (made ++ later) where
  changes := by rw [second.changes, first.changes, List.append_assoc]
  below := List.forall_mem_append.mpr ⟨first.below, second.below⟩
  same path outside := (second.same path outside).trans (first.same path outside)

theorem not_below_above {front : List Segment} (start : front <+: root) : ¬ StrictlyBelow root front := by
  rintro ⟨more, present, -, rfl⟩
  have short := start.length_le
  have positive := List.length_pos_of_ne_nil present
  rw [List.length_append] at short
  omega

theorem Kept.standing (kept : Kept root before after made) (standing : Standing before root) : Standing after root := by
  intro front start
  rw [kept.same front (not_below_above start)]
  exact standing front start

/-- Each directory on the way to a path below another one is above or below that one. -/
theorem on_the_way {front more : List Segment} (proper : ∀ segment ∈ more, Proper segment) (start : front <+: root ++ more) :
    front <+: root ∨ StrictlyBelow root front := by
  rcases List.prefix_or_prefix_of_prefix start (List.prefix_append root more) with above | ⟨rest, rfl⟩
  · exact .inl above
  · by_cases same : rest = []
    · rw [same, List.append_nil]
      exact .inl (List.prefix_refl root)
    · have inside := (List.prefix_append_right_inj root).mp start
      exact .inr ⟨rest, same, fun segment member => proper segment (inside.subset member), rfl⟩

end Changes

section Steps
variable {Content : Type} (system : System Content) {root : List Segment} {disk : Disk Content}

/-- A directory is made below the root, or it was there. -/
theorem mkdir_kept {path : List Segment} (standing : Standing disk root) (place : path <+: root ∨ StrictlyBelow root path) :
    ∃ made, Kept root disk (mkdir system path disk).2 made ∧ made.countP Change.isFile = 0 := by
  unfold mkdir
  split
  · exact ⟨[], Kept.refl root disk, rfl⟩
  · exact ⟨[], Kept.refl root disk, rfl⟩
  · rename_i absent
    split
    · exact ⟨[], Kept.refl root disk, rfl⟩
    · have below : StrictlyBelow root path := by
        apply place.resolve_left
        intro above
        rw [standing path above] at absent
        cases absent
      refine ⟨[.directory path], ⟨rfl, ?_, ?_⟩, rfl⟩
      · rw [List.forall_mem_singleton]
        exact below
      · intro other outside
        have apart : other ≠ path := by
          rintro rfl
          exact outside below
        exact if_neg apart

theorem makedirs_kept {rest : List Segment} :
    ∀ {base : List Segment} {disk : Disk Content}, Standing disk root →
      (∀ front, front <+: rest → base ++ front <+: root ∨ StrictlyBelow root (base ++ front)) →
      ∃ made, Kept root disk (makedirs system base rest disk).2 made ∧ made.countP Change.isFile = 0 := by
  induction rest with
  | nil =>
      intro base disk _ _
      exact ⟨[], Kept.refl root disk, rfl⟩
  | cons segment rest ih =>
      intro base disk standing places
      have here := places [segment] ((List.prefix_cons_inj segment).mpr List.nil_prefix)
      obtain ⟨made, kept, none⟩ := mkdir_kept system standing here
      unfold makedirs
      cases ran : mkdir system (base ++ [segment]) disk with
      | mk result after =>
          rw [ran] at kept
          cases result with
          | error trouble => exact ⟨made, kept, none⟩
          | ok _ =>
              have deeper : ∀ front, front <+: rest → base ++ [segment] ++ front <+: root ∨
                  StrictlyBelow root (base ++ [segment] ++ front) := by
                intro front start
                rw [List.append_assoc]
                exact places (segment :: front) ((List.prefix_cons_inj segment).mpr start)
              obtain ⟨later, goes_on, nothing⟩ := ih (kept.standing standing) deeper
              refine ⟨made ++ later, kept.trans goes_on, ?_⟩
              rw [List.countP_append, none, nothing]

theorem copyEntry_kept (rawName : String) {more : List Segment} (standing : Standing disk root)
    (proper : ∀ segment ∈ more, Proper segment) :
    ∃ made, Kept root disk (copyEntry system rawName (root ++ more) disk).2 made ∧
      ((copyEntry system rawName (root ++ more) disk).1 = .ok () → made.countP Change.isFile = 1) := by
  have refused : ∃ made, Kept root disk disk made ∧ ((.error .other : Except Trouble Unit) = .ok () →
      made.countP Change.isFile = 1) := ⟨[], Kept.refl root disk, fun impossible => by cases impossible⟩
  unfold copyEntry
  split
  · exact refused
  · rename_i reading _
    split
    · exact refused
    · rename_i free
      split
      · exact refused
      · have present : more ≠ [] := by
          rintro rfl
          rw [List.append_nil] at free
          exact free (standing root (List.prefix_refl root))
        have below : StrictlyBelow root (root ++ more) := ⟨more, present, proper, rfl⟩
        refine ⟨[.file (root ++ more)], ⟨rfl, ?_, ?_⟩, fun _ => rfl⟩
        · rw [List.forall_mem_singleton]
          exact below
        · intro other outside
          have apart : other ≠ root ++ more := by
            rintro rfl
            exact outside below
          exact if_neg apart

/-- A safe entry changes nothing outside of the root, and one that writes a file writes one. -/
theorem writeEntry_kept (rawName : String) {more : List Segment} (standing : Standing disk root)
    (base : ∀ segment ∈ root, Proper segment) (proper : ∀ segment ∈ more, Proper segment) :
    ∃ made, Kept root disk (writeEntry system rawName (absolute (root ++ more)) disk).2 made ∧
      ∀ wrote, (writeEntry system rawName (absolute (root ++ more)) disk).1 = .ok wrote →
        wrote = !Text.endsWith "/" rawName ∧ made.countP Change.isFile = wrote.toNat := by
  have every : ∀ segment ∈ root ++ more, Proper segment := List.forall_mem_append.mpr ⟨base, proper⟩
  have parent : ∀ segment ∈ (root ++ more).dropLast, Proper segment :=
    fun segment member => every segment (List.mem_of_mem_dropLast member)
  unfold writeEntry
  rw [segments_absolute every, dirname_absolute every, segments_absolute parent]
  split
  · rename_i directory
    have places : ∀ front, front <+: root ++ more → [] ++ front <+: root ∨ StrictlyBelow root ([] ++ front) :=
      fun front start => on_the_way proper start
    obtain ⟨made, kept, none⟩ := makedirs_kept system standing places
    cases ran : makedirs system [] (root ++ more) disk with
    | mk result after =>
        rw [ran] at kept
        cases result with
        | error trouble => exact ⟨made, kept, fun wrote impossible => by cases impossible⟩
        | ok _ =>
            refine ⟨made, kept, ?_⟩
            rintro wrote ⟨⟩
            rw [directory]
            exact ⟨rfl, none⟩
  · rename_i ordinary
    have places : ∀ front, front <+: (root ++ more).dropLast → [] ++ front <+: root ∨ StrictlyBelow root ([] ++ front) :=
      fun front start => on_the_way proper (start.trans (List.dropLast_prefix _))
    obtain ⟨made, kept, none⟩ := makedirs_kept system standing places
    cases ran : makedirs system [] (root ++ more).dropLast disk with
    | mk result middle =>
        rw [ran] at kept
        cases result with
        | error trouble => exact ⟨made, kept, fun wrote impossible => by cases impossible⟩
        | ok _ =>
            obtain ⟨later, goes_on, single⟩ := copyEntry_kept system rawName (kept.standing standing) proper
            dsimp only
            cases copied : copyEntry system rawName (root ++ more) middle with
            | mk result after =>
                rw [copied] at goes_on single
                cases result with
                | error trouble => exact ⟨made ++ later, kept.trans goes_on, fun wrote impossible => by cases impossible⟩
                | ok _ =>
                    refine ⟨made ++ later, kept.trans goes_on, ?_⟩
                    rintro wrote ⟨⟩
                    rw [Bool.eq_false_iff.mpr ordinary, List.countP_append, none, single rfl]
                    exact ⟨rfl, rfl⟩

end Steps

section Entries
variable {Content : Type} (system : System Content) (root : Root) (start : String)

/-- An entry that is written as a file. -/
def isFileEntry (name : String) : Bool :=
  Text.startsWith start name && Text.sliceFrom start.length name ≠ "" && !Text.endsWith "/" name

/-- No segment of a safe name leads upwards. -/
theorem safe_segments {relative : String} (safe : (pathComponentsAreSafe system.platform relative).1 = true) :
    ['.', '.'] ∉ relative.toList.splitOn '/' ∧ ∀ segment ∈ segments relative.toList, Proper segment := by
  have calm := not_dangerous_of_safe system safe
  have free : ['.', '.'] ∉ relative.toList.splitOn '/' := fun member => calm (.inr (.inl member))
  refine ⟨free, ?_⟩
  intro segment member
  apply proper_of_segment member
  rintro rfl
  exact free (List.mem_of_mem_filter member)

/-- A safe name stays below the root. -/
theorem candidate_below {relative : String} (safe : (pathComponentsAreSafe system.platform relative).1 = true) :
    (∀ segment ∈ segments relative.toList, Proper segment) ∧
      candidate root relative = absolute (root.path ++ segments relative.toList) := by
  obtain ⟨free, proper⟩ := safe_segments system safe
  have calm := not_dangerous_of_safe system safe
  have unrooted : isAbsolute relative.toList = false := by
    by_contra rooted
    apply calm
    refine .inl (.inl ?_)
    obtain ⟨rest, same⟩ := List.head?_eq_some_iff.mp (of_decide_eq_true (Bool.of_not_eq_false rooted))
    rw [same]
    rfl
  exact ⟨proper, normpath_joinPath root.proper unrooted free⟩

theorem foldlM_enter {parts : FileTree.Path} (free : ".." ∉ parts) (target : FileTree.Path) :
    parts.foldlM PlaybookFiles.enter target = some (target ++ parts) := by
  induction parts generalizing target with
  | nil =>
      rw [List.append_nil]
      rfl
  | cons part rest ih =>
      obtain ⟨other, later⟩ := not_or.mp (mt List.mem_cons.mpr free)
      have entered : PlaybookFiles.enter target part = some (target ++ [part]) := if_neg (Ne.symm other)
      rw [List.foldlM_cons, entered, Option.bind_eq_bind, Option.bind_some, ih later, List.append_assoc]
      rfl

/-- A safe path names the same place in the tree of the uploads. -/
theorem candidate_tree {relative : String} (safe : (pathComponentsAreSafe system.platform relative).1 = true)
    (target : FileTree.Path) :
    ZipSafety.candidate target relative = some (target ++ (segments relative.toList).map String.ofList) := by
  have proper := (safe_segments system safe).2
  have parts := pathParts_eq relative
  have free : ".." ∉ PlaybookFiles.pathParts relative := by
    rw [parts]
    intro member
    obtain ⟨segment, listed, dots⟩ := List.mem_map.mp member
    have parent : String.ofList segment = String.ofList ['.', '.'] := dots
    exact (proper segment listed).notParent (String.ofList_inj.mp parent)
  have below : target.isPrefixOf (target ++ PlaybookFiles.pathParts relative) = true :=
    List.isPrefixOf_iff_prefix.mpr (List.prefix_append _ _)
  unfold ZipSafety.candidate
  rw [foldlM_enter free, Option.filter_some, if_pos below, parts]

theorem verified (more : List Segment) (proper : ∀ segment ∈ more, Proper segment) :
    verifyInsideRoot root.text (absolute (root.path ++ more)) = true :=
  decide_eq_true (commonpath_below (List.forall_mem_append.mpr ⟨root.proper, proper⟩))

/-- One turn of the loop. -/
theorem extractEntry_kept (rawName : String) {disk : Disk Content} (standing : Standing disk root.path) :
    ∃ made, Kept root.path disk (extractEntry system root start rawName disk).2 made ∧
      ∀ wrote, (extractEntry system root start rawName disk).1 = .ok wrote →
        wrote = isFileEntry start rawName ∧ made.countP Change.isFile = wrote.toNat := by
  have still : Kept root.path disk disk [] := Kept.refl root.path disk
  unfold extractEntry isFileEntry
  split
  · rename_i outside
    refine ⟨[], still, ?_⟩
    rintro wrote ⟨⟩
    have skipped : Text.startsWith start rawName = false := by simpa using outside
    rw [skipped]
    exact ⟨rfl, rfl⟩
  · rename_i considered
    rw [Bool.not_eq_true, Bool.not_eq_false'] at considered
    split
    · exact ⟨[], still, fun wrote impossible => by cases impossible⟩
    · dsimp only
      split
      · rename_i empty
        refine ⟨[], still, ?_⟩
        rintro wrote ⟨⟩
        rw [decide_eq_false (not_not.mpr empty), Bool.and_false]
        exact ⟨rfl, rfl⟩
      · rename_i remains
        split
        · exact ⟨[], still, fun wrote impossible => by cases impossible⟩
        · rename_i safe
          have checked : (pathComponentsAreSafe system.platform (Text.sliceFrom start.length rawName)).1 = true := by
            rw [safe]
          obtain ⟨proper, same⟩ := candidate_below system root checked
          rw [same, verified root _ proper]
          obtain ⟨made, kept, counted⟩ := writeEntry_kept system rawName standing root.proper proper
          refine ⟨made, kept, ?_⟩
          intro wrote ran
          obtain ⟨written, number⟩ := counted wrote ran
          refine ⟨?_, number⟩
          rw [written, decide_eq_true remains, considered]
          rfl

/-- The whole loop, with the files that were written before it. -/
theorem extractEntries_kept (names : List String) {disk : Disk Content} (standing : Standing disk root.path) (number : Nat) :
    ∃ made, Kept root.path disk (extractEntries system root start names number disk).2 made ∧
      ∀ written, (extractEntries system root start names number disk).1 = .ok written →
        written = number + made.countP Change.isFile ∧ written = number + names.countP (isFileEntry start) := by
  induction names generalizing disk number with
  | nil =>
      refine ⟨[], Kept.refl root.path disk, ?_⟩
      rintro written ⟨⟩
      exact ⟨rfl, rfl⟩
  | cons rawName rest ih =>
      obtain ⟨made, kept, counted⟩ := extractEntry_kept system root start rawName standing
      unfold extractEntries
      cases ran : extractEntry system root start rawName disk with
      | mk result after =>
          rw [ran] at kept counted
          cases result with
          | error trouble => exact ⟨made, kept, fun written impossible => by cases impossible⟩
          | ok wrote =>
              obtain ⟨kind, single⟩ := counted wrote rfl
              obtain ⟨later, goes_on, sums⟩ := ih (kept.standing standing) (if wrote then number + 1 else number)
              refine ⟨made ++ later, kept.trans goes_on, ?_⟩
              intro written done
              obtain ⟨changes, files⟩ := sums written done
              rw [List.countP_append, single, List.countP_cons, ← kind]
              cases wrote
              · exact ⟨by simpa using changes, by simpa using files⟩
              · refine ⟨?_, ?_⟩
                · rw [changes]
                  show number + 1 + _ = number + (1 + _)
                  omega
                · rw [files]
                  show number + 1 + _ = number + (_ + 1)
                  omega

theorem not_dangerous_empty : ¬ Dangerous "" := by
  rintro ((rooted | ⟨letter, rest, same, -⟩) | plain | found)
  · revert rooted
    decide
  · cases same
  · revert plain
    decide
  · revert found
    decide

/-- A considered name that is dangerous ends the loop before anything is written. -/
theorem extractEntry_refused {rawName : String} (considered : Text.startsWith start rawName = true)
    (dangerous : Dangerous rawName ∨ Dangerous (Text.sliceFrom start.length rawName)) (disk : Disk Content) :
    ∃ trouble : Trouble, trouble.isUnsafe = true ∧ extractEntry system root start rawName disk = (.error trouble, disk) := by
  unfold extractEntry
  rw [considered]
  split
  · rename_i impossible
    cases impossible
  · split
    · exact ⟨_, rfl, rfl⟩
    · rename_i first
      have calm : ¬ Dangerous rawName := not_dangerous_of_safe system (by rw [first])
      have remainder := dangerous.resolve_left calm
      dsimp only
      split
      · rename_i empty
        rw [empty] at remainder
        exact absurd remainder not_dangerous_empty
      · split
        · exact ⟨_, rfl, rfl⟩
        · rename_i second
          exact absurd remainder (not_dangerous_of_safe system (by rw [second]))

theorem extractEntries_append (before rest : List String) (number : Nat) (disk : Disk Content) :
    extractEntries system root start (before ++ rest) number disk =
      match extractEntries system root start before number disk with
      | (.error trouble, middle) => (.error trouble, middle)
      | (.ok count, middle) => extractEntries system root start rest count middle := by
  induction before generalizing number disk with
  | nil => rfl
  | cons rawName before ih =>
      rw [List.cons_append, extractEntries, extractEntries]
      cases extractEntry system root start rawName disk with
      | mk result after =>
          cases result with
          | error trouble => rfl
          | ok wrote => exact ih _ _

/-- An extraction changes what lies below its root only, counts the files that it writes, and stops at a name that leads
elsewhere. -/
theorem extraction_stays_inside (names : List String) (disk : Disk Content) (standing : Standing disk root.path) :
    (∃ made, Kept root.path disk (extractZipSafely system root start names disk).2 made ∧
      ∀ written, (extractZipSafely system root start names disk).1 = .ok written →
        written = made.countP Change.isFile ∧ written = names.countP (isFileEntry start)) ∧
    ∀ before name rest, names = before ++ name :: rest → Text.startsWith start name = true →
      Dangerous name ∨ Dangerous (Text.sliceFrom start.length name) →
      (∀ count middle, extractZipSafely system root start before disk = (.ok count, middle) →
        ∃ trouble : Trouble, trouble.isUnsafe = true ∧
          extractZipSafely system root start names disk = (.error trouble, middle)) ∧
      ∀ trouble middle, extractZipSafely system root start before disk = (.error trouble, middle) →
        extractZipSafely system root start names disk = (.error trouble, middle) := by
  constructor
  · obtain ⟨made, kept, counted⟩ := extractEntries_kept system root start names standing 0
    refine ⟨made, kept, ?_⟩
    intro written done
    have sums := counted written done
    rwa [Nat.zero_add, Nat.zero_add] at sums
  · rintro before name rest rfl considered dangerous
    unfold extractZipSafely
    rw [extractEntries_append]
    constructor
    · intro count middle ran
      obtain ⟨trouble, kind, refused⟩ := extractEntry_refused system root start considered dangerous middle
      refine ⟨trouble, kind, ?_⟩
      rw [ran]
      show extractEntries system root start (name :: rest) count middle = _
      rw [extractEntries, refused]
    · intro trouble middle ran
      rw [ran]

def plainSystem : System String where
  isalpha := Char.isAlpha
  ascii _ alpha := alpha
  fails _ _ := false
  opened _ name := some ⟨name, true⟩

def plainRoot : Root where
  path := ["srv".toList]
  proper := by
    intro segment member
    rw [List.mem_singleton.mp member]
    exact ⟨by decide, by decide, by decide, by decide⟩

/-- A disk with the target directory only. -/
def emptyDisk : Disk String where
  item path := if path.isPrefixOf ["srv".toList] then some .directory else none
  changes := []

theorem emptyDisk_standing : Standing emptyDisk plainRoot.path := by
  intro front start
  exact if_pos (List.isPrefixOf_iff_prefix.mpr start)

/-- Extracting three entries writes two files below the directory. -/
theorem extraction_stays_inside_ending :
    (extractZipSafely plainSystem plainRoot "p/" ["p/a", "q/b", "p/c/d"] emptyDisk).1 = .ok 2 ∧
      ∃ made, Kept plainRoot.path emptyDisk
        (extractZipSafely plainSystem plainRoot "p/" ["p/a", "q/b", "p/c/d"] emptyDisk).2 made := by
  have inside := (extraction_stays_inside plainSystem plainRoot "p/" ["p/a", "q/b", "p/c/d"] emptyDisk emptyDisk_standing).1
  obtain ⟨made, kept, _⟩ := inside
  exact ⟨by decide +kernel, made, kept⟩

/-- A name without the prefix is skipped, wherever it leads. -/
theorem skipped_entry :
    Dangerous "/etc/passwd" ∧
      (extractZipSafely plainSystem plainRoot "p/" ["/etc/passwd"] emptyDisk).1 = .ok 0 := by
  refine ⟨.inl (.inl ?_), by decide +kernel⟩
  decide +kernel

end Entries
end P3Portal.Automation.ZipExtraction
