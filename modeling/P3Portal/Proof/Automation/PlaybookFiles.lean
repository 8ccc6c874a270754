import P3Portal.Construction.Automation.PlaybookFiles

namespace P3Portal.Automation.PlaybookFiles
open Foundation FileTree

section Loops
variable {Content : Type} (readers : Readers Content) (tree : FileTree Content)

/-- Reading this meta raises an exception that no loop catches. -/
def raises (path : Path) : Bool :=
  match readMeta readers tree path with
  | .raised => true
  | _ => false

/-- The playbook that the meta at the path describes. -/
def entryAt (path : Path) : Option Playbook :=
  match readMeta readers tree path with
  | .valid found => some ⟨playbookId found.playbook, path.dropLast, found⟩
  | _ => none

/-- The meta at the path describes the playbook of the id. -/
def names (id : String) (path : Path) : Bool := (entryAt readers tree path).any fun playbook => playbook.id = id

/-- A search for the id ends at this path, with an answer or with an exception. -/
def stops (id : String) (path : Path) : Bool := names readers tree id path || raises readers tree path

/-- The search of a folder stops at the first file that names the playbook or raises. -/
theorem folderOf_eq (id : String) (paths : List Path) :
    folderOf readers tree id paths = match paths.find? (stops readers tree id) with
      | none => .ok none
      | some path => if raises readers tree path then .error () else .ok (some path.dropLast) := by
  induction paths with
  | nil => rfl
  | cons path rest ih =>
      unfold folderOf
      cases reading : readMeta readers tree path with
      | raised =>
          have raising : raises readers tree path = true := by
            unfold raises
            rw [reading]
          have stopping : stops readers tree id path = true := by
            rw [stops, raising, Bool.or_true]
          rw [List.find?_cons_of_pos stopping]
          simp [raising]
      | skipped =>
          have passing : stops readers tree id path = false := by
            simp [stops, names, entryAt, raises, reading]
          rw [List.find?_cons_of_neg (by simp [passing])]
          exact ih
      | valid found =>
          have calm : raises readers tree path = false := by
            unfold raises
            rw [reading]
          have naming : stops readers tree id path = decide (playbookId found.playbook = id) := by
            simp [stops, names, entryAt, calm, reading]
          by_cases same : playbookId found.playbook = id
          · rw [List.find?_cons_of_pos (by simp [naming, same])]
            simp [calm, same]
          · rw [List.find?_cons_of_neg (by simp [naming, same])]
            simp only [same, if_false]
            exact ih

/-- A valid meta file names its own playbook. -/
theorem names_eq {path : Path} {found : MetaFile} (reading : readMeta readers tree path = .valid found) (id : String) :
    names readers tree id path = decide (playbookId found.playbook = id) := by
  unfold names entryAt
  simp only [reading, Option.any_some]

/-- Other files name no playbook. -/
theorem names_eq_false {path : Path} (reading : ∀ found, readMeta readers tree path ≠ .valid found) (id : String) :
    names readers tree id path = false := by
  unfold names entryAt
  split
  · rename_i found valid
    exact absurd valid (reading found)
  · rfl

/-- A loop that ends has met no exception. -/
theorem collectMetas_calm (seenIds : List String) (paths : List Path) {playbooks : List Playbook}
    (collected : collectMetas readers tree seenIds paths = .ok playbooks) :
    ∀ path ∈ paths, raises readers tree path = false := by
  induction paths generalizing seenIds playbooks with
  | nil =>
      intro path absent
      cases absent
  | cons path rest ih =>
      rw [List.forall_mem_cons]
      unfold collectMetas at collected
      unfold raises
      cases reading : readMeta readers tree path with
      | raised =>
          rw [reading] at collected
          cases collected
      | skipped =>
          rw [reading] at collected
          exact ⟨rfl, ih seenIds collected⟩
      | valid found =>
          rw [reading] at collected
          dsimp only at collected
          refine ⟨rfl, ?_⟩
          split at collected
          · exact ih seenIds collected
          · cases later : collectMetas readers tree (playbookId found.playbook :: seenIds) rest with
            | error failure =>
                rw [later] at collected
                cases collected
            | ok playbooks => exact ih _ later

/-- A loop that meets no exception ends. -/
theorem collectMetas_of_calm (seenIds : List String) {paths : List Path}
    (calm : ∀ path ∈ paths, raises readers tree path = false) :
    ∃ playbooks, collectMetas readers tree seenIds paths = .ok playbooks := by
  induction paths generalizing seenIds with
  | nil => exact ⟨[], rfl⟩
  | cons path rest ih =>
      obtain ⟨here, later⟩ := List.forall_mem_cons.mp calm
      unfold raises at here
      unfold collectMetas
      cases reading : readMeta readers tree path with
      | raised =>
          rw [reading] at here
          cases here
      | skipped => exact ih seenIds later
      | valid found =>
          dsimp only
          split
          · exact ih seenIds later
          · obtain ⟨playbooks, collected⟩ := ih (playbookId found.playbook :: seenIds) later
            rw [collected]
            exact ⟨_, rfl⟩

/-- The loop keeps the first meta of each id that it has not seen before. -/
theorem collectMetas_filter (id : String) (seenIds : List String) (paths : List Path) {playbooks : List Playbook}
    (collected : collectMetas readers tree seenIds paths = .ok playbooks) :
    playbooks.filter (fun playbook => playbook.id = id) =
      if id ∈ seenIds then [] else ((paths.find? (names readers tree id)).bind (entryAt readers tree)).toList := by
  induction paths generalizing seenIds playbooks with
  | nil =>
      cases collected
      simp
  | cons path rest ih =>
      unfold collectMetas at collected
      cases reading : readMeta readers tree path with
      | raised =>
          rw [reading] at collected
          cases collected
      | skipped =>
          rw [reading] at collected
          have nameless : names readers tree id path = false := by
            apply names_eq_false
            intro found
            rw [reading]
            exact fun impossible => by cases impossible
          rw [ih seenIds collected, List.find?_cons_of_neg (by simp [nameless])]
      | valid found =>
          have named := names_eq readers tree reading id
          rw [reading] at collected
          dsimp only at collected
          split at collected
          · rename_i seen
            rw [ih seenIds collected]
            by_cases same : playbookId found.playbook = id
            · rw [if_pos (same ▸ seen), if_pos (same ▸ seen)]
            · rw [List.find?_cons_of_neg (by simp [named, same])]
          · rename_i unseen
            cases later : collectMetas readers tree (playbookId found.playbook :: seenIds) rest with
            | error failure =>
                rw [later] at collected
                cases collected
            | ok kept =>
                rw [later] at collected
                cases collected
                have further := ih _ later
                by_cases same : playbookId found.playbook = id
                · have entry : entryAt readers tree path = some ⟨id, path.dropLast, found⟩ := by
                    unfold entryAt
                    rw [reading, ← same]
                  rw [same] at unseen further ⊢
                  rw [if_pos List.mem_cons_self] at further
                  rw [List.filter_cons_of_pos (by simp), further, if_neg unseen,
                    List.find?_cons_of_pos (by simp [named, same]), Option.bind_some, entry]
                  rfl
                · rw [List.filter_cons_of_neg (by simp [same]), List.find?_cons_of_neg (by simp [named, same]),
                    further]
                  have other : id ∈ playbookId found.playbook :: seenIds ↔ id ∈ seenIds := by
                    rw [List.mem_cons]
                    exact or_iff_right fun equal => same equal.symm
                  simp only [other]

end Loops

section Listing
variable {Content : Type} {readers : Readers Content} {tree : FileTree Content} {id : String} {playbook : Playbook}

/-- The lookup does not depend on the enumeration. -/
theorem loadAllMetas_eq (enumeration : Enumeration) :
    loadAllMetas readers enumeration tree = collectMetas readers tree [] (sorted (shallowMetas tree)) := by
  unfold loadAllMetas
  rw [sorted_order]

/-- The loaded playbooks are the table from which a job is started. -/
theorem getPlaybook_table (playbooks : List Playbook) (id : String) :
    Automation.getPlaybook (playbooks.map fun playbook => (playbook.id, playbook.metaFile.detail)) id =
      (playbooks.find? fun playbook => playbook.id = id).map fun playbook => playbook.metaFile.detail := by
  unfold Automation.getPlaybook
  induction playbooks with
  | nil => rfl
  | cons playbook rest ih =>
      rw [List.map_cons, List.lookup_cons]
      by_cases same : playbook.id = id
      · rw [List.find?_cons_of_pos (by simp [same])]
        simp [same]
      · have missed : (id == playbook.id) = false := beq_false_of_ne fun equal => same equal.symm
        rw [missed, List.find?_cons_of_neg (by simp [same])]
        exact ih

/-- A meta file stands in its folder. -/
theorem metaPath_eq {path : Path} (named : isMetaPath path = true) : path = path.dropLast ++ ["meta.yaml"] := by
  have last : path.getLast? = some "meta.yaml" := of_decide_eq_true named
  rw [List.getLast?_eq_some_iff] at last
  obtain ⟨folder, same⟩ := last
  rw [same, List.dropLast_concat]

/-- What the lookup of an id has found: the least shallow meta of the id, among metas that raise nothing. -/
structure Found (readers : Readers Content) (tree : FileTree Content) (id : String) (playbook : Playbook) : Prop where
  calm : ∀ path ∈ shallowMetas tree, raises readers tree path = false
  stored : playbook.folder ++ ["meta.yaml"] ∈ shallowMetas tree
  entry : entryAt readers tree (playbook.folder ++ ["meta.yaml"]) = some playbook
  named : playbook.id = id
  least : ∀ path ∈ shallowMetas tree, path < playbook.folder ++ ["meta.yaml"] → names readers tree id path = false
  only : ∀ enumeration, ∃ playbooks, loadAllMetas readers enumeration tree = .ok playbooks ∧
    playbooks.filter (fun playbook => playbook.id = id) = [playbook]

/-- The list succeeds exactly when reading the shallow metas raises nothing. -/
theorem loadAllMetas_succeeds_iff (enumeration : Enumeration) :
    (∃ playbooks, loadAllMetas readers enumeration tree = .ok playbooks) ↔
      ∀ path ∈ shallowMetas tree, raises readers tree path = false := by
  rw [loadAllMetas_eq]
  constructor
  · rintro ⟨playbooks, collected⟩ path member
    exact collectMetas_calm readers tree [] _ collected path (mem_sorted.mpr member)
  · intro calm
    exact collectMetas_of_calm readers tree [] fun path member => calm path (mem_sorted.mp member)

/-- Each id is listed with its least shallow meta. -/
theorem mem_loadAllMetas {enumeration : Enumeration} {playbooks : List Playbook}
    (loaded : loadAllMetas readers enumeration tree = .ok playbooks) : playbook ∈ playbooks ↔
      ∃ path ∈ shallowMetas tree, entryAt readers tree path = some playbook ∧
        ∀ other ∈ shallowMetas tree, other < path → names readers tree playbook.id other = false := by
  rw [loadAllMetas_eq] at loaded
  have kept := collectMetas_filter readers tree playbook.id [] _ loaded
  rw [if_neg List.not_mem_nil] at kept
  have listed : playbook ∈ playbooks ↔ playbook ∈ playbooks.filter fun other => other.id = playbook.id := by
    simp [List.mem_filter]
  have naming {path : Path} (entry : entryAt readers tree path = some playbook) :
      names readers tree playbook.id path = true := by
    simp [names, entry]
  rw [listed, kept, Option.mem_toList, Option.bind_eq_some_iff]
  have distinct : (shallowMetas tree).Nodup := search_nodup tree _
  simp only [find?_increasing (sorted_increasing distinct), mem_sorted]
  constructor
  · rintro ⟨path, ⟨member, -, least⟩, entry⟩
    exact ⟨path, member, entry, least⟩
  · rintro ⟨path, member, entry, least⟩
    exact ⟨path, ⟨member, naming entry, least⟩, entry⟩

/-- An id that is not listed is named by no shallow meta. -/
theorem names_of_unlisted {enumeration : Enumeration} {playbooks : List Playbook}
    (loaded : loadAllMetas readers enumeration tree = .ok playbooks) (unlisted : ∀ playbook ∈ playbooks, playbook.id ≠ id) :
    ∀ path ∈ shallowMetas tree, names readers tree id path = false := by
  rw [loadAllMetas_eq] at loaded
  have kept := collectMetas_filter readers tree id [] _ loaded
  rw [if_neg List.not_mem_nil, List.filter_eq_nil_iff.mpr (by simpa using unlisted)] at kept
  intro path member
  cases first : (sorted (shallowMetas tree)).find? (names readers tree id) with
  | none =>
      have missed := List.find?_eq_none.mp first path (mem_sorted.mpr member)
      exact Bool.eq_false_iff.mpr missed
  | some other =>
      have hit := List.find?_some first
      rw [first, Option.bind_some] at kept
      unfold names at hit
      cases entry : entryAt readers tree other with
      | none =>
          rw [entry] at hit
          cases hit
      | some playbook =>
          rw [entry] at kept
          cases kept

/-- An entry has the folder of its meta file. -/
theorem entryAt_folder {path : Path} (entry : entryAt readers tree path = some playbook) :
    playbook.folder = path.dropLast := by
  unfold entryAt at entry
  split at entry
  · rw [← Option.some.inj entry]
  · cases entry

/-- A playbook that is answered is found in the tree. -/
theorem getPlaybook_found {enumeration : Enumeration}
    (found : getPlaybook readers enumeration tree id = .ok (some playbook)) : Found readers tree id playbook := by
  unfold getPlaybook at found
  cases collected : loadAllMetas readers enumeration tree with
  | error failure =>
      rw [collected] at found
      cases found
  | ok playbooks =>
      rw [collected] at found
      have first : playbooks.find? (fun playbook => playbook.id = id) = some playbook := Except.ok.inj found
      have loaded := collected
      rw [loadAllMetas_eq] at collected
      have kept := collectMetas_filter readers tree id [] _ collected
      rw [if_neg List.not_mem_nil] at kept
      rw [← List.head?_filter, kept] at first
      cases least : (sorted (shallowMetas tree)).find? (names readers tree id) with
      | none =>
          rw [least] at first
          cases first
      | some path =>
          rw [least, Option.bind_some] at first kept
          have entry : entryAt readers tree path = some playbook := by
            cases answer : entryAt readers tree path with
            | none =>
                rw [answer] at first
                cases first
            | some other =>
                rw [answer] at first
                exact first
          have distinct : (shallowMetas tree).Nodup := search_nodup tree _
          rw [entry] at kept
          rw [find?_increasing (sorted_increasing distinct)] at least
          obtain ⟨member, hit, smallest⟩ := least
          have stored := mem_sorted.mp member
          have metaName := (Bool.and_eq_true_iff.mp (mem_search.mp stored).2).1
          have same : path = playbook.folder ++ ["meta.yaml"] := by
            rw [entryAt_folder entry]
            exact metaPath_eq metaName
          rw [same] at stored entry smallest hit
          refine ⟨?_, stored, entry, ?_, ?_, ?_⟩
          · intro other inside
            exact collectMetas_calm readers tree [] _ collected other (mem_sorted.mpr inside)
          · unfold names at hit
            rw [entry] at hit
            exact of_decide_eq_true hit
          · intro other inside
            exact smallest other (mem_sorted.mpr inside)
          · intro other
            refine ⟨playbooks, ?_, kept⟩
            rw [loadAllMetas_eq]
            exact collected

/-- The meta file of a found playbook names it. -/
theorem Found.names (found : Found readers tree id playbook) :
    names readers tree id (playbook.folder ++ ["meta.yaml"]) = true := by
  unfold PlaybookFiles.names
  rw [found.entry]
  exact decide_eq_true found.named

/-- The search stops at the meta file of a found playbook. -/
theorem Found.stops (found : Found readers tree id playbook) :
    stops readers tree id (playbook.folder ++ ["meta.yaml"]) = true := by
  rw [PlaybookFiles.stops, found.names, Bool.true_or]

/-- A file that names a playbook does not raise. -/
theorem not_raises_of_names {path : Path} (named : names readers tree id path = true) :
    raises readers tree path = false := by
  unfold PlaybookFiles.names entryAt at named
  unfold raises
  cases reading : readMeta readers tree path with
  | raised =>
      rw [reading] at named
      cases named
  | skipped => rfl
  | valid _ => rfl

/-- The search for an id ends with a folder exactly at the first path where it stops without an exception. -/
theorem folderOf_eq_ok_some {paths : List Path} {folder : Path} :
    folderOf readers tree id paths = .ok (some folder) ↔
      ∃ path, paths.find? (PlaybookFiles.stops readers tree id) = some path ∧
        raises readers tree path = false ∧ path.dropLast = folder := by
  rw [folderOf_eq]
  cases paths.find? (PlaybookFiles.stops readers tree id) with
  | none => simp
  | some path => by_cases raising : raises readers tree path = true <;> simp [raising]

end Listing

section Agreement
variable {Content : Type} (readers : Readers Content) (tree : FileTree Content) (id : String) (playbook : Playbook)

/-- The functions all refer to the directory of the listed meta, and the file that it names is run. The removal
declines a playbook in the root. -/
structure Agrees (enumeration : Enumeration) : Prop where
  listed : ∃ playbooks, loadAllMetas readers enumeration tree = .ok playbooks ∧
    playbooks.filter (fun playbook => playbook.id = id) = [playbook]
  described : describedFolder readers enumeration tree id = .ok (some playbook.folder)
  deleted : deletePlaybook readers enumeration tree id =
    .ok (if playbook.folder = [] then (false, tree) else (true, rmtree tree playbook.folder))
  executed : ∃ file, playbook.namedFile = some file ∧ syncRunFile enumeration tree id = some file

/-- No deeper meta that sorts before the listed one has its id or cannot be decoded. -/
def DescribedAlone : Prop :=
  ∀ path ∈ search tree isMetaPath, 2 < path.length → path < playbook.folder ++ ["meta.yaml"] →
    stops readers tree id path = false

/-- No other direct subdirectory holds a meta of the id. -/
def DeletedAlone : Prop :=
  ∀ path ∈ search tree isMetaPath, path.length = 2 → names readers tree id path = true →
    path.dropLast = playbook.folder

/-- All items that match the name of the playbook file stand beside the file that the meta names. -/
def ExecutedAlone : Prop :=
  ¬ ['*', '*'] <:+: id.toList ∧ definitions tree id ≠ [] ∧ ∃ file, playbook.namedFile = some file ∧
    ∀ path ∈ definitions tree id, path.dropLast ++ [id ++ ".yml"] = file

variable {readers tree id playbook}

/-- The deletion searches the meta files of the first two levels. -/
theorem mem_shallowMetas {path : Path} :
    path ∈ shallowMetas tree ↔ path ∈ search tree isMetaPath ∧ path.length ≤ 2 := by
  unfold shallowMetas
  simp only [mem_search, Bool.and_eq_true, decide_eq_true_eq]
  exact and_assoc.symm

/-- The folder of a found playbook is described exactly when no other file comes first. -/
theorem Found.described_iff (found : Found readers tree id playbook) (enumeration : Enumeration) :
    describedFolder readers enumeration tree id = .ok (some playbook.folder) ↔
      DescribedAlone readers tree id playbook := by
  have distinct : (search tree isMetaPath).Nodup := search_nodup tree isMetaPath
  unfold describedFolder
  rw [sorted_order, folderOf_eq_ok_some]
  simp only [find?_increasing (sorted_increasing distinct), mem_sorted]
  constructor
  · rintro ⟨path, ⟨member, -, least⟩, -, same⟩ other inside _ smaller
    apply least other inside
    rw [metaPath_eq (mem_search.mp member).2, same]
    exact smaller
  · intro alone
    refine ⟨playbook.folder ++ ["meta.yaml"], ⟨(mem_shallowMetas.mp found.stored).1, found.stops, ?_⟩,
      found.calm _ found.stored, List.dropLast_concat⟩
    intro other inside smaller
    by_cases deep : 2 < other.length
    · exact alone other inside deep smaller
    · have shallow : other ∈ shallowMetas tree := mem_shallowMetas.mpr ⟨inside, Nat.le_of_not_lt deep⟩
      unfold PlaybookFiles.stops
      rw [found.least other shallow smaller, found.calm other shallow]
      rfl

/-- The metas of the direct subdirectories. -/
theorem mem_subdirectoryMetas {path : Path} :
    path ∈ search tree (fun path => isMetaPath path && path.length = 2) ↔
      path ∈ search tree isMetaPath ∧ path.length = 2 := by
  simp only [mem_search, Bool.and_eq_true, decide_eq_true_eq]
  exact and_assoc.symm

/-- For an id without wildcards the matches are the items of that very name. -/
theorem mem_definitions_of_plain (plain : ∀ character ∈ (id ++ ".yml").toList, character ∉ Glob.wildcards)
    {path : Path} : path ∈ definitions tree id ↔
      (tree.get? path).isSome = true ∧ path.getLast? = some (id ++ ".yml") := by
  unfold definitions
  rw [mem_search]
  cases last : path.getLast? with
  | none => simp
  | some name => simp only [Option.any_some, Glob.fnmatch_iff_of_plain plain, Option.some.injEq]

/-- A found playbook stands at the top or one level below. -/
theorem Found.folder_length (found : Found readers tree id playbook) : playbook.folder.length ≤ 1 := by
  have short := (mem_shallowMetas.mp found.stored).2
  rw [List.length_append, List.length_singleton] at short
  omega

/-- Among the metas of subdirectories a search stops exactly where the id is named. -/
theorem Found.stops_iff (found : Found readers tree id playbook) {path : Path}
    (member : path ∈ search tree isMetaPath) (short : path.length = 2) :
    PlaybookFiles.stops readers tree id path = PlaybookFiles.names readers tree id path := by
  unfold PlaybookFiles.stops
  rw [found.calm path (mem_shallowMetas.mpr ⟨member, Nat.le_of_eq short⟩), Bool.or_false]

/-- A playbook that stands alone is deleted with its folder. -/
theorem Found.deleted_of_alone (found : Found readers tree id playbook) (alone : DeletedAlone readers tree id playbook)
    (enumeration : Enumeration) : deletePlaybook readers enumeration tree id =
      .ok (if playbook.folder = [] then (false, tree) else (true, rmtree tree playbook.folder)) := by
  unfold deletePlaybook
  rw [folderOf_eq]
  cases first : (enumeration.order (search tree fun path => isMetaPath path && path.length = 2)).find?
      (PlaybookFiles.stops readers tree id) with
  | none =>
      have root : playbook.folder = [] := by
        by_contra inside
        have length := found.folder_length
        have long : (playbook.folder ++ ["meta.yaml"]).length = 2 := by
          have positive := List.length_pos_of_ne_nil inside
          rw [List.length_append, List.length_singleton]
          omega
        have stored := mem_subdirectoryMetas.mpr ⟨(mem_shallowMetas.mp found.stored).1, long⟩
        have missed := List.find?_eq_none.mp first _ (enumeration.mem_order.mpr stored)
        exact missed found.stops
      simp [root, Except.map]
  | some path =>
      obtain ⟨member, short⟩ := mem_subdirectoryMetas.mp (enumeration.mem_order.mp (List.mem_of_find?_eq_some first))
      have named : PlaybookFiles.names readers tree id path = true := by
        rw [← found.stops_iff member short]
        exact List.find?_some first
      have same := alone path member short named
      have below : playbook.folder ≠ [] := by
        intro root
        rw [root] at same
        have length : path.dropLast.length = 1 := by
          rw [List.length_dropLast, short]
        rw [same] at length
        cases length
      simp [not_raises_of_names named, same, below, Except.map]

/-- A playbook that is deleted in every order stands alone. -/
theorem Found.alone_of_deleted (found : Found readers tree id playbook)
    (deleted : ∀ enumeration, deletePlaybook readers enumeration tree id =
      .ok (if playbook.folder = [] then (false, tree) else (true, rmtree tree playbook.folder))) :
    DeletedAlone readers tree id playbook := by
  intro path member short named
  have listed := mem_subdirectoryMetas.mpr ⟨member, short⟩
  have stopping : PlaybookFiles.stops readers tree id path = true := by
    rw [found.stops_iff member short, named]
  have first : ((Enumeration.startingAt path).order (search tree fun path => isMetaPath path && path.length = 2)).find?
      (PlaybookFiles.stops readers tree id) = some path := by
    have head := Enumeration.head?_startingAt listed
    cases order : (Enumeration.startingAt path).order
        (search tree fun path => isMetaPath path && path.length = 2) with
    | nil =>
        rw [order] at head
        cases head
    | cons next rest =>
        rw [order] at head
        rw [Option.some.inj head]
        exact List.find?_cons_of_pos stopping
  have removed := deleted (Enumeration.startingAt path)
  unfold deletePlaybook at removed
  rw [folderOf_eq, first] at removed
  simp only [not_raises_of_names named, Except.map] at removed
  have outcome := Except.ok.inj removed
  by_cases below : playbook.folder = []
  · rw [if_pos below] at outcome
    cases congrArg Prod.fst outcome
  · rw [if_neg below] at outcome
    have trees : rmtree tree path.dropLast = rmtree tree playbook.folder := congrArg Prod.snd outcome
    have lookups := congrArg (fun tree => OrderedMap.get? tree path) trees
    simp only [get?_rmtree, List.dropLast_prefix, if_true] at lookups
    have inside : playbook.folder <+: path := by
      by_contra outside
      rw [if_neg outside] at lookups
      have present := (mem_search.mp member).1
      rw [← lookups] at present
      cases present
    have length : path.dropLast.length = playbook.folder.length := by
      have most := found.folder_length
      have least := List.length_pos_of_ne_nil below
      rw [List.length_dropLast, short]
      omega
    have nested := List.prefix_of_prefix_length_le (List.dropLast_prefix path) inside (Nat.le_of_eq length)
    exact nested.eq_of_length length

/-- A file is run under every enumeration exactly when all matches stand beside it. -/
theorem executed_iff : (∀ enumeration, ∃ file, playbook.namedFile = some file ∧
      syncRunFile enumeration tree id = some file) ↔ ExecutedAlone tree id playbook := by
  unfold syncRunFile ExecutedAlone
  constructor
  · intro executed
    obtain ⟨file, named, run⟩ := executed (Enumeration.startingAt [])
    split at run
    · cases run
    · rename_i valid
      refine ⟨valid, ?_, file, named, ?_⟩
      · intro absent
        have nothing : (Enumeration.startingAt []).order (definitions tree id) = [] :=
          List.Perm.eq_nil (absent ▸ (Enumeration.startingAt []).perm (definitions tree id))
        rw [nothing] at run
        cases run
      · intro path member
        obtain ⟨other, same, started⟩ := executed (Enumeration.startingAt path)
        rw [if_neg valid, Enumeration.head?_startingAt member] at started
        rw [named] at same
        rw [Option.some.inj same]
        exact Option.some.inj started
  · rintro ⟨valid, present, file, named, beside⟩ enumeration
    refine ⟨file, named, ?_⟩
    rw [if_neg valid]
    cases first : enumeration.order (definitions tree id) with
    | nil =>
        have empty := enumeration.perm (definitions tree id)
        rw [first] at empty
        exact absurd empty.symm.eq_nil present
    | cons path rest =>
        have member : path ∈ definitions tree id := by
          rw [← enumeration.mem_order, first]
          exact List.mem_cons_self
        show some (path.dropLast ++ [id ++ ".yml"]) = some file
        rw [beside path member]

end Agreement

/-- The functions agree on the directory of a listed playbook, whatever the order of the file system is, exactly
when no other meta of its id and no other file of its name is in their way. -/
theorem one_playbook_iff {Content : Type} (readers : Readers Content) (enumeration : Enumeration)
    (tree : FileTree Content) (id : String) {playbook : Playbook}
    (found : getPlaybook readers enumeration tree id = .ok (some playbook)) :
    (∀ enumeration, Agrees readers tree id playbook enumeration) ↔
      DescribedAlone readers tree id playbook ∧ DeletedAlone readers tree id playbook ∧
        ExecutedAlone tree id playbook := by
  have listed := getPlaybook_found found
  constructor
  · intro agrees
    exact ⟨(listed.described_iff enumeration).mp (agrees enumeration).described,
      listed.alone_of_deleted fun enumeration => (agrees enumeration).deleted,
      executed_iff.mp fun enumeration => (agrees enumeration).executed⟩
  · rintro ⟨described, deleted, executed⟩ enumeration
    exact ⟨listed.only enumeration, (listed.described_iff enumeration).mpr described,
      listed.deleted_of_alone deleted enumeration, executed_iff.mpr executed enumeration⟩

/-- Files that hold a meta or no meta. -/
def plainReaders : Readers (Option MetaFile) where
  metaOfText content := content.elim .skipped .valid
  utf8 _ := some ""

def deployMeta : MetaFile := { name := "Deploy", description := "", playbook := "deploy.yml" }

/-- One directory holds the meta and its playbook. -/
def deployTree : FileTree (Option MetaFile) where
  entries := [(["a"], .directory), (["a", "meta.yaml"], .file (some deployMeta)), (["a", "deploy.yml"], .file none)]
  keysNodup := by decide

/-- Another directory holds a file of the same name, and no meta. -/
def staleTree : FileTree (Option MetaFile) where
  entries := [(["a"], .directory), (["a", "meta.yaml"], .file (some deployMeta)), (["a", "deploy.yml"], .file none),
    (["b"], .directory), (["b", "deploy.yml"], .file none)]
  keysNodup := by decide

/-- A playbook without others is described and deleted. -/
theorem one_playbook_alone : Agrees plainReaders deployTree "deploy" ⟨"deploy", ["a"], deployMeta⟩ (.startingAt []) :=
  (one_playbook_iff plainReaders (.startingAt []) deployTree "deploy" (by decide +kernel)).mpr
    ⟨by unfold DescribedAlone; decide +kernel, by unfold DeletedAlone; decide +kernel,
      by decide +kernel, by decide +kernel, ["a", "deploy.yml"], by decide +kernel, by decide +kernel⟩
    (.startingAt [])

/-- The checked playbook stands in one directory, and the stale file in the other one is run. -/
theorem stale_file_runs :
    getPlaybook plainReaders (.startingAt ["b", "deploy.yml"]) staleTree "deploy" =
      .ok (some ⟨"deploy", ["a"], deployMeta⟩) ∧
    syncRunFile (.startingAt ["b", "deploy.yml"]) staleTree "deploy" = some ["b", "deploy.yml"] ∧
    ¬ ∀ enumeration, Agrees plainReaders staleTree "deploy" ⟨"deploy", ["a"], deployMeta⟩ enumeration := by
  refine ⟨by decide +kernel, by decide +kernel, ?_⟩
  intro agrees
  obtain ⟨file, named, run⟩ := (agrees (.startingAt ["b", "deploy.yml"])).executed
  have inside : Playbook.namedFile ⟨"deploy", ["a"], deployMeta⟩ = some ["a", "deploy.yml"] := by decide +kernel
  have outside : syncRunFile (.startingAt ["b", "deploy.yml"]) staleTree "deploy" = some ["b", "deploy.yml"] := by
    decide +kernel
  rw [inside] at named
  rw [outside, ← Option.some.inj named] at run
  revert run
  decide

end P3Portal.Automation.PlaybookFiles
