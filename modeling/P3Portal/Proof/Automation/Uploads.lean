import P3Portal.Proof.Automation.PlaybookFiles
import P3Portal.Proof.Automation.UploadStore

namespace P3Portal.Automation.Uploads
open Foundation FileTree PlaybookFiles ZipSafety

section Playbooks
variable {Content : Type} (readers : Readers Content) (enumeration : Enumeration) {platform : Platform}
  {root : Root Content} {accepted : Accepted Content MetaFile} {tree : FileTree Content}

/-- The upload checks the directory again before it stores anything. -/
structure PlaybookFree (root : Root Content) (id : String) : Prop where
  free : Free root id
  unlisted : ∃ playbooks, listPlaybooks readers enumeration root = .ok playbooks ∧
    ∀ playbook ∈ playbooks, playbook.id ≠ id

/-- The last entry that is stored as the meta file is read from disk as the meta that was validated. -/
def PlaybookReadsBack (accepted : Accepted Content MetaFile) : Prop :=
  ∃ content found, written [accepted.id] accepted.members [accepted.id, "meta.yaml"] = some content ∧
    readers.metaOfText content = .valid found ∧ playbookId found.playbook = accepted.id ∧
    playbookDetail accepted.id found = playbookDetail accepted.id accepted.found

variable {readers enumeration}

theorem listPlaybooks_eq : listPlaybooks readers enumeration root = loadAllMetas readers enumeration root.tree := by
  cases root with
  | none =>
      rw [loadAllMetas_eq]
      rfl
  | some tree => rfl

/-- An upload changes no meta file outside of its directory. -/
theorem Stored.readMeta_of_outside (stored : Stored platform root accepted tree) {path : Path}
    (outside : ¬ [accepted.id] <+: path) : readMeta readers tree path = readMeta readers root.tree path := by
  unfold readMeta
  rw [stored.outside path outside]

/-- An upload changes no entry outside of its directory. -/
theorem Stored.entryAt_of_outside (stored : Stored platform root accepted tree) {path : Path}
    (outside : ¬ [accepted.id] <+: path) : entryAt readers tree path = entryAt readers root.tree path := by
  unfold entryAt
  rw [stored.readMeta_of_outside outside]

/-- An upload makes no file outside of its directory raise. -/
theorem Stored.raises_of_outside (stored : Stored platform root accepted tree) {path : Path}
    (outside : ¬ [accepted.id] <+: path) : raises readers tree path = raises readers root.tree path := by
  unfold raises
  rw [stored.readMeta_of_outside outside]

/-- A meta outside of the new directory is shallow exactly when it was shallow before. -/
theorem Stored.mem_shallowMetas_of_outside (stored : Stored platform root accepted tree) {path : Path}
    (outside : ¬ [accepted.id] <+: path) : path ∈ shallowMetas tree ↔ path ∈ shallowMetas root.tree := by
  unfold shallowMetas
  rw [mem_search, mem_search, stored.outside path outside]

/-- The new directory itself is no meta, whatever its name is. -/
theorem Stored.readMeta_folder (stored : Stored platform root accepted tree) :
    readMeta readers tree [accepted.id] = .skipped := by
  unfold readMeta
  rw [stored.laid.above [accepted.id] (List.cons_ne_nil _ []) (List.prefix_refl _)]

/-- The new directory brings one meta at most. -/
theorem path_of_inside {path : Path} {id : String} (member : path ∈ shallowMetas tree) (inside : [id] <+: path) :
    path = [id] ∨ path = [id, "meta.yaml"] := by
  obtain ⟨found, short⟩ := mem_shallowMetas.mp member
  have named := metaPath_eq (mem_search.mp found).2
  obtain ⟨rest, rfl⟩ := inside
  cases rest with
  | nil => exact .inl rfl
  | cons name rest =>
      have last : rest = [] := by
        rw [List.singleton_append, List.length_cons, List.length_cons] at short
        exact List.eq_nil_of_length_eq_zero (by omega)
      rw [last] at named ⊢
      exact .inr named

/-- The new meta file is read from the last entry of its path. -/
theorem Stored.readMeta_valid_iff (stored : Stored platform root accepted tree) {found : MetaFile} :
    readMeta readers tree [accepted.id, "meta.yaml"] = .valid found ↔
      ∃ content, written [accepted.id] accepted.members [accepted.id, "meta.yaml"] = some content ∧
        readers.metaOfText content = .valid found := by
  unfold readMeta
  simp only [← layout_file, ← stored.metaFile]
  cases tree.get? [accepted.id, "meta.yaml"] with
  | none => simp
  | some item => cases item <;> simp

/-- Only the new meta names the new id. -/
theorem Stored.path_of_names (stored : Stored platform root accepted tree)
    (free : PlaybookFree readers enumeration root accepted.id) {path : Path} (member : path ∈ shallowMetas tree)
    (named : names readers tree accepted.id path = true) : path = [accepted.id, "meta.yaml"] := by
  obtain ⟨playbooks, loaded, unlisted⟩ := free.unlisted
  rw [listPlaybooks_eq] at loaded
  by_cases inside : [accepted.id] <+: path
  · rcases path_of_inside member inside with folder | file
    · rw [folder, names_eq_false] at named
      · cases named
      · intro found
        rw [stored.readMeta_folder]
        exact fun impossible => by cases impossible
    · exact file
  · have before := names_of_unlisted loaded unlisted path ((stored.mem_shallowMetas_of_outside inside).mp member)
    unfold names at named before
    rw [stored.entryAt_of_outside inside, before] at named
    cases named

/-- The later list raises nothing when the new meta does not. -/
theorem Stored.listed_of_calm (stored : Stored platform root accepted tree)
    (free : PlaybookFree readers enumeration root accepted.id) (calm : raises readers tree [accepted.id, "meta.yaml"] = false) :
    ∃ playbooks, loadAllMetas readers enumeration tree = .ok playbooks := by
  obtain ⟨playbooks, loaded, -⟩ := free.unlisted
  rw [listPlaybooks_eq] at loaded
  apply (loadAllMetas_succeeds_iff enumeration).mpr
  intro path member
  by_cases inside : [accepted.id] <+: path
  · rcases path_of_inside member inside with folder | file
    · rw [folder, raises, stored.readMeta_folder]
    · rw [file]
      exact calm
  · rw [stored.raises_of_outside inside]
    exact (loadAllMetas_succeeds_iff enumeration).mp ⟨playbooks, loaded⟩ path
      ((stored.mem_shallowMetas_of_outside inside).mp member)

/-- The details of a playbook are those of the first listed one with the id. -/
theorem getPlaybookDetail_eq_ok {id : String} {detail : PlaybookDetail} :
    getPlaybookDetail readers enumeration root id = .ok (some detail) ↔
      ∃ playbooks, listPlaybooks readers enumeration root = .ok playbooks ∧ ∃ playbook,
        (playbooks.find? fun playbook => playbook.id = id) = some playbook ∧
          playbookDetail playbook.id playbook.metaFile = detail := by
  unfold getPlaybookDetail
  cases listPlaybooks readers enumeration root with
  | error failure => simp [Except.map]
  | ok playbooks => simp [Except.map]

/-- The new id is answered with what the last meta file of the archive says on disk. -/
theorem Stored.getPlaybookDetail_iff (stored : Stored platform root accepted tree)
    (free : PlaybookFree readers enumeration root accepted.id) :
    getPlaybookDetail readers enumeration (some tree) accepted.id =
        .ok (some (playbookDetail accepted.id accepted.found)) ↔ PlaybookReadsBack readers accepted := by
  have entry {playbook : Playbook} {playbooks : List Playbook}
      (loaded : loadAllMetas readers enumeration tree = .ok playbooks) (listed : playbook ∈ playbooks)
      (named : playbook.id = accepted.id) :
      entryAt readers tree [accepted.id, "meta.yaml"] = some playbook := by
    obtain ⟨path, member, entry, -⟩ := (mem_loadAllMetas loaded).mp listed
    have naming : names readers tree accepted.id path = true := by simp [names, entry, named]
    rw [← stored.path_of_names free member naming]
    exact entry
  rw [getPlaybookDetail_eq_ok]
  constructor
  · rintro ⟨playbooks, loaded, playbook, first, same⟩
    have hit := List.find?_some first
    have named : playbook.id = accepted.id := of_decide_eq_true hit
    have there := entry loaded (List.mem_of_find?_eq_some first) named
    unfold entryAt at there
    split at there
    · rename_i found reading
      have equal := Option.some.inj there
      obtain ⟨content, last, text⟩ := stored.readMeta_valid_iff.mp reading
      rw [← equal] at named same
      dsimp only at named same
      rw [named] at same
      exact ⟨content, found, last, text, named, same⟩
    · cases there
  · rintro ⟨content, found, last, text, named, same⟩
    have reading := stored.readMeta_valid_iff.mpr ⟨content, last, text⟩
    have there : entryAt readers tree [accepted.id, "meta.yaml"] =
        some ⟨accepted.id, [accepted.id], found⟩ := by
      unfold entryAt
      rw [reading, ← named]
      rfl
    have calm : raises readers tree [accepted.id, "meta.yaml"] = false := by
      unfold raises
      rw [reading]
    obtain ⟨playbooks, loaded⟩ := stored.listed_of_calm free calm
    have member : [accepted.id, "meta.yaml"] ∈ shallowMetas tree := by
      refine mem_search.mpr ⟨?_, by simp [isMetaPath]⟩
      rw [stored.metaFile, layout_file.mpr last]
      rfl
    have listed : (⟨accepted.id, [accepted.id], found⟩ : Playbook) ∈ playbooks := by
      refine (mem_loadAllMetas loaded).mpr ⟨_, member, there, ?_⟩
      intro other inside smaller
      by_contra naming
      rw [stored.path_of_names free inside (Bool.eq_true_of_not_eq_false naming)] at smaller
      exact lt_irrefl _ smaller
    refine ⟨playbooks, loaded, ?_⟩
    cases first : playbooks.find? fun playbook => playbook.id = accepted.id with
    | none =>
        have missed := List.find?_eq_none.mp first _ listed
        exact absurd (decide_eq_true rfl) missed
    | some playbook =>
        have hit := List.find?_some first
        have only := entry loaded (List.mem_of_find?_eq_some first) (of_decide_eq_true hit)
        rw [there] at only
        refine ⟨playbook, rfl, ?_⟩
        rw [← Option.some.inj only]
        exact same

/-- When the new meta is read as it was validated, the earlier playbooks stay in the list. -/
theorem Stored.playbooks_stay (stored : Stored platform root accepted tree)
    (free : PlaybookFree readers enumeration root accepted.id)
    (rooted : ∀ tree, root = some tree → Rooted tree) (readsBack : PlaybookReadsBack readers accepted)
    {playbooks : List Playbook} (before : listPlaybooks readers enumeration root = .ok playbooks) :
    ∃ later, listPlaybooks readers enumeration (some tree) = .ok later ∧ ∀ playbook ∈ playbooks, playbook ∈ later := by
  obtain ⟨content, found, last, text, named, -⟩ := readsBack
  have reading := stored.readMeta_valid_iff.mpr ⟨content, last, text⟩
  have calm : raises readers tree [accepted.id, "meta.yaml"] = false := by
    unfold raises
    rw [reading]
  obtain ⟨later, loaded⟩ := stored.listed_of_calm free calm
  refine ⟨later, loaded, ?_⟩
  intro playbook listed
  obtain ⟨known, same, unlisted⟩ := free.unlisted
  rw [before] at same
  have other : playbook.id ≠ accepted.id := unlisted playbook (Except.ok.inj same ▸ listed)
  rw [listPlaybooks_eq] at before
  obtain ⟨path, member, entry, least⟩ := (mem_loadAllMetas before).mp listed
  have outside : ¬ [accepted.id] <+: path := by
    intro inside
    have absent := absent_below rooted free.free path inside
    have present := (mem_search.mp member).1
    rw [absent] at present
    cases present
  refine (mem_loadAllMetas loaded).mpr ⟨path, (stored.mem_shallowMetas_of_outside outside).mpr member, ?_, ?_⟩
  · rw [stored.entryAt_of_outside outside]
    exact entry
  · intro further inside smaller
    by_cases new : [accepted.id] <+: further
    · rcases path_of_inside inside new with folder | file
      · rw [folder]
        apply names_eq_false
        intro other
        rw [stored.readMeta_folder]
        intro reading
        cases reading
      · rw [file, names_eq readers tree reading, named]
        exact decide_eq_false fun equal => other equal.symm
    · have earlier := least further ((stored.mem_shallowMetas_of_outside new).mp inside) smaller
      unfold names at earlier ⊢
      rw [stored.entryAt_of_outside new]
      exact earlier

end Playbooks

section Templates
variable {Content Mapping : Type} (readers : TemplateReaders Content Mapping) (enumeration : Enumeration)
  {platform : Platform} {root : Root Content} {accepted : Accepted Content TemplateMeta} {tree : FileTree Content}

/-- The templates are listed exactly when no directory among them raises. -/
theorem collectTemplates_succeeds_iff (tree : FileTree Content) (paths : List Path) :
    (∃ templates, collectTemplates readers tree paths = .ok templates) ↔
      ∀ path ∈ paths, tree.get? path = some .directory → loadTemplate readers tree path ≠ .raised := by
  induction paths with
  | nil => simp [collectTemplates]
  | cons path rest ih =>
      rw [List.forall_mem_cons, collectTemplates, ← ih]
      cases stored : tree.get? path with
      | none => simp
      | some item =>
          cases item with
          | file content => simp
          | directory =>
              cases loadTemplate readers tree path with
              | raised => simp
              | skipped => simp
              | valid found => cases collectTemplates readers tree rest <;> simp [Except.map]

/-- A listed template is a directory whose meta file is valid. -/
theorem mem_collectTemplates {paths : List Path} {templates : List (String × TemplateMeta)}
    (collected : collectTemplates readers tree paths = .ok templates) {template : String × TemplateMeta} :
    template ∈ templates ↔ ∃ path ∈ paths, tree.get? path = some .directory ∧
      loadTemplate readers tree path = .valid template.2 ∧ path.getLastD "" = template.1 := by
  induction paths generalizing templates with
  | nil =>
      cases collected
      simp
  | cons path rest ih =>
      rw [List.exists_mem_cons_iff]
      unfold collectTemplates at collected
      cases stored : tree.get? path with
      | none =>
          rw [stored] at collected
          simp [ih collected]
      | some item =>
          rw [stored] at collected
          cases item with
          | file content => simp [ih collected]
          | directory =>
              dsimp only at collected
              cases reading : loadTemplate readers tree path with
              | raised =>
                  rw [reading] at collected
                  cases collected
              | skipped =>
                  rw [reading] at collected
                  simp [ih collected]
              | valid found =>
                  rw [reading] at collected
                  cases later : collectTemplates readers tree rest with
                  | error failure =>
                      rw [later] at collected
                      cases collected
                  | ok kept =>
                      rw [later] at collected
                      cases collected
                      rw [List.mem_cons, ih later]
                      apply or_congr_left
                      constructor
                      · rintro rfl
                        exact ⟨rfl, rfl, rfl⟩
                      · rintro ⟨-, same, named⟩
                        cases template
                        cases same
                        cases named
                        rfl

variable {readers enumeration}

theorem listAll_eq : listAll readers enumeration root =
    collectTemplates readers root.tree (sorted (search root.tree fun path => path.length = 1)) := by
  cases root with
  | none => rfl
  | some tree =>
      unfold listAll
      dsimp only
      rw [sorted_order]
      rfl

/-- The top level holds the items with one name. -/
theorem mem_topLevel {path : Path} : path ∈ sorted (search tree fun path => path.length = 1) ↔
    ∃ name, path = [name] ∧ (tree.get? [name]).isSome = true := by
  rw [mem_sorted, mem_search, decide_eq_true_eq, List.length_eq_one_iff]
  constructor
  · rintro ⟨present, name, rfl⟩
    exact ⟨name, rfl, present⟩
  · rintro ⟨name, rfl, present⟩
    exact ⟨present, name, rfl⟩

/-- One unreadable meta file breaks the whole list. -/
theorem listAll_succeeds_iff : (∃ templates, listAll readers enumeration root = .ok templates) ↔
    ∀ name, root.tree.get? [name] = some .directory → loadTemplate readers root.tree [name] ≠ .raised := by
  rw [listAll_eq, collectTemplates_succeeds_iff]
  constructor
  · intro calm name directory
    exact calm [name] (mem_topLevel.mpr ⟨name, rfl, by rw [directory]; rfl⟩) directory
  · intro calm path listed directory
    obtain ⟨name, rfl, -⟩ := mem_topLevel.mp listed
    exact calm name directory

/-- The listing has the templates of the top level. -/
theorem mem_listAll {templates : List (String × TemplateMeta)}
    (loaded : listAll readers enumeration root = .ok templates) {name : String} {found : TemplateMeta} :
    (name, found) ∈ templates ↔
      root.tree.get? [name] = some .directory ∧ loadTemplate readers root.tree [name] = .valid found := by
  rw [listAll_eq] at loaded
  rw [mem_collectTemplates readers loaded]
  constructor
  · rintro ⟨path, listed, directory, reading, named⟩
    obtain ⟨last, rfl, -⟩ := mem_topLevel.mp listed
    have same : last = name := named
    rw [same] at directory reading
    exact ⟨directory, reading⟩
  · rintro ⟨directory, reading⟩
    exact ⟨[name], mem_topLevel.mpr ⟨name, rfl, by rw [directory]; rfl⟩, directory, reading, rfl⟩

variable (readers enumeration)

/-- The list worked before, and the last entry that is stored as the meta file is read from disk as the meta that was
validated. -/
def TemplateReadsBack (root : Root Content) (accepted : Accepted Content TemplateMeta) : Prop :=
  (∃ templates, listAll readers enumeration root = .ok templates) ∧
    ∃ content found, written [accepted.id] accepted.members [accepted.id, "meta.yaml"] = some content ∧
      readers.metaOfText content = .valid found ∧
      packerDetail accepted.id found = packerDetail accepted.id accepted.found

variable {readers enumeration}

variable (readers) in
/-- An upload changes no template of another name. -/
theorem Stored.loadTemplate_of_other (stored : Stored platform root accepted tree) {name : String}
    (other : name ≠ accepted.id) : tree.get? [name] = root.tree.get? [name] ∧
      loadTemplate readers tree [name] = loadTemplate readers root.tree [name] := by
  have outside (rest : Path) : ¬ [accepted.id] <+: name :: rest := by
    intro inside
    exact other (List.cons_prefix_cons.mp inside).1.symm
  refine ⟨stored.outside _ (outside []), ?_⟩
  unfold loadTemplate
  rw [List.singleton_append, stored.outside _ (outside ["meta.yaml"])]

/-- The new template is read from the last entry of its path. -/
theorem Stored.loadTemplate_valid_iff (stored : Stored platform root accepted tree) {found : TemplateMeta} :
    loadTemplate readers tree [accepted.id] = .valid found ↔
      ∃ content, written [accepted.id] accepted.members [accepted.id, "meta.yaml"] = some content ∧
        readers.metaOfText content = .valid found := by
  unfold loadTemplate
  simp only [← layout_file, ← stored.metaFile, List.singleton_append]
  cases tree.get? [accepted.id, "meta.yaml"] with
  | none => simp
  | some item => cases item <;> simp

/-- The new directory is read like any other one. -/
theorem Stored.folder (stored : Stored platform root accepted tree) : tree.get? [accepted.id] = some .directory :=
  stored.laid.above [accepted.id] (List.cons_ne_nil _ []) (List.prefix_refl _)

/-- The later list works exactly when the earlier one does and the new meta does not raise. -/
theorem Stored.listAll_succeeds_iff (stored : Stored platform root accepted tree) (free : Free root accepted.id) :
    (∃ templates, listAll readers enumeration (some tree) = .ok templates) ↔
      (∃ templates, listAll readers enumeration root = .ok templates) ∧
        loadTemplate readers tree [accepted.id] ≠ .raised := by
  rw [Uploads.listAll_succeeds_iff, Uploads.listAll_succeeds_iff]
  show (∀ name, tree.get? [name] = some .directory → loadTemplate readers tree [name] ≠ .raised) ↔ _
  constructor
  · intro calm
    refine ⟨?_, calm accepted.id stored.folder⟩
    intro name directory
    have other : name ≠ accepted.id := by
      rintro rfl
      have absent : root.tree.get? [accepted.id] = none := free
      rw [absent] at directory
      cases directory
    obtain ⟨same, reading⟩ := stored.loadTemplate_of_other readers other
    rw [← reading]
    exact calm name (same.trans directory)
  · rintro ⟨calm, new⟩ name directory
    by_cases here : name = accepted.id
    · rw [here]
      exact new
    · obtain ⟨same, reading⟩ := stored.loadTemplate_of_other readers here
      rw [reading]
      exact calm name (same.symm.trans directory)

/-- The details of a template are those of the first listed one with the id. -/
theorem getPackerTemplate_eq_ok {id : String} {detail : PackerDetail} :
    getPackerTemplate readers enumeration root id = .ok (some detail) ↔
      ∃ templates, listAll readers enumeration root = .ok templates ∧ ∃ template,
        (templates.find? fun template => template.1 = id) = some template ∧
          packerDetail template.1 template.2 = detail := by
  unfold getPackerTemplate
  cases listAll readers enumeration root with
  | error failure => simp [Except.map]
  | ok templates => simp [Except.map]

/-- The new id is answered with what the stored `meta.yaml` says on disk, if the list works at all. -/
theorem Stored.getPackerTemplate_iff (stored : Stored platform root accepted tree) (free : Free root accepted.id) :
    getPackerTemplate readers enumeration (some tree) accepted.id =
        .ok (some (packerDetail accepted.id accepted.found)) ↔
      TemplateReadsBack readers enumeration root accepted := by
  rw [getPackerTemplate_eq_ok]
  constructor
  · rintro ⟨templates, loaded, ⟨name, found⟩, first, same⟩
    have hit := List.find?_some first
    have named : name = accepted.id := of_decide_eq_true hit
    rw [named] at first same
    have reading := ((mem_listAll loaded).mp (List.mem_of_find?_eq_some first)).2
    obtain ⟨content, last, text⟩ := stored.loadTemplate_valid_iff.mp reading
    exact ⟨((stored.listAll_succeeds_iff free).mp ⟨templates, loaded⟩).1, content, found, last, text, same⟩
  · rintro ⟨before, content, found, last, text, same⟩
    have reading := stored.loadTemplate_valid_iff.mpr ⟨content, last, text⟩
    have calm : loadTemplate readers tree [accepted.id] ≠ .raised := by
      rw [reading]
      intro impossible
      cases impossible
    obtain ⟨templates, loaded⟩ := (stored.listAll_succeeds_iff free).mpr ⟨before, calm⟩
    refine ⟨templates, loaded, ?_⟩
    have listed := (mem_listAll loaded).mpr ⟨stored.folder, reading⟩
    cases first : templates.find? fun template => template.1 = accepted.id with
    | none =>
        have missed := List.find?_eq_none.mp first _ listed
        exact absurd (decide_eq_true rfl) missed
    | some template =>
        obtain ⟨name, other⟩ := template
        have hit := List.find?_some first
        have named : name = accepted.id := of_decide_eq_true hit
        rw [named] at first ⊢
        have again := ((mem_listAll loaded).mp (List.mem_of_find?_eq_some first)).2
        have equal : found = other := MetaReading.valid.inj (reading.symm.trans again)
        exact ⟨_, rfl, equal ▸ same⟩

/-- When the list works, the earlier templates stay in it. -/
theorem Stored.templates_stay (stored : Stored platform root accepted tree) (free : Free root accepted.id)
    (readsBack : TemplateReadsBack readers enumeration root accepted) {templates : List (String × TemplateMeta)}
    (before : listAll readers enumeration root = .ok templates) :
    ∃ later, listAll readers enumeration (some tree) = .ok later ∧ ∀ template ∈ templates, template ∈ later := by
  obtain ⟨-, content, found, last, text, -⟩ := readsBack
  have reading := stored.loadTemplate_valid_iff.mpr ⟨content, last, text⟩
  have calm : loadTemplate readers tree [accepted.id] ≠ .raised := by
    rw [reading]
    intro impossible
    cases impossible
  obtain ⟨later, loaded⟩ := (stored.listAll_succeeds_iff free).mpr ⟨⟨templates, before⟩, calm⟩
  refine ⟨later, loaded, ?_⟩
  rintro ⟨name, found⟩ listed
  obtain ⟨directory, valid⟩ := (mem_listAll before).mp listed
  have other : name ≠ accepted.id := by
    rintro rfl
    have absent : root.tree.get? [accepted.id] = none := free
    rw [absent] at directory
    cases directory
  obtain ⟨same, unchanged⟩ := stored.loadTemplate_of_other readers other
  exact (mem_listAll loaded).mpr ⟨same.trans directory, unchanged.trans valid⟩

end Templates

section Claims
variable {Content Mapping : Type} (enumeration : Enumeration) (platform : Platform)
  (archive : Option (List (ZipEntry Content)))

/-- The upload of playbooks with `list_playbooks` and `get_playbook`. -/
def playbookService (readers : Readers Content) (metaOfBytes : Content → Except (Option String) MetaFile) :
    Service Content MetaFile PlaybookDetail Playbook where
  check := checkPlaybook metaOfBytes archive
  save := savePlaybookZip readers enumeration platform metaOfBytes archive
  list := listPlaybooks readers enumeration
  get := getPlaybookDetail readers enumeration
  detail := playbookDetail

/-- The upload of templates with `list_packer_templates` and `get_packer_template`. -/
def templateService (readers : TemplateReaders Content Mapping) :
    Service Content TemplateMeta PackerDetail (String × TemplateMeta) where
  check := checkTemplate readers archive
  save := saveTemplateZip readers platform archive
  list := listAll readers enumeration
  get := getPackerTemplate readers enumeration
  detail := packerDetail

variable {enumeration platform archive} {before : Root Content}

/-- The service of the playbooks is one for uploads that reads back what it stored. -/
theorem playbookService_sound (readers : Readers Content)
    (metaOfBytes : Content → Except (Option String) MetaFile)
    (rooted : ∀ tree, before = some tree → Rooted tree) :
    (playbookService enumeration platform archive readers metaOfBytes).Sound platform before
      (fun accepted => PlaybookFree readers enumeration before accepted.id) (PlaybookReadsBack readers) where
  rooted := rooted
  refused := by
    intro unreached
    show ∃ refusal, savePlaybookZip readers enumeration platform metaOfBytes archive before = (.error refusal, before)
    have known : ∀ accepted, checkPlaybook metaOfBytes archive = .ok accepted →
        ¬ PlaybookFree readers enumeration before accepted.id := unreached
    unfold savePlaybookZip
    cases checked : checkPlaybook metaOfBytes archive with
    | error refusal => exact ⟨refusal, rfl⟩
    | ok accepted =>
        have occupied := known accepted checked
        dsimp only
        cases loaded : listPlaybooks readers enumeration before with
        | error failure => exact ⟨.raised, rfl⟩
        | ok playbooks =>
            dsimp only
            split
            · exact ⟨_, rfl⟩
            · rename_i unlisted
              rw [List.any_eq_true, not_exists] at unlisted
              refine ⟨_, store_of_taken _ fun free => occupied ⟨free, playbooks, loaded, ?_⟩⟩
              intro playbook listed same
              exact unlisted playbook ⟨listed, decide_eq_true same⟩
  free accepted reaching := reaching.free
  stores := by
    rintro accepted checked ⟨-, playbooks, loaded, unlisted⟩
    have known : checkPlaybook metaOfBytes archive = .ok accepted := checked
    refine ⟨"Verzeichnis '" ++ accepted.id ++ "' existiert bereits", ?_⟩
    show savePlaybookZip readers enumeration platform metaOfBytes archive before = _
    unfold savePlaybookZip
    rw [known]
    dsimp only
    rw [loaded]
    dsimp only
    rw [if_neg]
    rw [List.any_eq_true, not_exists]
    rintro playbook ⟨listed, same⟩
    exact unlisted playbook listed (of_decide_eq_true same)
  reads accepted tree reaching stored := stored.getPlaybookDetail_iff reaching
  keeps accepted tree reaching stored readsBack playbooks listed :=
    stored.playbooks_stay reaching rooted readsBack listed

/-- The service of the templates is one for uploads that reads back what it stored. -/
theorem templateService_sound (readers : TemplateReaders Content Mapping)
    (rooted : ∀ tree, before = some tree → Rooted tree) :
    (templateService enumeration platform archive readers).Sound platform before
      (fun accepted => Free before accepted.id) (TemplateReadsBack readers enumeration before) where
  rooted := rooted
  refused := by
    intro unreached
    show ∃ refusal, saveTemplateZip readers platform archive before = (.error refusal, before)
    have known : ∀ accepted, checkTemplate readers archive = .ok accepted → ¬ Free before accepted.id := unreached
    unfold saveTemplateZip
    cases checked : checkTemplate readers archive with
    | error refusal => exact ⟨refusal, rfl⟩
    | ok accepted => exact ⟨_, store_of_taken _ (known accepted checked)⟩
  free accepted reaching := reaching
  stores := by
    intro accepted checked _
    have known : checkTemplate readers archive = .ok accepted := checked
    refine ⟨"Template '" ++ accepted.id ++ "' existiert bereits", ?_⟩
    show saveTemplateZip readers platform archive before = _
    unfold saveTemplateZip
    rw [known]
  reads accepted tree reaching stored := stored.getPackerTemplate_iff reaching
  keeps accepted tree reaching stored readsBack templates listed := stored.templates_stay reaching readsBack listed

end Claims

/-- Both uploads are usable or harmless exactly when the stored meta file reads back and a failed extraction does not
leave a new root behind. -/
theorem uploads_upheld_iff {Content Mapping : Type} (enumeration : Enumeration) (platform : Platform)
    (archive : Option (List (ZipEntry Content))) (playbookReaders : Readers Content)
    (metaOfBytes : Content → Except (Option String) MetaFile) (templateReaders : TemplateReaders Content Mapping)
    (before : Root Content) (rooted : ∀ tree, before = some tree → Rooted tree) :
    ((playbookService enumeration platform archive playbookReaders metaOfBytes).Upheld before ↔
      ∀ accepted, checkPlaybook metaOfBytes archive = .ok accepted →
        PlaybookFree playbookReaders enumeration before accepted.id →
          StoresWell platform before accepted (PlaybookReadsBack playbookReaders accepted)) ∧
    ((templateService enumeration platform archive templateReaders).Upheld before ↔
      ∀ accepted, checkTemplate templateReaders archive = .ok accepted → Free before accepted.id →
        StoresWell platform before accepted (TemplateReadsBack templateReaders enumeration before accepted)) :=
  ⟨(playbookService_sound playbookReaders metaOfBytes rooted).upheld_iff,
    (templateService_sound templateReaders rooted).upheld_iff⟩

/-- Every file system operation succeeds. -/
def roomyPlatform : Platform where
  isalpha := Char.isAlpha
  refuses _ := false

def patchMeta : MetaFile := { name := "Patch", description := "Updates", playbook := "patch.yml" }

def baseMeta : TemplateMeta := { name := "Base", description := "Image" }

def patchText : String := "name: Patch, description: Updates, playbook: patch.yml"

def baseText : String := "name: Base, description: Image"

/-- Two documents are known. -/
def textReaders : Readers String where
  metaOfText text := if text = patchText then .valid patchMeta else .skipped
  utf8 := some

def patchOfBytes (text : String) : Except (Option String) MetaFile :=
  if text = patchText then .ok patchMeta else .error (some "invalid")

def textTemplateReaders : TemplateReaders String TemplateMeta where
  decode := some
  readText := some
  safeLoad text := if text = baseText then .ok (some baseMeta) else .ok none
  hasValue found field := if field = "name" then found.name ≠ "" else found.description ≠ ""
  validate := .ok

def patchArchive : List (ZipEntry String) := [⟨"patch/meta.yaml", some patchText⟩, ⟨"patch/patch.yml", some "hosts: all"⟩]

/-- The meta file has the other name that the upload accepts. -/
def baseArchive : List (ZipEntry String) := [⟨"base.pkr.hcl", some "source"⟩, ⟨"meta.yml", some baseText⟩]

/-- One directory stands in the root already. -/
def usedTree : FileTree String where
  entries := [(["old"], .directory), (["old", "notes.txt"], .file "old")]
  keysNodup := by decide

/-- An upload beside a listed playbook is upheld. -/
theorem playbook_upload_upheld :
    (playbookService (.startingAt []) roomyPlatform (some patchArchive) textReaders patchOfBytes).Upheld
      (some usedTree) := by
  have outcome : checkPlaybook patchOfBytes (some patchArchive) = .ok ⟨"patch", patchMeta,
      [⟨"patch/meta.yaml", "meta.yaml", some patchText⟩, ⟨"patch/patch.yml", "patch.yml", some "hosts: all"⟩]⟩ := by
    decide +kernel
  have last : written ["patch"] [⟨"patch/meta.yaml", "meta.yaml", some patchText⟩,
      ⟨"patch/patch.yml", "patch.yml", some "hosts: all"⟩] ["patch", "meta.yaml"] = some patchText := by
    decide +kernel
  have text : textReaders.metaOfText patchText = .valid patchMeta := by decide +kernel
  have named : playbookId patchMeta.playbook = "patch" := by decide +kernel
  have rooted : Rooted usedTree := by
    unfold Rooted
    decide
  apply (uploads_upheld_iff (.startingAt []) roomyPlatform (some patchArchive) textReaders patchOfBytes
    textTemplateReaders (some usedTree) fun tree same => Option.some.inj same ▸ rooted).1.mpr
  intro accepted checked _
  rw [outcome] at checked
  rw [← Except.ok.inj checked]
  constructor
  · intro _
    exact ⟨patchText, patchMeta, last, text, named, rfl⟩
  · intro _
    exact .inl (Option.some_ne_none usedTree)

/-- A stored template that is not found breaks the promise. -/
theorem not_upheld_of_missing {Content Mapping : Type} {enumeration : Enumeration} {platform : Platform}
    {archive : Option (List (ZipEntry Content))} {readers : TemplateReaders Content Mapping} {before : Root Content}
    {id : String} (saved : (saveTemplateZip readers platform archive before).1 = .ok id)
    (missing : getPackerTemplate readers enumeration (saveTemplateZip readers platform archive before).2 id =
      .ok none) : ¬ (templateService enumeration platform archive readers).Upheld before := by
  intro upheld
  obtain ⟨accepted, -, -, answer⟩ := upheld.usable id _ (Prod.ext saved rfl)
  have found : getPackerTemplate readers enumeration (saveTemplateZip readers platform archive before).2 id =
      .ok (some (packerDetail id accepted.found)) := answer
  rw [missing] at found
  cases found

/-- The template is stored and announced, and no template of its id is found. -/
theorem template_without_meta_yaml :
    (saveTemplateZip textTemplateReaders roomyPlatform (some baseArchive) (some usedTree)).1 = .ok "base" ∧
    getPackerTemplate textTemplateReaders (.startingAt [])
      (saveTemplateZip textTemplateReaders roomyPlatform (some baseArchive) (some usedTree)).2 "base" = .ok none ∧
    ¬ (templateService (.startingAt []) roomyPlatform (some baseArchive) textTemplateReaders).Upheld
      (some usedTree) := by
  have saved : (saveTemplateZip textTemplateReaders roomyPlatform (some baseArchive) (some usedTree)).1 =
      .ok "base" := by
    decide +kernel
  have missing : getPackerTemplate textTemplateReaders (.startingAt [])
      (saveTemplateZip textTemplateReaders roomyPlatform (some baseArchive) (some usedTree)).2 "base" = .ok none := by
    decide +kernel
  exact ⟨saved, missing, not_upheld_of_missing saved missing⟩

end P3Portal.Automation.Uploads
