import P3Portal.Construction.Automation.Uploads
import P3Portal.Proof.Automation.ZipSafety

namespace P3Portal.Automation.Uploads
open Foundation FileTree PlaybookFiles ZipSafety

section Storing
variable {Content Meta : Type} (platform : Platform)

/-- The file tree of a root; a missing directory holds nothing. -/
def Root.tree (root : Root Content) : FileTree Content := root.getD OrderedMap.empty

/-- Nothing of this name stands in the root. -/
def Free (root : Root Content) (id : String) : Prop := root.tree.get? [id] = none

instance (root : Root Content) (id : String) : Decidable (Free root id) :=
  decidable_of_iff ((root.tree.get? [id]).isNone = true) Option.isNone_iff_eq_none

/-- The file system makes the directories, and all entries fit together. -/
structure Storable (root : Root Content) (accepted : Accepted Content Meta) : Prop where
  root : root = none → platform.refuses [] = false
  folder : platform.refuses [accepted.id] = false
  entries : Extractable platform [accepted.id] accepted.members

/-- The root after a success: the new directory holds the entries, and nothing else has changed. -/
structure Stored (root : Root Content) (accepted : Accepted Content Meta) (tree : FileTree Content) : Prop where
  outside : ∀ path, ¬ [accepted.id] <+: path → tree.get? path = root.tree.get? path
  laid : Laid platform [accepted.id] accepted.members tree

variable {platform}

theorem Stored.metaFile {root : Root Content} {accepted : Accepted Content Meta} {tree : FileTree Content}
    (stored : Stored platform root accepted tree) : tree.get? [accepted.id, "meta.yaml"] =
      layout [accepted.id] accepted.members [accepted.id, "meta.yaml"] :=
  stored.laid.below _ (List.prefix_append [accepted.id] ["meta.yaml"])

theorem rooted_empty : Rooted (OrderedMap.empty : FileTree Content) := by
  intro entry absent
  cases absent

/-- The new directory is empty. -/
theorem laid_nil {tree : FileTree Content} {id : String} (absent : ∀ path, [id] <+: path → tree.get? path = none) :
    Laid platform [id] [] (tree.set [id] .directory) := by
  have fits : Extractable platform [id] ([] : List (Member Content)) := by
    constructor
    · intro member absent
      cases absent
    · intro file absent
      cases absent
  refine ⟨List.cons_ne_nil id [], fits, ?_, ?_⟩
  · intro path filled above
    obtain ⟨rest, rfl, short⟩ := (List.prefix_cons_iff.mp above).resolve_left filled
    rw [List.prefix_nil.mp short, OrderedMap.get?_set, if_pos rfl]
  · intro path below
    rw [OrderedMap.get?_set]
    by_cases here : path = [id]
    · rw [if_pos here, eq_comm, fits.layout_directory]
      exact .inl here
    · rw [if_neg here, absent path below]
      simp [layout, written, here]

theorem within_some (script : Script (FileTree Content) Unit) (tree : FileTree Content) :
    within script (some tree) = ((script tree).1, some (Script.final script tree)) := rfl

variable (platform) in
/-- What the extraction into a new directory leaves outside of it. -/
theorem rmtree_extracted (tree : FileTree Content) (id : String) (members : List (Member Content)) :
    rmtree (Script.final (extractZipSafely platform [id] members) (tree.set [id] .directory)) [id] =
      rmtree tree [id] :=
  (keeps_extractZipSafely platform id members _).trans (rmtree_set tree (List.prefix_refl [id]) .directory)

/-- When all entries fit together, the new directory holds them. -/
theorem unpack_of_extractable {tree : FileTree Content} {id : String} {members : List (Member Content)}
    (absent : ∀ path, [id] <+: path → tree.get? path = none) (fits : Extractable platform [id] members) :
    ∃ after, unpack platform id members (some (tree.set [id] .directory)) = (.ok (), some after) ∧
      (∀ path, ¬ [id] <+: path → after.get? path = tree.get? path) ∧ Laid platform [id] members after := by
  have start : Laid platform [id] [] (tree.set [id] .directory) := laid_nil absent
  obtain ⟨after, done⟩ := (start.extracts_iff members).mpr fits
  have runs : extractZipSafely platform [id] members (tree.set [id] .directory) = (.ok (), after) := done
  have stays := rmtree_extracted platform tree id members
  unfold Script.final at stays
  rw [runs] at stays
  refine ⟨after, ?_, fun path => get?_of_rmtree_eq stays, start.extractZipSafely done⟩
  apply Script.recover_of_ok
  rw [within_some, Script.final, runs]

/-- Otherwise the tree is as before. -/
theorem unpack_of_unfit {tree : FileTree Content} {id : String} {members : List (Member Content)}
    (absent : ∀ path, [id] <+: path → tree.get? path = none) (unfit : ¬ Extractable platform [id] members) :
    unpack platform id members (some (tree.set [id] .directory)) = (.error (), some tree) := by
  have start : Laid platform [id] [] (tree.set [id] .directory) := laid_nil absent
  have raised : (extractZipSafely platform [id] members (tree.set [id] .directory)).1 = .error () := by
    cases outcome : extractZipSafely platform [id] members (tree.set [id] .directory) with
    | mk result after =>
        cases result with
        | error failure => rfl
        | ok value => exact absurd ((start.extracts_iff members).mp ⟨after, outcome⟩) unfit
  have failed : within (extractZipSafely platform [id] members) (some (tree.set [id] .directory)) =
      (.error (), some (Script.final (extractZipSafely platform [id] members) (tree.set [id] .directory))) := by
    rw [within_some, raised]
  unfold unpack
  rw [Script.recover_of_error failed]
  show ((.error (), some (rmtree _ [id])) : Except Unit Unit × Root Content) = (.error (), some tree)
  rw [rmtree_extracted, rmtree_eq_self absent]

variable {root : Root Content} {accepted : Accepted Content Meta}

variable (platform) in
theorem mkdir_of_free {id : String} (free : Free root id) : mkdir platform id root =
    if root.isNone && platform.refuses [] then (.error (), root)
    else if platform.refuses [id] then (.error (), some root.tree)
    else (.ok (), some (root.tree.set [id] .directory)) := by
  cases root with
  | none =>
      unfold mkdir
      cases platform.refuses [] <;> rfl
  | some tree =>
      have absent : tree.get? [id] = none := free
      unfold mkdir
      simp only [absent]
      rfl

theorem absent_below (rooted : ∀ tree, root = some tree → Rooted tree) {id : String} (free : Free root id) :
    ∀ path, [id] <+: path → root.tree.get? path = none := by
  have whole : Rooted root.tree := by
    cases root with
    | none => exact rooted_empty
    | some tree => exact rooted tree rfl
  intro path below
  exact whole.absent_below (List.cons_ne_nil id []) free below

theorem store_of_taken (taken : String) (occupied : ¬ Free root accepted.id) :
    store platform taken accepted root = (.error (.taken taken), root) := by
  have stands : (root.bind fun tree => tree.get? [accepted.id]).isSome = true := by
    cases root with
    | none => exact absurd (OrderedMap.get?_empty _) occupied
    | some tree => exact Option.isSome_iff_ne_none.mpr occupied
  unfold store
  rw [if_pos stands]

theorem store_of_free (taken : String) (free : Free root accepted.id) : store platform taken accepted root =
    answer accepted.id (place platform accepted.id accepted.members root) := by
  have nothing : ¬ (root.bind fun tree => tree.get? [accepted.id]).isSome = true := by
    cases root with
    | none => exact Bool.false_ne_true
    | some tree =>
        have absent : tree.get? [accepted.id] = none := free
        simp [absent]
  unfold store
  rw [if_neg nothing]

theorem store_of_storable (rooted : ∀ tree, root = some tree → Rooted tree) (free : Free root accepted.id)
    (storable : Storable platform root accepted) (taken : String) :
    ∃ tree, store platform taken accepted root = (.ok accepted.id, some tree) ∧ Stored platform root accepted tree := by
  have permitted : ¬ (root.isNone && platform.refuses []) = true := by
    rw [Bool.and_eq_true, Option.isNone_iff_eq_none]
    rintro ⟨missing, refused⟩
    rw [storable.root missing] at refused
    cases refused
  obtain ⟨after, done, outside, laid⟩ := unpack_of_extractable (absent_below rooted free) storable.entries
  have made : mkdir platform accepted.id root = (.ok (), some (root.tree.set [accepted.id] .directory)) := by
    rw [mkdir_of_free platform free, if_neg permitted, storable.folder]
    rfl
  have placed : place platform accepted.id accepted.members root = (.ok (), some after) :=
    Script.runsTo_bind.mpr ⟨_, made, done⟩
  refine ⟨after, ?_, outside, laid⟩
  rw [store_of_free taken free, placed]
  rfl

/-- A failure leaves the root as it was, unless it has made the root. -/
theorem store_of_not_storable (rooted : ∀ tree, root = some tree → Rooted tree) (free : Free root accepted.id)
    (failing : ¬ Storable platform root accepted) (taken : String) :
    ∃ after, store platform taken accepted root = (.error .raised, after) ∧
      (after = root ↔ root ≠ none ∨ platform.refuses [] = true) := by
  have made := mkdir_of_free platform free
  rw [store_of_free taken free]
  by_cases first : (root.isNone && platform.refuses []) = true
  · rw [if_pos first] at made
    rw [Bool.and_eq_true] at first
    refine ⟨root, ?_, by simp [first.2]⟩
    unfold place
    rw [Script.bind_of_error made]
    rfl
  · rw [if_neg first] at made
    rw [Bool.and_eq_true, Option.isNone_iff_eq_none, not_and] at first
    have same : some root.tree = root ↔ root ≠ none ∨ platform.refuses [] = true := by
      cases root with
      | none => simp [first rfl]
      | some tree => simp [Root.tree]
    refine ⟨some root.tree, ?_, same⟩
    unfold place
    cases refused : platform.refuses [accepted.id] with
    | true =>
        rw [refused, if_pos rfl] at made
        rw [Script.bind_of_error made]
        rfl
    | false =>
        have unfit : ¬ Extractable platform [accepted.id] accepted.members := by
          intro fits
          exact failing ⟨fun missing => Bool.eq_false_iff.mpr (first missing), refused, fits⟩
        rw [refused, if_neg Bool.false_ne_true] at made
        rw [Script.bind_of_ok made, unpack_of_unfit (absent_below rooted free) unfit]
        rfl

end Storing

section Services
variable {Content Meta Detail Entry : Type}

/-- An upload of one archive, with the functions that read what is stored. -/
structure Service (Content Meta Detail Entry : Type) where
  check : Except Refusal (Accepted Content Meta)
  save : Root Content → Except Refusal String × Root Content
  list : Root Content → Except Unit (List Entry)
  get : Root Content → String → Except Unit (Option Detail)
  detail : String → Meta → Detail

/-- A success is usable and takes nothing from the list, and a failure changes nothing. -/
structure Service.Upheld (service : Service Content Meta Detail Entry) (before : Root Content) : Prop where
  usable : ∀ id after, service.save before = (.ok id, after) → ∃ accepted, service.check = .ok accepted ∧
    accepted.id = id ∧ service.get after id = .ok (some (service.detail id accepted.found))
  listed : ∀ id after, service.save before = (.ok id, after) → ∀ entries, service.list before = .ok entries →
    ∃ later, service.list after = .ok later ∧ ∀ entry ∈ entries, entry ∈ later
  harmless : ∀ refusal after, service.save before = (.error refusal, after) → after = before

/-- An archive that can be stored reads back, and one that cannot leaves no new root behind. -/
def StoresWell (platform : Platform) (before : Root Content) (accepted : Accepted Content Meta)
    (readsBack : Prop) : Prop :=
  (Storable platform before accepted → readsBack) ∧
    (¬ Storable platform before accepted → before ≠ none ∨ platform.refuses [] = true)

/-- What the proofs need to know of a service: when it reaches the common end, and what its readers see. -/
structure Service.Sound (service : Service Content Meta Detail Entry) (platform : Platform) (before : Root Content)
    (reaches readsBack : Accepted Content Meta → Prop) : Prop where
  rooted : ∀ tree, before = some tree → Rooted tree
  refused : (∀ accepted, service.check = .ok accepted → ¬ reaches accepted) →
    ∃ refusal, service.save before = (.error refusal, before)
  free : ∀ accepted, reaches accepted → Free before accepted.id
  stores : ∀ accepted, service.check = .ok accepted → reaches accepted →
    ∃ taken, service.save before = store platform taken accepted before
  reads : ∀ accepted tree, reaches accepted → Stored platform before accepted tree →
    (service.get (some tree) accepted.id = .ok (some (service.detail accepted.id accepted.found)) ↔ readsBack accepted)
  keeps : ∀ accepted tree, reaches accepted → Stored platform before accepted tree → readsBack accepted →
    ∀ entries, service.list before = .ok entries →
      ∃ later, service.list (some tree) = .ok later ∧ ∀ entry ∈ entries, entry ∈ later

theorem Service.Sound.upheld_iff {service : Service Content Meta Detail Entry} {platform : Platform}
    {before : Root Content} {reaches readsBack : Accepted Content Meta → Prop}
    (sound : service.Sound platform before reaches readsBack) : service.Upheld before ↔
      ∀ accepted, service.check = .ok accepted → reaches accepted →
        StoresWell platform before accepted (readsBack accepted) := by
  by_cases reached : ∃ accepted, service.check = .ok accepted ∧ reaches accepted
  · obtain ⟨accepted, checked, reaching⟩ := reached
    have only : (∀ accepted, service.check = .ok accepted → reaches accepted →
        StoresWell platform before accepted (readsBack accepted)) ↔
          StoresWell platform before accepted (readsBack accepted) := by
      constructor
      · intro all
        exact all accepted checked reaching
      · intro well other same _
        rw [checked] at same
        rw [← Except.ok.inj same]
        exact well
    obtain ⟨taken, saved⟩ := sound.stores accepted checked reaching
    have free := sound.free accepted reaching
    rw [only]
    by_cases storable : Storable platform before accepted
    · obtain ⟨tree, done, stored⟩ := store_of_storable sound.rooted free storable taken
      rw [done] at saved
      have reads := sound.reads accepted tree reaching stored
      constructor
      · intro upheld
        obtain ⟨other, same, -, answer⟩ := upheld.usable accepted.id (some tree) saved
        rw [checked] at same
        rw [← Except.ok.inj same] at answer
        exact ⟨fun _ => reads.mp answer, fun failing => absurd storable failing⟩
      · rintro ⟨well, -⟩
        refine ⟨?_, ?_, ?_⟩
        · intro id after success
          rw [saved] at success
          obtain ⟨same, rfl⟩ := Prod.mk.inj success
          rw [← Except.ok.inj same]
          exact ⟨accepted, checked, rfl, reads.mpr (well storable)⟩
        · intro id after success
          rw [saved] at success
          obtain ⟨-, rfl⟩ := Prod.mk.inj success
          exact sound.keeps accepted tree reaching stored (well storable)
        · intro refusal after failure
          rw [saved] at failure
          cases (Prod.mk.inj failure).1
    · obtain ⟨after, failed, unchanged⟩ := store_of_not_storable sound.rooted free storable taken
      rw [failed] at saved
      constructor
      · intro upheld
        exact ⟨fun possible => absurd possible storable, fun _ => unchanged.mp (upheld.harmless .raised after saved)⟩
      · rintro ⟨-, well⟩
        refine ⟨?_, ?_, ?_⟩
        · intro id later success
          rw [saved] at success
          cases (Prod.mk.inj success).1
        · intro id later success
          rw [saved] at success
          cases (Prod.mk.inj success).1
        · intro refusal later failure
          rw [saved] at failure
          rw [← (Prod.mk.inj failure).2]
          exact unchanged.mpr (well storable)
  · rw [not_exists] at reached
    obtain ⟨refusal, saved⟩ := sound.refused fun accepted checked reaching => reached accepted ⟨checked, reaching⟩
    constructor
    · intro _ accepted checked reaching
      exact absurd ⟨checked, reaching⟩ (reached accepted)
    · intro _
      refine ⟨?_, ?_, ?_⟩
      · intro id after success
        rw [saved] at success
        cases (Prod.mk.inj success).1
      · intro id after success
        rw [saved] at success
        cases (Prod.mk.inj success).1
      · intro other after failure
        rw [saved] at failure
        exact (Prod.mk.inj failure).2.symm

end Services

end P3Portal.Automation.Uploads
