import P3Portal.Construction.Help.Overrides
import P3Portal.Foundation.Outcome

namespace P3Portal.Help
open Foundation Auth Http

/-- A text has its place in the handbook of one user or in the shared one. -/
inductive Place where
  | own (userId : Int) (key lang : String)
  | shared (key lang : String)
  deriving DecidableEq

structure HelpText where
  content : List Char
  uploader : Option Int
  deriving DecidableEq

/-- The handbook as its readers know it: at most one text in each place. -/
abbrev Handbook := Place → Option HelpText

def place (row : HelpOverride) : Option Place :=
  match row.scope, row.ownerUserId with
  | .user, some userId => some (.own userId row.key row.lang)
  | .global, none => some (.shared row.key row.lang)
  | _, _ => none

def text (row : HelpOverride) : HelpText := ⟨row.content, row.originalUploaderUserId⟩

/-- The text that the rows hold in a place. -/
def handbook (overrides : List HelpOverride) : Handbook := fun wanted =>
  (overrides.find? fun row => place row = some wanted).map text

def Place.key : Place → String
  | .own _ key _ => key
  | .shared key _ => key

def Place.lang : Place → String
  | .own _ _ lang => lang
  | .shared _ lang => lang

/-- A request changes the handbook in one of these ways. -/
inductive Change where
  | nothing
  | write (place : Place) (text : HelpText)
  | copy (source target : Place)
  | erase (place : Place)
  | keep (keys : List String)
  | forget (userId : Int)

/-- A forgotten user loses the own texts and is no uploader any more. -/
def Change.apply (book : Handbook) : Change → Handbook
  | .nothing => book
  | .write place text => Function.update book place (some text)
  | .copy source target => Function.update book target (book source)
  | .erase place => Function.update book place none
  | .keep keys => fun place => if keys.contains place.key then book place else none
  | .forget userId => fun place =>
      match place with
      | .own owner key lang => if owner = userId then none else book (.own owner key lang)
      | .shared key lang => (book (.shared key lang)).map fun text =>
          if text.uploader = some userId then { text with uploader := none } else text

/-- Each row has a place of its own, and an own text was uploaded by its user. -/
structure WellPlaced (overrides : List HelpOverride) : Prop where
  ids : (overrides.map HelpOverride.id).Nodup
  placed : ∀ row ∈ overrides, (place row).isSome = true
  places : (overrides.map place).Nodup
  uploaded : ∀ row ∈ overrides, row.scope = .user → row.originalUploaderUserId = row.ownerUserId

section Places
variable {row other : HelpOverride} {overrides : List HelpOverride} {id userId : Int} {key lang : String}

/-- A row of a user stands at the place of its owner, key and language. -/
theorem place_own_iff : place row = some (.own userId key lang) ↔
    row.scope = .user ∧ row.ownerUserId = some userId ∧ row.key = key ∧ row.lang = lang := by
  unfold place
  cases row.scope <;> cases row.ownerUserId <;> simp

/-- A global row stands at the shared place of its key and language. -/
theorem place_shared_iff : place row = some (.shared key lang) ↔
    row.scope = .global ∧ row.ownerUserId = none ∧ row.key = key ∧ row.lang = lang := by
  unfold place
  cases row.scope <;> cases row.ownerUserId <;> simp

/-- Rows of one place share a slot, so that the indexes keep a second one out. -/
theorem sameSlot_of_place (same : place other = place row) (placed : (place row).isSome = true) :
    sameSlot other row = true := by
  obtain ⟨here, found⟩ := Option.isSome_iff_exists.mp placed
  cases here with
  | own userId key lang =>
      obtain ⟨scope, owner, rfl, rfl⟩ := place_own_iff.mp found
      obtain ⟨otherScope, otherOwner, otherKey, otherLang⟩ := place_own_iff.mp (same.trans found)
      simp [sameSlot, scope, owner, otherScope, otherOwner, otherKey, otherLang]
  | shared key lang =>
      obtain ⟨scope, owner, rfl, rfl⟩ := place_shared_iff.mp found
      obtain ⟨otherScope, otherOwner, otherKey, otherLang⟩ := place_shared_iff.mp (same.trans found)
      simp [sameSlot, scope, otherScope, otherKey, otherLang]

@[simp] theorem forgetUploader_id (userId : Int) (row : HelpOverride) : (forgetUploader userId row).id = row.id := by
  unfold forgetUploader
  split <;> rfl

theorem forgetUploader_scope (userId : Int) (row : HelpOverride) : (forgetUploader userId row).scope = row.scope := by
  unfold forgetUploader
  split <;> rfl

/-- A forgotten uploader owns the row as before. -/
theorem forgetUploader_owner (userId : Int) (row : HelpOverride) :
    (forgetUploader userId row).ownerUserId = row.ownerUserId := by
  unfold forgetUploader
  split <;> rfl

/-- A forgotten uploader moves no row. -/
@[simp] theorem forgetUploader_place (userId : Int) (row : HelpOverride) :
    place (forgetUploader userId row) = place row := by
  unfold forgetUploader
  split <;> rfl

end Places

section Tables
variable {row : HelpOverride} {overrides after : List HelpOverride} {id userId : Int} {key lang : String}

/-- An accepted row takes a new place. -/
theorem WellPlaced.insert (placed : WellPlaced overrides) {here : Place} (known : place row = some here)
    (uploaded : row.scope = .user → row.originalUploaderUserId = row.ownerUserId)
    (accepted : insertOverride overrides row = .ok after) :
    WellPlaced after ∧ handbook after = Function.update (handbook overrides) here (some (text row)) := by
  unfold insertOverride at accepted
  split at accepted
  · cases accepted
  · rename_i free
    rw [← Except.ok.inj accepted]
    have unused : row.id ∉ overrides.map HelpOverride.id := by
      intro used
      obtain ⟨other, member, same⟩ := List.mem_map.mp used
      exact free (List.any_eq_true.mpr ⟨other, member, by simp [same]⟩)
    have empty : ∀ other ∈ overrides, place other ≠ some here := by
      intro other member same
      have slot : sameSlot other row = true := by
        apply sameSlot_of_place (same.trans known.symm)
        rw [known]
        rfl
      exact free (List.any_eq_true.mpr ⟨other, member, by simp [slot]⟩)
    have untaken : place row ∉ overrides.map place := by
      intro taken
      obtain ⟨other, member, same⟩ := List.mem_map.mp taken
      exact empty other member (same.trans known)
    refine ⟨⟨nodup_append_key placed.ids unused, ?_, nodup_append_key placed.places untaken, ?_⟩, ?_⟩
    · intro other member
      rcases List.mem_append.mp member with old | new
      · exact placed.placed other old
      · rw [List.mem_singleton.mp new, known]
        rfl
    · intro other member
      rcases List.mem_append.mp member with old | new
      · exact placed.uploaded other old
      · rw [List.mem_singleton.mp new]
        exact uploaded
    · funext wanted
      unfold handbook
      rw [List.find?_append]
      by_cases same : wanted = here
      · have absent : overrides.find? (fun other => place other = some here) = none :=
          List.find?_eq_none.mpr fun other member => by simpa using empty other member
        rw [same, absent, Function.update_self]
        simp [known]
      · have different : ¬ place row = some wanted := by
          rw [known]
          exact fun equal => same (Option.some.inj equal).symm
        rw [Function.update_of_ne same]
        simp [different]

/-- A change of one row that keeps its place changes the text there. -/
theorem WellPlaced.update (placed : WellPlaced overrides) (stored : row ∈ overrides) {here : Place}
    (known : place row = some here) (change : HelpOverride → HelpOverride)
    (named : ∀ other, (change other).id = other.id) (kept : ∀ other, place (change other) = place other)
    (uploaded : (change row).scope = .user → (change row).originalUploaderUserId = (change row).ownerUserId) :
    WellPlaced (updateOverride overrides row.id change) ∧
      handbook (updateOverride overrides row.id change) =
        Function.update (handbook overrides) here (some (text (change row))) := by
  have ids : (overrides.map fun other => if other.id = row.id then change other else other).map HelpOverride.id =
      overrides.map HelpOverride.id := map_column_selected (fun other => other.id = row.id) named
  have places : (overrides.map fun other => if other.id = row.id then change other else other).map place =
      overrides.map place := map_column_selected (fun other => other.id = row.id) kept
  have only : ∀ other ∈ overrides, other.id = row.id → other = row := fun other member same =>
    List.inj_on_of_nodup_map placed.ids member stored same
  refine ⟨⟨?_, ?_, ?_, ?_⟩, ?_⟩
  · unfold updateOverride
    rw [ids]
    exact placed.ids
  · intro changed member
    obtain ⟨other, old, rfl⟩ := List.mem_map.mp member
    split
    · rw [kept]
      exact placed.placed other old
    · exact placed.placed other old
  · unfold updateOverride
    rw [places]
    exact placed.places
  · intro changed member
    obtain ⟨other, old, rfl⟩ := List.mem_map.mp member
    split
    · rename_i same
      rw [only other old same]
      exact uploaded
    · exact placed.uploaded other old
  · funext wanted
    unfold handbook updateOverride
    rw [find?_map_selected (fun other => other.id = row.id) kept]
    by_cases same : wanted = here
    · have found := find?_key placed.places stored
      rw [known] at found
      rw [same, found, Function.update_self]
      simp
    · rw [Function.update_of_ne same]
      cases found : overrides.find? fun other => place other = some wanted with
      | none => rfl
      | some other =>
          obtain ⟨member, there⟩ := find?_key_spec found
          have different : ¬ other.id = row.id := by
            intro equal
            rw [only other member equal, known] at there
            exact same (Option.some.inj there).symm
          simp [different]

/-- Rows that are left out take no place of others. -/
theorem WellPlaced.filter (placed : WellPlaced overrides) (keep : HelpOverride → Bool) :
    WellPlaced (overrides.filter keep) :=
  ⟨placed.ids.sublist (List.filter_sublist.map _), fun row member => placed.placed row (List.mem_of_mem_filter member),
    placed.places.sublist (List.filter_sublist.map _), fun row member => placed.uploaded row (List.mem_of_mem_filter member)⟩

/-- A filter drops the texts of the dropped rows. -/
theorem WellPlaced.handbook_filter (placed : WellPlaced overrides) (keep : HelpOverride → Bool) (wanted : Place) :
    handbook (overrides.filter keep) wanted =
      ((overrides.find? fun row => place row = some wanted).filter keep).map text := by
  rw [handbook, find?_filter_key placed.places]

/-- The deletion of a row empties its place and no other one. -/
theorem WellPlaced.delete (placed : WellPlaced overrides) (stored : row ∈ overrides) {here : Place}
    (known : place row = some here) :
    WellPlaced (deleteRow overrides row.id) ∧
      handbook (deleteRow overrides row.id) = Function.update (handbook overrides) here none := by
  refine ⟨placed.filter _, ?_⟩
  funext wanted
  unfold deleteRow
  rw [placed.handbook_filter]
  by_cases same : wanted = here
  · have found := find?_key placed.places stored
    rw [known] at found
    rw [same, found, Function.update_self]
    simp
  · rw [Function.update_of_ne same]
    unfold handbook
    cases found : overrides.find? fun other => place other = some wanted with
    | none => rfl
    | some other =>
        obtain ⟨member, there⟩ := find?_key_spec found
        have different : other.id ≠ row.id := by
          intro equal
          rw [List.inj_on_of_nodup_map placed.ids member stored equal, known] at there
          exact same (Option.some.inj there).symm
        simp [different]

/-- The found rows of a list that holds the rows of a place show the text of the place, in whichever order they come. -/
theorem WellPlaced.findOverride_text (placed : WellPlaced overrides) {wanted : Place} {listed : List HelpOverride}
    (same : ∀ row, row ∈ listed ∧ row.key = key ∧ row.lang = lang ↔ row ∈ overrides ∧ place row = some wanted) :
    (findOverride listed key lang).map text = handbook overrides wanted := by
  unfold findOverride handbook
  cases found : listed.find? fun row => row.key = key && row.lang = lang with
  | some row =>
      have named := List.find?_some found
      simp only [Bool.and_eq_true, decide_eq_true_eq] at named
      obtain ⟨stored, here⟩ := (same row).mp ⟨List.mem_of_find?_eq_some found, named⟩
      have other := find?_key placed.places stored
      rw [here] at other
      rw [other]
  | none =>
      rw [List.find?_eq_none] at found
      have absent : overrides.find? (fun row => place row = some wanted) = none := by
        rw [List.find?_eq_none]
        intro row stored here
        obtain ⟨member, named⟩ := (same row).mpr ⟨stored, of_decide_eq_true here⟩
        exact found row member (by simp [named])
      rw [absent]

/-- A user who is deleted takes the own texts along and leaves the shared ones without an uploader. -/
theorem WellPlaced.deleteUserRows (placed : WellPlaced overrides) (userId : Int) :
    WellPlaced (deleteUserRows userId overrides) ∧
      handbook (Help.deleteUserRows userId overrides) = (Change.forget userId).apply (handbook overrides) := by
  have kept := placed.filter fun row => row.ownerUserId ≠ some userId
  refine ⟨⟨?_, ?_, ?_, ?_⟩, ?_⟩
  · unfold Help.deleteUserRows
    have same : HelpOverride.id ∘ forgetUploader userId = HelpOverride.id := funext (forgetUploader_id userId)
    rw [List.map_map, same]
    exact kept.ids
  · intro changed member
    obtain ⟨row, old, rfl⟩ := List.mem_map.mp member
    rw [forgetUploader_place]
    exact kept.placed row old
  · unfold Help.deleteUserRows
    have same : place ∘ forgetUploader userId = place := funext (forgetUploader_place userId)
    rw [List.map_map, same]
    exact kept.places
  · intro changed member
    obtain ⟨row, old, rfl⟩ := List.mem_map.mp member
    have foreign : row.ownerUserId ≠ some userId := by simpa using List.of_mem_filter old
    intro own
    have uploaded : row.originalUploaderUserId = row.ownerUserId := by
      apply kept.uploaded row old
      unfold forgetUploader at own
      split at own <;> exact own
    have unchanged : forgetUploader userId row = row := by
      unfold forgetUploader
      rw [uploaded, if_neg foreign]
    rw [unchanged, uploaded]
  · funext wanted
    unfold handbook Help.deleteUserRows
    rw [find?_map_key (forgetUploader_place userId), find?_filter_key placed.places]
    cases found : overrides.find? fun row => place row = some wanted with
    | none => cases wanted <;> simp [Change.apply, found]
    | some row =>
        obtain ⟨member, here⟩ := find?_key_spec found
        cases wanted with
        | own owner key lang =>
            obtain ⟨scope, owned, _, _⟩ := place_own_iff.mp here
            have uploaded := placed.uploaded row member scope
            by_cases gone : owner = userId
            · simp [Change.apply, owned, gone]
            · simp [Change.apply, found, owned, gone, text, forgetUploader, uploaded]
        | shared key lang =>
            obtain ⟨scope, owned, _, _⟩ := place_shared_iff.mp here
            by_cases forgotten : row.originalUploaderUserId = some userId
            · simp [Change.apply, found, owned, forgotten, text, forgetUploader]
            · simp [Change.apply, found, owned, forgotten, text, forgetUploader]

end Tables

section Meanings
variable (site : HelpSite)

/-- What an accepted request means for the handbook. -/
def intended (store : HelpStore) : HelpRequest → Change
  | .upload _ _ _ user form =>
      match checkUpload site user form with
      | .ok (userId, content) => .write (.own userId form.key form.lang) ⟨content, some userId⟩
      | .error _ => .nothing
  | .delete _ overrideId =>
      match (store.overrides.find? fun row => row.id = overrideId).bind place with
      | some here => .erase here
      | none => .nothing
  | .promote _ _ _ _ overrideId =>
      match (store.overrides.find? fun row => row.id = overrideId).bind place with
      | some here => .copy here (.shared here.key here.lang)
      | none => .nothing
  | .removeGlobal _ key lang => .erase (.shared key lang)
  | .purge validKeys _ => .keep validKeys
  | .deleteUser userId => .forget userId

/-- A refused request means nothing. -/
def meaning (store : HelpStore) (request : HelpRequest) : Change :=
  match answer site store request with
  | .ok _ => intended site store request
  | .error _ => .nothing

/-- The rows follow a change of the handbook. -/
structure Follows (overrides after : List HelpOverride) (change : Change) : Prop where
  placed : WellPlaced after
  book : handbook after = change.apply (handbook overrides)

end Meanings

section Steps
variable {site : HelpSite} {store after : HelpStore} {overrides rows : List HelpOverride} {user : CurrentUser}
  {form : UploadForm} {maxOverrides maxGlobal : Option Nat} {newId userId overrideId : Int}
  {key lang now username : String} {content : List Char} {record : HelpOverride} {validKeys : List String}

/-- An upload writes the text into its place. -/
theorem uploadUserOverride_follows (placed : WellPlaced overrides)
    (accepted : uploadUserOverride site maxOverrides newId userId key lang content now overrides = .ok rows) :
    Follows overrides rows (.write (.own userId key lang) ⟨content, some userId⟩) := by
  have fresh : ∀ row : HelpOverride,
      row = ⟨newId, key, lang, .user, some userId, content, site.md5 content, some userId, now, now⟩ →
      insertOverride overrides row = .ok rows →
      Follows overrides rows (.write (.own userId key lang) ⟨content, some userId⟩) := by
    intro row same inserted
    have known : place row = some (.own userId key lang) := by rw [same]; rfl
    obtain ⟨kept, book⟩ := placed.insert known (by rw [same]; intro _; rfl) inserted
    rw [same] at book
    exact ⟨kept, book⟩
  unfold uploadUserOverride at accepted
  split at accepted
  · rename_i existing found
    rw [← Except.ok.inj accepted]
    have stored := List.mem_filter.mp (List.mem_of_find?_eq_some found)
    have named := List.find?_some found
    simp only [Bool.and_eq_true, decide_eq_true_eq] at stored named
    have known : place existing = some (.own userId key lang) := place_own_iff.mpr ⟨stored.2.1, stored.2.2, named⟩
    have uploaded := placed.uploaded existing stored.1 stored.2.1
    obtain ⟨kept, book⟩ := placed.update stored.1 known
      (fun row => { row with content := content, contentMd5 := site.md5 content, updatedAt := now })
      (fun _ => rfl) (fun _ => rfl) fun _ => uploaded
    have written : text { existing with content := content, contentMd5 := site.md5 content, updatedAt := now } =
        ⟨content, some userId⟩ := by
      rw [text, uploaded, stored.2.2]
    rw [written] at book
    exact ⟨kept, book⟩
  · split at accepted
    · split at accepted
      · cases accepted
      · exact fresh _ rfl accepted
    · exact fresh _ rfl accepted

/-- An accepted deletion removes the row and nothing else. -/
theorem deleteOverride_rows {isAdmin : Bool}
    (accepted : deleteOverride overrideId userId isAdmin overrides = .ok (rows, record)) :
    rows = deleteRow overrides overrideId := by
  unfold deleteOverride at accepted
  split at accepted
  · cases accepted
  · split at accepted
    · split at accepted
      · exact (congrArg Prod.fst (Except.ok.inj accepted)).symm
      · cases accepted
    · split at accepted
      · cases accepted
      · exact (congrArg Prod.fst (Except.ok.inj accepted)).symm

/-- An accepted deletion erases a place of the handbook. -/
theorem deleteOverride_follows (placed : WellPlaced overrides) {isAdmin : Bool}
    (accepted : deleteOverride overrideId userId isAdmin overrides = .ok (rows, record)) :
    ∃ here, (overrides.find? fun row => row.id = overrideId).bind place = some here ∧
      Follows overrides rows (.erase here) := by
  have deleted := deleteOverride_rows accepted
  unfold deleteOverride at accepted
  split at accepted
  · cases accepted
  · rename_i stored found
    obtain ⟨member, named⟩ := find?_key_spec found
    obtain ⟨here, known⟩ := Option.isSome_iff_exists.mp (placed.placed stored member)
    rw [deleted, ← named]
    rw [← named] at found
    obtain ⟨kept, book⟩ := placed.delete member known
    exact ⟨here, by rw [found]; exact known, kept, book⟩

/-- An accepted promotion copies the text of a row to the shared place. -/
theorem promoteToGlobal_follows (placed : WellPlaced overrides)
    (accepted : promoteToGlobal overrideId newId now overrides = .ok (rows, record)) :
    ∃ here, (overrides.find? fun row => row.id = overrideId).bind place = some here ∧
      Follows overrides rows (.copy here (.shared here.key here.lang)) := by
  unfold promoteToGlobal at accepted
  split at accepted
  · cases accepted
  · rename_i own found
    split at accepted
    · cases accepted
    · rename_i scope
      obtain ⟨member, named⟩ := find?_key_spec found
      have personal : own.scope = .user := by simpa using scope
      obtain ⟨here, known⟩ := Option.isSome_iff_exists.mp (placed.placed own member)
      have source : handbook overrides here = some ⟨own.content, own.ownerUserId⟩ := by
        have seen := find?_key placed.places member
        rw [known] at seen
        rw [handbook, seen, Option.map_some, text, placed.uploaded own member personal]
      have named : here.key = own.key ∧ here.lang = own.lang := by
        cases here with
        | own owner key lang =>
            obtain ⟨_, _, keyed, spoken⟩ := place_own_iff.mp known
            exact ⟨keyed.symm, spoken.symm⟩
        | shared key lang =>
            rw [(place_shared_iff.mp known).1] at personal
            cases personal
      refine ⟨here, by rw [found]; exact known, ?_⟩
      rw [named.1, named.2]
      split at accepted
      · rename_i existing shared
        have same : updateOverride overrides existing.id _ = rows := congrArg Prod.fst (Except.ok.inj accepted)
        rw [← same]
        have stored := List.mem_filter.mp (List.mem_of_find?_eq_some shared)
        have slot := List.find?_some shared
        simp only [Bool.and_eq_true, decide_eq_true_eq] at stored slot
        have there : place existing = some (.shared own.key own.lang) := by
          obtain ⟨target, reached⟩ := Option.isSome_iff_exists.mp (placed.placed existing stored.1)
          cases target with
          | own owner key lang =>
              have different := (place_own_iff.mp reached).1
              rw [stored.2] at different
              cases different
          | shared key lang =>
              obtain ⟨_, owner, _, _⟩ := place_shared_iff.mp reached
              exact place_shared_iff.mpr ⟨stored.2, owner, slot⟩
        obtain ⟨kept, book⟩ := placed.update stored.1 there (fun row =>
          { row with
            content := own.content
            contentMd5 := own.contentMd5
            originalUploaderUserId := own.ownerUserId
            updatedAt := now }) (fun _ => rfl) (fun _ => rfl) (by intro user; rw [stored.2] at user; cases user)
        exact ⟨kept, by rw [book, Change.apply, source]; rfl⟩
      · cases inserted : insertOverride overrides ⟨newId, own.key, own.lang, .global, none, own.content,
            own.contentMd5, own.ownerUserId, now, now⟩ with
        | error failure =>
            rw [inserted] at accepted
            cases accepted
        | ok added =>
            rw [inserted] at accepted
            have same : added = rows := congrArg Prod.fst (Except.ok.inj accepted)
            have common : place ⟨newId, own.key, own.lang, .global, none, own.content, own.contentMd5,
                own.ownerUserId, now, now⟩ = some (.shared own.key own.lang) := rfl
            obtain ⟨kept, book⟩ := placed.insert common (by intro user; cases user) inserted
            rw [← same]
            exact ⟨kept, by rw [Change.apply, source]; exact book⟩

/-- An accepted removal erases the shared place. -/
theorem removeGlobalOverride_follows (placed : WellPlaced overrides)
    (accepted : removeGlobalOverride key lang overrides = .ok (rows, record)) :
    Follows overrides rows (.erase (.shared key lang)) := by
  unfold removeGlobalOverride at accepted
  split at accepted
  · cases accepted
  · rename_i stored found
    have same : deleteRow overrides stored.id = rows := congrArg Prod.fst (Except.ok.inj accepted)
    rw [← same]
    have listed := List.mem_filter.mp (List.mem_of_find?_eq_some found)
    have slot := List.find?_some found
    simp only [Bool.and_eq_true, decide_eq_true_eq] at listed slot
    obtain ⟨here, known⟩ := Option.isSome_iff_exists.mp (placed.placed stored listed.1)
    cases here with
    | own owner key lang =>
        have different := (place_own_iff.mp known).1
        rw [listed.2] at different
        cases different
    | shared foundKey foundLang =>
        obtain ⟨_, _, keyed, spoken⟩ := place_shared_iff.mp known
        rw [← keyed, ← spoken, slot.1, slot.2] at known
        obtain ⟨kept, book⟩ := placed.delete listed.1 known
        exact ⟨kept, book⟩

/-- The clean-up keeps the places with valid keys. -/
theorem purgeOrphanOverrides_follows (placed : WellPlaced overrides) :
    Follows overrides (purgeOrphanOverrides validKeys overrides).1 (.keep validKeys) := by
  unfold purgeOrphanOverrides
  rw [List.partition_eq_filter_filter]
  refine ⟨placed.filter _, ?_⟩
  funext wanted
  rw [placed.handbook_filter]
  unfold Change.apply handbook
  cases found : overrides.find? fun row => place row = some wanted with
  | none => simp [found]
  | some row =>
      have here := (find?_key_spec found).2
      have keyed : row.key = wanted.key := by
        cases wanted with
        | own owner key lang => exact (place_own_iff.mp here).2.2.1
        | shared key lang => exact (place_shared_iff.mp here).2.2.1
      by_cases valid : wanted.key ∈ validKeys
      · simp [found, keyed, valid]
      · simp [keyed, valid]

/-- An accepted upload passed the checks of the endpoint and of the service. -/
theorem uploadOverride_ok (accepted : uploadOverride site maxOverrides newId now user form store = .ok after) :
    ∃ userId content, checkUpload site user form = .ok (userId, content) ∧
      uploadUserOverride site maxOverrides newId userId form.key form.lang content now store.overrides =
        .ok after.overrides := by
  obtain ⟨⟨userId, content⟩, valid, rest⟩ := Outcome.bind_eq_ok.mp accepted
  obtain ⟨rows, written, same⟩ := Outcome.bind_eq_ok.mp rest
  rw [← Except.ok.inj same]
  exact ⟨userId, content, valid, written⟩

/-- Without an account only a manager deletes a text. -/
theorem deleteOverrideEndpoint_ok (accepted : deleteOverrideEndpoint user overrideId store = .ok after) :
    (user.userId.isSome = true ∨ isHelpManager user = true) ∧ ∃ record,
      deleteOverride overrideId (user.userId.getD (-1)) (isHelpManager user) store.overrides =
        .ok (after.overrides, record) := by
  unfold deleteOverrideEndpoint at accepted
  split at accepted
  · cases accepted
  · rename_i known
    obtain ⟨⟨rows, record⟩, deleted, same⟩ := Outcome.bind_eq_ok.mp accepted
    rw [← Except.ok.inj same]
    refine ⟨?_, record, deleted⟩
    cases identity : user.userId with
    | none => exact .inr (by simpa [identity] using known)
    | some userId => exact .inl rfl

theorem requireManager_ok {allowed : CurrentUser} (accepted : requireAdminOr "manage_help" user = .ok allowed) :
    isHelpManager user = true := by
  unfold requireAdminOr at accepted
  split at accepted
  · rename_i manager
    exact manager
  · cases accepted

/-- Only a manager of the help promotes a text. -/
theorem promoteOverride_ok (accepted : promoteOverride maxGlobal newId now user overrideId store = .ok after) :
    isHelpManager user = true ∧ ∃ record,
      promoteToGlobal overrideId newId now store.overrides = .ok (after.overrides, record) := by
  obtain ⟨allowed, manager, rest⟩ := Outcome.bind_eq_ok.mp accepted
  dsimp only at rest
  split at rest
  · cases rest
  · obtain ⟨⟨rows, record⟩, promoted, same⟩ := Outcome.bind_eq_ok.mp rest
    rw [← Except.ok.inj same]
    exact ⟨requireManager_ok manager, record, promoted⟩

/-- Only a manager of the help removes a shared text. -/
theorem removeGlobalEndpoint_ok (accepted : removeGlobalEndpoint user key lang store = .ok after) :
    isHelpManager user = true ∧ ∃ record,
      removeGlobalOverride key lang store.overrides = .ok (after.overrides, record) := by
  obtain ⟨allowed, manager, rest⟩ := Outcome.bind_eq_ok.mp accepted
  dsimp only at rest
  split at rest
  · cases rest
  · obtain ⟨⟨rows, record⟩, removed, same⟩ := Outcome.bind_eq_ok.mp rest
    rw [← Except.ok.inj same]
    exact ⟨requireManager_ok manager, record, removed⟩

/-- The clean-up of the store is the one of its rows. -/
theorem purgeOrphans_overrides : (purgeOrphans site validKeys username store).overrides =
    (purgeOrphanOverrides validKeys store.overrides).1 := by
  unfold purgeOrphans
  split
  rename_i kept orphans parted
  split
  · rename_i none
    rw [parted]
    unfold purgeOrphanOverrides at parted
    rw [List.partition_eq_filter_filter] at parted
    have empty := congrArg Prod.snd parted
    rw [List.isEmpty_iff.mp none, List.filter_eq_nil_iff] at empty
    have all := congrArg Prod.fst parted
    rw [← all, eq_comm, List.filter_eq_self]
    intro row stored
    simpa using empty row stored
  · rw [parted]

/-- An accepted request changes the handbook as intended. -/
theorem answer_follows (placed : WellPlaced store.overrides) {request : HelpRequest}
    (accepted : answer site store request = .ok after) :
    Follows store.overrides after.overrides (intended site store request) := by
  cases request with
  | upload maxOverrides newId now user form =>
      obtain ⟨userId, content, valid, written⟩ := uploadOverride_ok accepted
      rw [intended, valid]
      exact uploadUserOverride_follows placed written
  | delete user overrideId =>
      obtain ⟨_, record, deleted⟩ := deleteOverrideEndpoint_ok accepted
      obtain ⟨here, known, follows⟩ := deleteOverride_follows placed deleted
      rw [intended, known]
      exact follows
  | promote maxGlobal newId now user overrideId =>
      obtain ⟨_, record, promoted⟩ := promoteOverride_ok accepted
      obtain ⟨here, known, follows⟩ := promoteToGlobal_follows placed promoted
      rw [intended, known]
      exact follows
  | removeGlobal user key lang =>
      obtain ⟨_, record, removed⟩ := removeGlobalEndpoint_ok accepted
      exact removeGlobalOverride_follows placed removed
  | purge validKeys username =>
      rw [← Except.ok.inj accepted]
      show Follows _ (purgeOrphans site validKeys username store).overrides _
      rw [purgeOrphans_overrides]
      exact purgeOrphanOverrides_follows placed
  | deleteUser userId =>
      rw [← Except.ok.inj accepted]
      obtain ⟨kept, book⟩ := placed.deleteUserRows userId
      exact ⟨kept, book⟩

/-- A request changes the handbook by its meaning. -/
theorem helpStep_follows (placed : WellPlaced store.overrides) (request : HelpRequest) :
    Follows store.overrides (helpStep site store request).overrides (meaning site store request) := by
  unfold helpStep meaning
  cases accepted : answer site store request with
  | ok after => exact answer_follows placed accepted
  | error refusal => exact ⟨placed, rfl⟩

end Steps

section Resolution
variable {overrides : List HelpOverride} {userId : Int} {key lang : String}

/-- The texts that may be shown for a key, the preferred ones first. -/
def candidates (book : Handbook) (repoBundle : String → Option (List Char)) (userId : Int) (key lang : String) :
    List Resolved :=
  [⟨(book (.own userId key lang)).map HelpText.content, .user, false⟩,
    ⟨(book (.shared key lang)).map HelpText.content, .global, false⟩,
    ⟨bundled repoBundle key lang, .repo, false⟩,
    ⟨(book (.shared key "en")).map HelpText.content, .global, true⟩,
    ⟨bundled repoBundle key "en", .repo, true⟩]

/-- The first candidate with a text, if any. -/
def preferred (shown : List Resolved) : Resolved :=
  (shown.find? fun candidate => candidate.content.isSome).getD ⟨none, .none, false⟩

/-- The listing of a user shows the text of the own place. -/
theorem WellPlaced.find_own (placed : WellPlaced overrides) {mine : List HelpOverride}
    (listed : mine.Perm (listUserOverrides overrides userId)) :
    (findOverride mine key lang).map HelpOverride.content =
      (handbook overrides (.own userId key lang)).map HelpText.content := by
  have found : (findOverride mine key lang).map text = handbook overrides (.own userId key lang) := by
    apply placed.findOverride_text
    intro row
    rw [listed.mem_iff, listUserOverrides, List.mem_filter, place_own_iff]
    simp [and_assoc]
  rw [← found, Option.map_map]
  rfl

/-- The global listing shows the text of the shared place. -/
theorem WellPlaced.find_shared (placed : WellPlaced overrides) {shared : List HelpOverride}
    (listed : shared.Perm (listGlobalOverrides overrides)) :
    (findOverride shared key lang).map HelpOverride.content =
      (handbook overrides (.shared key lang)).map HelpText.content := by
  have found : (findOverride shared key lang).map text = handbook overrides (.shared key lang) := by
    apply placed.findOverride_text
    intro row
    rw [listed.mem_iff, listGlobalOverrides, List.mem_filter, place_shared_iff]
    have unowned : row ∈ overrides → row.scope = .global → row.ownerUserId = none := by
      intro stored common
      have known := placed.placed row stored
      unfold place at known
      rw [common] at known
      cases owner : row.ownerUserId with
      | none => rfl
      | some other => simp [owner] at known
    simp only [decide_eq_true_eq]
    tauto
  rw [← found, Option.map_map]
  rfl

/-- The frontend shows the preferred text of the handbook and the bundle. -/
theorem WellPlaced.resolveHelpContent_eq (placed : WellPlaced overrides) {mine shared : List HelpOverride}
    (own : mine.Perm (listUserOverrides overrides userId)) (common : shared.Perm (listGlobalOverrides overrides))
    (repoBundle : String → Option (List Char)) :
    resolveHelpContent key lang mine shared repoBundle =
      preferred (candidates (handbook overrides) repoBundle userId key lang) := by
  unfold candidates resolveHelpContent
  rw [← placed.find_own own, ← placed.find_shared common, ← placed.find_shared common]
  cases findOverride mine key lang with
  | some row => rfl
  | none =>
  cases first : findOverride shared key lang with
  | some row => rfl
  | none =>
  cases second : bundled repoBundle key lang with
  | some content => rfl
  | none =>
      by_cases english : lang = "en"
      · rw [english] at first second
        simp [preferred, first, second, english]
      · cases third : findOverride shared key "en" with
        | some row => simp [preferred, english]
        | none => cases bundled repoBundle key "en" <;> simp [preferred, english]

end Resolution

section Runs
variable (site : HelpSite)

/-- An empty table is well placed. -/
theorem wellPlaced_empty : WellPlaced [] :=
  ⟨List.nodup_nil, fun _ member => (List.not_mem_nil member).elim, List.nodup_nil,
    fun _ member => (List.not_mem_nil member).elim⟩

/-- The changes that the visited requests mean. -/
def meanings (visits : List (HelpStore × HelpRequest)) : List Change :=
  visits.map fun visit => meaning site visit.1 visit.2

/-- A further request adds its own meaning. -/
theorem meanings_snoc (past : List (HelpStore × HelpRequest)) (store : HelpStore) (request : HelpRequest) :
    meanings site (past ++ [(store, request)]) = meanings site past ++ [meaning site store request] := by
  rw [meanings, List.map_append]
  rfl

/-- The rows hold the handbook that the meanings of the requests write. -/
def Refines (past : List (HelpStore × HelpRequest)) (store : HelpStore) : Prop :=
  WellPlaced store.overrides ∧ handbook store.overrides = (meanings site past).foldl Change.apply fun _ => none

/-- After every run the rows hold in each place what the requests in turn mean for the handbook, and the frontend
resolves a key to the preferred text of that handbook and the bundle, in whichever order the rows are listed. -/
theorem handbook_refined (requests : List HelpRequest) :
    WellPlaced (run (helpStep site) {} requests).overrides ∧
      handbook (run (helpStep site) {} requests).overrides =
        (meanings site (visits (helpStep site) {} requests)).foldl Change.apply (fun _ => none) ∧
      ∀ userId key lang mine shared repoBundle,
        mine.Perm (listUserOverrides (run (helpStep site) {} requests).overrides userId) →
        shared.Perm (listGlobalOverrides (run (helpStep site) {} requests).overrides) →
        resolveHelpContent key lang mine shared repoBundle =
          preferred (candidates ((meanings site (visits (helpStep site) {} requests)).foldl Change.apply fun _ => none)
            repoBundle userId key lang) := by
  have kept : ∀ past store request, Refines site past store → True →
      Refines site (past ++ [(store, request)]) (helpStep site store request) := by
    intro past store request refined _
    obtain ⟨placed, book⟩ := refined
    obtain ⟨after, changed⟩ : Follows _ _ (meaning site store request) := helpStep_follows placed request
    refine ⟨after, ?_⟩
    rw [changed, book, meanings_snoc, List.foldl_append]
    rfl
  have start : Refines site [] {} := ⟨wellPlaced_empty, rfl⟩
  have refined := run_history (helpStep site) kept requests start fun _ _ => trivial
  rw [List.nil_append] at refined
  refine ⟨refined.1, refined.2, ?_⟩
  intro userId key lang mine shared repoBundle own common
  rw [← refined.2]
  exact refined.1.resolveHelpContent_eq own common repoBundle

end Runs

section Guards
variable {site : HelpSite} {store after : HelpStore} {overrides rows : List HelpOverride} {user : CurrentUser}
  {form : UploadForm} {newId userId overrideId : Int} {key lang now : String} {content : List Char}
  {record : HelpOverride}

/-- The places in which a request may change the shown content. -/
def HelpRequest.mayChange : HelpRequest → Place → Prop
  | .upload _ _ _ user form, place => ∃ userId, user.userId = some userId ∧ place = .own userId form.key form.lang
  | .delete user _, place =>
      isHelpManager user = true ∨ ∃ userId key lang, user.userId = some userId ∧ place = .own userId key lang
  | .promote _ _ _ user _, place => isHelpManager user = true ∧ ∃ key lang, place = .shared key lang
  | .removeGlobal user key lang, place => isHelpManager user = true ∧ place = .shared key lang
  | .purge validKeys _, place => place.key ∉ validKeys
  | .deleteUser userId, place => ∃ key lang, place = .own userId key lang

/-- The content shown in a place. -/
def shownIn (book : Handbook) (place : Place) : Option (List Char) := (book place).map HelpText.content

/-- A text that passes the checks of an upload. -/
def Admitted (site : HelpSite) (key lang : String) (content : List Char) : Prop :=
  isKey site key = true ∧ lang ∈ ["de", "en"] ∧
    ∃ contentBytes filename, validateAndSanitize site.tables contentBytes filename = .ok content

/-- A text that the endpoint accepts is admitted for the user. -/
theorem checkUpload_ok (accepted : checkUpload site user form = .ok (userId, content)) :
    user.userId = some userId ∧ Admitted site form.key form.lang content := by
  unfold checkUpload at accepted
  split at accepted
  · cases accepted
  · rename_i known
    split at accepted
    · cases accepted
    · split at accepted
      · cases accepted
      · rename_i spoken
        split at accepted
        · cases accepted
        · rename_i named
          split at accepted
          · cases accepted
          · rename_i checked
            obtain ⟨rfl, rfl⟩ := Prod.mk.inj (Except.ok.inj accepted)
            exact ⟨known, by simpa using named, not_not.mp spoken, _, _, checked⟩

/-- A user who is no manager deletes own texts only. -/
theorem deleteOverride_owned {here : Place} {isAdmin : Bool}
    (accepted : deleteOverride overrideId userId isAdmin overrides = .ok (rows, record))
    (known : (overrides.find? fun row => row.id = overrideId).bind place = some here) :
    isAdmin = true ∨ ∃ key lang, here = .own userId key lang := by
  unfold deleteOverride at accepted
  split at accepted
  · cases accepted
  · rename_i row found
    rw [found, Option.bind_some] at known
    split at accepted
    · split at accepted
      · rename_i manager
        exact .inl manager
      · cases accepted
    · rename_i personal
      split at accepted
      · cases accepted
      · rename_i allowed
        cases manager : isAdmin with
        | true => exact .inl rfl
        | false =>
            have owned : row.ownerUserId = some userId := by simpa [manager] using allowed
            cases here with
            | own owner key lang =>
                have same := (place_own_iff.mp known).2.1
                rw [owned] at same
                exact .inr ⟨key, lang, by rw [Option.some.inj same]⟩
            | shared key lang => exact absurd (place_shared_iff.mp known).1 personal

/-- Only the place that changes may show another text. -/
theorem shownIn_update (book : Handbook) (here wanted : Place) (text : Option HelpText)
    (changed : shownIn (Function.update book here text) wanted ≠ shownIn book wanted) : wanted = here := by
  by_contra different
  apply changed
  rw [shownIn, shownIn, Function.update_of_ne different]

/-- A request changes what is shown only where it may. -/
theorem meaning_mayChange (placed : WellPlaced store.overrides) (request : HelpRequest) (book : Handbook)
    (wanted : Place) (changed : shownIn ((meaning site store request).apply book) wanted ≠ shownIn book wanted) :
    request.mayChange wanted := by
  unfold meaning at changed
  cases accepted : answer site store request with
  | error refusal =>
      rw [accepted] at changed
      exact absurd rfl changed
  | ok after =>
      rw [accepted] at changed
      cases request with
      | upload maxOverrides newId now user form =>
          obtain ⟨userId, content, valid, _⟩ := uploadOverride_ok accepted
          simp only [intended, valid] at changed
          exact ⟨userId, (checkUpload_ok valid).1, shownIn_update _ _ _ _ changed⟩
      | delete user overrideId =>
          obtain ⟨permitted, record, deleted⟩ := deleteOverrideEndpoint_ok accepted
          obtain ⟨here, known, _⟩ := deleteOverride_follows placed deleted
          simp only [intended, known] at changed
          have same := shownIn_update _ _ _ _ changed
          rcases deleteOverride_owned deleted known with manager | ⟨key, lang, own⟩
          · exact .inl manager
          · rcases permitted with identified | manager
            · obtain ⟨userId, known⟩ := Option.isSome_iff_exists.mp identified
              rw [known, Option.getD_some] at own
              exact .inr ⟨userId, key, lang, known, same.trans own⟩
            · exact .inl manager
      | promote maxGlobal newId now user overrideId =>
          obtain ⟨manager, record, promoted⟩ := promoteOverride_ok accepted
          obtain ⟨here, known, _⟩ := promoteToGlobal_follows placed promoted
          simp only [intended, known] at changed
          exact ⟨manager, _, _, shownIn_update _ _ _ _ changed⟩
      | removeGlobal user key lang =>
          obtain ⟨manager, _⟩ := removeGlobalEndpoint_ok accepted
          exact ⟨manager, shownIn_update _ _ _ _ changed⟩
      | purge validKeys username =>
          intro valid
          apply changed
          simp [intended, shownIn, Change.apply, valid]
      | deleteUser userId =>
          cases wanted with
          | own owner key lang =>
              by_cases same : owner = userId
              · exact ⟨key, lang, by rw [same]⟩
              · exact absurd (by simp [intended, shownIn, Change.apply, same]) changed
          | shared key lang =>
              apply absurd _ changed
              simp only [intended, shownIn, Change.apply, Option.map_map]
              congr 1
              funext text
              simp only [Function.comp_apply]
              split <;> rfl

/-- The handbook holds checked texts only. -/
def AllAdmitted (site : HelpSite) (book : Handbook) : Prop :=
  ∀ wanted text, book wanted = some text → Admitted site wanted.key wanted.lang text.content

/-- A handbook stays admitted when the new text is. -/
theorem allAdmitted_update {book : Handbook} (admitted : AllAdmitted site book) {here : Place} {text : Option HelpText}
    (new : ∀ written, text = some written → Admitted site here.key here.lang written.content) :
    AllAdmitted site (Function.update book here text) := by
  intro wanted found
  by_cases same : wanted = here
  · rw [same, Function.update_self]
    exact new found
  · rw [Function.update_of_ne same]
    exact admitted wanted found

/-- A request keeps the handbook free of unchecked texts. -/
theorem meaning_admitted (placed : WellPlaced store.overrides) (request : HelpRequest) {book : Handbook}
    (admitted : AllAdmitted site book) : AllAdmitted site ((meaning site store request).apply book) := by
  unfold meaning
  cases accepted : answer site store request with
  | error refusal => exact admitted
  | ok after =>
      cases request with
      | upload maxOverrides newId now user form =>
          obtain ⟨userId, content, valid, _⟩ := uploadOverride_ok accepted
          simp only [intended, valid]
          apply allAdmitted_update admitted
          intro written same
          rw [← Option.some.inj same]
          exact (checkUpload_ok valid).2
      | delete user overrideId =>
          obtain ⟨_, record, deleted⟩ := deleteOverrideEndpoint_ok accepted
          obtain ⟨here, known, _⟩ := deleteOverride_follows placed deleted
          simp only [intended, known]
          apply allAdmitted_update admitted
          intro written absent
          cases absent
      | promote maxGlobal newId now user overrideId =>
          obtain ⟨_, record, promoted⟩ := promoteOverride_ok accepted
          obtain ⟨here, known, _⟩ := promoteToGlobal_follows placed promoted
          simp only [intended, known]
          exact allAdmitted_update admitted (admitted here)
      | removeGlobal user key lang =>
          apply allAdmitted_update admitted
          intro written absent
          cases absent
      | purge validKeys username =>
          intro wanted text found
          simp only [intended, Change.apply] at found
          split at found
          · exact admitted wanted text found
          · cases found
      | deleteUser userId =>
          intro wanted text found
          cases wanted with
          | own owner key lang =>
              simp only [intended, Change.apply] at found
              split at found
              · cases found
              · exact admitted _ text found
          | shared key lang =>
              obtain ⟨before, known, same⟩ := Option.map_eq_some_iff.mp found
              have content : text.content = before.content := by
                rw [← same]
                split <;> rfl
              rw [content]
              exact admitted _ before known

end Guards

section Limits
variable {site : HelpSite} {store after : HelpStore} {overrides rows : List HelpOverride} {user : CurrentUser}
  {newId userId overrideId : Int} {key lang now : String} {content : List Char} {record : HelpOverride}

/-- The number of the own texts of a user. -/
def ownCount (overrides : List HelpOverride) (userId : Int) : Nat := (listUserOverrides overrides userId).length

/-- The limit of an upload. -/
def HelpRequest.limitedTo (most : Nat) : HelpRequest → Prop
  | .upload maxOverrides _ _ _ _ => ∃ limit ≤ most, maxOverrides = some limit
  | _ => True

/-- Rows that are left out do not count. -/
theorem ownCount_filter (keep : HelpOverride → Bool) (userId : Int) :
    ownCount (overrides.filter keep) userId ≤ ownCount overrides userId := by
  unfold ownCount listUserOverrides
  rw [List.filter_comm]
  exact List.length_filter_le _ _

/-- A change of other columns does not change the count of a user. -/
theorem ownCount_map {change : HelpOverride → HelpOverride} (userId : Int)
    (scope : ∀ row, (change row).scope = row.scope) (owner : ∀ row, (change row).ownerUserId = row.ownerUserId) :
    ownCount (overrides.map change) userId = ownCount overrides userId := by
  unfold ownCount listUserOverrides
  rw [← List.countP_eq_length_filter, ← List.countP_eq_length_filter, List.countP_map]
  congr 1
  funext row
  simp only [Function.comp_apply, scope, owner]

/-- An update of a row does not change the count of a user. -/
theorem ownCount_updateOverride {change : HelpOverride → HelpOverride} (id userId : Int)
    (scope : ∀ row, (change row).scope = row.scope) (owner : ∀ row, (change row).ownerUserId = row.ownerUserId) :
    ownCount (updateOverride overrides id change) userId = ownCount overrides userId := by
  apply ownCount_map
  · intro row
    split
    · exact scope row
    · rfl
  · intro row
    split
    · exact owner row
    · rfl

/-- A new row counts for its owner. -/
theorem ownCount_insertOverride {row : HelpOverride} (accepted : insertOverride overrides row = .ok rows) (userId : Int) :
    ownCount rows userId = ownCount overrides userId +
      if row.scope = .user ∧ row.ownerUserId = some userId then 1 else 0 := by
  unfold insertOverride at accepted
  split at accepted
  · cases accepted
  · rw [← Except.ok.inj accepted]
    unfold ownCount listUserOverrides
    rw [List.filter_append, List.length_append]
    by_cases own : row.scope = .user ∧ row.ownerUserId = some userId
    · simp [own]
    · simp [own]

/-- An upload under a limit leaves no user above it who was not above it before. -/
theorem uploadUserOverride_limited {limit most : Nat} (within : limit ≤ most)
    (accepted : uploadUserOverride site (some limit) newId userId key lang content now overrides = .ok rows)
    (before : ∀ other, ownCount overrides other ≤ most) : ∀ other, ownCount rows other ≤ most := by
  unfold uploadUserOverride at accepted
  split at accepted
  · rw [← Except.ok.inj accepted]
    intro other
    rw [ownCount_updateOverride]
    · exact before other
    · exact fun _ => rfl
    · exact fun _ => rfl
  · split at accepted
    · rename_i bound same
      split at accepted
      · cases accepted
      · rename_i room
        intro other
        have fewer : ownCount overrides userId < limit := by
          rw [Option.some.inj same]
          exact Nat.lt_of_not_le room
        rw [ownCount_insertOverride accepted]
        split
        · rename_i own
          have same : userId = other := Option.some.inj own.2
          rw [← same]
          omega
        · exact before other
    · rename_i unbounded
      cases unbounded

/-- A promotion counts for nobody. -/
theorem promoteToGlobal_ownCount (accepted : promoteToGlobal overrideId newId now overrides = .ok (rows, record))
    (other : Int) : ownCount rows other = ownCount overrides other := by
  unfold promoteToGlobal at accepted
  split at accepted
  · cases accepted
  · rename_i own _
    split at accepted
    · cases accepted
    · split at accepted
      · rename_i existing _
        have same : updateOverride overrides existing.id _ = rows := congrArg Prod.fst (Except.ok.inj accepted)
        rw [← same, ownCount_updateOverride]
        · exact fun _ => rfl
        · exact fun _ => rfl
      · cases inserted : insertOverride overrides ⟨newId, own.key, own.lang, .global, none, own.content,
            own.contentMd5, own.ownerUserId, now, now⟩ with
        | error failure =>
            rw [inserted] at accepted
            cases accepted
        | ok added =>
            rw [inserted] at accepted
            have same : added = rows := congrArg Prod.fst (Except.ok.inj accepted)
            rw [← same, ownCount_insertOverride inserted]
            simp

/-- An accepted removal takes one row away. -/
theorem removeGlobalOverride_rows (accepted : removeGlobalOverride key lang overrides = .ok (rows, record)) :
    rows = deleteRow overrides record.id := by
  unfold removeGlobalOverride at accepted
  split at accepted
  · cases accepted
  · obtain ⟨rfl, rfl⟩ := Prod.mk.inj (Except.ok.inj accepted)
    rfl

/-- While the uploads are limited no user exceeds the limit. -/
theorem helpStep_limited {most : Nat} {request : HelpRequest} (limited : request.limitedTo most)
    (before : ∀ other, ownCount store.overrides other ≤ most) (other : Int) :
    ownCount (helpStep site store request).overrides other ≤ most := by
  unfold helpStep
  cases accepted : answer site store request with
  | error refusal => exact before other
  | ok after =>
      cases request with
      | upload maxOverrides newId now user form =>
          obtain ⟨limit, within, same⟩ := limited
          obtain ⟨userId, content, _, written⟩ := uploadOverride_ok accepted
          rw [same] at written
          exact uploadUserOverride_limited within written before other
      | delete user overrideId =>
          obtain ⟨_, record, deleted⟩ := deleteOverrideEndpoint_ok accepted
          rw [deleteOverride_rows deleted]
          exact (ownCount_filter _ other).trans (before other)
      | promote maxGlobal newId now user overrideId =>
          obtain ⟨_, record, promoted⟩ := promoteOverride_ok accepted
          rw [promoteToGlobal_ownCount promoted]
          exact before other
      | removeGlobal user key lang =>
          obtain ⟨_, record, removed⟩ := removeGlobalEndpoint_ok accepted
          rw [removeGlobalOverride_rows removed]
          exact (ownCount_filter _ other).trans (before other)
      | purge validKeys username =>
          rw [← Except.ok.inj accepted, purgeOrphans_overrides, purgeOrphanOverrides, List.partition_eq_filter_filter]
          exact (ownCount_filter _ other).trans (before other)
      | deleteUser userId =>
          rw [← Except.ok.inj accepted]
          show ownCount (List.map (forgetUploader userId) _) other ≤ most
          rw [ownCount_map other (forgetUploader_scope userId) (forgetUploader_owner userId)]
          exact (ownCount_filter _ other).trans (before other)

end Limits

/-- In every run a request changes what is shown only where it may, the handbook holds checked texts only, and
while the uploads are limited no user has more own texts than the limit. -/
theorem handbook_guarded (site : HelpSite) (requests : List HelpRequest) :
    (∀ visit ∈ visits (helpStep site) {} requests, ∀ wanted,
      shownIn (handbook (helpStep site visit.1 visit.2).overrides) wanted ≠
        shownIn (handbook visit.1.overrides) wanted → visit.2.mayChange wanted) ∧
      AllAdmitted site (handbook (run (helpStep site) {} requests).overrides) ∧
      ∀ most, (∀ request ∈ requests, request.limitedTo most) →
        ∀ userId, ownCount (run (helpStep site) {} requests).overrides userId ≤ most := by
  refine ⟨?_, ?_, ?_⟩
  · have start : WellPlaced (HelpStore.overrides {}) := wellPlaced_empty
    have placed := visits_invariant (helpStep site)
      (fun store request (before : WellPlaced store.overrides) (_ : True) => (helpStep_follows before request).placed)
      requests start fun _ _ => trivial
    intro visit member wanted changed
    rw [(helpStep_follows (placed visit member) visit.2).book] at changed
    exact meaning_mayChange (placed visit member) visit.2 _ wanted changed
  · have kept : ∀ store request, WellPlaced store.overrides ∧ AllAdmitted site (handbook store.overrides) → True →
        WellPlaced (helpStep site store request).overrides ∧
          AllAdmitted site (handbook (helpStep site store request).overrides) := by
      intro store request before _
      have follows : Follows _ _ (meaning site store request) := helpStep_follows before.1 request
      refine ⟨follows.placed, ?_⟩
      rw [follows.book]
      exact meaning_admitted before.1 request before.2
    exact (run_invariant (helpStep site) kept requests ⟨wellPlaced_empty, fun _ _ absent => by cases absent⟩
      fun _ _ => trivial).2
  · intro most limited
    exact run_invariant (helpStep site)
      (fun store request (before : ∀ other, ownCount store.overrides other ≤ most)
        (bounded : request.limitedTo most) => helpStep_limited bounded before)
      requests (fun _ => Nat.zero_le _) fun visit member => limited visit.2 (visits_event _ _ _ member)

end P3Portal.Help
