import P3Portal.Proof.Owners.Dialects
import P3Portal.Proof.Owners.Limit

namespace P3Portal.Owners
open Schema Foundation Auth Automation

section Steps
variable {dialect : Dialect} {db mid after : Database} {userId toUserId : Int} {actorUsername now : String}
  {entry : VmOwner} {rest : List VmOwner}

/-- The rows of a user, active or not. -/
def ownerRows (db : Database) (who : Int) : List VmOwner := db.vmOwners.filter fun owner => owner.userId = who

/-- The rows of a user are those with the user's id. -/
theorem mem_ownerRows {who : Int} {owner : VmOwner} :
    owner ∈ ownerRows db who ↔ owner ∈ db.vmOwners ∧ owner.userId = who := by
  unfold ownerRows
  rw [List.mem_filter, decide_eq_true_eq]

/-- The entries of a deleted user are the active ones. -/
theorem mem_activeEntries {owner : VmOwner} :
    owner ∈ activeEntries db userId ↔ owner ∈ db.vmOwners ∧ owner.userId = userId ∧ owner.deletedAt = none := by
  unfold activeEntries activeFor
  rw [List.mem_filter, Bool.and_eq_true, decide_eq_true_eq, Option.isNone_iff_eq_none]

/-- A user owns a guest exactly when an active entry names it. -/
theorem isOwner_iff {guest : Guest} :
    isOwner db userId guest = true ↔ ∃ owner ∈ activeEntries db userId, ownerGuest owner = guest := by
  unfold isOwner activeEntries
  simp only [List.any_eq_true, Bool.and_eq_true, decide_eq_true_eq, List.mem_filter, and_assoc]

/-- A user who keeps the rows keeps the guests. -/
theorem isOwner_of_prefix {guest : Guest} (kept : ownerRows db userId <+: ownerRows after userId)
    (owned : isOwner db userId guest = true) : isOwner after userId guest = true := by
  obtain ⟨owner, active, named⟩ := isOwner_iff.mp owned
  obtain ⟨stored, same, held⟩ := mem_activeEntries.mp active
  have there := kept.subset (mem_ownerRows.mpr ⟨stored, same⟩)
  exact isOwner_iff.mpr ⟨owner, mem_activeEntries.mpr ⟨(mem_ownerRows.mp there).1, same, held⟩, named⟩

/-- Every step of the transfer is made of soft deletions, accepted inserts and audit rows. -/
theorem transferEntryOn_moves : Moves db (transferEntryOn dialect userId toUserId actorUsername now db entry) := by
  unfold transferEntryOn
  apply Moves.audit
  cases inserted : insertOwnerOn dialect (softDelete db (fun owner => owner.id = entry.id) .userDeleted now)
      (ownerGuest entry) toUserId none .transfer with
  | none =>
      cases dialect with
      | sqlite => exact .softDelete db _ _ _ .start
      | postgresql => exact .start
  | some next => exact .insert _ next _ _ _ _ (.softDelete db _ _ _ .start) (insertOwner_of_on inserted)

/-- These entries of a user wait for their transfer to a stored user, and on PostgreSQL that user has no row for their
guests. -/
structure Ready (dialect : Dialect) (userId toUserId : Int) (rest : List VmOwner) (db : Database) : Prop where
  kept : WellKept db
  other : toUserId ≠ userId
  user : (getUserById db toUserId).isSome = true
  pending : Pending db userId rest
  free : dialect = .postgresql → ∀ owner ∈ rest, ∀ row ∈ ownerRows db toUserId, ownerGuest row ≠ ownerGuest owner

/-- The entries belong to the target, the user has no other active rows than before and none of the entries, and
everybody else has the same rows. -/
structure Handed (userId toUserId : Int) (entries : List VmOwner) (db after : Database) : Prop where
  owned : ∀ owner ∈ entries, isOwner after toUserId (ownerGuest owner) = true
  left : ∀ owner ∈ activeEntries after userId, owner ∈ activeEntries db userId ∧ owner ∉ entries
  others : ∀ who, who ≠ userId → who ≠ toUserId → ownerRows after who = ownerRows db who
  target : ownerRows db toUserId <+: ownerRows after toUserId

/-- Without entries nothing is handed over. -/
theorem Handed.nil : Handed userId toUserId [] db db := by
  refine ⟨?_, ?_, fun _ _ _ => rfl, List.prefix_rfl⟩
  · intro owner member
    cases member
  · intro owner active
    exact ⟨active, List.not_mem_nil⟩

/-- Entries are handed over one by one. -/
theorem Handed.cons (first : Handed userId toUserId [entry] db mid) (later : Handed userId toUserId rest mid after) :
    Handed userId toUserId (entry :: rest) db after := by
  constructor
  · intro owner member
    rcases List.mem_cons.mp member with here | there
    · rw [here]
      exact isOwner_of_prefix later.target (first.owned entry List.mem_cons_self)
    · exact later.owned owner there
  · intro owner active
    obtain ⟨before, absent⟩ := later.left owner active
    obtain ⟨start, other⟩ := first.left owner before
    refine ⟨start, ?_⟩
    intro member
    rcases List.mem_cons.mp member with here | there
    · exact other (List.mem_singleton.mpr here)
    · exact absent there
  · intro who old new
    rw [later.others who old new, first.others who old new]
  · exact first.target.trans later.target

/-- The first entry is an active row of the user. -/
theorem Ready.first (ready : Ready dialect userId toUserId (entry :: rest) db) :
    entry ∈ db.vmOwners ∧ entry.userId = userId ∧ entry.deletedAt = none := by
  rw [← mem_activeEntries]
  exact List.mem_filter.mpr
    ⟨ready.pending.stored entry List.mem_cons_self, ready.pending.active entry List.mem_cons_self⟩

/-- The soft deletion of one entry marks the row with its key. -/
def withdrawn (entry : VmOwner) (now : String) : VmOwner → VmOwner :=
  markDeleted (fun owner => owner.id = entry.id) .userDeleted now

/-- A withdrawn row keeps its user. -/
theorem withdrawn_userId (entry : VmOwner) (now : String) (owner : VmOwner) :
    (withdrawn entry now owner).userId = owner.userId := by
  unfold withdrawn
  rcases markDeleted_cases (fun owner => owner.id = entry.id) .userDeleted now owner with same | ⟨-, marked⟩
  · rw [same]
  · rw [marked]

/-- A withdrawn row keeps its guest. -/
theorem withdrawn_guest (entry : VmOwner) (now : String) (owner : VmOwner) :
    ownerGuest (withdrawn entry now owner) = ownerGuest owner := by
  unfold withdrawn
  rcases markDeleted_cases (fun owner => owner.id = entry.id) .userDeleted now owner with same | ⟨-, marked⟩
  · rw [same]
  · rw [marked]
    rfl

/-- Only the entry itself is withdrawn. -/
theorem withdrawn_other {owner : VmOwner} (different : owner.id ≠ entry.id) :
    withdrawn entry now owner = owner := by
  unfold withdrawn markDeleted
  rw [if_neg]
  simp [different]

/-- A withdrawn entry is not active. -/
theorem withdrawn_inactive : (withdrawn entry now entry).deletedAt ≠ none := by
  unfold withdrawn markDeleted
  cases held : entry.deletedAt with
  | none => simp
  | some time => simp [held]

/-- The removal of an entry withdraws it. -/
theorem withdrawn_vmOwners (db : Database) (entry : VmOwner) (now : String) :
    (softDelete db (fun owner => owner.id = entry.id) .userDeleted now).vmOwners =
      db.vmOwners.map (withdrawn entry now) := rfl

/-- An insert whose foreign keys are stored is refused by the index only. -/
theorem indexHolds_of_refused {guest : Guest} {source : OwnerSource}
    (node : (Nodes.getNode db guest.nodeId).isSome = true) (user : (getUserById db toUserId).isSome = true)
    (refused : insertOwnerOn dialect db guest toUserId none source = none) :
    indexHolds dialect db toUserId guest = true := by
  by_contra free
  rw [Bool.not_eq_true] at free
  have accepted : insertOwnerOn dialect db guest toUserId none source =
      some { db with vmOwners := db.vmOwners ++ [newOwner db guest toUserId source] } :=
    insertOwnerOn_eq_some.mpr ⟨⟨node, user, Option.all_none, free⟩, rfl⟩
  rw [refused] at accepted
  cases accepted

variable (actorUsername now) in
/-- The rows after one step are the marked rows and perhaps a new row of the target, who owns the guest at once when
there is none. -/
theorem transferEntryOn_rows (ready : Ready dialect userId toUserId (entry :: rest) db) :
    ∃ added, (transferEntryOn dialect userId toUserId actorUsername now db entry).vmOwners =
        db.vmOwners.map (withdrawn entry now) ++ added ∧
      (∀ row ∈ added, row.userId = toUserId ∧ row.deletedAt = none ∧ ownerGuest row = ownerGuest entry) ∧
      (added = [] → isOwner db toUserId (ownerGuest entry) = true) := by
  have active := ready.first
  have node : (Nodes.getNode db (ownerGuest entry).nodeId).isSome = true := ready.kept.known entry active.1
  dsimp only [transferEntryOn]
  cases inserted : insertOwnerOn dialect (softDelete db (fun owner => owner.id = entry.id) .userDeleted now)
      (ownerGuest entry) toUserId none .transfer with
  | some next =>
      refine ⟨[newOwner (softDelete db (fun owner => owner.id = entry.id) .userDeleted now) (ownerGuest entry)
        toUserId .transfer], ?_, ?_, ?_⟩
      · exact congrArg Database.vmOwners (insertOwnerOn_eq_some.mp inserted).2
      · intro row member
        rw [List.mem_singleton.mp member]
        exact ⟨rfl, rfl, rfl⟩
      · intro absent
        cases absent
  | none =>
      have conflict := indexHolds_of_refused (by exact node) (by exact ready.user) inserted
      unfold indexHolds at conflict
      rw [withdrawn_vmOwners, List.any_map, List.any_eq_true] at conflict
      obtain ⟨row, stored, counted⟩ := conflict
      simp only [Function.comp_apply, withdrawn_userId, withdrawn_guest, Bool.and_eq_true,
        decide_eq_true_eq] at counted
      obtain ⟨⟨named, visible⟩, same⟩ := counted
      cases dialect with
      | postgresql =>
          exact absurd same (ready.free rfl entry List.mem_cons_self row (mem_ownerRows.mpr ⟨stored, named⟩))
      | sqlite =>
          refine ⟨[], (List.append_nil _).symm, ?_, ?_⟩
          · intro row member
            cases member
          · intro _
            have different : row.id ≠ entry.id := by
              intro key
              have one := ready.kept.key_selects active.1 stored key
              rw [one, active.2.1] at named
              exact ready.other named.symm
            rw [withdrawn_other different] at visible
            have held : row.deletedAt = none := by
              simpa [indexed] using visible
            exact isOwner_iff.mpr ⟨row, mem_activeEntries.mpr ⟨stored, named, held⟩, same⟩

/-- One step leaves the rows of everybody else as they are, up to new rows. -/
theorem Ready.rows_of (ready : Ready dialect userId toUserId (entry :: rest) db) {added : List VmOwner}
    (rows : mid.vmOwners = db.vmOwners.map (withdrawn entry now) ++ added) {who : Int} (old : who ≠ userId) :
    ownerRows mid who = ownerRows db who ++ added.filter fun owner => owner.userId = who := by
  have selected : (fun owner : VmOwner => decide (owner.userId = who)) ∘ withdrawn entry now =
      fun owner => decide (owner.userId = who) := by
    funext owner
    rw [Function.comp_apply, withdrawn_userId]
  have untouched : ∀ owner ∈ ownerRows db who, withdrawn entry now owner = owner := by
    intro owner member
    obtain ⟨stored, named⟩ := mem_ownerRows.mp member
    apply withdrawn_other
    intro same
    rw [ready.kept.key_selects ready.first.1 stored same, ready.first.2.1] at named
    exact old named.symm
  unfold ownerRows at untouched ⊢
  rw [rows, List.filter_append, List.filter_map, selected, List.map_congr_left untouched, List.map_id']

/-- An entry that is ready is handed over. -/
theorem Ready.handed (ready : Ready dialect userId toUserId (entry :: rest) db) :
    Handed userId toUserId [entry] db (transferEntryOn dialect userId toUserId actorUsername now db entry) := by
  obtain ⟨added, rows, fresh, absent⟩ := transferEntryOn_rows actorUsername now ready
  have target : ownerRows db toUserId <+:
      ownerRows (transferEntryOn dialect userId toUserId actorUsername now db entry) toUserId := by
    rw [ready.rows_of rows ready.other]
    exact List.prefix_append _ _
  constructor
  · intro owner member
    rw [List.mem_singleton.mp member]
    cases added with
    | nil => exact isOwner_of_prefix target (absent rfl)
    | cons row more =>
        obtain ⟨named, active, same⟩ := fresh row List.mem_cons_self
        refine isOwner_iff.mpr ⟨row, mem_activeEntries.mpr ⟨?_, named, active⟩, same⟩
        rw [rows]
        exact List.mem_append_right _ List.mem_cons_self
  · intro owner member
    obtain ⟨stored, named, active⟩ := mem_activeEntries.mp member
    rw [rows] at stored
    rcases List.mem_append.mp stored with old | new
    · obtain ⟨before, there, marked⟩ := List.mem_map.mp old
      have different : before.id ≠ entry.id := by
        intro same
        rw [← marked, ready.kept.key_selects ready.first.1 there same] at active
        exact withdrawn_inactive active
      rw [withdrawn_other different] at marked
      rw [← marked] at named active ⊢
      refine ⟨mem_activeEntries.mpr ⟨there, named, active⟩, ?_⟩
      intro same
      exact different (congrArg VmOwner.id (List.mem_singleton.mp same))
    · exact absurd ((fresh owner new).1.symm.trans named) ready.other
  · intro who old new
    have others : added.filter (fun owner => owner.userId = who) = [] := by
      rw [List.filter_eq_nil_iff]
      intro row member
      rw [(fresh row member).1, decide_eq_true_eq]
      exact fun same => new same.symm
    rw [ready.rows_of rows old, others, List.append_nil]
  · exact target

/-- The other entries still wait after one step. -/
theorem Ready.tail (ready : Ready dialect userId toUserId (entry :: rest) db) :
    Ready dialect userId toUserId rest (transferEntryOn dialect userId toUserId actorUsername now db entry) := by
  obtain ⟨added, rows, fresh, -⟩ := transferEntryOn_rows actorUsername now ready
  obtain ⟨apart, distinct⟩ := List.pairwise_cons.mp ready.pending.distinct
  have moves : Moves db (transferEntryOn dialect userId toUserId actorUsername now db entry) := transferEntryOn_moves
  constructor
  · exact moves.wellKept ready.kept
  · exact ready.other
  · obtain ⟨owners, audits, same⟩ := moves.frame
    rw [same]
    exact ready.user
  · refine ⟨?_, fun owner member => ready.pending.active owner (List.mem_cons_of_mem _ member), distinct⟩
    intro owner member
    have stored := ready.pending.stored owner (List.mem_cons_of_mem _ member)
    have different : owner.id ≠ entry.id := by
      intro same
      exact apart owner member (congrArg ownerGuest (ready.kept.key_selects ready.first.1 stored same).symm)
    rw [rows, List.mem_append, List.mem_map]
    exact .inl ⟨owner, stored, withdrawn_other different⟩
  · intro postgresql owner member row held
    rw [ready.rows_of rows ready.other] at held
    rcases List.mem_append.mp held with old | new
    · exact ready.free postgresql owner (List.mem_cons_of_mem _ member) row old
    · rw [(fresh row (List.mem_filter.mp new).1).2.2]
      exact apart owner member

/-- The whole transfer hands over all entries that wait. -/
theorem Ready.handed_all {entries : List VmOwner} (ready : Ready dialect userId toUserId entries db) :
    Handed userId toUserId entries db
      (entries.foldl (transferEntryOn dialect userId toUserId actorUsername now) db) := by
  induction entries generalizing db with
  | nil => exact .nil
  | cons entry rest ih => exact ready.handed.cons (ih ready.tail)

/-- The target has a row for the guest of a waiting entry. -/
structure Blocked (toUserId : Int) (owner : VmOwner) (db : Database) : Prop where
  stored : owner ∈ db.vmOwners
  held : ∃ row ∈ ownerRows db toUserId, ownerGuest row = ownerGuest owner

/-- On PostgreSQL such an entry stays as it is. -/
theorem Blocked.step {owner : VmOwner} (blocked : Blocked toUserId owner db)
    (same : entry.id = owner.id → entry = owner) :
    Blocked toUserId owner (transferEntryOn .postgresql userId toUserId actorUsername now db entry) := by
  dsimp only [transferEntryOn]
  cases inserted : insertOwnerOn .postgresql (softDelete db (fun owner => owner.id = entry.id) .userDeleted now)
      (ownerGuest entry) toUserId none .transfer with
  | none => exact ⟨blocked.stored, blocked.held⟩
  | some next =>
      obtain ⟨⟨-, -, -, free⟩, after⟩ := insertOwnerOn_eq_some.mp inserted
      obtain ⟨row, member, guest⟩ := blocked.held
      obtain ⟨stored, named⟩ := mem_ownerRows.mp member
      have marked : withdrawn entry now row ∈ db.vmOwners.map (withdrawn entry now) := List.mem_map_of_mem stored
      have markedName : (withdrawn entry now row).userId = toUserId := by
        rw [withdrawn_userId, named]
      have markedGuest : ownerGuest (withdrawn entry now row) = ownerGuest owner := by
        rw [withdrawn_guest, guest]
      have different : owner.id ≠ entry.id := by
        intro key
        have refused := indexHolds_eq_false.mp free (withdrawn entry now row) marked markedName
          (by rw [markedGuest, same key.symm])
        exact absurd refused.1 (by decide)
      have rows : next.vmOwners = db.vmOwners.map (withdrawn entry now) ++
          [newOwner (softDelete db (fun owner => owner.id = entry.id) .userDeleted now) (ownerGuest entry) toUserId
            .transfer] := congrArg Database.vmOwners after
      constructor
      · show owner ∈ next.vmOwners
        rw [rows, List.mem_append, List.mem_map]
        exact .inl ⟨owner, blocked.stored, withdrawn_other different⟩
      · refine ⟨withdrawn entry now row, mem_ownerRows.mpr ⟨?_, markedName⟩, markedGuest⟩
        show withdrawn entry now row ∈ next.vmOwners
        rw [rows]
        exact List.mem_append_left _ marked

/-- A blocked entry stays so while the others are handed over. -/
theorem Blocked.all {owner : VmOwner} (entries : List VmOwner) (blocked : Blocked toUserId owner db)
    (same : ∀ entry ∈ entries, entry.id = owner.id → entry = owner) :
    Blocked toUserId owner (entries.foldl (transferEntryOn .postgresql userId toUserId actorUsername now) db) := by
  induction entries generalizing db with
  | nil => exact blocked
  | cons entry rest ih =>
      exact ih (blocked.step (same entry List.mem_cons_self))
        fun entry member => same entry (List.mem_cons_of_mem _ member)

end Steps

section Law
variable {dialect : Dialect} {db : Database} {userId : Int} {transferToUserId : Option Int}
  {actorUsername now : String}

/-- The target is another active user and owns every guest of the deleted user, who has no active row left, and the
rows of the others are as they were. -/
structure HandedOver (userId toUserId : Int) (db after : Database) : Prop where
  owned : ∀ owner ∈ activeEntries db userId, toUserId ≠ userId ∧
    (getUserById after toUserId).map LocalUser.active = some true ∧
    isOwner after toUserId (ownerGuest owner) = true
  left : activeEntries after userId = []
  others : ∀ who, who ≠ userId → who ≠ toUserId → ownerRows after who = ownerRows db who
  target : toUserId ≠ userId → ownerRows db toUserId <+: ownerRows after toUserId

/-- The transfer reports a failure or hands everything over. -/
def TransferKeeps (dialect : Dialect) (db : Database) (userId : Int) (transferToUserId : Option Int)
    (actorUsername now : String) : Prop :=
  ∀ after, onUserDeleteOn dialect db userId actorUsername .transfer transferToUserId now = .ok after →
    ∃ toUserId, transferToUserId = some toUserId ∧ HandedOver userId toUserId db after

/-- The transfer changes no accounts. -/
theorem getUserById_transfer (entries : List VmOwner) (toUserId who : Int) :
    getUserById (entries.foldl (transferEntryOn dialect userId toUserId actorUsername now) db) who =
      getUserById db who := by
  have moves : Moves db (entries.foldl (transferEntryOn dialect userId toUserId actorUsername now) db) :=
    foldl_moves (fun _ _ => transferEntryOn_moves) entries db
  obtain ⟨owners, audits, same⟩ := moves.frame
  rw [same]
  rfl

/-- The rows of the new owner are not in the way of the database. -/
def Free (dialect : Dialect) (userId toUserId : Int) (db : Database) : Prop :=
  dialect = .postgresql → ∀ owner ∈ activeEntries db userId, ∀ row ∈ ownerRows db toUserId,
    ownerGuest row ≠ ownerGuest owner

/-- A row in the way keeps its entry active. -/
theorem HandedOver.free {toUserId : Int} (kept : WellKept db) (handed : HandedOver userId toUserId db
    ((activeEntries db userId).foldl (transferEntryOn dialect userId toUserId actorUsername now) db)) :
    Free dialect userId toUserId db := by
  rintro rfl owner waiting row held same
  obtain ⟨stored, named, alive⟩ := mem_activeEntries.mp waiting
  have blocked : Blocked toUserId owner db := ⟨stored, row, held, same⟩
  have after : Blocked toUserId owner
      ((activeEntries db userId).foldl (transferEntryOn .postgresql userId toUserId actorUsername now) db) :=
    blocked.all (activeEntries db userId)
      fun entry member key => kept.key_selects stored (mem_activeEntries.mp member).1 key
  have remains := mem_activeEntries.mpr ⟨after.stored, named, alive⟩
  rw [handed.left] at remains
  cases remains

/-- A transfer to another active user hands everything over when no row is in the way. -/
theorem HandedOver.of_free {toUserId : Int} (kept : WellKept db) (other : toUserId ≠ userId)
    (active : (getUserById db toUserId).map LocalUser.active = some true) (free : Free dialect userId toUserId db) :
    HandedOver userId toUserId db
      ((activeEntries db userId).foldl (transferEntryOn dialect userId toUserId actorUsername now) db) := by
  have user : (getUserById db toUserId).isSome = true := by
    rw [← Option.isSome_map, active]
    rfl
  have ready : Ready dialect userId toUserId (activeEntries db userId) db :=
    ⟨kept, other, user, kept.pending userId, free⟩
  have handed : Handed userId toUserId (activeEntries db userId) db
      ((activeEntries db userId).foldl (transferEntryOn dialect userId toUserId actorUsername now) db) :=
    ready.handed_all
  constructor
  · intro owner waiting
    rw [getUserById_transfer]
    exact ⟨other, active, handed.owned owner waiting⟩
  · rw [List.eq_nil_iff_forall_not_mem]
    intro owner remains
    exact (handed.left owner remains).2 (handed.left owner remains).1
  · exact handed.others
  · intro _
    exact handed.target

/-- For a given target the law holds exactly when there is nothing to hand over, or the target is another active user
and no row is in the way. -/
theorem handedOver_iff {toUserId : Int} (kept : WellKept db) :
    HandedOver userId toUserId db
        ((activeEntries db userId).foldl (transferEntryOn dialect userId toUserId actorUsername now) db) ↔
      activeEntries db userId = [] ∨ toUserId ≠ userId ∧
        (getUserById db toUserId).map LocalUser.active = some true ∧ Free dialect userId toUserId db := by
  constructor
  · intro handed
    by_cases empty : activeEntries db userId = []
    · exact .inl empty
    · obtain ⟨first, member⟩ := List.exists_mem_of_ne_nil _ empty
      obtain ⟨other, active, -⟩ := handed.owned first member
      rw [getUserById_transfer] at active
      exact .inr ⟨other, active, handed.free kept⟩
  · rintro (empty | ⟨other, active, free⟩)
    · rw [empty]
      refine ⟨?_, empty, fun _ _ _ => rfl, fun _ => List.prefix_rfl⟩
      rw [empty]
      intro owner absent
      cases absent
    · exact .of_free kept other active free

/-- The transfer keeps its promise exactly when it raises, has nothing to do, or has another active user as its target,
who on PostgreSQL never owned one of the guests. -/
theorem transfer_keeps_iff (kept : WellKept db) :
    TransferKeeps dialect db userId transferToUserId actorUsername now ↔
      transferToUserId = none ∨ activeEntries db userId = [] ∨
      ∃ toUserId, transferToUserId = some toUserId ∧ toUserId ≠ userId ∧
        (getUserById db toUserId).map LocalUser.active = some true ∧ Free dialect userId toUserId db := by
  cases transferToUserId with
  | none =>
      refine iff_of_true ?_ (.inl rfl)
      intro after finished
      cases finished
  | some toUserId =>
      simp only [TransferKeeps, onUserDeleteOn, Except.ok.injEq, Option.some.injEq, exists_eq_left', forall_eq',
        reduceCtorEq, false_or]
      exact handedOver_iff kept

/-- An admin and an operator, who owns a guest. -/
def operatorOwns : Database :=
  { twoUsers with vmOwners := [⟨1, .vm, 1, 100, 2, .deploy, none, none⟩] }

/-- The rows of the example are in order. -/
theorem operatorOwns_kept : WellKept operatorOwns :=
  ⟨List.nodup_singleton _, List.pairwise_singleton _ _, by decide +kernel⟩

/-- The guest of an operator can be handed to the admin. -/
theorem transfer_keeps_iff_admin :
    TransferKeeps .postgresql operatorOwns 2 (some 1) "admin" "2026-01-01" ↔
      some (1 : Int) = none ∨ activeEntries operatorOwns 2 = [] ∨
      ∃ toUserId, some (1 : Int) = some toUserId ∧ toUserId ≠ 2 ∧
        (getUserById operatorOwns toUserId).map LocalUser.active = some true ∧
        Free .postgresql 2 toUserId operatorOwns :=
  transfer_keeps_iff operatorOwns_kept

/-- A transfer to an account that does not exist succeeds, and nobody owns the guest any more. -/
theorem transfer_to_nobody :
    WellKept operatorOwns ∧ ¬ TransferKeeps .sqlite operatorOwns 2 (some 99) "admin" "2026-01-01" := by
  refine ⟨operatorOwns_kept, ?_⟩
  intro keeps
  obtain ⟨toUserId, target, handed⟩ := keeps _ rfl
  cases target
  have owned := (handed.owned ⟨1, .vm, 1, 100, 2, .deploy, none, none⟩ (by decide +kernel)).2.2
  revert owned
  decide +kernel

end Law
end P3Portal.Owners
