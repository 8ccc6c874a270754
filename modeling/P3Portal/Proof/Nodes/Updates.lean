import P3Portal.Construction.Nodes.Updates

namespace P3Portal.Nodes.Updates
open Schema Foundation

/-- The phases of the critical section. -/
def Phase.inside : Phase → Bool
  | .called | .done _ => false
  | _ => true

/-- The lock that a run holds in its critical section. -/
def RefreshRun.holding (run : RefreshRun) : Option MemberKey := if run.phase.inside then some run.key else none

/-- The time of the last success and the packages of a member; without a row there are none. -/
def pairOf (cache : UpdateCache) (key : MemberKey) : Option String × List PackageUpdate :=
  match cache.rows.get? key with
  | none => (none, [])
  | some row => (row.lastSuccessAt, row.payload)

/-- The time and the packages of the latest successful run of a member. -/
def latest (successes : List Success) (key : MemberKey) : Option String × List PackageUpdate :=
  match (successes.filter fun success => success.key = key).getLast? with
  | none => (none, [])
  | some success => (some success.time, success.packages)

section Turns
variable {describe : Entry → String} {cache : UpdateCache} {run : RefreshRun}

/-- A turn takes the free lock of the run, keeps all locks or releases the lock of the run. -/
inductive LockTurn (cache : UpdateCache) (run : RefreshRun) (turn : UpdateCache × RefreshRun) : Prop where
  | take (free : run.key ∉ cache.locked) (outside : run.holding = none)
      (locked : turn.1.locked = run.key :: cache.locked) (inside : turn.2.holding = some run.key)
  | keep (locked : turn.1.locked = cache.locked) (same : turn.2.holding = run.holding)
  | release (inside : run.holding = some run.key) (locked : turn.1.locked = cache.locked.erase run.key)
      (outside : turn.2.holding = none)

/-- A turn leaves the rows alone. -/
structure Quiet (cache : UpdateCache) (turn : UpdateCache × RefreshRun) : Prop where
  rows : turn.1.rows = cache.rows
  successes : turn.1.successes = cache.successes

theorem holding_of_phase {phase : Phase} (present : run.phase = phase) :
    run.holding = if phase.inside then some run.key else none := by
  rw [← present]
  rfl

theorem lockTurn_enter (now : String) : LockTurn cache run (enter now cache run) := by
  unfold enter
  split
  · rename_i called
    split
    · exact .keep rfl (holding_of_phase called).symm
    · rename_i free
      refine .take free (holding_of_phase called) rfl (if_pos ?_)
      dsimp only
      repeat' split
      all_goals rfl
  · exact .keep rfl rfl

theorem lockTurn_succeed (entries : List Entry) : LockTurn cache run (succeed describe entries cache run) := by
  unfold succeed
  split
  · rename_i triggering
    exact .keep rfl (holding_of_phase triggering).symm
  · rename_i fetching
    split
    · exact .keep rfl (holding_of_phase fetching).symm
    · exact .keep rfl (holding_of_phase fetching).symm
  · rename_i failing
    exact .keep rfl (holding_of_phase failing).symm
  · rename_i storing
    refine .keep rfl ((if_pos ?_).trans (holding_of_phase storing).symm)
    dsimp only
    split
    · rfl
    · rfl
  · rename_i auditing
    refine .keep ?_ (holding_of_phase auditing).symm
    dsimp only
    split
    · rfl
    · rfl
  · rename_i reading
    exact .release (holding_of_phase reading) rfl rfl
  · exact .keep rfl rfl
  · exact .keep rfl rfl

theorem lockTurn_fail (error : String) : LockTurn cache run (fail error cache run) := by
  unfold fail
  cases present : run.phase with
  | triggering now | fetching now => exact .keep rfl (holding_of_phase present).symm
  | failing | storing | auditing | reading => exact .release (holding_of_phase present) rfl rfl
  | called | done => exact .keep rfl rfl

theorem lockTurn_cancel : LockTurn cache run (cancel cache run) := by
  unfold cancel
  cases present : run.phase with
  | called => exact .keep rfl (holding_of_phase present).symm
  | done => exact .keep rfl rfl
  | triggering | fetching | failing | storing | auditing | reading =>
      exact .release (holding_of_phase present) rfl rfl

theorem quiet_enter (now : String) : Quiet cache (enter now cache run) := by
  unfold enter
  split
  · split
    · exact ⟨rfl, rfl⟩
    · exact ⟨rfl, rfl⟩
  · exact ⟨rfl, rfl⟩

theorem quiet_fail (error : String) : Quiet cache (fail error cache run) := by
  unfold fail
  split <;> exact ⟨rfl, rfl⟩

theorem quiet_cancel : Quiet cache (cancel cache run) := by
  unfold cancel
  split <;> exact ⟨rfl, rfl⟩

/-- Only the upsert changes the rows. -/
theorem succeed_cases (entries : List Entry) : Quiet cache (succeed describe entries cache run) ∨
    ∃ attempt, run.phase = .storing attempt ∧ (succeed describe entries cache run).1 = store attempt cache run := by
  unfold succeed
  cases run.phase with
  | storing attempt => exact .inr ⟨attempt, rfl, rfl⟩
  | fetching now =>
      dsimp only
      split
      · exact .inl ⟨rfl, rfl⟩
      · exact .inl ⟨rfl, rfl⟩
  | auditing attempt =>
      dsimp only
      split
      · exact .inl ⟨rfl, rfl⟩
      · exact .inl ⟨rfl, rfl⟩
  | triggering | failing | reading | called | done => exact .inl ⟨rfl, rfl⟩

end Turns

section Steps
variable {describe : Entry → String} {state : UpdateState}

/-- The locks are held by the runs in their critical sections, each by one. -/
structure Locked (state : UpdateState) : Prop where
  held : state.shared.locked.Perm (state.processes.filterMap RefreshRun.holding)
  distinct : state.shared.locked.Nodup

/-- A turn of this kind keeps every lock with one run. -/
theorem locked_act (locked : Locked state) {next : UpdateCache → RefreshRun → UpdateCache × RefreshRun}
    (turns : ∀ cache run, LockTurn cache run (next cache run)) (index : Nat) : Locked (state.act next index) := by
  cases present : state.processes[index]? with
  | none =>
      rw [Interleaved.act_absent present]
      exact locked
  | some run =>
      have before := locked.held.trans (Interleaved.filterMap_perm RefreshRun.holding present)
      have after : ((state.act next index).processes.filterMap RefreshRun.holding).Perm
          ((next state.shared run).2.holding.toList ++ (state.others index).filterMap RefreshRun.holding) :=
        Interleaved.act_filterMap_perm RefreshRun.holding present
      refine ⟨?_, ?_⟩
      · rw [Interleaved.act_shared present]
        apply List.Perm.trans _ after.symm
        cases turns state.shared run with
        | take free outside taken inside =>
            rw [outside] at before
            rw [taken, inside]
            exact before.cons _
        | keep kept same =>
            rw [kept, same]
            exact before
        | release inside released outside =>
            rw [inside] at before
            rw [released, outside]
            exact (before.erase run.key).trans (by simp)
      · rw [Interleaved.act_shared present]
        cases turns state.shared run with
        | take free outside taken inside =>
            rw [taken]
            exact List.nodup_cons.mpr ⟨free, locked.distinct⟩
        | keep kept same =>
            rw [kept]
            exact locked.distinct
        | release inside released outside =>
            rw [released]
            exact locked.distinct.erase _

theorem locked_step (locked : Locked state) (event : UpdateEvent) : Locked (updateStep describe state event) := by
  cases event with
  | call node proxmoxNodeName isManual username =>
      refine ⟨?_, locked.distinct⟩
      show state.shared.locked.Perm ((state.processes ++ [_]).filterMap RefreshRun.holding)
      rw [List.filterMap_append]
      exact locked.held.trans (by simp [RefreshRun.holding, Phase.inside])
  | enter index now => exact locked_act locked (fun _ _ => lockTurn_enter now) index
  | succeed index entries => exact locked_act locked (fun _ _ => lockTurn_succeed entries) index
  | fail index error => exact locked_act locked (fun _ _ => lockTurn_fail error) index
  | cancel index => exact locked_act locked (fun _ _ => lockTurn_cancel) index

/-- Of the runs of a member at most one is in its critical section. -/
theorem exclusive_of_locked (locked : Locked state) (key : MemberKey) :
    (state.processes.filter fun run => run.holding = some key).length ≤ 1 := by
  have once : (state.processes.filterMap RefreshRun.holding).count key ≤ 1 :=
    List.nodup_iff_count_le_one.mp (locked.held.nodup_iff.mp locked.distinct) key
  rw [List.count_eq_countP, List.countP_filterMap] at once
  rw [← List.countP_eq_length_filter]
  apply le_trans (le_of_eq _) once
  apply List.countP_congr
  intro run _
  cases run.holding with
  | none => simp
  | some held => simp

/-- The stored pair of every member is the one of its latest successful run. -/
def Paired (cache : UpdateCache) : Prop := ∀ key, pairOf cache key = latest cache.successes key

/-- A failed attempt that stores the first row of its member has read no package. -/
def FirstRowEmpty (cache : UpdateCache) (run : RefreshRun) (attempt : Attempt) : Prop :=
  attempt.successAt = none → cache.rows.get? run.key = none → attempt.packages = []

/-- The upsert changes the row of the run only, and its pair only after a success or for the first row. -/
theorem pairOf_store (attempt : Attempt) (cache : UpdateCache) (run : RefreshRun) (key : MemberKey) :
    pairOf (store attempt cache run) key =
      if key = run.key ∧ (attempt.successAt.isSome ∨ cache.rows.get? key = none) then
        (attempt.successAt, attempt.packages)
      else pairOf cache key := by
  unfold pairOf store upsertMember
  dsimp only
  by_cases own : key = run.key
  · rw [own]
    cases stored : cache.rows.get? run.key with
    | none => simp
    | some row => cases attempt.successAt <;> simp
  · rw [if_neg fun both => own both.1]
    cases cache.rows.get? run.key with
    | none => simp [own]
    | some row => simp [own]

theorem latest_append (successes : List Success) (success : Success) (key : MemberKey) :
    latest (successes ++ [success]) key =
      if key = success.key then (some success.time, success.packages) else latest successes key := by
  unfold latest
  by_cases own : success.key = key
  · simp [own]
  · have other : ¬ key = success.key := fun same => own same.symm
    simp [own, other]

/-- The upsert keeps the pairs of the successful runs unless it stores a partial list in a first row. -/
theorem paired_store {attempt : Attempt} {cache : UpdateCache} {run : RefreshRun} (paired : Paired cache)
    (empty : FirstRowEmpty cache run attempt) : Paired (store attempt cache run) := by
  intro key
  rw [pairOf_store]
  cases succeeded : attempt.successAt with
  | some time =>
      have recorded : (store attempt cache run).successes =
          cache.successes ++ [⟨run.key, time, attempt.packages⟩] := by
        show cache.successes ++ (attempt.successAt.map _).toList = _
        rw [succeeded]
        rfl
      rw [recorded, latest_append, paired key]
      by_cases own : key = run.key
      · simp [own]
      · simp [own]
  | none =>
      have recorded : (store attempt cache run).successes = cache.successes := by
        show cache.successes ++ (attempt.successAt.map _).toList = _
        rw [succeeded]
        exact List.append_nil _
      rw [recorded, ← paired key]
      split
      · rename_i first
        have absent : cache.rows.get? key = none := by simpa using first.2
        rw [first.1] at absent ⊢
        unfold pairOf
        rw [empty succeeded absent, absent]
      · rfl

/-- The event lets a failed run store a first row only without packages. -/
def Harmless (state : UpdateState) : UpdateEvent → Prop
  | .succeed index _ => ∀ run, state.processes[index]? = some run → ∀ attempt, run.phase = .storing attempt →
      FirstRowEmpty state.shared run attempt
  | _ => True

/-- An event stores the attempt of one run, or it leaves rows and successes alone. -/
theorem updateStep_cases (describe : Entry → String) (state : UpdateState) (event : UpdateEvent) :
    (∃ index entries run attempt, event = .succeed index entries ∧ state.processes[index]? = some run ∧
      run.phase = .storing attempt ∧ (updateStep describe state event).shared = store attempt state.shared run) ∨
    (updateStep describe state event).shared.rows = state.shared.rows ∧
      (updateStep describe state event).shared.successes = state.shared.successes := by
  have turn {next : UpdateCache → RefreshRun → UpdateCache × RefreshRun} (index : Nat)
      (quiet : ∀ run, state.processes[index]? = some run → Quiet state.shared (next state.shared run)) :
      (state.act next index).shared.rows = state.shared.rows ∧
        (state.act next index).shared.successes = state.shared.successes := by
    cases present : state.processes[index]? with
    | none =>
        rw [Interleaved.act_absent present]
        exact ⟨rfl, rfl⟩
    | some run =>
        rw [Interleaved.act_shared present]
        exact ⟨(quiet run present).rows, (quiet run present).successes⟩
  cases event with
  | call node proxmoxNodeName isManual username => exact .inr ⟨rfl, rfl⟩
  | enter index now => exact .inr (turn index fun _ _ => quiet_enter now)
  | fail index error => exact .inr (turn index fun _ _ => quiet_fail error)
  | cancel index => exact .inr (turn index fun _ _ => quiet_cancel)
  | succeed index entries =>
      by_cases writes : ∃ run attempt, state.processes[index]? = some run ∧ run.phase = .storing attempt
      · obtain ⟨run, attempt, present, storing⟩ := writes
        refine .inl ⟨index, entries, run, attempt, rfl, present, storing, ?_⟩
        show (state.act (succeed describe entries) index).shared = _
        rw [Interleaved.act_shared present]
        unfold succeed
        rw [storing]
      · refine .inr (turn index ?_)
        intro run present
        rcases @succeed_cases describe state.shared run entries with quiet | ⟨attempt, storing, _⟩
        · exact quiet
        · exact absurd ⟨run, attempt, present, storing⟩ writes

theorem paired_step (paired : Paired state.shared) {event : UpdateEvent} (harmless : Harmless state event) :
    Paired (updateStep describe state event).shared := by
  rcases updateStep_cases describe state event with
    ⟨index, entries, run, attempt, rfl, present, storing, stored⟩ | quiet
  · rw [stored]
    exact paired_store paired (harmless run present attempt storing)
  · intro key
    unfold pairOf
    rw [quiet.1, quiet.2]
    exact paired key

/-- A run of this member stores its result in this event. -/
def Stores (state : UpdateState) (event : UpdateEvent) (key : MemberKey) : Prop :=
  ∃ index entries run attempt, event = .succeed index entries ∧ state.processes[index]? = some run ∧
    run.phase = .storing attempt ∧ run.key = key

/-- What holds of a whole history of runs: of the runs of a member at most one is in its critical section, the stored
pairs are those of the latest successful runs, no event without a success changes a pair, and the row of a member
changes only when one of its runs stores its result. -/
structure Coherent (describe : Entry → String) (events : List UpdateEvent) : Prop where
  exclusive : ∀ state ∈ reached (updateStep describe) .initial events, ∀ key,
    (state.processes.filter fun run => run.holding = some key).length ≤ 1
  paired : ∀ state ∈ reached (updateStep describe) .initial events, Paired state.shared
  kept : ∀ visit ∈ visits (updateStep describe) .initial events,
    (updateStep describe visit.1 visit.2).shared.successes = visit.1.shared.successes →
      ∀ key, pairOf (updateStep describe visit.1 visit.2).shared key = pairOf visit.1.shared key
  own : ∀ visit ∈ visits (updateStep describe) .initial events, ∀ key, ¬ Stores visit.1 visit.2 key →
    (updateStep describe visit.1 visit.2).shared.rows.get? key = visit.1.shared.rows.get? key

/-- The row of a member changes only when one of its runs stores its result. -/
theorem row_kept {event : UpdateEvent} {key : MemberKey} (others : ¬ Stores state event key) :
    (updateStep describe state event).shared.rows.get? key = state.shared.rows.get? key := by
  rcases updateStep_cases describe state event with
    ⟨index, entries, run, attempt, same, present, storing, stored⟩ | quiet
  · rw [stored]
    have different : ¬ key = run.key := by
      intro own
      exact others ⟨index, entries, run, attempt, same, present, storing, own.symm⟩
    unfold store upsertMember
    dsimp only
    cases state.shared.rows.get? run.key with
    | none => simp [different]
    | some row => simp [different]
  · rw [quiet.1]

/-- A harmless event without a success keeps every pair. -/
theorem pair_kept {event : UpdateEvent} (harmless : Harmless state event)
    (unsuccessful : (updateStep describe state event).shared.successes = state.shared.successes) (key : MemberKey) :
    pairOf (updateStep describe state event).shared key = pairOf state.shared key := by
  rcases updateStep_cases describe state event with
    ⟨index, entries, run, attempt, rfl, present, storing, stored⟩ | quiet
  · rw [stored] at unsuccessful ⊢
    have failed : attempt.successAt = none := by
      cases succeeded : attempt.successAt with
      | none => rfl
      | some time =>
          change state.shared.successes ++ (attempt.successAt.map _).toList = _ at unsuccessful
          rw [succeeded] at unsuccessful
          exact absurd (List.append_right_eq_self.mp unsuccessful) (List.cons_ne_nil _ _)
    rw [pairOf_store, failed]
    split
    · rename_i first
      have absent : state.shared.rows.get? key = none := by simpa using first.2
      unfold pairOf
      rw [absent]
      rw [first.1] at absent
      rw [harmless run present attempt storing failed absent]
    · rfl
  · unfold pairOf
    rw [quiet.1]

/-- However the runs interleave, the locks exclude each other, pairs are those of the latest successful runs and failed
runs keep them exactly when no failed run stores the first row of its member with packages that it read before. -/
theorem coherent_iff (describe : Entry → String) (events : List UpdateEvent) :
    Coherent describe events ↔
      ∀ visit ∈ visits (updateStep describe) .initial events, Harmless visit.1 visit.2 := by
  constructor
  · intro coherent visit member
    obtain ⟨state, event⟩ := visit
    cases event with
    | call | enter | fail | cancel => trivial
    | succeed index entries =>
        intro run present attempt storing failed absent
        have stored : (updateStep describe state (.succeed index entries)).shared = store attempt state.shared run := by
          show (state.act (succeed describe entries) index).shared = _
          rw [Interleaved.act_shared present]
          unfold succeed
          rw [storing]
        have silent : (store attempt state.shared run).successes = state.shared.successes := by
          show state.shared.successes ++ (attempt.successAt.map _).toList = _
          rw [failed]
          exact List.append_nil _
        have kept := coherent.kept _ member (by rw [stored]; exact silent) run.key
        rw [stored, pairOf_store, if_pos ⟨rfl, .inr absent⟩] at kept
        unfold pairOf at kept
        rw [absent] at kept
        exact (Prod.ext_iff.mp kept).2
  · intro harmless
    have start : Locked .initial ∧ Paired UpdateState.initial.shared := by
      refine ⟨⟨.nil, List.nodup_nil⟩, ?_⟩
      intro key
      rfl
    have step (state : UpdateState) (event : UpdateEvent) (sound : Locked state ∧ Paired state.shared)
        (fine : Harmless state event) :
        Locked (updateStep describe state event) ∧ Paired (updateStep describe state event).shared :=
      ⟨locked_step sound.1 event, paired_step sound.2 fine⟩
    have all := reached_invariant _ step events start harmless
    exact {
      exclusive := fun state passed key => exclusive_of_locked (all state passed).1 key
      paired := fun state passed => (all state passed).2
      kept := fun visit member unsuccessful key => pair_kept (harmless visit member) unsuccessful key
      own := fun visit member key others => row_kept others }

end Steps

section Examples

def bash : Entry :=
  some (JsonObject.ofMembers [("Package", .text "bash"), ("OldVersion", .text "5.1"), ("Version", .text "5.2")])

def serviceNode : NodeRow :=
  { id := 1
    name := "Lab"
    url := "https://pve1:8006"
    proxmoxNode := "pve1"
    adminTokenId := "p3@pve!admin"
    adminTokenSecret := "secret" }

def attributeError (_ : Entry) : String := "'str' object has no attribute 'get'"

/-- The first run of a member reads one package and then an entry that is no object. -/
def brokenList : List UpdateEvent :=
  [.call serviceNode "pve1" false none, .enter 0 "2026-01-01T03:30:00+00:00", .succeed 0 [bash, none], .succeed 0 [],
    .succeed 0 []]

/-- The package of the failed run is stored without a time. -/
theorem partial_list_stored :
    pairOf (run (updateStep attributeError) .initial brokenList).shared ⟨1, "pve1"⟩ =
        (none, [⟨"bash", "5.1", "5.2", false⟩]) ∧
      (run (updateStep attributeError) .initial brokenList).shared.successes = [] ∧
      ¬ Coherent attributeError brokenList := by
  have stored : pairOf (run (updateStep attributeError) .initial brokenList).shared ⟨1, "pve1"⟩ =
      (none, [⟨"bash", "5.1", "5.2", false⟩]) := by decide +kernel
  have none : (run (updateStep attributeError) .initial brokenList).shared.successes = [] := by decide +kernel
  refine ⟨stored, none, ?_⟩
  intro coherent
  have last : run (updateStep attributeError) .initial brokenList ∈
      reached (updateStep attributeError) .initial brokenList := run_mem_reached _ _ _
  have paired := coherent.paired _ last ⟨1, "pve1"⟩
  rw [stored, none] at paired
  exact absurd paired (by decide)

end Examples
end P3Portal.Nodes.Updates
