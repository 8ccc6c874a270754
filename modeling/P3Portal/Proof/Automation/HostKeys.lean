import P3Portal.Construction.Automation.HostKeys
import P3Portal.Foundation.KeyedRows
import P3Portal.Foundation.Run
import P3Portal.Proof.Automation.Inventory

namespace P3Portal.Automation
open Schema Foundation

/-- A stored key counts when it has a line to write. -/
def lined (hostKey : Option String) : Option String := hostKey.filter fun key => keyLines key ≠ []

/-- The key that is stored for a host. -/
def keptKey (db : Database) (candidate : Candidate) : Option String :=
  lined ((hostState db candidate).bind ManagedHost.hostKey)

def hostOf (row : ManagedHost) : Candidate := ⟨row.portalNodeId, row.vmid, row.kind⟩

section Rows
variable {db : Database} {candidate other : Candidate}

theorem isHost_eq (candidate : Candidate) (row : ManagedHost) :
    isHost candidate row = decide (hostOf row = candidate) := by
  obtain ⟨portalNodeId, vmid, kind⟩ := candidate
  simp [isHost, hostOf, Bool.and_assoc]

theorem hostState_eq (db : Database) (candidate : Candidate) :
    hostState db candidate = db.ansibleManagedHosts.find? fun row => hostOf row = candidate := by
  unfold hostState
  congr 1
  funext row
  exact isHost_eq candidate row

/-- The change of the rows of one host shows in its own state only. -/
theorem hostState_map {change : ManagedHost → ManagedHost} (named : ∀ row, hostOf (change row) = hostOf row)
    (wanted : Candidate) :
    hostState
        { db with
          ansibleManagedHosts := db.ansibleManagedHosts.map fun row =>
            if isHost candidate row then change row else row } wanted =
      (hostState db wanted).map fun row => if hostOf row = candidate then change row else row := by
  rw [hostState_eq, hostState_eq]
  simp only [isHost_eq, decide_eq_true_eq]
  exact find?_map_selected (fun row => hostOf row = candidate) named wanted

theorem hostOf_hostState {row : ManagedHost} (found : hostState db candidate = some row) :
    hostOf row = candidate := by
  rw [hostState_eq] at found
  exact (find?_key_spec found).2

/-- An upsert leaves the other hosts alone. -/
theorem hostState_upsert_other {change : ManagedHost → ManagedHost} {created : ManagedHost}
    (named : ∀ row, hostOf (change row) = hostOf row) (self : hostOf created = candidate)
    (different : other ≠ candidate) :
    hostState (upsertHost db candidate change created) other = hostState db other := by
  unfold upsertHost
  split
  · rw [hostState_map named]
    cases found : hostState db other with
    | none => rfl
    | some row => rw [Option.map_some, if_neg (by rw [hostOf_hostState found]; exact different)]
  · split
    · rw [hostState_eq, hostState_eq, List.find?_append]
      have missed : [created].find? (fun row => hostOf row = other) = none := by
        rw [List.find?_singleton, if_neg (by simpa [self] using different.symm)]
      rw [missed, Option.or_none]
    · rfl

/-- The host itself gets the change or the new row, or stays as it is. -/
theorem hostState_upsert_self (db : Database) {change : ManagedHost → ManagedHost} {created : ManagedHost}
    (named : ∀ row, hostOf (change row) = hostOf row) (self : hostOf created = candidate) :
    (∃ row, hostState db candidate = some row ∧
        hostState (upsertHost db candidate change created) candidate = some (change row)) ∨
      hostState db candidate = none ∧
        (hostState (upsertHost db candidate change created) candidate = some created ∨
          hostState (upsertHost db candidate change created) candidate = none) := by
  unfold upsertHost
  split
  · rename_i present
    obtain ⟨row, stored, here⟩ := List.any_eq_true.mp present
    rw [hostState_map named]
    cases found : hostState db candidate with
    | none =>
        rw [hostState_eq] at found
        rw [isHost_eq] at here
        exact absurd here (List.find?_eq_none.mp found row stored)
    | some row => exact .inl ⟨row, rfl, by rw [Option.map_some, if_pos (hostOf_hostState found)]⟩
  · rename_i absent
    have missing : hostState db candidate = none := by
      rw [hostState_eq, List.find?_eq_none]
      intro row stored here
      exact absent (List.any_eq_true.mpr ⟨row, stored, by rw [isHost_eq]; exact here⟩)
    refine .inr ⟨missing, ?_⟩
    split
    · refine .inl ?_
      rw [hostState_eq] at missing ⊢
      rw [List.find?_append, missing, Option.none_or, List.find?_singleton, if_pos (by simpa using self)]
    · exact .inr missing

/-- The forgetful changes of the stored hosts keep each key or drop it. -/
def Forgets (db after : Database) : Prop :=
  ∀ candidate, keptKey after candidate = keptKey db candidate ∨ keptKey after candidate = none

/-- An upsert that keeps the key column is forgetful. -/
theorem keptKey_upsert {change : ManagedHost → ManagedHost} {created : ManagedHost}
    (named : ∀ row, hostOf (change row) = hostOf row) (self : hostOf created = candidate)
    (kept : ∀ row, (change row).hostKey = row.hostKey) (fresh : created.hostKey = none) (wanted : Candidate) :
    keptKey (upsertHost db candidate change created) wanted = keptKey db wanted := by
  unfold keptKey
  by_cases same : wanted = candidate
  · rw [same]
    rcases hostState_upsert_self db named self with ⟨row, before, after⟩ | ⟨before, after | after⟩
    · rw [before, after, Option.bind_some, Option.bind_some, kept]
    · rw [before, after, Option.bind_some, fresh, Option.bind_none]
    · rw [before, after]
  · rw [hostState_upsert_other named self same]

theorem keptKey_upsertHostState (sshManaged : Bool) (ansibleUser : String) (wanted : Candidate) :
    keptKey (upsertHostState db candidate sshManaged ansibleUser) wanted = keptKey db wanted := by
  apply keptKey_upsert
  · intro row
    rfl
  · rfl
  · intro row
    rfl
  · rfl

theorem keptKey_setManaged (wanted : Candidate) :
    keptKey (setManaged db candidate) wanted = keptKey db wanted := by
  apply keptKey_upsert
  · intro row
    rfl
  · rfl
  · intro row
    rfl
  · rfl

/-- A reset empties the key of its host. -/
theorem keptKey_resetHostKey (wanted : Candidate) :
    keptKey (resetHostKey db candidate) wanted = if wanted = candidate then none else keptKey db wanted := by
  unfold keptKey resetHostKey
  rw [hostState_map]
  · cases found : hostState db wanted with
    | none => split <;> rfl
    | some row =>
        rw [Option.map_some, Option.bind_some, Option.bind_some, hostOf_hostState found]
        split <;> rfl
  · intro row
    rfl

/-- A removal of rows keeps the state of a host or removes it. -/
theorem hostState_deleteVanished (db : Database) (portalNodeId : Int) (stillVisible : List (Int × String)) (wanted : Candidate) :
    hostState (deleteVanished db portalNodeId stillVisible) wanted = hostState db wanted ∨
      hostState (deleteVanished db portalNodeId stillVisible) wanted = none := by
  by_cases stays : wanted.portalNodeId ≠ portalNodeId ∨ (wanted.vmid, wanted.kind) ∈ stillVisible
  · refine .inl ?_
    rw [hostState_eq, hostState_eq]
    unfold deleteVanished
    rw [List.find?_filter]
    congr 1
    funext row
    by_cases named : hostOf row = wanted
    · rw [← named] at stays ⊢
      simp only [decide_true]
      simpa [hostOf] using stays
    · simp [named]
  · refine .inr ?_
    rw [hostState_eq, List.find?_eq_none]
    intro row stored named
    rw [← of_decide_eq_true named] at stays
    apply stays
    simpa [hostOf] using (List.mem_filter.mp stored).2

/-- A harvested key is stored for its host only. -/
theorem keptKey_persist_other (hostKey : String) (different : other ≠ candidate) :
    keptKey (persistHostKey db candidate hostKey) other = keptKey db other := by
  unfold keptKey persistHostKey
  rw [hostState_upsert_other]
  · intro row
    rfl
  · rfl
  · exact different

theorem hostKey_upsert {change : ManagedHost → ManagedHost} {created : ManagedHost} {hostKey : String}
    (named : ∀ row, hostOf (change row) = hostOf row) (self : hostOf created = candidate)
    (written : ∀ row, (change row).hostKey = some hostKey) (fresh : created.hostKey = some hostKey)
    {row : ManagedHost} (found : hostState (upsertHost db candidate change created) candidate = some row) :
    row.hostKey = some hostKey := by
  rcases hostState_upsert_self db named self with ⟨before, -, after⟩ | ⟨-, after | after⟩
  · rw [found] at after
    rw [Option.some.inj after, written]
  · rw [found] at after
    rw [Option.some.inj after, fresh]
  · rw [found] at after
    cases after

theorem keptKey_persist_self {hostKey key : String}
    (kept : keptKey (persistHostKey db candidate hostKey) candidate = some key) : key = hostKey := by
  obtain ⟨stored, lines⟩ := Option.filter_eq_some_iff.mp kept
  obtain ⟨row, found, held⟩ := Option.bind_eq_some_iff.mp stored
  have written : row.hostKey = some hostKey := by
    refine hostKey_upsert ?_ ?_ ?_ ?_ found
    · intro row
      rfl
    · rfl
    · intro row
      rfl
    · rfl
  rw [held] at written
  exact Option.some.inj written

end Rows
end P3Portal.Automation
