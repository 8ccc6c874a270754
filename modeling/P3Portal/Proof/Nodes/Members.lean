import P3Portal.Construction.Nodes.Registry
import P3Portal.Foundation.TextFields
import P3Portal.Proof.Nodes.Lookup

namespace P3Portal.Nodes
open Schema Foundation Http

section Agreement
variable (db : Database) (row : NodeRow) (current : String)

/-- A request to migrate a guest to the node passes the checks of its target. -/
def MigrationAccepted (name : String) : Prop :=
  ∃ text, validTarget text = .ok name ∧ checkTarget db current name = .ok ()

/-- The four places have the same other members for a guest on the current node. -/
structure MembersAgree : Prop where
  offered : ∀ name, name ∈ getMigrationTargets db current ↔ name ∈ allMembers row ∧ name ≠ current
  accepted : ∀ name, MigrationAccepted db current name ↔ name ∈ allMembers row ∧ name ≠ current
  installation : ∀ name, name ∈ installationNodes row ↔ name ∈ allMembers row

/-- The member list of one row has the other members of another. -/
structure ListsOthers (found : NodeRow) : Prop where
  primary : row.proxmoxNode = "" ∨ row.proxmoxNode = current ∨ row.proxmoxNode ∈ found.clusterNodes
  members : ∀ name ∈ row.clusterNodes, name ≠ "" → name ≠ current → name ∈ found.clusterNodes
  only : ∀ name ∈ found.clusterNodes, name ≠ "" → name ≠ current → name = row.proxmoxNode ∨ name ∈ row.clusterNodes

/-- The row that the current node resolves to lists the other members, and their names are accepted in a request. -/
def OthersListed : Prop :=
  (∃ found, getNodeForProxmoxName db current = some found ∧ ListsOthers row current found) ∧
  ∀ name ∈ row.proxmoxNode :: row.clusterNodes, name ≠ "" → name ≠ current → isNodeName name = true

end Agreement

section Members
variable {db : Database} {row found : NodeRow} {current name : String}

theorem mem_parseClusterNodes {members : List String} : name ∈ parseClusterNodes members ↔ name ∈ members ∧ name ≠ "" := by
  unfold parseClusterNodes
  rw [List.mem_filter, decide_eq_true_iff]

/-- The members are the primary node and the listed ones, without blanks. -/
theorem mem_allMembers : name ∈ allMembers row ↔ name ≠ "" ∧ (name = row.proxmoxNode ∨ name ∈ row.clusterNodes) := by
  have collected : ∀ (list start : List String),
      name ∈ list.foldl (fun members member => if member ≠ "" ∧ member ∉ members then members ++ [member] else members)
        start ↔ name ∈ start ∨ name ∈ list ∧ name ≠ "" := by
    intro list
    induction list with
    | nil => simp
    | cons member rest ih =>
        intro start
        rw [List.foldl_cons, ih]
        split
        · rename_i fresh
          rw [List.mem_append, List.mem_singleton, List.mem_cons]
          grind
        · rename_i known
          rw [List.mem_cons]
          grind
  unfold allMembers
  rw [collected, mem_parseClusterNodes]
  split
  · rename_i present
    rw [List.mem_singleton]
    grind
  · rename_i absent
    grind

theorem mem_installationNodes : name ∈ installationNodes row ↔ name ∈ allMembers row := by
  rw [mem_allMembers]
  unfold installationNodes
  rw [Finset.mem_union, List.mem_toFinset, List.mem_filter, mem_parseClusterNodes]
  split
  · rename_i present
    rw [Finset.mem_singleton]
    grind
  · rename_i absent
    grind

theorem mem_getMigrationTargets (resolved : getNodeForProxmoxName db current = some found) :
    name ∈ getMigrationTargets db current ↔ name ∈ found.clusterNodes ∧ name ≠ "" ∧ name ≠ current := by
  unfold getMigrationTargets
  rw [List.mem_insertionSort, resolved]
  simp only [List.mem_filter, mem_parseClusterNodes, Bool.and_eq_true, decide_eq_true_eq]
  grind

theorem nodeName_not_space (valid : isNodeName name = true) : ∀ c ∈ name.toList, Text.isSpace c = false := by
  intro c member
  have word := List.all_eq_true.mp ((Bool.and_eq_true _ _).mp valid).2 c member
  rcases (Bool.or_eq_true _ _).mp word with alphanum | mark
  · have bounds := Text.alphanum_bounds alphanum
    exact Text.visible_not_space (by omega) bounds.2
  · rw [List.contains_iff_mem] at mark
    simp only [List.mem_cons, List.not_mem_nil, or_false] at mark
    rcases mark with rfl | rfl | rfl <;> rfl

/-- The valid targets are the node names. -/
theorem validTarget_iff : (∃ text, validTarget text = .ok name) ↔ isNodeName name = true := by
  constructor
  · rintro ⟨text, valid⟩
    unfold validTarget at valid
    split at valid
    · cases valid
    · split at valid
      · rename_i word
        rw [← Except.ok.inj valid]
        exact word
      · cases valid
  · intro valid
    have present : name ≠ "" := of_decide_eq_true ((Bool.and_eq_true _ _).mp valid).1
    have visible := nodeName_not_space valid
    have bare : Text.strip name = name := by
      unfold Text.strip
      rw [trim_bare (fun c found => visible c (List.mem_of_mem_head? found))
        (fun c found => visible c (List.mem_of_mem_getLast? found)), String.ofList_toList]
    refine ⟨name, ?_⟩
    unfold validTarget
    rw [if_neg present, bare, if_pos valid]

theorem migrationAccepted_iff (resolved : getNodeForProxmoxName db current = some found) :
    MigrationAccepted db current name ↔
      isNodeName name = true ∧ name ∈ found.clusterNodes ∧ name ≠ "" ∧ name ≠ current := by
  have checked : checkTarget db current name = .ok () ↔ name ∈ found.clusterNodes ∧ name ≠ "" ∧ name ≠ current := by
    unfold checkTarget
    rw [resolved]
    simp only [Finset.mem_erase, List.mem_toFinset, mem_parseClusterNodes]
    split
    · rename_i member
      exact iff_of_true rfl ⟨member.2.1, member.2.2, member.1⟩
    · rename_i other
      exact iff_of_false (fun same => nomatch same) fun both => other ⟨both.2.2, both.1, both.2.1⟩
  unfold MigrationAccepted
  rw [exists_and_right, validTarget_iff, checked]

/-- A member of a stored row resolves to a row. -/
theorem member_resolves (stored : row ∈ db.nodes) (here : current ∈ allMembers row) :
    ∃ found, getNodeForProxmoxName db current = some found := by
  obtain ⟨named, member⟩ := mem_allMembers.mp here
  have filled : nameMatches db current ≠ [] := by
    unfold nameMatches
    split
    · rename_i absent
      have other : current ≠ row.proxmoxNode := by
        intro same
        exact List.filter_eq_nil_iff.mp absent row stored (decide_eq_true same.symm)
      have listed := member.resolve_left other
      exact List.ne_nil_of_mem (List.mem_filter.mpr ⟨stored, List.contains_iff_mem.mpr listed⟩)
    · assumption
  obtain ⟨matched, inside⟩ := List.exists_mem_of_ne_nil _ filled
  have sorted := (mem_defaultFirst _ matched).mpr inside
  obtain ⟨first, rest, whole⟩ := List.exists_cons_of_ne_nil (List.ne_nil_of_mem sorted)
  rw [getNodeForProxmoxName_eq db named, whole]
  exact ⟨first, rfl⟩

/-- The row that the current node resolves to is the row itself when it lists the primary node or the guest is there. -/
theorem listsOthers_self : ListsOthers row current row ↔
    row.proxmoxNode = "" ∨ row.proxmoxNode = current ∨ row.proxmoxNode ∈ row.clusterNodes := by
  constructor
  · exact ListsOthers.primary
  · intro primary
    exact ⟨primary, fun _ member _ _ => member, fun _ member _ _ => .inr member⟩

/-- The four places agree exactly when the row that the current node resolves to lists the other members. -/
theorem members_agree_iff (db : Database) (row : NodeRow) (current : String) (stored : row ∈ db.nodes)
    (here : current ∈ allMembers row) : MembersAgree db row current ↔ OthersListed db row current := by
  obtain ⟨found, resolved⟩ := member_resolves stored here
  constructor
  · intro agree
    have offered : ∀ name, name ∈ found.clusterNodes ∧ name ≠ "" ∧ name ≠ current ↔
        name ∈ allMembers row ∧ name ≠ current := by
      intro name
      rw [← mem_getMigrationTargets resolved]
      exact agree.offered name
    have listed : ∀ name, name ∈ row.proxmoxNode :: row.clusterNodes → name ≠ "" → name ≠ current →
        name ∈ found.clusterNodes := by
      intro name member present other
      exact ((offered name).mpr ⟨mem_allMembers.mpr ⟨present, List.mem_cons.mp member⟩, other⟩).1
    refine ⟨⟨found, resolved, ?_, ?_, ?_⟩, ?_⟩
    · by_cases blank : row.proxmoxNode = ""
      · exact .inl blank
      · by_cases same : row.proxmoxNode = current
        · exact .inr (.inl same)
        · exact .inr (.inr (listed _ List.mem_cons_self blank same))
    · exact fun name member present other => listed name (List.mem_cons_of_mem _ member) present other
    · intro name member present other
      exact (mem_allMembers.mp ((offered name).mp ⟨member, present, other⟩).1).2
    · intro name member present other
      have accepted := (agree.accepted name).mpr ⟨mem_allMembers.mpr ⟨present, List.mem_cons.mp member⟩, other⟩
      exact ((migrationAccepted_iff resolved).mp accepted).1
  · rintro ⟨⟨other, same, lists⟩, valid⟩
    cases Option.some.inj (resolved.symm.trans same)
    have others : ∀ name, name ≠ "" → name ≠ current →
        (name ∈ found.clusterNodes ↔ name = row.proxmoxNode ∨ name ∈ row.clusterNodes) := by
      intro name present away
      constructor
      · exact fun member => lists.only name member present away
      · rintro (rfl | member)
        · exact (lists.primary.resolve_left present).resolve_left away
        · exact lists.members name member present away
    constructor
    · intro name
      rw [mem_getMigrationTargets resolved, mem_allMembers]
      constructor
      · rintro ⟨member, present, away⟩
        exact ⟨⟨present, (others name present away).mp member⟩, away⟩
      · rintro ⟨⟨present, member⟩, away⟩
        exact ⟨(others name present away).mpr member, present, away⟩
    · intro name
      rw [migrationAccepted_iff resolved, mem_allMembers]
      constructor
      · rintro ⟨-, member, present, away⟩
        exact ⟨⟨present, (others name present away).mp member⟩, away⟩
      · rintro ⟨⟨present, member⟩, away⟩
        exact ⟨valid name (List.mem_cons.mpr member) present away, (others name present away).mpr member, present, away⟩
    · exact fun name => mem_installationNodes

end Members

section Examples

/-- The primary node is not among the members that the row lists. -/
def unlistedPrimary : NodeRow :=
  { id := 1, name := "lab", url := "https://pve1:8006", proxmoxNode := "pve1", clusterNodes := ["pve2", "", "pve2"] }

theorem listed_primary_agrees :
    MembersAgree { nodes := [{ unlistedPrimary with clusterNodes := ["pve1", "pve2"] }] }
      { unlistedPrimary with clusterNodes := ["pve1", "pve2"] } "pve2" := by
  apply (members_agree_iff _ _ _ (by decide) (by decide)).mpr
  refine ⟨⟨_, rfl, listsOthers_self.mpr (by decide)⟩, by decide⟩

/-- A guest on another member cannot be moved to the primary node. -/
theorem primary_missing : ¬ MembersAgree { nodes := [unlistedPrimary] } unlistedPrimary "pve2" ∧
    getMigrationTargets { nodes := [unlistedPrimary] } "pve2" = [] ∧
    allMembers unlistedPrimary = ["pve1", "pve2"] := by
  have none_offered : getMigrationTargets { nodes := [unlistedPrimary] } "pve2" = [] := by decide +kernel
  refine ⟨fun agree => ?_, none_offered, by decide +kernel⟩
  have offered := (agree.offered "pve1").mpr (by decide +kernel)
  rw [none_offered] at offered
  exact List.not_mem_nil offered

end Examples
end P3Portal.Nodes
