import P3Portal.Construction.Nodes.Registry

namespace P3Portal.Nodes
open Schema Foundation

theorem mem_defaultFirst (rows : List NodeRow) (row : NodeRow) : row ∈ defaultFirst rows ↔ row ∈ rows := by
  unfold defaultFirst
  exact List.mem_insertionSort _

theorem getNodeForProxmoxName_mem {db : Database} {name : String} {row : NodeRow}
    (found : getNodeForProxmoxName db name = some row) : row ∈ db.nodes := by
  unfold getNodeForProxmoxName at found
  split at found
  · rename_i first primary
    rw [Option.some.inj found] at primary
    have member := (mem_defaultFirst _ _).mp (List.mem_of_head? primary)
    exact (List.mem_filter.mp member).1
  · exact (mem_defaultFirst _ _).mp (List.mem_of_find?_eq_some found)

theorem getDefaultNode_mem {db : Database} {row : NodeRow} (found : getDefaultNode db = some row) :
    row ∈ db.nodes := by
  unfold getDefaultNode at found
  split at found
  · rename_i first flagged
    rw [Option.some.inj found] at flagged
    exact List.mem_of_find?_eq_some flagged
  · exact (List.mem_insertionSort _).mp (List.mem_of_head? found)

section Order
variable {first : NodeRow} {rows : List NodeRow}

/-- The relation by which the lookups sort. -/
def DefaultBefore (left right : NodeRow) : Prop := right.isDefault → left.isDefault

instance : DecidableRel DefaultBefore := fun left right =>
  inferInstanceAs (Decidable (right.isDefault → left.isDefault))

theorem defaultFirst_eq_insertionSort (rows : List NodeRow) :
    defaultFirst rows = rows.insertionSort DefaultBefore := rfl

theorem orderedInsert_default (flagged : first.isDefault = true) (rows : List NodeRow) :
    rows.orderedInsert DefaultBefore first = first :: rows := by
  cases rows with
  | nil => rfl
  | cons row rest => exact List.orderedInsert_cons_of_le DefaultBefore rest fun _ => flagged

/-- A row that is not the default passes the default rows and stops before the others. -/
theorem orderedInsert_other (plain : first.isDefault = false) {defaults others : List NodeRow}
    (flagged : ∀ row ∈ defaults, row.isDefault = true) (unflagged : ∀ row ∈ others, row.isDefault = false) :
    (defaults ++ others).orderedInsert DefaultBefore first = defaults ++ first :: others := by
  induction defaults with
  | nil =>
      cases others with
      | nil => rfl
      | cons row rest =>
          apply List.orderedInsert_cons_of_le DefaultBefore rest
          intro isDefault
          rw [unflagged row List.mem_cons_self] at isDefault
          cases isDefault
  | cons row rest ih =>
      have passes : ¬ DefaultBefore first row := by
        intro before
        rw [before (flagged row List.mem_cons_self)] at plain
        cases plain
      rw [List.cons_append, List.orderedInsert_of_not_le DefaultBefore _ passes,
        ih fun later member => flagged later (List.mem_cons_of_mem row member)]
      rfl

/-- The default rows come first, and both parts keep their order. -/
theorem defaultFirst_eq (rows : List NodeRow) :
    defaultFirst rows = rows.filter NodeRow.isDefault ++ rows.filter fun row => !row.isDefault := by
  induction rows with
  | nil => rfl
  | cons row rest ih =>
      rw [defaultFirst_eq_insertionSort, List.insertionSort_cons, ← defaultFirst_eq_insertionSort, ih]
      cases kind : row.isDefault with
      | true =>
          rw [orderedInsert_default kind, List.filter_cons_of_pos kind, List.filter_cons_of_neg (by simp [kind])]
          rfl
      | false =>
          rw [List.filter_cons_of_neg (by simp [kind]), List.filter_cons_of_pos (by simp [kind])]
          apply orderedInsert_other kind
          · intro other member
            exact (List.mem_filter.mp member).2
          · intro other member
            exact Bool.not_eq_true' _ ▸ (List.mem_filter.mp member).2

/-- A search of the sorted table answers the first sorted match. -/
theorem find?_defaultFirst (matched : NodeRow → Bool) (rows : List NodeRow) :
    (defaultFirst rows).find? matched = (defaultFirst (rows.filter matched)).head? := by
  rw [defaultFirst_eq, defaultFirst_eq, ← List.head?_filter, List.filter_append]
  simp only [List.filter_filter, Bool.and_comm]

/-- The row that the scan meets first stays first exactly when it is a default node or no match is one. -/
theorem head?_defaultFirst_cons {node : NodeRow} (keys : ((first :: rows).map NodeRow.id).Nodup)
    (chosen : (defaultFirst (first :: rows)).head? = some node) :
    node.id = first.id ↔ first.isDefault = true ∨ ∀ row ∈ rows, row.isDefault = false := by
  rw [defaultFirst_eq] at chosen
  cases kind : first.isDefault with
  | true =>
      rw [List.filter_cons_of_pos kind] at chosen
      have same : first = node := Option.some.inj chosen
      rw [same]
      simp
  | false =>
      rw [List.filter_cons_of_neg (by simp [kind]), List.filter_cons_of_pos (by simp [kind])] at chosen
      cases defaults : rows.filter NodeRow.isDefault with
      | nil =>
          rw [defaults] at chosen
          have same : first = node := Option.some.inj chosen
          rw [same]
          have none_default : ∀ row ∈ rows, row.isDefault = false := by
            intro row member
            exact Bool.eq_false_iff.mpr (List.filter_eq_nil_iff.mp defaults row member)
          exact ⟨fun _ => .inr none_default, fun _ => rfl⟩
      | cons flagged others =>
          rw [defaults] at chosen
          have same : flagged = node := Option.some.inj chosen
          have member : flagged ∈ rows.filter NodeRow.isDefault := by
            rw [defaults]
            exact List.mem_cons_self
          obtain ⟨stored, isDefault⟩ := List.mem_filter.mp member
          rw [← same]
          rw [List.map_cons, List.nodup_cons] at keys
          constructor
          · intro equal
            exact absurd (List.mem_map.mpr ⟨flagged, stored, equal⟩) keys.1
          · intro alike
            rcases alike with impossible | none_default
            · cases impossible
            · rw [none_default flagged stored] at isDefault
              cases isDefault

end Order

section Names
variable (db : Database)

/-- The rows that a name matches: those of its primary name, or else those that list it as a member. -/
def nameMatches (name : String) : List NodeRow :=
  if (db.nodes.filter fun row => row.proxmoxNode = name) = [] then
    db.nodes.filter fun row => row.clusterNodes.contains name
  else db.nodes.filter fun row => row.proxmoxNode = name

theorem nameMatches_sublist (name : String) : (nameMatches db name).Sublist db.nodes := by
  unfold nameMatches
  split
  · exact List.filter_sublist
  · exact List.filter_sublist

theorem contains_parseClusterNodes {name : String} (named : name ≠ "") (members : List String) :
    (parseClusterNodes members).contains name = members.contains name := by
  rw [Bool.eq_iff_iff]
  simp [parseClusterNodes, named]

/-- The lookup prefers the default node among the matches. -/
theorem getNodeForProxmoxName_eq {name : String} (named : name ≠ "") :
    getNodeForProxmoxName db name = (defaultFirst (nameMatches db name)).head? := by
  unfold getNodeForProxmoxName nameMatches
  by_cases absent : (db.nodes.filter fun row => row.proxmoxNode = name) = []
  · rw [if_pos absent, absent]
    simp only [contains_parseClusterNodes named]
    exact find?_defaultFirst _ _
  · rw [if_neg absent]
    cases found : (defaultFirst (db.nodes.filter fun row => row.proxmoxNode = name)).head? with
    | some row => rfl
    | none =>
        obtain ⟨row, member⟩ := List.exists_mem_of_ne_nil _ absent
        have sorted := (mem_defaultFirst _ row).mpr member
        rw [List.head?_eq_none_iff.mp found] at sorted
        cases sorted

/-- A row answers to its primary name, and to a member name that is the primary name of no row. -/
def answersTo (nodes : List NodeRow) (name : String) (row : NodeRow) : Bool :=
  row.proxmoxNode = name || (nodes.all (fun other => other.proxmoxNode ≠ name) && row.clusterNodes.contains name)

/-- The rows that a name matches are those that answer to it. -/
theorem nameMatches_eq (name : String) : nameMatches db name = db.nodes.filter (answersTo db.nodes name) := by
  unfold nameMatches
  by_cases absent : (db.nodes.filter fun row => row.proxmoxNode = name) = []
  · have foreign : ∀ row ∈ db.nodes, row.proxmoxNode ≠ name := by
      simpa [List.filter_eq_nil_iff] using absent
    rw [if_pos absent]
    apply List.filter_congr
    intro row member
    have unclaimed : (db.nodes.all fun other => other.proxmoxNode ≠ name) = true := by simpa using foreign
    simp only [answersTo, unclaimed, foreign row member, decide_false, Bool.false_or, Bool.true_and]
  · rw [if_neg absent]
    apply List.filter_congr
    intro row member
    have claimed : (db.nodes.all fun other => other.proxmoxNode ≠ name) = false := by
      simpa [List.filter_eq_nil_iff] using absent
    simp only [answersTo, claimed, Bool.false_and, Bool.or_false]

/-- The node of a name is the first default row that answers to it, or else the first row that does. -/
def preferred (nodes : List NodeRow) (name : String) : Option NodeRow :=
  (nodes.find? fun row => answersTo nodes name row && row.isDefault).or (nodes.find? (answersTo nodes name))

/-- The sorted rows start with the first default row, or else with the first row. -/
theorem head?_defaultFirst (rows : List NodeRow) :
    (defaultFirst rows).head? = (rows.find? NodeRow.isDefault).or rows.head? := by
  rw [defaultFirst_eq, List.head?_append, List.head?_filter]
  cases flagged : rows.find? NodeRow.isDefault with
  | some row => rfl
  | none =>
      have plain : (rows.filter fun row => !row.isDefault) = rows := by
        apply List.filter_eq_self.mpr
        intro row member
        simpa using List.find?_eq_none.mp flagged row member
      rw [plain]

/-- The lookup of a name implements the preference of default rows and of primary names. -/
theorem getNodeForProxmoxName_preferred {name : String} (named : name ≠ "") :
    getNodeForProxmoxName db name = preferred db.nodes name := by
  rw [getNodeForProxmoxName_eq db named, nameMatches_eq, head?_defaultFirst, List.find?_filter,
    List.head?_filter]
  simp only [preferred, Bool.decide_and, Bool.decide_eq_true]

end Names

end P3Portal.Nodes
