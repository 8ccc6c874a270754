import P3Portal.Construction.Nodes.Deletion
import P3Portal.Foundation.KeyedRows
import P3Portal.Foundation.Run
import P3Portal.Proof.Nodes.Deletion
import P3Portal.Proof.Nodes.Lookup

namespace P3Portal.Nodes
open Schema Foundation

/-- The identifiers are a primary key, and a table that is not empty has one default node. -/
structure OneDefault (nodes : List NodeRow) : Prop where
  unique : (nodes.map NodeRow.id).Nodup
  single : nodes ≠ [] → nodes.countP NodeRow.isDefault = 1

theorem OneDefault.nil : OneDefault [] := ⟨List.nodup_nil, fun filled => absurd rfl filled⟩

section Rows
variable {nodes : List NodeRow}

/-- The flags are set on the one row with a stored identifier. -/
theorem countP_only {nodeId : Int} (unique : (nodes.map NodeRow.id).Nodup) (stored : nodeId ∈ nodes.map NodeRow.id) :
    (nodes.map fun row => { row with isDefault := row.id = nodeId }).countP NodeRow.isDefault = 1 := by
  have flagged := List.count_eq_one_of_mem unique stored
  rw [List.count, List.countP_map] at flagged
  rw [List.countP_map]
  exact flagged

/-- A change that keeps identifiers and flags keeps the default. -/
theorem OneDefault.map {change : NodeRow → NodeRow} (fine : OneDefault nodes) (named : ∀ row, (change row).id = row.id)
    (flagged : ∀ row, (change row).isDefault = row.isDefault) : OneDefault (nodes.map change) := by
  have ids : (nodes.map change).map NodeRow.id = nodes.map NodeRow.id := by
    rw [List.map_map]
    exact List.map_congr_left fun row _ => named row
  have flags : (nodes.map change).countP NodeRow.isDefault = nodes.countP NodeRow.isDefault := by
    rw [List.countP_map]
    exact List.countP_congr fun row _ => by rw [Function.comp_apply, flagged]
  constructor
  · rw [ids]
    exact fine.unique
  · intro filled
    rw [flags]
    exact fine.single fun empty => filled (by rw [empty, List.map_nil])

end Rows

section Operations
variable {db : Database}

/-- The first node becomes the default and the others do not. -/
theorem oneDefault_createNode (fine : OneDefault db.nodes) (row : NodeRow) :
    OneDefault (createNode db row).nodes := by
  constructor
  · exact nodup_append_key fine.unique (next_key_unused _)
  · intro _
    show (db.nodes ++ [{ row with
      id := nextNodeId db, url := Text.rstrip '/' row.url, isDefault := decide (db.nodes.length = 0) }]).countP
        NodeRow.isDefault = 1
    rw [List.countP_append, List.countP_singleton]
    dsimp only
    by_cases empty : db.nodes = []
    · rw [empty]
      rfl
    · have filled : db.nodes.length ≠ 0 := fun none => empty (List.length_eq_zero_iff.mp none)
      rw [fine.single empty, decide_eq_false filled]
      rfl

theorem oneDefault_updateNode (fine : OneDefault db.nodes) (nodeId : Int) (update : NodeUpdate) :
    OneDefault (updateNode db nodeId update).nodes := by
  apply fine.map
  · intro row
    split
    · rfl
    · rfl
  · intro row
    split
    · rfl
    · rfl

theorem getNode_isSome {nodeId : Int} : (getNode db nodeId).isSome = true ↔ nodeId ∈ db.nodes.map NodeRow.id := by
  rw [getNode, List.find?_isSome, List.mem_map]
  simp only [decide_eq_true_eq]

/-- The other flags are cleared together with the one that is set. -/
theorem oneDefault_setDefaultNode {nodeId : Int} (unique : (db.nodes.map NodeRow.id).Nodup)
    (stored : nodeId ∈ db.nodes.map NodeRow.id) : OneDefault (setDefaultNode db nodeId).nodes := by
  rw [setDefaultNode, if_pos (getNode_isSome.mpr stored)]
  constructor
  · show ((db.nodes.map _).map NodeRow.id).Nodup
    rw [List.map_map]
    exact unique
  · intro _
    exact countP_only unique stored

/-- Without a flag some node is promoted, so that at most one flag becomes exactly one. -/
theorem oneDefault_promoteDefault (unique : (db.nodes.map NodeRow.id).Nodup)
    (few : db.nodes.countP NodeRow.isDefault ≤ 1) : OneDefault (promoteDefault db).nodes := by
  unfold promoteDefault
  cases found : getDefaultNode db with
  | none =>
      refine ⟨unique, ?_⟩
      intro filled
      unfold getDefaultNode at found
      split at found
      · cases found
      · rw [List.head?_eq_none_iff] at found
        have empty := (List.perm_insertionSort (fun left right : NodeRow => left.id ≤ right.id) db.nodes)
        rw [found] at empty
        exact absurd empty.nil_eq.symm filled
  | some node =>
      dsimp only
      have stored := getDefaultNode_mem found
      by_cases flagged : node.isDefault = true
      · rw [if_pos flagged]
        refine ⟨unique, ?_⟩
        intro _
        have some : 0 < db.nodes.countP NodeRow.isDefault := List.countP_pos_iff.mpr ⟨node, stored, flagged⟩
        omega
      · rw [if_neg flagged]
        exact oneDefault_setDefaultNode unique (List.mem_map_of_mem stored)

theorem ids_setDefaultNode (db : Database) (nodeId : Int) :
    (setDefaultNode db nodeId).nodes.map NodeRow.id = db.nodes.map NodeRow.id := by
  unfold setDefaultNode
  split
  · exact List.map_map
  · rfl

theorem positions_setDefaultNode (db : Database) (nodeId : Int) :
    (setDefaultNode db nodeId).nodes.map NodeRow.position = db.nodes.map NodeRow.position := by
  unfold setDefaultNode
  split
  · exact List.map_map
  · rfl

/-- A promotion is a choice of the default node or nothing. -/
theorem promoteDefault_eq (db : Database) :
    promoteDefault db = db ∨ ∃ nodeId, promoteDefault db = setDefaultNode db nodeId := by
  unfold promoteDefault
  split
  · rename_i node _
    split
    · exact .inl rfl
    · exact .inr ⟨node.id, rfl⟩
  · exact .inl rfl

theorem positions_updateNode (db : Database) (nodeId : Int) (update : NodeUpdate) :
    (updateNode db nodeId update).nodes.map NodeRow.position = db.nodes.map NodeRow.position :=
  map_column_selected (fun row : NodeRow => row.id = nodeId) fun _ => rfl

end Operations

section Deletion
variable {Store : Type} {hooks : PlusNodeHooks Store} {portal after : Portal Store} {nodeId : Int}

/-- A deletion changes nothing or removes one of several nodes and promotes another. -/
theorem deleteNode_cases {deleted : Bool} (result : deleteNode hooks portal nodeId = some (deleted, after)) :
    after = portal ∨ 1 < countNodes portal.db ∧ after.db = promoteDefault (withoutNode portal.db nodeId) := by
  cases deleted with
  | false => exact .inl (deleteNode_eq_false hooks portal nodeId result)
  | true =>
      obtain ⟨several, -, -, -, plus, -, same⟩ := (deleteNode_eq_true hooks portal nodeId).mp result
      rw [same]
      exact .inr ⟨several, rfl⟩

/-- Distinct identifiers leave a node besides the deleted one. -/
theorem withoutNode_ne_nil {db : Database} (unique : (db.nodes.map NodeRow.id).Nodup) (several : 1 < countNodes db) :
    (withoutNode db nodeId).nodes ≠ [] := by
  intro empty
  have all : ∀ id ∈ db.nodes.map NodeRow.id, id = nodeId := by
    intro id member
    obtain ⟨row, stored, named⟩ := List.mem_map.mp member
    rw [← named]
    exact not_not.mp (of_decide_eq_false (Bool.eq_false_iff.mpr (List.filter_eq_nil_iff.mp empty row stored)))
  have inside : db.nodes.map NodeRow.id ⊆ [nodeId] := fun id member => List.mem_singleton.mpr (all id member)
  have short := (List.subperm_of_subset unique inside).length_le
  rw [List.length_map, List.length_singleton] at short
  rw [countNodes] at several
  omega

theorem oneDefault_withoutNode {db : Database} (fine : OneDefault db.nodes) (nodeId : Int) :
    OneDefault (promoteDefault (withoutNode db nodeId)).nodes := by
  have fewer : (withoutNode db nodeId).nodes.Sublist db.nodes := List.filter_sublist
  apply oneDefault_promoteDefault (fine.unique.sublist (fewer.map NodeRow.id))
  by_cases empty : db.nodes = []
  · rw [empty] at fewer
    rw [List.sublist_nil.mp fewer]
    exact Nat.zero_le 1
  · rw [← fine.single empty]
    exact fewer.countP_le

theorem promoteDefault_ne_nil {db : Database} (filled : db.nodes ≠ []) : (promoteDefault db).nodes ≠ [] := by
  rcases promoteDefault_eq db with same | ⟨nodeId, same⟩
  · rw [same]
    exact filled
  · intro empty
    have ids := ids_setDefaultNode db nodeId
    rw [← same, empty] at ids
    exact filled (List.map_eq_nil_iff.mp ids.symm)

theorem positions_promoteDefault (db : Database) :
    (promoteDefault db).nodes.map NodeRow.position = db.nodes.map NodeRow.position := by
  rcases promoteDefault_eq db with same | ⟨nodeId, same⟩
  · rw [same]
  · rw [same, positions_setDefaultNode]

end Deletion

section Order
variable {db : Database} {nodeIds : List Int} {result : Database × List NodeRow}

theorem reorderNodes_ok (accepted : reorderNodes db nodeIds = .ok result) :
    sameKeys nodeIds (db.nodes.map NodeRow.id) = true ∧
      result.1.nodes = db.nodes.map (positioned.settle (fun _ => true) 0 nodeIds) := by
  unfold reorderNodes at accepted
  split at accepted
  · rename_i same
    rw [← Except.ok.inj accepted]
    exact ⟨same, positioned.renumber_eq_map (fun _ _ => rfl) nodeIds db.nodes⟩
  · cases accepted

/-- Also a request that names a node twice gives every node a position of its own. -/
theorem reorderNodes_positions (unique : (db.nodes.map NodeRow.id).Nodup)
    (accepted : reorderNodes db nodeIds = .ok result) : (result.1.nodes.map NodeRow.position).Nodup := by
  obtain ⟨same, settled⟩ := reorderNodes_ok accepted
  rw [settled, List.map_map]
  apply List.Nodup.map_on _ unique.of_map
  intro first stored second also equal
  have listed : ∀ row ∈ db.nodes, row.id ∈ nodeIds := fun row stored =>
    (sameKeys_iff.mp same row.id).mpr (List.mem_map_of_mem stored)
  exact List.inj_on_of_nodup_map unique stored also
    (positioned.positions_differ (listed first stored) (listed second also) rfl rfl equal)

theorem oneDefault_reorderNodes (fine : OneDefault db.nodes) (accepted : reorderNodes db nodeIds = .ok result) :
    OneDefault result.1.nodes := by
  rw [(reorderNodes_ok accepted).2]
  apply fine.map
  · exact positioned.key_settle (fun _ => true) 0 nodeIds
  · intro row
    unfold Positioned.settle
    split
    · rfl
    · rfl

end Order

section Steps
variable {Store : Type} (hooks : PlusNodeHooks Store) {portal : Portal Store}

theorem oneDefault_step (event : NodeEvent Store) (fine : OneDefault portal.db.nodes) :
    OneDefault (nodeStep hooks portal event).db.nodes := by
  cases event with
  | create row => exact oneDefault_createNode fine row
  | update nodeId update => exact oneDefault_updateNode fine nodeId update
  | delete nodeId =>
      rw [nodeStep]
      split
      · rename_i result
        rcases deleteNode_cases result with same | ⟨-, same⟩
        · rw [same]
          exact fine
        · rw [same]
          exact oneDefault_withoutNode fine nodeId
      · exact fine
  | setDefault nodeId =>
      by_cases stored : nodeId ∈ portal.db.nodes.map NodeRow.id
      · exact oneDefault_setDefaultNode fine.unique stored
      · have same : setDefaultNode portal.db nodeId = portal.db := if_neg (mt getNode_isSome.mp stored)
        rw [nodeStep, same]
        exact fine
  | reorder nodeIds =>
      rw [nodeStep]
      split
      · rename_i accepted
        exact oneDefault_reorderNodes fine accepted
      · exact fine
  | elsewhere others => exact fine

/-- No operation empties a table with a node. -/
theorem filled_step (event : NodeEvent Store) (unique : (portal.db.nodes.map NodeRow.id).Nodup)
    (filled : portal.db.nodes ≠ []) : (nodeStep hooks portal event).db.nodes ≠ [] := by
  cases event with
  | create row => exact List.append_ne_nil_of_left_ne_nil filled _
  | update nodeId update => exact fun empty => filled (List.map_eq_nil_iff.mp empty)
  | delete nodeId =>
      rw [nodeStep]
      split
      · rename_i result
        rcases deleteNode_cases result with same | ⟨several, same⟩
        · rw [same]
          exact filled
        · rw [same]
          exact promoteDefault_ne_nil (withoutNode_ne_nil unique several)
      · exact filled
  | setDefault nodeId =>
      intro empty
      have ids := ids_setDefaultNode portal.db nodeId
      rw [show (setDefaultNode portal.db nodeId).nodes = [] from empty] at ids
      exact filled (List.map_eq_nil_iff.mp ids.symm)
  | reorder nodeIds =>
      rw [nodeStep]
      split
      · rename_i accepted
        rw [(reorderNodes_ok accepted).2]
        exact fun empty => filled (List.map_eq_nil_iff.mp empty)
      · exact filled
  | elsewhere others => exact filled

/-- Different positions stay different until a node is added. -/
theorem positions_step (event : NodeEvent Store) (unique : (portal.db.nodes.map NodeRow.id).Nodup)
    (further : ∀ row, event ≠ .create row) (apart : (portal.db.nodes.map NodeRow.position).Nodup) :
    ((nodeStep hooks portal event).db.nodes.map NodeRow.position).Nodup := by
  cases event with
  | create row => exact absurd rfl (further row)
  | update nodeId update =>
      rw [nodeStep, positions_updateNode]
      exact apart
  | delete nodeId =>
      rw [nodeStep]
      split
      · rename_i result
        rcases deleteNode_cases result with same | ⟨-, same⟩
        · rw [same]
          exact apart
        · rw [same, positions_promoteDefault]
          exact apart.sublist (List.filter_sublist.map NodeRow.position)
      · exact apart
  | setDefault nodeId =>
      rw [nodeStep, positions_setDefaultNode]
      exact apart
  | reorder nodeIds =>
      rw [nodeStep]
      split
      · rename_i accepted
        exact reorderNodes_positions unique accepted
      · exact apart
  | elsewhere others => exact apart

end Steps

/-- The other tables may hold anything when no node is stored. -/
def Portal.emptied {Store : Type} (portal : Portal Store) : Portal Store :=
  { portal with db := { portal.db with nodes := [] } }

section Runs
variable {Store : Type} (hooks : PlusNodeHooks Store) (portal : Portal Store) (events : List (NodeEvent Store))

/-- Every state of a run from a table with one default node, or from an empty one, has one default node or no node. -/
theorem oneDefault_reached {portal : Portal Store} (fine : OneDefault portal.db.nodes) :
    ∀ after ∈ reached (nodeStep hooks) portal events, OneDefault after.db.nodes :=
  reached_invariant (nodeStep hooks) (fun _ event fine (_ : True) => oneDefault_step hooks event fine) events fine
    fun _ _ => trivial

/-- A run keeps the nodes of a table that is not empty. -/
theorem filled_run {portal : Portal Store} (fine : OneDefault portal.db.nodes) :
    (reached (nodeStep hooks) portal events).Pairwise fun earlier later =>
      earlier.db.nodes ≠ [] → later.db.nodes ≠ [] := by
  induction events generalizing portal with
  | nil => exact List.pairwise_singleton _ _
  | cons event rest ih =>
      have later := ih (oneDefault_step hooks event fine)
      refine List.pairwise_cons.mpr ⟨?_, later⟩
      intro after member filled
      exact start_related (nodeStep hooks) (fun _ filled => filled) later after member
        (filled_step hooks event fine.unique filled)

/-- Different positions stay different in a run that adds no node. -/
theorem positions_run {portal : Portal Store} (fine : OneDefault portal.db.nodes)
    (further : ∀ row, NodeEvent.create row ∉ events) (apart : (portal.db.nodes.map NodeRow.position).Nodup) :
    ((run (nodeStep hooks) portal events).db.nodes.map NodeRow.position).Nodup := by
  have kept : ∀ portal event,
      (OneDefault portal.db.nodes ∧ (portal.db.nodes.map NodeRow.position).Nodup) → event ∈ events →
      OneDefault (nodeStep hooks portal event).db.nodes ∧
        ((nodeStep hooks portal event).db.nodes.map NodeRow.position).Nodup := by
    intro portal event both member
    refine ⟨oneDefault_step hooks event both.1, positions_step hooks event both.1.unique ?_ both.2⟩
    intro row same
    rw [same] at member
    exact further row member
  exact (run_invariant (nodeStep hooks) kept events ⟨fine, apart⟩ fun _ =>
    visits_event (nodeStep hooks) portal events).2

/-- In every run from an empty table of nodes each state has no node or one default node, a state with nodes is
followed by states with nodes only, and from a successful reorder on until a node is added all positions differ. -/
theorem nodes_one_default :
    (∀ after ∈ reached (nodeStep hooks) portal.emptied events,
      after.db.nodes = [] ∨ after.db.nodes.countP NodeRow.isDefault = 1) ∧
    ((reached (nodeStep hooks) portal.emptied events).Pairwise fun earlier later =>
      earlier.db.nodes ≠ [] → later.db.nodes ≠ []) ∧
    ∀ before nodeIds after, events = before ++ .reorder nodeIds :: after →
      (∃ result, reorderNodes (run (nodeStep hooks) portal.emptied before).db nodeIds = .ok result) →
      (∀ row, .create row ∉ after) →
      ((run (nodeStep hooks) portal.emptied events).db.nodes.map NodeRow.position).Nodup := by
  have start : OneDefault portal.emptied.db.nodes := OneDefault.nil
  refine ⟨?_, filled_run hooks events start, ?_⟩
  · intro after member
    have fine := oneDefault_reached hooks events start after member
    by_cases empty : after.db.nodes = []
    · exact .inl empty
    · exact .inr (fine.single empty)
  · intro before nodeIds after same accepted further
    obtain ⟨result, accepted⟩ := accepted
    have fine := oneDefault_reached hooks before start _ (run_mem_reached (nodeStep hooks) _ before)
    have apart := reorderNodes_positions fine.unique accepted
    have moved : ((nodeStep hooks (run (nodeStep hooks) portal.emptied before)
        (.reorder nodeIds)).db.nodes.map NodeRow.position).Nodup := by
      rw [nodeStep, accepted]
      exact apart
    rw [same, run, List.foldl_append, List.foldl_cons]
    exact positions_run hooks after (oneDefault_step hooks _ fine) further moved

end Runs
end P3Portal.Nodes
