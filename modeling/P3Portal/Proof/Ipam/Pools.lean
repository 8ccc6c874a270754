import Mathlib.Data.Finset.Insert
import P3Portal.Construction.Ipam.Pools
import P3Portal.Foundation.Run

namespace P3Portal.Ipam
open Foundation IpAddress

section Validation
variable {body fields : PoolFields}

/-- A written network is accepted as it is. -/
theorem validateCidr_again {value cidr : String} (accepted : validateCidr value = .ok cidr) :
    validateCidr cidr = .ok cidr := by
  unfold validateCidr at accepted
  split at accepted
  · cases accepted
  · rename_i net parsed
    split at accepted
    · rename_i family
      have again := IpAddress.ipNetwork_render parsed family
      rw [← Except.ok.inj accepted, validateCidr, String.toList_ofList, again]
      dsimp only
      rw [family]
    · cases accepted

/-- A written address is accepted as it is. -/
theorem validateIpv4_again {field : String} {value address : Option String}
    (accepted : validateIpv4 field value = .ok address) : validateIpv4 field address = .ok address := by
  unfold validateIpv4 at accepted
  split at accepted
  · rw [← Except.ok.inj accepted]
    rfl
  · split at accepted
    · rw [← Except.ok.inj accepted]
      rfl
    · split at accepted
      · cases accepted
      · rename_i number parsed
        have again := IpAddress.ipAddress_render parsed
        have written : String.ofList (IpAddress.renderIpv4 number) ≠ "" := by
          intro empty
          rw [← String.toList_ofList (l := IpAddress.renderIpv4 number), empty] at again
          have nothing : IpAddress.ipAddress "".toList = none := by decide
          rw [nothing] at again
          cases again
        rw [← Except.ok.inj accepted, validateIpv4, if_neg written, String.toList_ofList, again]
      · cases accepted

/-- The conditions of the whole model. -/
structure Consistent (body : PoolFields) (net : IpAddress.Network) : Prop where
  parsed : IpAddress.ipNetwork body.cidr.toList = some net
  placed : body.kind = .bridge → (Text.truthy body.node).isSome
  inside : ((outside net body.cidr "gateway" body.gateway).or
    (outside net body.cidr "range_start" body.rangeStart)).or (outside net body.cidr "range_end" body.rangeEnd) = none
  ordered : inverted body.rangeStart body.rangeEnd = false

/-- A consistent model is returned without the node of a vnet. -/
theorem consistency_eq_ok :
    consistency body = .ok fields ↔
      (∃ net, Consistent body net) ∧ fields = { body with node := if body.kind = .vnet then none else body.node } := by
  constructor
  · intro accepted
    unfold consistency at accepted
    split at accepted
    · cases accepted
    · rename_i net parsed
      split at accepted
      · cases accepted
      · rename_i placed
        split at accepted
        · cases accepted
        · rename_i inside
          split at accepted
          · cases accepted
          · rename_i ordered
            refine ⟨⟨net, parsed, ?_, inside, Bool.eq_false_iff.mpr ordered⟩, (Except.ok.inj accepted).symm⟩
            intro bridge
            rw [bridge, decide_eq_true rfl, Bool.true_and] at placed
            exact Option.isSome_iff_ne_none.mpr (mt Option.isNone_iff_eq_none.mpr placed)
  · intro found
    obtain ⟨⟨net, consistent⟩, same⟩ := found
    have placed : ¬(decide (body.kind = .bridge) && (Text.truthy body.node).isNone) = true := by
      intro missing
      rw [Bool.and_eq_true, decide_eq_true_eq, Option.isNone_iff_eq_none] at missing
      have named := consistent.placed missing.1
      rw [missing.2] at named
      cases named
    rw [consistency, consistent.parsed]
    dsimp only
    rw [if_neg placed, consistent.inside]
    dsimp only
    rw [consistent.ordered, same]
    rfl

/-- The single checks without an error. -/
structure Errorless (body : PoolFields) : Prop where
  name : minLength "network_name" body.networkName = [] ∧ maxLength "network_name" 100 body.networkName = []
  node : body.node.elim [] (maxLength "node" 100) = []
  vlan : vlanErrors body.vlanTag = []
  cidr : errorOf (validateCidr body.cidr) = []
  gateway : errorOf (validateIpv4 "gateway" body.gateway) = []
  rangeStart : errorOf (validateIpv4 "range_start" body.rangeStart) = []
  rangeEnd : errorOf (validateIpv4 "range_end" body.rangeEnd) = []
  description : body.description.elim [] (maxLength "description" 500) = []

theorem fieldErrors_eq_nil : fieldErrors body = [] ↔ Errorless body := by
  simp only [fieldErrors, List.append_eq_nil_iff, and_assoc]
  constructor
  · intro fine
    obtain ⟨short, long, node, vlan, cidr, gateway, rangeStart, rangeEnd, description⟩ := fine
    exact ⟨⟨short, long⟩, node, vlan, cidr, gateway, rangeStart, rangeEnd, description⟩
  · intro fine
    exact ⟨fine.name.1, fine.name.2, fine.node, fine.vlan, fine.cidr, fine.gateway, fine.rangeStart, fine.rangeEnd,
      fine.description⟩

/-- Valid fields have passed every check and are in the form in which they are stored. -/
structure Valid (fields : PoolFields) : Prop where
  errors : fieldErrors fields = []
  cidr : validateCidr fields.cidr = .ok fields.cidr
  gateway : validateIpv4 "gateway" fields.gateway = .ok fields.gateway
  rangeStart : validateIpv4 "range_start" fields.rangeStart = .ok fields.rangeStart
  rangeEnd : validateIpv4 "range_end" fields.rangeEnd = .ok fields.rangeEnd
  consistent : ∃ net, Consistent fields net
  clusterWide : fields.kind = .vnet → fields.node = none

/-- Valid fields are accepted as they are. -/
theorem Valid.validate (valid : Valid fields) : validate fields = .ok fields := by
  have same : consistency fields = .ok fields := by
    rw [consistency_eq_ok]
    refine ⟨valid.consistent, ?_⟩
    by_cases vnet : fields.kind = .vnet
    · rw [if_pos vnet, ← valid.clusterWide vnet]
    · rw [if_neg vnet]
  rw [Ipam.validate, valid.cidr, valid.gateway, valid.rangeStart, valid.rangeEnd]
  dsimp only
  rw [if_pos valid.errors, same]

/-- What the validation returns is valid and differs from the request in written forms and the node of a vnet. -/
theorem valid_of_validate (accepted : validate body = .ok fields) :
    Valid fields ∧ fields.kind = body.kind ∧ fields.networkName = body.networkName ∧
      fields.vlanTag = body.vlanTag ∧ (body.kind = .bridge → fields.node = body.node) := by
  unfold validate at accepted
  split at accepted
  · rename_i cidr gateway rangeStart rangeEnd written first second third
    split at accepted
    · rename_i fine
      split at accepted
      · rename_i checked consistent
        rw [← Except.ok.inj accepted]
        obtain ⟨⟨net, holds⟩, same⟩ := consistency_eq_ok.mp consistent
        have node : checked.node = if body.kind = .vnet then none else body.node := by rw [same]
        have again := And.intro (validateCidr_again written) (And.intro (validateIpv4_again first)
          (And.intro (validateIpv4_again second) (validateIpv4_again third)))
        refine ⟨?_, by rw [same], by rw [same], by rw [same], ?_⟩
        · rw [same]
          constructor
          · rw [fieldErrors_eq_nil] at fine ⊢
            refine ⟨fine.name, ?_, fine.vlan, ?_, ?_, ?_, ?_, fine.description⟩
            · dsimp only
              split
              · rfl
              · exact fine.node
            · exact congrArg errorOf again.1
            · exact congrArg errorOf again.2.1
            · exact congrArg errorOf again.2.2.1
            · exact congrArg errorOf again.2.2.2
          · exact again.1
          · exact again.2.1
          · exact again.2.2.1
          · exact again.2.2.2
          · refine ⟨net, holds.parsed, ?_, holds.inside, holds.ordered⟩
            intro bridge
            dsimp only at bridge ⊢
            rw [if_neg (by rw [bridge]; decide)]
            exact holds.placed bridge
          · intro vnet
            exact if_pos vnet
        · intro bridge
          rw [node, if_neg (by rw [bridge]; decide)]
      · cases accepted
    · cases accepted
  · cases accepted

end Validation

section Rows
variable {fields : PoolFields} {row : PoolRow} {rows : List PoolRow}

/-- Name servers are not checked. -/
theorem Valid.withDns (valid : Valid fields) (dns : Option (List String)) : Valid { fields with dns := dns } := by
  obtain ⟨net, consistent⟩ := valid.consistent
  exact ⟨valid.errors, valid.cidr, valid.gateway, valid.rangeStart, valid.rangeEnd,
    ⟨net, consistent.parsed, consistent.placed, consistent.inside, consistent.ordered⟩, valid.clusterWide⟩

theorem Valid.node_ne (valid : Valid fields) : fields.node ≠ some "" := by
  intro empty
  obtain ⟨net, consistent⟩ := valid.consistent
  cases kind : fields.kind with
  | bridge =>
      have named := consistent.placed kind
      rw [empty] at named
      exact absurd named (by decide)
  | vnet =>
      rw [valid.clusterWide kind] at empty
      cases empty

theorem Valid.vlan_ne (valid : Valid fields) : fields.vlanTag ≠ some 0 := by
  intro zero
  have fine := (fieldErrors_eq_nil.mp valid.errors).vlan
  rw [zero] at fine
  exact absurd fine (by decide)

/-- The stored columns of valid fields are read as these fields. -/
theorem fields_payload (valid : Valid fields) (row : PoolRow) :
    (payload fields row).fields = { fields with dns := fields.dns.filter (· ≠ []) } := by
  have node : (if nodeToDb fields.node = "" then none else some (nodeToDb fields.node)) = fields.node := by
    cases named : fields.node with
    | none => rfl
    | some name =>
        have other : name ≠ "" := by
          intro empty
          exact valid.node_ne (by rw [named, empty])
        exact if_neg other
  have vlan : (if vlanToDb fields.vlanTag = 0 then none else some (vlanToDb fields.vlanTag)) = fields.vlanTag := by
    cases tagged : fields.vlanTag with
    | none => rfl
    | some tag =>
        have other : tag ≠ 0 := by
          intro zero
          exact valid.vlan_ne (by rw [tagged, zero])
        exact if_neg other
  unfold payload PoolRow.fields
  dsimp only
  rw [node, vlan]

/-- The response to a row whose columns are valid. -/
def responseOf (row : PoolRow) : IpPoolResponse := ⟨row.fields, row.id, row.createdBy, row.createdAt, row.updatedAt⟩

theorem fromRow_eq (valid : Valid row.fields) : fromRow row = .ok (responseOf row) := by
  rw [fromRow, valid.validate]
  rfl

/-- The node of a vnet is stored as the empty text. -/
theorem node_of_vnet (valid : Valid row.fields) (vnet : row.kind = .vnet) : row.node = "" := by
  have none := valid.clusterWide vnet
  unfold PoolRow.fields at none
  by_contra other
  rw [if_neg other] at none
  cases none

/-- Every row holds valid columns. -/
def AllValid (rows : List PoolRow) : Prop := ∀ row ∈ rows, Valid row.fields

theorem mapM_fromRow (valid : AllValid rows) : rows.mapM fromRow = .ok (rows.map responseOf) := by
  induction rows with
  | nil => rfl
  | cons first rest ih =>
      rw [List.mapM_cons, fromRow_eq (valid first List.mem_cons_self),
        ih fun row member => valid row (List.mem_cons_of_mem _ member)]
      rfl

theorem mem_selectNetwork {kind : PoolKind} {networkName : String} {node : Option String} {vlanTag : Option Int} :
    row ∈ selectNetwork kind networkName node vlanTag rows ↔
      row ∈ rows ∧ row.network = (kind, networkName, nodeToDb node, vlanToDb vlanTag) := by
  rw [selectNetwork, List.mem_insertionSort, List.mem_filter, decide_eq_true_eq]

/-- A lookup answers with the rows of the network. -/
theorem poolsForNetwork_eq (valid : AllValid rows) (kind : PoolKind) (networkName : String) (node : Option String)
    (vlanTag : Option Int) :
    poolsForNetwork kind networkName node vlanTag rows =
      .ok ((selectNetwork kind networkName node vlanTag rows).map responseOf) :=
  mapM_fromRow fun row member => valid row (mem_selectNetwork.mp member).1

theorem allValid_createPool (valid : AllValid rows) (request : PoolFields) (createdBy now : String) :
    AllValid (createPool request createdBy now rows).1 := by
  unfold createPool
  split
  · exact valid
  · rename_i body accepted
    dsimp only
    split
    · exact valid
    · intro row member
      rcases List.mem_append.mp member with old | new
      · exact valid row old
      · have checked := (valid_of_validate accepted).1
        rw [List.mem_singleton.mp new, newRow, fields_payload checked]
        exact checked.withDns _

theorem allValid_updatePool (valid : AllValid rows) (poolId : Int) (request : PoolFields) (now : String) :
    AllValid (updatePool poolId request now rows).1 := by
  unfold updatePool
  split
  · exact valid
  · rename_i body accepted
    split
    · exact valid
    · rename_i old _
      dsimp only
      split
      · exact valid
      · intro row member
        obtain ⟨other, stored, same⟩ := List.mem_map.mp member
        split at same
        · have checked := (valid_of_validate accepted).1
          have columns : ({ payload body old with updatedAt := some now } : PoolRow).fields =
              (payload body old).fields := rfl
          rw [← same, columns, fields_payload checked]
          exact checked.withDns _
        · rw [← same]
          exact valid other stored

/-- No request stores a row that is not valid. -/
theorem allValid_step (event : PoolEvent) (valid : AllValid rows) : AllValid (poolStep rows event) := by
  cases event with
  | create request createdBy now => exact allValid_createPool valid request createdBy now
  | update poolId request now => exact allValid_updatePool valid poolId request now
  | delete poolId => exact fun row member => valid row (List.mem_filter.mp member).1

theorem allValid_reached (events : List PoolEvent) : ∀ rows ∈ reached poolStep [] events, AllValid rows :=
  reached_invariant poolStep (fun _ event valid (_ : True) => allValid_step event valid) events
    (fun _ absent => absurd absent List.not_mem_nil) fun _ _ => trivial

/-- An accepted request stores its network. -/
theorem createPool_stored {request : PoolFields} {createdBy now : String} {pool : IpPoolResponse}
    (accepted : (createPool request createdBy now rows).2 = .ok pool) :
    ∃ row ∈ (createPool request createdBy now rows).1, fromRow row = .ok pool ∧ row.kind = request.kind ∧
      row.networkName = request.networkName ∧ row.vlanTag = vlanToDb request.vlanTag ∧
      (request.kind = .bridge → row.node = nodeToDb request.node) := by
  unfold createPool at accepted ⊢
  split at accepted
  · cases accepted
  · rename_i body checked
    obtain ⟨-, kind, name, vlan, node⟩ := valid_of_validate checked
    dsimp only at accepted ⊢
    split at accepted
    · cases accepted
    · rename_i free
      rw [if_neg free]
      refine ⟨newRow body createdBy now rows, List.mem_append_right _ (List.mem_singleton_self _), ?_, kind, name,
        congrArg vlanToDb vlan, fun bridge => congrArg nodeToDb (node bridge)⟩
      unfold answer at accepted
      cases read : fromRow (newRow body createdBy now rows) with
      | ok found =>
          rw [read] at accepted
          rw [Except.ok.inj accepted]
      | error errors =>
          rw [read] at accepted
          cases accepted

end Rows

/-- A deploy on a bridge happens on the node of the pool; a deploy on a vnet may happen on any node. -/
def CallerNode (row : PoolRow) (node : Option String) : Prop := row.kind = .bridge → nodeToDb node = row.node

/-- The network that a response names. -/
def IpPoolResponse.network (pool : IpPoolResponse) : PoolKind × String × String × Int :=
  (pool.fields.kind, pool.fields.networkName, nodeToDb pool.fields.node, vlanToDb pool.fields.vlanTag)

section Lookup
variable {row : PoolRow} {rows : List PoolRow}

theorem network_responseOf (row : PoolRow) : (responseOf row).network = row.network := by
  have node : nodeToDb (if row.node = "" then none else some row.node) = row.node := by
    split
    · rename_i empty
      exact empty.symm
    · rfl
  have vlan : vlanToDb (if row.vlanTag = 0 then none else some row.vlanTag) = row.vlanTag := by
    split
    · rename_i zero
      exact zero.symm
    · rfl
  unfold IpPoolResponse.network responseOf PoolRow.fields PoolRow.network
  dsimp only
  rw [node, vlan]

/-- A stored row is found exactly when the caller's node is the stored one. -/
theorem found_iff (valid : AllValid rows) (stored : row ∈ rows) (node : Option String) {vlanTag : Option Int}
    (tagged : vlanToDb vlanTag = row.vlanTag) :
    (∃ pools, poolsForNetwork row.kind row.networkName node vlanTag rows = .ok pools ∧
      ∃ pool ∈ pools, fromRow row = .ok pool) ↔ nodeToDb node = row.node := by
  rw [poolsForNetwork_eq valid, fromRow_eq (valid row stored)]
  constructor
  · intro found
    obtain ⟨pools, same, pool, member, read⟩ := found
    rw [← Except.ok.inj same, ← Except.ok.inj read] at member
    obtain ⟨other, selected, response⟩ := List.mem_map.mp member
    have network := (mem_selectNetwork.mp selected).2
    rw [← network_responseOf, response, network_responseOf] at network
    exact (congrArg (fun key => key.2.2.1) network).symm
  · intro same
    refine ⟨_, rfl, responseOf row, List.mem_map_of_mem (mem_selectNetwork.mpr ⟨stored, ?_⟩), rfl⟩
    rw [PoolRow.network, same, tagged]

/-- The pools of one lookup belong to one network. -/
theorem network_of_lookup (valid : AllValid rows) {kind : PoolKind} {networkName : String} {node : Option String}
    {vlanTag : Option Int} {pools : List IpPoolResponse}
    (found : poolsForNetwork kind networkName node vlanTag rows = .ok pools) {pool : IpPoolResponse}
    (member : pool ∈ pools) : pool.network = (kind, networkName, nodeToDb node, vlanToDb vlanTag) := by
  rw [poolsForNetwork_eq valid] at found
  rw [← Except.ok.inj found] at member
  obtain ⟨row, selected, same⟩ := List.mem_map.mp member
  rw [← same, network_responseOf]
  exact (mem_selectNetwork.mp selected).2

end Lookup

/-- In every history an accepted pool is stored with the network of its request, a lookup with the caller's node
returns a stored pool exactly when it is one of a bridge or the caller of a vnet gives no node, and all pools that a
lookup returns belong to one network of the duplicate check. -/
theorem pools_found_iff (events : List PoolEvent) :
    ∀ rows ∈ reached poolStep [] events,
      (∀ request createdBy now pool, (createPool request createdBy now rows).2 = .ok pool →
        ∃ row ∈ (createPool request createdBy now rows).1, fromRow row = .ok pool ∧ row.kind = request.kind ∧
          row.networkName = request.networkName ∧ row.vlanTag = vlanToDb request.vlanTag ∧
          (request.kind = .bridge → row.node = nodeToDb request.node)) ∧
      (∀ row ∈ rows, ∀ node vlanTag, CallerNode row node → vlanToDb vlanTag = row.vlanTag →
        ((∃ pools, poolsForNetwork row.kind row.networkName node vlanTag rows = .ok pools ∧
          ∃ pool ∈ pools, fromRow row = .ok pool) ↔ row.kind = .bridge ∨ nodeToDb node = "")) ∧
      ∀ kind networkName node vlanTag pools, poolsForNetwork kind networkName node vlanTag rows = .ok pools →
        ∀ first ∈ pools, ∀ second ∈ pools, first.network = second.network := by
  intro rows member
  have valid := allValid_reached events rows member
  refine ⟨fun _ _ _ _ => createPool_stored, ?_, ?_⟩
  · intro row stored node vlanTag caller tagged
    rw [found_iff valid stored node tagged]
    cases kind : row.kind with
    | bridge => exact iff_of_true (caller kind) (.inl rfl)
    | vnet =>
        rw [node_of_vnet (valid row stored) kind]
        exact ⟨.inr, fun given => given.resolve_left (by decide)⟩
  · intro kind networkName node vlanTag pools found first one second other
    rw [network_of_lookup valid found one, network_of_lookup valid found other]

/-- A pool of a vnet, requested on a node. -/
def guestsRequest : PoolFields where
  kind := .vnet
  networkName := "guests"
  node := some "pve"
  cidr := "10.0.0.0/24"

/-- The row of the accepted request. -/
def guestsRow : PoolRow :=
  newRow { guestsRequest with node := none } "admin" "2026-01-01" []

/-- Without a node the pool is found. -/
theorem pools_found_iff_guests :
    ∃ pools, poolsForNetwork .vnet "guests" none none (poolStep [] (.create guestsRequest "admin" "2026-01-01")) =
      .ok pools ∧ ∃ pool ∈ pools, fromRow guestsRow = .ok pool := by
  have stored : guestsRow ∈ poolStep [] (.create guestsRequest "admin" "2026-01-01") := by decide +kernel
  have found := pools_found_iff [.create guestsRequest "admin" "2026-01-01"] _
    (List.mem_cons_of_mem _ List.mem_cons_self)
  have caller : CallerNode guestsRow none := fun bridge => absurd bridge (by decide)
  exact (found.2.1 guestsRow stored none none caller rfl).mpr (.inr rfl)

/-- The accepted pool of the vnet is found without a node and not from the node on which it was requested. -/
theorem vnet_pool_not_found :
    ∃ pool, (createPool guestsRequest "admin" "2026-01-01" []).2 = .ok pool ∧
      poolsForNetwork .vnet "guests" none none (createPool guestsRequest "admin" "2026-01-01" []).1 = .ok [pool] ∧
      poolsForNetwork .vnet "guests" (some "pve") none (createPool guestsRequest "admin" "2026-01-01" []).1 =
        .ok [] := by
  refine ⟨⟨{ guestsRequest with node := none }, 1, some "admin", some "2026-01-01", some "2026-01-01"⟩, ?_⟩
  decide +kernel

/-- A pool of an IPv4 network whose gateway and bounds, where it has them, are IPv4 addresses. -/
structure Ipv4Pool (pool : PoolFields) where
  net : Network
  gateway : Option Nat
  rangeStart : Option Nat
  rangeEnd : Option Nat
  cidr_parsed : ipNetwork pool.cidr.toList = some net
  family : net.version = .v4
  gateway_parsed : optionalAddress pool.gateway = .ok (gateway.map (Prod.mk .v4))
  start_parsed : optionalAddress pool.rangeStart = .ok (rangeStart.map (Prod.mk .v4))
  end_parsed : optionalAddress pool.rangeEnd = .ok (rangeEnd.map (Prod.mk .v4))

/-- A free address is a host of the network in the range that is neither the gateway nor written among the used ones. -/
structure IsFree {pool : PoolFields} (bounds : Ipv4Pool pool) (used : Finset String) (address : Nat) : Prop where
  host : bounds.net.IsHost address
  after_start : ∀ first, bounds.rangeStart = some first → first ≤ address
  before_end : ∀ last, bounds.rangeEnd = some last → address ≤ last
  no_gateway : bounds.gateway ≠ some address
  unused : ∀ text ∈ used, ipAddress text.toList ≠ some (.v4, address)

section Search
variable {pool : PoolFields} {used : Finset String} (strIpv6 : Nat → String)

/-- The checks of the loop for a host. -/
def passes (gw lo hi : Option Nat) (used : Finset String) (host : Nat) : Bool :=
  lo.all (· ≤ host) && hi.all (host ≤ ·) && decide (gw ≠ some host) && decide (String.ofList (renderIpv4 host) ∉ used)

/-- The loop returns the first host that passes the checks. -/
theorem firstFree_eq (gw lo hi : Option Nat) (used : Finset String) (hosts : List Nat) :
    firstFree strIpv6 (gw.map (Prod.mk .v4)) (lo.map (Prod.mk .v4)) (hi.map (Prod.mk .v4)) used .v4 hosts =
      .ok ((hosts.find? (passes gw lo hi used)).map fun host => String.ofList (renderIpv4 host)) := by
  induction hosts with
  | nil => rfl
  | cons host rest ih =>
      have start : below (.v4, host) (lo.map (Prod.mk .v4)) = .ok (!lo.all (· ≤ host)) := by
        cases lo with
        | none => rfl
        | some first =>
            show Except.ok (decide (host < first)) = .ok (!decide (first ≤ host))
            rw [← decide_not]
            simp only [not_le]
      have finish : above (.v4, host) (hi.map (Prod.mk .v4)) = .ok (!hi.all (host ≤ ·)) := by
        cases hi with
        | none => rfl
        | some last =>
            show Except.ok (decide (last < host)) = .ok (!decide (host ≤ last))
            rw [← decide_not]
            simp only [not_le]
      have same : gw.map (Prod.mk Version.v4) = some (.v4, host) ↔ gw = some host := by
        cases gw with
        | none => simp
        | some router => simp
      rw [firstFree, start, finish, ih]
      simp only [Bind.bind, Except.bind, Bool.not_eq_true', same, strAddress]
      rw [List.find?_cons]
      unfold passes
      cases lo.all (· ≤ host) with
      | false => rfl
      | true =>
          cases hi.all (host ≤ ·) with
          | false => rfl
          | true =>
              by_cases router : gw = some host
              · simp [router]
              · by_cases taken : String.ofList (renderIpv4 host) ∈ used
                · simp [router, taken]
                · simp [router, taken]
                  rfl

/-- The hosts that pass the checks are the free addresses. -/
theorem isFree_iff (bounds : Ipv4Pool pool) (used : Finset String) (address : Nat) :
    IsFree bounds used address ↔ address ∈ bounds.net.hosts ∧
      passes bounds.gateway bounds.rangeStart bounds.rangeEnd used address = true := by
  have written : bounds.net.IsHost address → (String.ofList (renderIpv4 address) ∉ used ↔
      ∀ text ∈ used, ipAddress text.toList ≠ some (.v4, address)) := by
    intro host
    have small := host_lt bounds.cidr_parsed bounds.family host
    have read : ipAddress (renderIpv4 address) = some (.v4, address) := by
      rw [ipAddress, ipv4FromString_render small]
    constructor
    · intro free text member parsed
      rw [renderIpv4_of_parsed parsed, String.ofList_toList] at free
      exact free member
    · intro free member
      exact free _ member (by rw [String.toList_ofList, read])
  have start : bounds.rangeStart.all (· ≤ address) = true ↔ ∀ first, bounds.rangeStart = some first → first ≤ address := by
    cases bounds.rangeStart with
    | none => simp
    | some first => simp
  have finish : bounds.rangeEnd.all (address ≤ ·) = true ↔ ∀ last, bounds.rangeEnd = some last → address ≤ last := by
    cases bounds.rangeEnd with
    | none => simp
    | some last => simp
  rw [mem_hosts_iff bounds.cidr_parsed bounds.family]
  unfold passes
  simp only [Bool.and_eq_true, decide_eq_true_eq, start, finish]
  constructor
  · intro free
    exact ⟨free.host, ⟨⟨free.after_start, free.before_end⟩, free.no_gateway⟩, (written free.host).mpr free.unused⟩
  · rintro ⟨host, ⟨⟨after, before⟩, router⟩, unwritten⟩
    exact ⟨host, after, before, router, (written host).mp unwritten⟩

/-- The search answers with the lowest free address, and with nothing exactly when there is none. -/
theorem computeFreeIp_exact (bounds : Ipv4Pool pool) (used : Finset String) :
    ∃ found : Option Nat,
      computeFreeIp strIpv6 pool used = .ok (found.map fun address => String.ofList (renderIpv4 address)) ∧
        (∀ address, found = some address ↔
          IsFree bounds used address ∧ ∀ other, IsFree bounds used other → address ≤ other) ∧
        (found = none ↔ ∀ address, ¬ IsFree bounds used address) := by
  refine ⟨bounds.net.hosts.find? (passes bounds.gateway bounds.rangeStart bounds.rangeEnd used), ?_, ?_, ?_⟩
  · unfold computeFreeIp parseNetwork
    rw [bounds.cidr_parsed, bounds.gateway_parsed, bounds.start_parsed, bounds.end_parsed]
    simp only [Bind.bind, Except.bind]
    rw [bounds.family]
    exact firstFree_eq strIpv6 _ _ _ used _
  · intro address
    rw [find?_sorted_iff (hosts_sorted bounds.net)]
    simp only [isFree_iff, and_imp]
  · rw [List.find?_eq_none]
    simp only [isFree_iff, not_and]

end Search

section Suggestions
variable {fields : PoolFields}

/-- The validators let only addresses of the family of the network pass. -/
theorem optionalAddress_of_validated {field : String} {value : Option String}
    (accepted : validateIpv4 field value = .ok value) :
    ∃ address : Option Nat, optionalAddress value = .ok (address.map (Prod.mk .v4)) := by
  unfold validateIpv4 at accepted
  split at accepted
  · exact ⟨none, rfl⟩
  · rename_i text
    split at accepted
    · cases accepted
    · rename_i present
      have given : Text.truthy (some text) = some text := (Text.truthy_eq_some _ _).mpr ⟨rfl, present⟩
      split at accepted
      · cases accepted
      · rename_i address parsed
        refine ⟨some address, ?_⟩
        unfold optionalAddress
        rw [given]
        dsimp only
        rw [parsed]
        rfl
      · cases accepted

/-- A validated pool is one of an IPv4 network. -/
theorem Valid.ipv4Pool (valid : Valid fields) : Nonempty (Ipv4Pool fields) := by
  obtain ⟨gateway, gateway_parsed⟩ := optionalAddress_of_validated valid.gateway
  obtain ⟨rangeStart, start_parsed⟩ := optionalAddress_of_validated valid.rangeStart
  obtain ⟨rangeEnd, end_parsed⟩ := optionalAddress_of_validated valid.rangeEnd
  have cidr := valid.cidr
  unfold validateCidr at cidr
  split at cidr
  · cases cidr
  · rename_i net parsed
    split at cidr
    · rename_i family
      exact ⟨⟨net, gateway, rangeStart, rangeEnd, parsed, family, gateway_parsed, start_parsed, end_parsed⟩⟩
    · cases cidr

/-- Used addresses outside of the network make no difference. -/
theorem isFree_filter (bounds : Ipv4Pool fields) (used : Finset String) (address : Nat) :
    IsFree bounds (used.filter fun ip => ipInNet ip bounds.net) address ↔ IsFree bounds used address := by
  constructor
  · intro free
    refine ⟨free.host, free.after_start, free.before_end, free.no_gateway, fun text member parsed => ?_⟩
    refine free.unused text (Finset.mem_filter.mpr ⟨member, ?_⟩) parsed
    unfold ipInNet
    rw [parsed]
    exact free.host.inside
  · intro free
    exact ⟨free.host, free.after_start, free.before_end, free.no_gateway,
      fun text member => free.unused text (Finset.mem_filter.mp member).1⟩

/-- In every state of the pools, the suggestion for a pool is its lowest free address, with a reason when there is
none. -/
theorem suggestFreeIp_exact (strIpv6 : Nat → String) (events : List PoolEvent) {rows : List PoolRow}
    (reach : rows ∈ reached poolStep [] events) (poolId : Int) (used : Finset String) :
    ((∀ row ∈ rows, row.id ≠ poolId) → suggestFreeIp strIpv6 poolId used rows = .ok none) ∧
      ∀ row, rows.find? (fun row => row.id = poolId) = some row → ∃ bounds : Ipv4Pool row.fields, ∃ found : Option Nat,
        suggestFreeIp strIpv6 poolId used rows = .ok (some ⟨poolId,
          found.map fun address => String.ofList (renderIpv4 address), true,
          if found = none then some "pool_exhausted" else none⟩) ∧
        (∀ address, found = some address ↔
          IsFree bounds used address ∧ ∀ other, IsFree bounds used other → address ≤ other) ∧
        (found = none ↔ ∀ address, ¬ IsFree bounds used address) := by
  have valid := allValid_reached events rows reach
  constructor
  · intro absent
    have missing : rows.find? (fun row => row.id = poolId) = none := by
      rw [List.find?_eq_none]
      intro row member
      simpa using absent row member
    unfold suggestFreeIp getPool
    rw [missing]
    rfl
  · intro row stored
    have checked := valid row (List.mem_of_find?_eq_some stored)
    obtain ⟨bounds⟩ := checked.ipv4Pool
    obtain ⟨found, computed, least, none_free⟩ :=
      computeFreeIp_exact strIpv6 bounds (used.filter fun ip => ipInNet ip bounds.net)
    simp only [isFree_filter] at least none_free
    refine ⟨bounds, found, ?_, least, none_free⟩
    have fields : (responseOf row).fields = row.fields := rfl
    have network : parseNetwork row.fields.cidr = .ok bounds.net := by
      unfold parseNetwork
      rw [bounds.cidr_parsed]
    unfold suggestFreeIp getPool
    rw [stored]
    simp only [fromRow_eq checked, Except.map, Except.mapError, Bind.bind, Except.bind, fields, network, computed]
    cases found with
    | none => rfl
    | some address =>
        have written : String.ofList (renderIpv4 address) ≠ "" := by
          intro empty
          have nothing := congrArg String.toList empty
          rw [String.toList_ofList] at nothing
          exact absurd nothing (by simp [renderIpv4])
        have given : Text.truthy (some (String.ofList (renderIpv4 address))) = some _ :=
          (Text.truthy_eq_some _ _).mpr ⟨rfl, written⟩
        rw [Option.map_some, given]
        rfl

/-- A pool with two addresses, whose gateway is the lower one. -/
def pairPool : PoolFields where
  kind := .bridge
  networkName := "vmbr0"
  node := some "pve"
  cidr := "10.0.0.0/31"
  gateway := some "10.0.0.0"

def pairBounds : Ipv4Pool pairPool where
  net := ⟨.v4, 167772160, 31, none⟩
  gateway := some 167772160
  rangeStart := none
  rangeEnd := none
  cidr_parsed := by decide +kernel
  family := rfl
  gateway_parsed := by decide +kernel
  start_parsed := rfl
  end_parsed := rfl

example : computeFreeIp (fun _ => "") pairPool {"10.0.0.2"} = .ok (some "10.0.0.1") := by decide +kernel

example : computeFreeIp (fun _ => "") pairPool {"10.0.0.1"} = .ok none := by decide +kernel

theorem pair_exact :
    ∃ found : Option Nat,
      computeFreeIp (fun _ => "") pairPool {"10.0.0.2"} = .ok (found.map fun address => String.ofList (renderIpv4 address)) ∧
        (∀ address, found = some address ↔ IsFree pairBounds {"10.0.0.2"} address ∧
          ∀ other, IsFree pairBounds {"10.0.0.2"} other → address ≤ other) ∧
        (found = none ↔ ∀ address, ¬ IsFree pairBounds {"10.0.0.2"} address) :=
  computeFreeIp_exact (fun _ => "") pairBounds {"10.0.0.2"}

end Suggestions
end P3Portal.Ipam
