import Mathlib.Algebra.Order.Ring.Int
import Mathlib.Data.Finset.Filter
import Mathlib.Data.List.Sort
import P3Portal.Foundation.Ipv4Hosts
import P3Portal.Foundation.PythonText

namespace P3Portal.Ipam
open Foundation

inductive PoolKind where
  | bridge
  | vnet
  deriving DecidableEq

/-- The fields that a request defines and a response repeats. An absent node means the whole cluster, an absent
tag an untagged network. -/
structure PoolFields where
  kind : PoolKind
  networkName : String
  node : Option String := none
  vlanTag : Option Int := none
  cidr : String
  gateway : Option String := none
  dns : Option (List String) := none
  rangeStart : Option String := none
  rangeEnd : Option String := none
  description : Option String := none
  deriving DecidableEq

/-- A validation error names its field; an error of the whole model names none. -/
structure FieldError where
  field : String
  message : String
  deriving DecidableEq

/-- The message of a validator that raises a `ValueError`. -/
def valueError (field text : String) : FieldError := ⟨field, "Value error, " ++ text⟩

def minLength (field value : String) : List FieldError :=
  if value.length < 1 then [⟨field, "String should have at least 1 character"⟩] else []

def maxLength (field : String) (limit : Nat) (value : String) : List FieldError :=
  if limit < value.length then [⟨field, "String should have at most " ++ toString limit ++ " characters"⟩] else []

/-- The bounds of `vlan_tag`. -/
def vlanErrors : Option Int → List FieldError
  | none => []
  | some tag =>
      if tag < 1 then [⟨"vlan_tag", "Input should be greater than or equal to 1"⟩]
      else if 4094 < tag then [⟨"vlan_tag", "Input should be less than or equal to 4094"⟩]
      else []

/-- `_validate_cidr` returns the written network. -/
def validateCidr (value : String) : Except FieldError String :=
  match IpAddress.ipNetwork value.toList with
  | none => .error (valueError "cidr" ("cidr: '" ++ value ++ "' ist kein gültiges Netz (z. B. 192.168.2.0/24)"))
  | some net => match net.version with
    | .v4 => .ok (String.ofList net.renderIpv4)
    | .v6 => .error (valueError "cidr" "cidr: nur IPv4 wird unterstützt (MVP)")

/-- An empty text is no address; `_validate_ipv4` returns the written address. -/
def validateIpv4 (field : String) : Option String → Except FieldError (Option String)
  | none => .ok none
  | some value =>
      if value = "" then .ok none
      else match IpAddress.ipAddress value.toList with
        | none => .error (valueError field (field ++ ": '" ++ value ++ "' ist keine gültige IP-Adresse"))
        | some (.v4, address) => .ok (some (String.ofList (IpAddress.renderIpv4 address)))
        | some (.v6, _) => .error (valueError field (field ++ ": nur IPv4 wird unterstützt (MVP)"))

/-- An address that is not in the network is refused. -/
def outside (net : IpAddress.Network) (cidr label : String) : Option String → Option String
  | none => none
  | some value =>
      if value = "" then none
      else if (IpAddress.ipAddress value.toList).any net.contains then none
      else some (label ++ " '" ++ value ++ "' liegt nicht im cidr " ++ cidr)

/-- The start of a range that lies behind its end. -/
def inverted (rangeStart rangeEnd : Option String) : Bool :=
  match rangeStart.bind (fun text => IpAddress.ipAddress text.toList),
      rangeEnd.bind fun text => IpAddress.ipAddress text.toList with
  | some (_, first), some (_, last) => last < first
  | _, _ => false

/-- `_v_consistency`: a bridge needs a node, a vnet drops it, and the addresses lie in the network. -/
def consistency (body : PoolFields) : Except String PoolFields :=
  match IpAddress.ipNetwork body.cidr.toList with
  | none => .error ("'" ++ body.cidr ++ "' does not appear to be an IPv4 or IPv6 network")
  | some net =>
      if body.kind = .bridge && (Text.truthy body.node).isNone then
        .error "node ist für kind='bridge' erforderlich"
      else
        match ((outside net body.cidr "gateway" body.gateway).or
            (outside net body.cidr "range_start" body.rangeStart)).or
            (outside net body.cidr "range_end" body.rangeEnd) with
        | some message => .error message
        | none =>
            if inverted body.rangeStart body.rangeEnd then
              .error "range_start darf nicht größer als range_end sein"
            else .ok { body with node := if body.kind = .vnet then none else body.node }

def errorOf {Value : Type} : Except FieldError Value → List FieldError
  | .ok _ => []
  | .error error => [error]

/-- The errors of all fields are collected; the whole model is checked when there are none. -/
def fieldErrors (body : PoolFields) : List FieldError :=
  minLength "network_name" body.networkName ++ maxLength "network_name" 100 body.networkName ++
    body.node.elim [] (maxLength "node" 100) ++ vlanErrors body.vlanTag ++ errorOf (validateCidr body.cidr) ++
    errorOf (validateIpv4 "gateway" body.gateway) ++ errorOf (validateIpv4 "range_start" body.rangeStart) ++
    errorOf (validateIpv4 "range_end" body.rangeEnd) ++ body.description.elim [] (maxLength "description" 500)

def validate (body : PoolFields) : Except (List FieldError) PoolFields :=
  match validateCidr body.cidr, validateIpv4 "gateway" body.gateway, validateIpv4 "range_start" body.rangeStart,
      validateIpv4 "range_end" body.rangeEnd with
  | .ok cidr, .ok gateway, .ok rangeStart, .ok rangeEnd =>
      if fieldErrors body = [] then
        match consistency { body with
            cidr := cidr, gateway := gateway, rangeStart := rangeStart, rangeEnd := rangeEnd } with
        | .ok body => .ok body
        | .error text => .error [valueError "" text]
      else .error (fieldErrors body)
  | _, _, _, _ => .error (fieldErrors body)

/-- A row of `ip_pools` holds the empty text for no node and zero for no tag. -/
structure PoolRow where
  id : Int
  kind : PoolKind
  networkName : String
  node : String
  vlanTag : Int
  cidr : String
  gateway : Option String
  dns : Option (List String)
  rangeStart : Option String
  rangeEnd : Option String
  description : Option String
  createdBy : Option String
  createdAt : Option String
  updatedAt : Option String
  deriving DecidableEq

def nodeToDb (node : Option String) : String := node.getD ""

def vlanToDb (vlan : Option Int) : Int := vlan.getD 0

structure IpPoolResponse where
  fields : PoolFields
  id : Int
  createdBy : Option String
  createdAt : Option String
  updatedAt : Option String
  deriving DecidableEq

/-- The sentinels are read as absent values. -/
def PoolRow.fields (row : PoolRow) : PoolFields where
  kind := row.kind
  networkName := row.networkName
  node := if row.node = "" then none else some row.node
  vlanTag := if row.vlanTag = 0 then none else some row.vlanTag
  cidr := row.cidr
  gateway := row.gateway
  dns := row.dns
  rangeStart := row.rangeStart
  rangeEnd := row.rangeEnd
  description := row.description

/-- The response is a model of its own, so that the stored values are validated again. -/
def fromRow (row : PoolRow) : Except (List FieldError) IpPoolResponse :=
  (validate row.fields).map fun fields => ⟨fields, row.id, row.createdBy, row.createdAt, row.updatedAt⟩

/-- `_payload` fills the columns that a request defines. An empty list of name servers is not stored. -/
def payload (body : PoolFields) (row : PoolRow) : PoolRow :=
  { row with
    kind := body.kind
    networkName := body.networkName
    node := nodeToDb body.node
    vlanTag := vlanToDb body.vlanTag
    cidr := body.cidr
    gateway := body.gateway
    dns := body.dns.filter (· ≠ [])
    rangeStart := body.rangeStart
    rangeEnd := body.rangeEnd
    description := body.description }

/-- The network of a pool without its subnet. -/
def PoolRow.network (row : PoolRow) : PoolKind × String × String × Int :=
  (row.kind, row.networkName, row.node, row.vlanTag)

/-- `uq_ip_pools_network_subnet` compares the network and the subnet. -/
def sameSubnet (first second : PoolRow) : Bool :=
  first.network = second.network && first.cidr = second.cidr

/-- An endpoint answers with a pool or fails; the last failure is one of the server. -/
inductive PoolError where
  | requestValidation (errors : List FieldError)
  | conflict (detail : String)
  | notFound (detail : String)
  | responseValidation (errors : List FieldError)
  deriving DecidableEq

def nextPoolId (rows : List PoolRow) : Int := (rows.map PoolRow.id).foldl max 0 + 1

def answer (row : PoolRow) : Except PoolError IpPoolResponse := (fromRow row).mapError .responseValidation

def subnetTaken : PoolError := .conflict "Für dieses Subnetz existiert bereits ein Pool"

/-- The row of a validated request. -/
def newRow (body : PoolFields) (createdBy now : String) (rows : List PoolRow) : PoolRow :=
  payload body
    { id := nextPoolId rows, kind := body.kind, networkName := "", node := "", vlanTag := 0, cidr := "",
      gateway := none, dns := none, rangeStart := none, rangeEnd := none, description := none,
      createdBy := some createdBy, createdAt := some now, updatedAt := some now }

/-- `POST /api/ipam/pools` stores the validated request and reads it back. -/
def createPool (request : PoolFields) (createdBy now : String) (rows : List PoolRow) :
    List PoolRow × Except PoolError IpPoolResponse :=
  match validate request with
  | .error errors => (rows, .error (.requestValidation errors))
  | .ok body =>
      let row := newRow body createdBy now rows
      if rows.any (sameSubnet row) then (rows, .error subnetTaken) else (rows ++ [row], answer row)

/-- `PUT /api/ipam/pools/{pool_id}` defines a pool anew. -/
def updatePool (poolId : Int) (request : PoolFields) (now : String) (rows : List PoolRow) :
    List PoolRow × Except PoolError IpPoolResponse :=
  match validate request with
  | .error errors => (rows, .error (.requestValidation errors))
  | .ok body => match rows.find? fun row => row.id = poolId with
    | none => (rows, .error (.notFound "pool_not_found"))
    | some old =>
        let row := { payload body old with updatedAt := some now }
        if rows.any fun other => other.id ≠ poolId && sameSubnet row other then (rows, .error subnetTaken)
        else (rows.map fun other => if other.id = poolId then row else other, answer row)

def deletePool (poolId : Int) (rows : List PoolRow) : List PoolRow × Bool :=
  (rows.filter fun row => row.id ≠ poolId, rows.any fun row => row.id = poolId)

/-- `SELECT * FROM ip_pools` with the four columns of a network, in the order of the subnets -/
def selectNetwork (kind : PoolKind) (networkName : String) (node : Option String) (vlanTag : Option Int)
    (rows : List PoolRow) : List PoolRow :=
  (rows.filter fun row => row.network = (kind, networkName, nodeToDb node, vlanToDb vlanTag)).insertionSort
    fun left right => left.cidr ≤ right.cidr

def poolsForNetwork (kind : PoolKind) (networkName : String) (node : Option String) (vlanTag : Option Int)
    (rows : List PoolRow) : Except (List FieldError) (List IpPoolResponse) :=
  (selectNetwork kind networkName node vlanTag rows).mapM fromRow

/-- The requests that write pools. A deletion that Plus blocks is none. -/
inductive PoolEvent where
  | create (request : PoolFields) (createdBy now : String)
  | update (poolId : Int) (request : PoolFields) (now : String)
  | delete (poolId : Int)

def poolStep (rows : List PoolRow) : PoolEvent → List PoolRow
  | .create request createdBy now => (createPool request createdBy now rows).1
  | .update poolId request now => (updatePool poolId request now rows).1
  | .delete poolId => (deletePool poolId rows).1

section Suggestion
open IpAddress

/-- The library refuses a text that is no address and a comparison across the two families. -/
inductive AddressError where
  | valueError (message : String)
  | typeError
  deriving DecidableEq

def parseNetwork (text : String) : Except AddressError Network :=
  match ipNetwork text.toList with
  | some network => .ok network
  | none => .error (.valueError ("'" ++ text ++ "' does not appear to be an IPv4 or IPv6 network"))

/-- An absent and an empty text are no address. -/
def optionalAddress (text : Option String) : Except AddressError (Option (Version × Nat)) :=
  match Text.truthy text with
  | none => .ok none
  | some text => match ipAddress text.toList with
    | some address => .ok (some address)
    | none => .error (.valueError ("'" ++ text ++ "' does not appear to be an IPv4 or IPv6 address"))

def lessThan (left right : Version × Nat) : Except AddressError Bool :=
  if left.1 = right.1 then .ok (left.2 < right.2) else .error .typeError

/-- A missing bound excludes nothing. -/
def below (host : Version × Nat) : Option (Version × Nat) → Except AddressError Bool
  | none => .ok false
  | some lo => lessThan host lo

def above (host : Version × Nat) : Option (Version × Nat) → Except AddressError Bool
  | none => .ok false
  | some hi => lessThan hi host

variable (strIpv6 : Nat → String)

def strAddress : Version × Nat → String
  | (.v4, address) => String.ofList (renderIpv4 address)
  | (.v6, address) => strIpv6 address

/-- The loop of `compute_free_ip` over the hosts. -/
def firstFree (gw lo hi : Option (Version × Nat)) (used : Finset String) (version : Version) :
    List Nat → Except AddressError (Option String)
  | [] => .ok none
  | host :: rest => do
      if ← below (version, host) lo then firstFree gw lo hi used version rest
      else if ← above (version, host) hi then firstFree gw lo hi used version rest
      else if gw = some (version, host) then firstFree gw lo hi used version rest
      else if strAddress strIpv6 (version, host) ∈ used then firstFree gw lo hi used version rest
      else return some (strAddress strIpv6 (version, host))

def computeFreeIp (pool : PoolFields) (used : Finset String) : Except AddressError (Option String) := do
  let net ← parseNetwork pool.cidr
  let gw ← optionalAddress pool.gateway
  let lo ← optionalAddress pool.rangeStart
  let hi ← optionalAddress pool.rangeEnd
  firstFree strIpv6 gw lo hi used net.version net.hosts

def getPool (poolId : Int) (rows : List PoolRow) : Except (List FieldError) (Option IpPoolResponse) :=
  match rows.find? fun row => row.id = poolId with
  | none => .ok none
  | some row => (fromRow row).map some

def ipInNet (ip : String) (net : Network) : Bool := (ipAddress ip.toList).any net.contains

structure SuggestResponse where
  poolId : Int
  ip : Option String
  bestEffort : Bool
  reason : Option String
  deriving DecidableEq

/-- A pool that cannot be read fails the request, as an address that cannot be read does. -/
inductive SuggestError where
  | responseValidation (errors : List FieldError)
  | address (error : AddressError)

/-- Only the used addresses of the network count. -/
def suggestFreeIp (poolId : Int) (used : Finset String) (rows : List PoolRow) :
    Except SuggestError (Option SuggestResponse) := do
  match ← (getPool poolId rows).mapError .responseValidation with
  | none => return none
  | some pool =>
      let net ← (parseNetwork pool.fields.cidr).mapError .address
      let ip ← (computeFreeIp strIpv6 pool.fields (used.filter fun ip => ipInNet ip net)).mapError .address
      return some ⟨poolId, ip, true, if (Text.truthy ip).isSome then none else some "pool_exhausted"⟩

end Suggestion
end P3Portal.Ipam
