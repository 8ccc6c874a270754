import P3Portal.Construction.Database.Schema
import P3Portal.Construction.Http.Failure
import P3Portal.Foundation.IpAddress
import P3Portal.Foundation.UriPath
import P3Portal.Foundation.PythonText

namespace P3Portal.Proxmox
open Schema Foundation Http

/-- A call carries the ticket of a Proxmox login or the token of a service account. -/
inductive ProxmoxAuth where
  | cookie (ticket csrf : String)
  | token (tokenId secret : String)
  deriving DecidableEq

/-- A client is bound to one installation, or to the configured host when the URL is empty. -/
structure ProxmoxClient where
  baseUrlOverride : Option String
  verifyOverride : Option Bool
  deriving DecidableEq

def ProxmoxClient.create (baseUrl : Option String) (verifySsl : Option Bool) : ProxmoxClient where
  baseUrlOverride := (Text.truthy baseUrl).map (Text.rstrip '/')
  verifyOverride := verifySsl

/-- The base is the override unless that is empty, and else the configured host. -/
def ProxmoxClient.base (client : ProxmoxClient) (proxmoxHost : String) : String :=
  match Text.truthy client.baseUrlOverride with
  | some override => override
  | none => Text.rstrip '/' proxmoxHost

/-- Every endpoint builds the client of a portal node in this way. -/
def clientForNode (node : NodeRow) : ProxmoxClient :=
  .create (some node.url) (some node.verifySsl)

/-- The server keeps the ticket of a Proxmox login. -/
structure ProxmoxSession where
  ticket : String
  csrf : String
  deriving DecidableEq

/-- The portal reads these fields of an entry of `/cluster/resources`. -/
structure ClusterResource where
  vmid : Option Int
  node : Option String
  type : Option String
  deriving DecidableEq

/-- Proxmox answers a listing, and the portal remembers the sessions of its users there. -/
structure Installations where
  getSession : String → Option ProxmoxSession
  getClusterResources : ProxmoxClient → ProxmoxAuth → Except ProxmoxError (List ClusterResource)

inductive Method where
  | get
  | post
  | put
  | delete
  deriving DecidableEq

/-- The base URL of an installation is an origin with a path that requests are appended to. -/
structure BaseUrl where
  origin : String
  path : String := ""
  deriving DecidableEq

/-- The interpolated path is handed to the HTTP library as it is. -/
structure Request where
  method : Method
  origin : String
  path : String
  deriving DecidableEq

/-- A path parameter of one segment is not empty and has no slash; any other text may arrive. -/
structure PathParameter where
  text : String
  filled : text ≠ ""
  noSlash : '/' ∉ text.toList

/-- Every type that is not a container counts as a virtual machine. -/
def kindOf (vmType : String) : String := if vmType = "lxc" then "lxc" else "qemu"

section Client
variable (base : BaseUrl)

def vmBase (node : String) (vmid : Int) (vmType : String) : String :=
  base.path ++ "/api2/json/nodes/" ++ node ++ "/" ++ kindOf vmType ++ "/" ++ toString vmid

def vmPowerAction (node : String) (vmid : Int) (action vmType : String) : Request where
  method := .post
  origin := base.origin
  path := vmBase base node vmid vmType ++ "/status/" ++ action

def rollbackSnapshot (node : String) (vmid : Int) (name vmType : String) : Request where
  method := .post
  origin := base.origin
  path := vmBase base node vmid vmType ++ "/snapshot/" ++ name ++ "/rollback"

def deleteSnapshot (node : String) (vmid : Int) (name vmType : String) : Request where
  method := .delete
  origin := base.origin
  path := vmBase base node vmid vmType ++ "/snapshot/" ++ name

def deleteVm (node : String) (vmid : Int) (vmType : String) : Request where
  method := .delete
  origin := base.origin
  path := vmBase base node vmid vmType

/-- All firewall calls share this helper, which takes a path below `/api2/json`. -/
def firewallRequest (method : Method) (path : String) : Request where
  method := method
  origin := base.origin
  path := base.path ++ "/api2/json/" ++ path

def deleteFirewallIpsetEntry (name cidr : String) : Request :=
  firewallRequest base .delete ("cluster/firewall/ipset/" ++ name ++ "/" ++ cidr)

def deleteGuestFirewallIpsetEntry (node : String) (vmid : Int) (kind name cidr : String) : Request :=
  firewallRequest base .delete ("nodes/" ++ node ++ "/" ++ kind ++ "/" ++ toString vmid ++
    "/firewall/ipset/" ++ name ++ "/" ++ cidr)

/-- The storage is the text before the first colon of the volume; only the volume is quoted. -/
def deleteIso (node volid : String) : Except Failure Request :=
  if ':' ∉ volid.toList then raise 422 ("Ungültiges volid-Format: " ++ volid)
  else
    let storage := String.ofList (volid.toList.takeWhile (· ≠ ':'))
    let encodedVolid := String.ofList (PercentEncoding.quote volid.toList)
    .ok { method := .delete
          origin := base.origin
          path := base.path ++ "/api2/json/nodes/" ++ node ++ "/storage/" ++ storage ++ "/content/" ++
            encodedVolid }

end Client

/-- The firewall endpoints refuse an entry that is neither an address nor a network. -/
def assertSafeIpsetCidr (cidr : String) : Except Failure Unit :=
  if (IpAddress.ipNetwork cidr.toList).isSome then .ok ()
  -- The source prints the entry as a Python literal.
  else raise 422 ("Invalid IPSet entry '" ++ cidr ++ "' (expected an IP or CIDR)")

/-- These requests reach the client with values that the routers deliver. -/
inductive Operation where
  | rollbackSnapshot (node : String) (vmid : Int) (vmType : String) (snapName : PathParameter)
  | deleteSnapshot (node : String) (vmid : Int) (vmType : String) (snapName : PathParameter)
  | deleteIso (node volid : String)
  | deleteIpsetEntry (name : PathParameter) (cidr : String)
  | deleteGuestIpsetEntry (node : String) (vmid : Int) (vmType : String) (name : PathParameter)
      (cidr : String)

/-- The endpoint validates its values and makes the call. -/
def Operation.call (base : BaseUrl) : Operation → Except Failure Request
  | .rollbackSnapshot node vmid vmType snapName =>
      .ok (Proxmox.rollbackSnapshot base node vmid snapName.text vmType)
  | .deleteSnapshot node vmid vmType snapName =>
      .ok (Proxmox.deleteSnapshot base node vmid snapName.text vmType)
  | .deleteIso node volid => Proxmox.deleteIso base node volid
  | .deleteIpsetEntry name cidr => do
      assertSafeIpsetCidr cidr
      return deleteFirewallIpsetEntry base name.text cidr
  | .deleteGuestIpsetEntry node vmid vmType name cidr => do
      assertSafeIpsetCidr cidr
      return deleteGuestFirewallIpsetEntry base node vmid (kindOf vmType) name.text cidr
end P3Portal.Proxmox
