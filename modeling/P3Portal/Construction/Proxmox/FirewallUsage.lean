import P3Portal.Foundation.PythonValue

namespace P3Portal.Proxmox

/-- `_s` of the firewall and of the HA router. -/
def cleanText (value : Foundation.JsonValue) : Option String := if value.blank then none else some value.str

/-- `_i` of the firewall and of the HA router. -/
def cleanInt (value : Foundation.JsonValue) : Option Int := if value.blank then none else value.toInt

namespace FirewallUsage
open Foundation

inductive ObjectKind where
  | group
  | ipset
  | aliasName
  deriving DecidableEq

/-- A text that names an IPSet or an alias without a scope. -/
def ObjectKind.target (kind : ObjectKind) (name : String) : String := if kind = .ipset then "+" ++ name else name

/-- The list that a field of a rule holds. -/
def tokens (raw : JsonObject) (field : String) : List String :=
  match cleanText (raw.get field) with
  | none => []
  | some value => if value = "" then [] else (Text.splitCommas value).map Text.strip

def callsGroup (raw : JsonObject) (name : String) : Bool :=
  Text.lowerWord (raw.getOr "type" (.text "")).str = "group" && cleanText (raw.get "action") = some name

def ruleMatches (kind : ObjectKind) (name : String) (raw : JsonObject) : Bool :=
  match kind with
  | .group => callsGroup raw name
  | _ => ["source", "dest"].any fun field => (tokens raw field).any fun token => token = kind.target name

def ruleSummary (raw : JsonObject) : String :=
  let optional (label field : String) : List String :=
    if (raw.get field).truthy then [label ++ (raw.get field).str] else []
  " ".intercalate ([(raw.getOr "type" (.text "?")).str, (raw.getOr "action" (.text "?")).str] ++
    optional "src=" "source" ++ optional "dst=" "dest" ++ optional "macro=" "macro")

inductive UsageLevel where
  | datacenter
  | node
  | guest
  deriving DecidableEq

/-- Where the rules of a read belong. -/
structure Place where
  level : UsageLevel
  node : Option String := none
  vmid : Option Int := none
  kind : Option String := none
  group : Option String := none
  deriving DecidableEq

structure FirewallUsageEntry where
  place : Place
  pos : Int
  rule : String
  deriving DecidableEq

def Place.usage (place : Place) (raw : JsonObject) : FirewallUsageEntry :=
  ⟨place, (cleanInt (raw.get "pos")).getD 0, ruleSummary raw⟩

/-- A read brings the content, or an answer without a list, which the client takes for an empty one, or it
raises an exception. -/
inductive Reading where
  | content
  | nothing
  | failed
  deriving DecidableEq

/-- What Proxmox holds and what the read of it comes to. -/
structure Held (A : Type) where
  content : List A
  reading : Reading

/-- The list that the client returns, if it returns one. -/
def Held.answer {A : Type} (held : Held A) : Option (List A) :=
  match held.reading with
  | .content => some held.content
  | .nothing => some []
  | .failed => none

/-- A failed read goes on with an empty list. -/
def Held.seen {A : Type} (held : Held A) : List A := held.answer.getD []

def Held.failed {A : Type} (held : Held A) : Bool := held.answer.isNone

/-- An entry of a list of groups, nodes or guests with the rules that belong to it. -/
structure Source where
  entry : JsonObject
  rules : Held JsonObject

/-- The content of a cluster with the outcome of every read. -/
structure Cluster where
  datacenter : Held JsonObject
  groups : Held Source
  nodes : Held Source
  guests : Held Source

def groupPlace (entry : JsonObject) : Place := { level := .datacenter, group := cleanText (entry.get "group") }

def nodePlace (entry : JsonObject) : Place := { level := .node, node := cleanText (entry.get "node") }

def guestKind (entry : JsonObject) : String :=
  if Text.lowerWord (entry.getOr "type" (.text "")).str = "lxc" then "lxc" else "qemu"

def guestPlace (entry : JsonObject) : Place :=
  { level := .guest, node := cleanText (entry.get "node"), vmid := cleanInt (entry.get "vmid"),
    kind := some (guestKind entry) }

/-- The rules of a named group are read. -/
def asksGroup (entry : JsonObject) : Bool := Text.truthy (cleanText (entry.get "group")) |>.isSome

/-- The rules of a named node are read when its status is one of these. -/
def asksNode (entry : JsonObject) : Bool :=
  (Text.truthy (cleanText (entry.get "node"))).isSome &&
    Text.lowerWord (entry.getOr "status" (.text "")).str ∈ ["", "online", "unknown"]

/-- The rules of a guest with a number and a node are read. -/
def asksGuest (entry : JsonObject) : Bool :=
  (entry.get "vmid").truthy && (cleanInt (entry.get "vmid")).isSome &&
    (Text.truthy (cleanText (entry.get "node"))).isSome

/-- One step reads the rules of the listed sources that its filter keeps. -/
def readsOf (asks : JsonObject → Bool) (place : JsonObject → Place) (sources : Held Source) :
    List (Place × Held JsonObject) :=
  (sources.seen.filter fun source => asks source.entry).map fun source => (place source.entry, source.rules)

/-- The reads of rules that the four steps make, in their order. -/
def ruleReads (cluster : Cluster) : List (Place × Held JsonObject) :=
  ({ level := .datacenter }, cluster.datacenter) :: (readsOf asksGroup groupPlace cluster.groups ++
    readsOf asksNode nodePlace cluster.nodes ++ readsOf asksGuest guestPlace cluster.guests)

/-- `_find_firewall_object_usage` collects the matches and notes every read that failed. -/
def findFirewallObjectUsage (cluster : Cluster) (kind : ObjectKind) (name : String) :
    List FirewallUsageEntry × Bool :=
  ((ruleReads cluster).flatMap fun read => (read.2.seen.filter (ruleMatches kind name)).map read.1.usage,
    cluster.groups.failed || cluster.nodes.failed || cluster.guests.failed ||
      (ruleReads cluster).any fun read => read.2.failed)

structure FirewallUsageResponse where
  inUse : Bool := false
  usages : List FirewallUsageEntry := []
  incomplete : Bool := false
  deriving DecidableEq

/-- The endpoint answers without a cluster that its token is missing for. -/
def checkFirewallObjectUsage (cluster : Option Cluster) (kind : ObjectKind) (name : String) : FirewallUsageResponse :=
  match cluster with
  | none => { incomplete := true }
  | some cluster =>
      let found := findFirewallObjectUsage cluster kind name
      ⟨!found.1.isEmpty, found.1, found.2⟩

end FirewallUsage
end P3Portal.Proxmox
