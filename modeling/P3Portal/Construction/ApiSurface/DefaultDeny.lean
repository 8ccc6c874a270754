import Mathlib.Algebra.Order.Ring.Rat
import Mathlib.Data.Rat.Defs
import P3Portal.Construction.Auth.CurrentUser
import P3Portal.Foundation.CallTree
import P3Portal.Foundation.OrderedMap
import P3Portal.Foundation.PythonText
import P3Portal.Foundation.Run

namespace P3Portal.ApiSurface
open Foundation Auth Schema Http

/-- The framework splits the header at the first space and compares the scheme without regard to case. -/
def httpBearer (header : Option String) : Option String :=
  match header with
  | none => none
  | some authorization =>
      let (scheme, credentials) := Text.partition ' ' authorization
      if authorization = "" || scheme = "" || credentials = "" then none
      else if Text.lower scheme ≠ "bearer" then none
      else some credentials

/-- A token with the prefix of the personal keys is looked up, and any other one is decoded. -/
def readBearer (decodeAccessToken : String → Option Claims) (header : Option String) : Option Bearer :=
  (httpBearer header).map fun token =>
    if Text.startsWith "upk_" token then .apiKey token
    else match decodeAccessToken token with
      | some claims => .signed claims
      | none => .unsigned

/-- The doorman splits the header like the framework. -/
def doormanKey (header : Option String) : Option String :=
  let (scheme, credentials) := Text.partition ' ' (header.getD "")
  if Text.lower scheme ≠ "bearer" || !Text.startsWith "upk_" credentials then none else some credentials

/-- The rate limit looks for one spelling of the start of the header and takes the rest as the token. -/
def rateLimitKey (header : Option String) : Option String :=
  let auth := header.getD ""
  if Text.startsWith "Bearer upk_" auth then some (String.ofList (auth.toList.drop "Bearer ".length)) else none

def schemeOf (header : Option String) : String := (Text.partition ' ' (header.getD "")).1

def scopeAliases : List (String × String) :=
  [("jobs:start", "jobs:write"), ("packer:start", "packer:write")]

def canonicalScope (scope : String) : String := (scopeAliases.lookup scope).getD scope

/-- A dependency is one of the functions of the interface or any other function of the portal. -/
inductive Call where
  | upkDoorman
  | getCurrentUser
  | requireScopeForUpk (scope : String)
  | other (name : String)
  deriving DecidableEq

/-- Only the scope check carries the marker. -/
def Call.upkScopeRequired : Call → Option String
  | .requireScopeForUpk scope => some (canonicalScope scope)
  | _ => none

abbrev Dependant := CallTree Call

def dependantHasScope (dependant : Dependant) : Bool :=
  dependant.anyCall fun call => call.upkScopeRequired.isSome

/-- The scopes that are marked at any depth. -/
def markedScopes (dependant : Dependant) : List String := dependant.calls.filterMap Call.upkScopeRequired

inductive RouteKind where
  | api
  | webSocket
  deriving DecidableEq

structure Route where
  kind : RouteKind := .api
  endpoint : String
  dependencies : List Dependant := []

/-- The global dependency comes before those of the route. -/
def Route.allDependencies (route : Route) : List Dependant := .node (some .upkDoorman) [] :: route.dependencies

def Route.dependant (route : Route) : Dependant := .node (some (.other route.endpoint)) route.allDependencies

/-- The inventory holds the endpoint functions of the routes with a marker. -/
def buildScopedEndpointInventory (routes : List Route) : List String :=
  (routes.filter fun route => route.kind = .api && dependantHasScope route.dependant).map Route.endpoint

def exemptUpkPaths : List String := ["/api/version", "/api/scopes/manifest"]

structure Request where
  path : String
  authorization : Option String

def upkDoorman (scopedEndpoints : List String) (endpoint : String) (request : Request) :
    Except HttpException Unit :=
  if (doormanKey request.authorization).isNone then .ok ()
  else if request.path ∈ exemptUpkPaths then .ok ()
  else if endpoint ∈ scopedEndpoints then .ok ()
  else .error ⟨403, "This endpoint is not available to API keys (no scope declared)"⟩

/-- A session passes, and a key passes when its resolved scopes contain the required one. -/
def requireScopeForUpk (scope : String) (currentUser : CurrentUser) : Except HttpException Unit :=
  if currentUser.authKind ≠ .upk then .ok ()
  else if canonicalScope scope ∈ (currentUser.scopes.getD []).map canonicalScope then .ok ()
  else .error ⟨403, "Insufficient scope – '" ++ canonicalScope scope ++ "' required"⟩

/-- The portal registers its routes with a framework; the other dependencies answer as they like. -/
structure Surface where
  routes : List Route
  framework : CallTree.Framework Call HttpException
  db : Database := {}
  table : TableHealth := .ready
  decodeAccessToken : String → Option Claims
  other : String → Request → Except HttpException Unit

section
variable (surface : Surface)

/-- The key service gives its answer about the key of the request. -/
def Surface.currentUser (answer : Except String (Option KeyInfo)) (request : Request) :
    Except HttpException CurrentUser :=
  getCurrentUser (fun _ => answer) surface.db surface.table
    (readBearer surface.decodeAccessToken request.authorization)

/-- A function that needs an HTTP request breaks the handshake of a socket. -/
def missingRequest : HttpException := ⟨500, "Internal Server Error"⟩

def Surface.run (answer : Except String (Option KeyInfo)) (route : Route) (request : Request) :
    Call → Except HttpException Unit
  | .upkDoorman =>
      if route.kind = .webSocket then .ok ()
      else upkDoorman (buildScopedEndpointInventory surface.routes) route.endpoint request
  | .getCurrentUser =>
      if route.kind = .webSocket then .error missingRequest
      else (surface.currentUser answer request).map fun _ => ()
  | .requireScopeForUpk scope =>
      if route.kind = .webSocket then .error missingRequest
      else match surface.currentUser answer request with
        | .error exception => .error exception
        | .ok currentUser => requireScopeForUpk scope currentUser
  | .other name => surface.other name request

/-- The body of the endpoint runs behind all dependencies. -/
def Surface.Reaches (answer : Except String (Option KeyInfo)) (route : Route) (request : Request) : Prop :=
  surface.framework.resolveAll (surface.run answer route request) route.allDependencies = .ok ()
end

/-- The tokens and the times are exact numbers. -/
structure BucketState where
  tokens : ℚ
  lastRefill : ℚ
  deriving DecidableEq

/-- The middleware keeps one bucket for each key. -/
structure UpkRateLimitMiddleware where
  capacity : Int
  buckets : OrderedMap String BucketState

/-- A request brings its header, and the clock is read when its bucket is made and when it is filled. -/
structure Arrival where
  header : Option String
  created : ℚ
  now : ℚ

inductive LimitAnswer where
  | unlimited
  | admitted
  | refused (retryAfter : Int)
  | zeroDivisionError
  deriving DecidableEq

/-- `int` cuts the fraction off. -/
def truncated (number : ℚ) : Int := number.num.tdiv number.den

namespace UpkRateLimitMiddleware

/-- The limit of the environment stands in for a missing limit and for the limit 0. -/
def init (ratePerMin : Option Int) (rateLimitPerMin : Int) : UpkRateLimitMiddleware where
  capacity := match ratePerMin with
    | some rate => if rate = 0 then rateLimitPerMin else rate
    | none => rateLimitPerMin
  buckets := .empty

variable (middleware : UpkRateLimitMiddleware)

def refillRate : ℚ := middleware.capacity / 60

def getBucket (keyPrefix : String) (created : ℚ) : BucketState :=
  (middleware.buckets.get? keyPrefix).getD ⟨middleware.capacity, created⟩

def store (keyPrefix : String) (bucket : BucketState) : UpkRateLimitMiddleware :=
  { middleware with buckets := middleware.buckets.set keyPrefix bucket }

/-- Nothing else runs between the two readings and writings of a bucket. -/
def consume (keyPrefix : String) (created now : ℚ) : UpkRateLimitMiddleware × LimitAnswer :=
  let bucket := middleware.getBucket keyPrefix created
  let elapsed := now - bucket.lastRefill
  let tokens := min (middleware.capacity : ℚ) (bucket.tokens + elapsed * middleware.refillRate)
  if 1 ≤ tokens then (middleware.store keyPrefix ⟨tokens - 1, now⟩, .admitted)
  else
    (middleware.store keyPrefix ⟨tokens, now⟩,
      if middleware.refillRate = 0 then .zeroDivisionError
      else .refused (truncated ((1 - tokens) / middleware.refillRate) + 1))

/-- The first characters of the token name its bucket. -/
def keyPrefix (arrival : Arrival) : Option String :=
  (rateLimitKey arrival.header).map fun token => String.ofList (token.toList.take 16)

def dispatch (arrival : Arrival) : UpkRateLimitMiddleware × LimitAnswer :=
  match keyPrefix arrival with
  | none => (middleware, .unlimited)
  | some key => middleware.consume key arrival.created arrival.now

/-- The middleware after a request. -/
def step (arrival : Arrival) : UpkRateLimitMiddleware := (middleware.dispatch arrival).1

end UpkRateLimitMiddleware
end P3Portal.ApiSurface
