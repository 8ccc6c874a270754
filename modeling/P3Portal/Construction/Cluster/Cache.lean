import P3Portal.Foundation.Interleaving
import P3Portal.Foundation.OrderedMap
import P3Portal.Foundation.Run

namespace P3Portal.Cluster
open Foundation

/-- One entry is kept for each portal node and endpoint. -/
structure CacheKey where
  nodeId : Int
  endpoint : String
  deriving DecidableEq

/-- A stored answer. The last three fields are not in the cache; they tell the call that fetched the answer and
the moments at which the fetch started and completed. -/
structure CacheEntry (Data : Type) where
  data : Data
  fetchedAt : Nat
  isStale : Bool := false
  fetchedBy : Nat
  started : Nat
  completed : Nat
  deriving DecidableEq

/-- The arguments of a call. A poll interval counts the ticks of the clock. -/
structure Request where
  key : CacheKey
  ttl : Int
  force : Bool := false
  hasOnFreshData : Bool := false
  deriving DecidableEq

/-- An answer is found in the cache, fetched by the call itself, or an expired one after a failed fetch. -/
inductive Way where
  | cached
  | fetched
  | stale
  deriving DecidableEq

/-- A call ends with an entry, at a moment and a time, with the exception of its fetch, or by its cancellation. -/
inductive Outcome (Data : Type) where
  | returned (entry : CacheEntry Data) (way : Way) (moment now : Nat)
  | raised
  | cancelled
  deriving DecidableEq

/-- A call waits for the lock of its key, awaits its fetch since a moment with the entry that it found, or is done. -/
inductive Phase (Data : Type) where
  | waiting
  | fetching (started : Nat) (entry : Option (CacheEntry Data))
  | done (outcome : Outcome Data)
  deriving DecidableEq

structure Call (Data : Type) where
  request : Request
  calledAt : Nat
  phase : Phase Data
  deriving DecidableEq

/-- A callback task that was created for fresh data. -/
structure FreshData (Data : Type) where
  key : CacheKey
  data : Data
  deriving DecidableEq

/-- The cache, its locked locks and the clock. The moment counts the events so far. -/
structure ClusterCache (Data : Type) where
  entries : OrderedMap CacheKey (CacheEntry Data) := .empty
  locked : List CacheKey := []
  now : Nat := 0
  freshData : List (FreshData Data) := []
  moment : Nat := 0

variable {Data : Type}

namespace ClusterCache

def isExpired (cache : ClusterCache Data) (entry : CacheEntry Data) (ttl : Int) : Bool :=
  ttl ≤ (cache.now : Int) - entry.fetchedAt

def invalidateAll (cache : ClusterCache Data) : ClusterCache Data := { cache with entries := .empty }

def invalidateNode (cache : ClusterCache Data) (nodeId : Int) : ClusterCache Data :=
  { cache with entries := cache.entries.filter fun key _ => key.nodeId ≠ nodeId }

/-- The entry of a key counts while it is not expired. -/
def valid (cache : ClusterCache Data) (request : Request) : Option (CacheEntry Data) :=
  (cache.entries.get? request.key).filter fun entry => !cache.isExpired entry request.ttl

/-- `get_or_fetch` up to the lock of the key. -/
def getOrFetch (cache : ClusterCache Data) (request : Request) : ClusterCache Data × Call Data :=
  let cache := if request.force then cache.invalidateAll else cache
  match cache.valid request with
  | some entry => (cache, ⟨request, cache.moment, .done (.returned entry .cached cache.moment cache.now)⟩)
  | none => (cache, ⟨request, cache.moment, .waiting⟩)

/-- A waiting call that gets the lock looks at the cache again and then starts its fetch. -/
def acquire (cache : ClusterCache Data) (call : Call Data) : ClusterCache Data × Call Data :=
  match call.phase with
  | .waiting =>
      if call.request.key ∈ cache.locked then (cache, call)
      else match cache.valid call.request with
        | some entry => (cache, { call with phase := .done (.returned entry .cached cache.moment cache.now) })
        | none => ({ cache with locked := call.request.key :: cache.locked },
            { call with phase := .fetching cache.moment (cache.entries.get? call.request.key) })
  | _ => (cache, call)

/-- The answer of the fetch is stored, the callback gets its task and the lock is released. -/
def complete (index : Nat) (data : Data) (cache : ClusterCache Data) (call : Call Data) :
    ClusterCache Data × Call Data :=
  match call.phase with
  | .fetching started _ =>
      let entry : CacheEntry Data := ⟨data, cache.now, false, index, started, cache.moment⟩
      ({ cache with
          entries := cache.entries.set call.request.key entry
          locked := cache.locked.erase call.request.key
          freshData := if call.request.hasOnFreshData then cache.freshData ++ [⟨call.request.key, data⟩]
            else cache.freshData },
        { call with phase := .done (.returned entry .fetched cache.moment cache.now) })
  | _ => (cache, call)

/-- Only the call with the lock stores under its key, so that a stored entry is the one that the call found. -/
def markStale (cache : ClusterCache Data) (key : CacheKey) : OrderedMap CacheKey (CacheEntry Data) :=
  match cache.entries.get? key with
  | none => cache.entries
  | some entry => cache.entries.set key { entry with isStale := true }

/-- After a failed fetch the found entry is returned, however old it is. -/
def giveUp (cache : ClusterCache Data) (call : Call Data) : ClusterCache Data × Call Data :=
  match call.phase with
  | .fetching _ none =>
      ({ cache with locked := cache.locked.erase call.request.key }, { call with phase := .done .raised })
  | .fetching _ (some entry) =>
      ({ cache with
          entries := cache.markStale call.request.key
          locked := cache.locked.erase call.request.key },
        { call with phase := .done (.returned { entry with isStale := true } .stale cache.moment cache.now) })
  | _ => (cache, call)

/-- The cancellation of a call is no exception that the call handles; it only releases the lock. -/
def cancel (cache : ClusterCache Data) (call : Call Data) : ClusterCache Data × Call Data :=
  match call.phase with
  | .waiting => (cache, { call with phase := .done .cancelled })
  | .fetching _ _ =>
      ({ cache with locked := cache.locked.erase call.request.key }, { call with phase := .done .cancelled })
  | .done _ => (cache, call)

end ClusterCache

/-- The event loop starts a call, resumes one at its lock or at its fetch, or runs an invalidation; time passes.
A lock serves its waiters in order; here any waiter may be resumed. -/
inductive CacheEvent (Data : Type) where
  | call (request : Request)
  | resume (index : Nat)
  | succeed (index : Nat) (data : Data)
  | fail (index : Nat)
  | cancel (index : Nat)
  | invalidateAll
  | invalidateNode (nodeId : Int)
  | elapse (ticks : Nat)
  deriving DecidableEq

abbrev CacheState (Data : Type) := Interleaved (ClusterCache Data) (Call Data)

/-- One event without the count of the moments. -/
def perform (state : CacheState Data) : CacheEvent Data → CacheState Data
  | .call request =>
      let (cache, call) := state.shared.getOrFetch request
      { state with shared := cache }.spawn call
  | .resume index => state.act ClusterCache.acquire index
  | .succeed index data => state.act (ClusterCache.complete index data) index
  | .fail index => state.act ClusterCache.giveUp index
  | .cancel index => state.act ClusterCache.cancel index
  | .invalidateAll => { state with shared := state.shared.invalidateAll }
  | .invalidateNode nodeId => { state with shared := state.shared.invalidateNode nodeId }
  | .elapse ticks => { state with shared := { state.shared with now := state.shared.now + ticks } }

/-- The state after an event counts one moment more than the state before it. -/
def counted (before after : CacheState Data) : CacheState Data :=
  { after with shared := { after.shared with moment := before.shared.moment + 1 } }

def cacheStep (state : CacheState Data) (event : CacheEvent Data) : CacheState Data :=
  counted state (perform state event)

/-- The service starts with an empty cache and without calls. -/
def CacheState.initial : CacheState Data := ⟨{}, []⟩

end P3Portal.Cluster
