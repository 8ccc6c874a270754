import P3Portal.Construction.ApiSurface.DefaultDeny

namespace P3Portal.ApiSurface
open Schema Foundation Auth Http

section
variable {header : Option String} {key : String}

/-- The framework hands over the part behind the first space of a header whose scheme is the bearer scheme. -/
theorem httpBearer_eq_some (presented : httpBearer header = some key) :
    Text.lower (schemeOf header) = "bearer" ∧ (Text.partition ' ' (header.getD "")).2 = key := by
  cases header with
  | none => cases presented
  | some authorization =>
      simp only [httpBearer] at presented
      split at presented
      · cases presented
      · split at presented
        · cases presented
        · rename_i known
          exact ⟨not_not.mp known, Option.some.inj presented⟩

/-- The doorman sees the key of every request that presents one. -/
theorem doormanKey_of_presented (presented : httpBearer header = some key)
    (upk : Text.startsWith "upk_" key = true) : doormanKey header = some key := by
  obtain ⟨scheme, credentials⟩ := httpBearer_eq_some presented
  rw [schemeOf] at scheme
  simp [doormanKey, scheme, credentials, upk]

/-- The rate limit sees a key exactly behind the one spelling of the scheme. -/
theorem rateLimitKey_eq_some_iff (upk : Text.startsWith "upk_" key = true) :
    rateLimitKey header = some key ↔ Text.partition ' ' (header.getD "") = ("Bearer", key) := by
  have spelled : "Bearer upk_".toList = "Bearer".toList ++ ' ' :: "upk_".toList := by decide
  obtain ⟨keyRest, keyChars⟩ := (Text.startsWith_iff "upk_" key).mp upk
  constructor
  · intro limited
    simp only [rateLimitKey] at limited
    split at limited
    · rename_i starts
      obtain ⟨rest, chars⟩ := (Text.startsWith_iff _ _).mp starts
      have split : (header.getD "").toList = "Bearer".toList ++ ' ' :: ("upk_".toList ++ rest) := by
        rw [chars, spelled]
        simp
      have token := Option.some.inj limited
      rw [Text.partition_of_split (by decide) split, ← token, split]
      rfl
    · cases limited
  · intro parts
    have nonempty : (Text.partition ' ' (header.getD "")).2 ≠ "" := by
      rw [parts]
      intro empty
      change key = "" at empty
      rw [empty] at upk
      revert upk
      decide
    have split := Text.split_of_partition nonempty
    rw [parts] at split
    have starts : Text.startsWith "Bearer upk_" (header.getD "") = true := by
      apply (Text.startsWith_iff _ _).mpr
      refine ⟨keyRest, ?_⟩
      rw [split, spelled]
      simp [keyChars]
    have dropped : (header.getD "").toList.drop "Bearer ".length = key.toList := by
      have word : "Bearer".toList = ['B', 'e', 'a', 'r', 'e', 'r'] := by decide
      have length : "Bearer ".length = 7 := by decide
      rw [split, word, length]
      rfl
    simp [rateLimitKey, starts, dropped]

/-- Only a personal key makes the current user a user of the interface. -/
theorem presented_of_upk {authenticateUserKey : String → Except String (Option KeyInfo)} {db : Database}
    {table : TableHealth} {decodeAccessToken : String → Option Claims} {user : CurrentUser}
    (authenticated : getCurrentUser authenticateUserKey db table (readBearer decodeAccessToken header) = .ok user)
    (kind : user.authKind = .upk) :
    ∃ key, httpBearer header = some key ∧ Text.startsWith "upk_" key = true := by
  cases presented : httpBearer header with
  | none =>
      rw [readBearer, presented] at authenticated
      cases authenticated
  | some token =>
      refine ⟨token, rfl, ?_⟩
      by_contra other
      rw [readBearer, presented, Option.map_some, if_neg other] at authenticated
      cases decoded : decodeAccessToken token with
      | none =>
          rw [decoded] at authenticated
          cases authenticated
      | some claims =>
          simp only [decoded, getCurrentUser] at authenticated
          split at authenticated
          · cases authenticated
          · split at authenticated
            · cases authenticated
            · split at authenticated
              · cases authenticated
              · rw [← Except.ok.inj authenticated] at kind
                cases kind

/-- For a request that is authenticated with a personal key, the doorman and the rate limit both see that key
exactly when the scheme is spelled with one capital letter. -/
theorem header_read_alike_iff (authenticateUserKey : String → Except String (Option KeyInfo)) (db : Database)
    (table : TableHealth) (decodeAccessToken : String → Option Claims) (header : Option String) (user : CurrentUser)
    (authenticated : getCurrentUser authenticateUserKey db table (readBearer decodeAccessToken header) = .ok user)
    (kind : user.authKind = .upk) :
    (∀ key, httpBearer header = some key → doormanKey header = some key ∧ rateLimitKey header = some key) ↔
      schemeOf header = "Bearer" := by
  obtain ⟨key, presented, upk⟩ := presented_of_upk authenticated kind
  have credentials := (httpBearer_eq_some presented).2
  constructor
  · intro alike
    have limited := (alike key presented).2
    rw [schemeOf, (rateLimitKey_eq_some_iff upk).mp limited]
  · intro scheme other presentedOther
    rw [Option.some.inj (presentedOther.symm.trans presented)]
    refine ⟨doormanKey_of_presented presented upk, (rateLimitKey_eq_some_iff upk).mpr ?_⟩
    exact Prod.ext scheme credentials

section Spellings
/-- One stored key belongs to Anna. -/
def annaKey : KeyInfo where
  keyId := 1
  userId := some 1
  username := "anna"
  role := .operator
  scopes := ["jobs:read"]

def findKey (key : String) : Except String (Option KeyInfo) :=
  .ok (if key = "upk_ab" then some annaKey else none)

theorem capital_read_alike :
    httpBearer (some "Bearer upk_ab") = some "upk_ab" ∧
      ∀ key, httpBearer (some "Bearer upk_ab") = some key →
        doormanKey (some "Bearer upk_ab") = some key ∧ rateLimitKey (some "Bearer upk_ab") = some key := by
  refine ⟨by decide, ?_⟩
  exact (header_read_alike_iff findKey {} .ready (fun _ => none) (some "Bearer upk_ab")
    { username := "anna", authType := .localUser, role := .operator, userId := some 1, authKind := .upk,
        scopes := some ["jobs:read"], apiKeyId := some 1 } (by decide) rfl).mpr (by decide)

/-- A scheme in small letters is authenticated, and the rate limit does not see the key. -/
theorem small_scheme_unlimited :
    ¬ ∀ (authenticateUserKey : String → Except String (Option KeyInfo)) (db : Database) (table : TableHealth)
      (decodeAccessToken : String → Option Claims) (header : Option String) (user : CurrentUser),
      getCurrentUser authenticateUserKey db table (readBearer decodeAccessToken header) = .ok user →
        user.authKind = .upk →
          ∀ key, httpBearer header = some key → doormanKey header = some key ∧ rateLimitKey header = some key := by
  intro claim
  have alike := claim findKey {} .ready (fun _ => none) (some "bearer upk_ab")
    { username := "anna", authType := .localUser, role := .operator, userId := some 1, authKind := .upk,
      scopes := some ["jobs:read"], apiKeyId := some 1 } (by decide) rfl "upk_ab" (by decide)
  revert alike
  decide

end Spellings
end

/-- A request carries a personal key. -/
def Request.Presents (request : Request) (key : String) : Prop :=
  httpBearer request.authorization = some key ∧ Text.startsWith "upk_" key = true

/-- A key reaches the body of an endpoint only through the list of exempt paths or a marker, it holds all marked
scopes then, and fewer scopes never open more. -/
structure DefaultDeny (surface : Surface) (route : Route) : Prop where
  declared : ∀ request key answer, request.Presents key → surface.Reaches answer route request →
    request.path ∈ exemptUpkPaths ∨ markedScopes route.dependant ≠ []
  covered : ∀ request key answer, request.Presents key → surface.Reaches answer route request →
    ∀ scope ∈ markedScopes route.dependant, ∃ info : KeyInfo,
      answer = .ok (some info) ∧ scope ∈ info.scopes.map canonicalScope
  monotone : ∀ request key (info : KeyInfo) fewer, request.Presents key → fewer ⊆ info.scopes →
    surface.Reaches (.ok (some { info with scopes := fewer })) route request →
      surface.Reaches (.ok (some info)) route request

/-- The routes of one endpoint function all carry a marker or none does. -/
def OneScopeState (routes : List Route) (endpoint : String) : Prop :=
  ∀ first ∈ routes, ∀ second ∈ routes, first.kind = .api → second.kind = .api →
    first.endpoint = endpoint → second.endpoint = endpoint →
      dependantHasScope first.dependant = dependantHasScope second.dependant

/-- The recursion finds a tree exactly when a scope is marked in it. -/
theorem dependantHasScope_iff (dependant : Dependant) :
    dependantHasScope dependant = true ↔ markedScopes dependant ≠ [] := by
  have marked : markedScopes dependant ≠ [] ↔ ∃ call ∈ dependant.calls, call.upkScopeRequired.isSome = true := by
    simp only [markedScopes, ne_eq, List.filterMap_eq_nil_iff, not_forall, ← Option.ne_none_iff_isSome, exists_prop]
  rw [marked, dependantHasScope, CallTree.anyCall_eq, List.any_eq_true]

theorem mem_markedScopes {route : Route} {scope : String} (marked : scope ∈ markedScopes route.dependant) :
    ∃ required, Call.requireScopeForUpk required ∈ CallTree.callsAll route.allDependencies ∧
      canonicalScope required = scope := by
  obtain ⟨call, member, marker⟩ := List.mem_filterMap.mp marked
  cases call with
  | upkDoorman => cases marker
  | getCurrentUser => cases marker
  | other name => cases marker
  | requireScopeForUpk required =>
      rw [Route.dependant, CallTree.calls_node, List.mem_append] at member
      rcases member with inside | root
      · exact ⟨required, inside, Option.some.inj marker⟩
      · simp at root

section Key
variable {surface : Surface} {route : Route} {request : Request} {key : String}
  {answer : Except String (Option KeyInfo)}

/-- The current user of a request with a key is the one that the key service names. -/
theorem currentUser_of_presented (presents : request.Presents key) :
    surface.currentUser answer request =
      getCurrentUser (fun _ => answer) surface.db surface.table (some (.apiKey key)) := by
  rw [Surface.currentUser, readBearer, presents.1, Option.map_some, if_pos presents.2]

theorem run_of_reaches (reaches : surface.Reaches answer route request) {call : Call}
    (member : call ∈ CallTree.callsAll route.allDependencies) : surface.run answer route request call = .ok () :=
  (surface.framework.resolveAll_eq_ok_iff _ _).mp reaches call member

/-- The doorman lets a key pass only to exempt paths and to endpoint functions of the inventory. -/
theorem doorman_passes (presents : request.Presents key) (http : route.kind = .api)
    (reaches : surface.Reaches answer route request) :
    request.path ∈ exemptUpkPaths ∨ route.endpoint ∈ buildScopedEndpointInventory surface.routes := by
  have first : Call.upkDoorman ∈ CallTree.callsAll route.allDependencies := by simp [Route.allDependencies]
  have passes := run_of_reaches reaches first
  have seen := doormanKey_of_presented presents.1 presents.2
  simp only [Surface.run, http, reduceCtorEq, if_false, upkDoorman, seen, Option.isNone_some, Bool.false_eq_true]
    at passes
  by_cases exempt : request.path ∈ exemptUpkPaths
  · exact .inl exempt
  · by_cases listed : route.endpoint ∈ buildScopedEndpointInventory surface.routes
    · exact .inr listed
    · simp [exempt, listed] at passes

/-- A scope check lets a key pass only with the required scope. -/
theorem scopeCheck_passes {scope : String} (presents : request.Presents key)
    (passes : surface.run answer route request (.requireScopeForUpk scope) = .ok ()) :
    ∃ info : KeyInfo, answer = .ok (some info) ∧ canonicalScope scope ∈ info.scopes.map canonicalScope := by
  simp only [Surface.run, currentUser_of_presented presents] at passes
  split at passes
  · cases passes
  · cases answer with
    | error reason => simp [getCurrentUser] at passes
    | ok found =>
        cases found with
        | none => simp [getCurrentUser] at passes
        | some info =>
            refine ⟨info, rfl, ?_⟩
            by_contra missing
            simp [getCurrentUser, requireScopeForUpk, missing] at passes

/-- A call that passes with fewer scopes passes with more. -/
theorem run_mono {info : KeyInfo} {fewer : List String} (presents : request.Presents key)
    (subset : fewer ⊆ info.scopes) (call : Call)
    (passes : surface.run (.ok (some { info with scopes := fewer })) route request call = .ok ()) :
    surface.run (.ok (some info)) route request call = .ok () := by
  cases call with
  | upkDoorman => exact passes
  | other name => exact passes
  | getCurrentUser =>
      simp only [Surface.run, currentUser_of_presented presents, getCurrentUser] at passes ⊢
      exact passes
  | requireScopeForUpk scope =>
      obtain ⟨stored, same, holds⟩ := scopeCheck_passes presents passes
      rw [← Option.some.inj (Except.ok.inj same)] at holds
      have more : canonicalScope scope ∈ info.scopes.map canonicalScope := List.map_subset canonicalScope subset holds
      simp only [Surface.run] at passes ⊢
      split at passes
      · cases passes
      · rename_i http
        rw [if_neg http, currentUser_of_presented presents]
        simp [getCurrentUser, requireScopeForUpk, more]

end Key

/-- On HTTP routes whose endpoint function has one scope state, personal keys are denied by default. -/
theorem default_deny (surface : Surface) (route : Route) (registered : route ∈ surface.routes)
    (http : route.kind = .api) (oneState : OneScopeState surface.routes route.endpoint) :
    DefaultDeny surface route := by
  refine ⟨?_, ?_, ?_⟩
  · intro request key answer presents reaches
    rcases doorman_passes presents http reaches with exempt | listed
    · exact .inl exempt
    · right
      obtain ⟨twin, member, same⟩ := List.mem_map.mp listed
      obtain ⟨twinRegistered, selected⟩ := List.mem_filter.mp member
      rw [Bool.and_eq_true, decide_eq_true_eq] at selected
      rw [← dependantHasScope_iff, oneState route registered twin twinRegistered http selected.1 rfl same]
      exact selected.2
  · intro request key answer presents reaches scope marked
    obtain ⟨required, member, canonical⟩ := mem_markedScopes marked
    rw [← canonical]
    exact scopeCheck_passes presents (run_of_reaches reaches member)
  · intro request key info fewer presents subset reaches
    exact surface.framework.mono (run_mono presents subset) reaches

section Twins
/-- The check of a scope rests on the authentication. -/
def scopeCheck (scope : String) : Dependant :=
  .node (some (.requireScopeForUpk scope)) [.node (some .getCurrentUser) []]

def listJobs : Route where
  endpoint := "list_jobs"
  dependencies := [.node (some (.other "pagination")) [scopeCheck "jobs:start"]]

/-- The same function is registered a second time without a scope. -/
def listAllJobs : Route where
  endpoint := "list_jobs"

/-- The live log of a job takes its token from the query. -/
def jobLog : Route where
  kind := .webSocket
  endpoint := "job_log"

def surfaceOf (routes : List Route) : Surface where
  routes := routes
  framework := CallTree.depthFirst
  decodeAccessToken _ := none
  other _ _ := .ok ()

def keyRequest (path : String) : Request where
  path := path
  authorization := some "Bearer upk_ab"

theorem keyRequest_presents (path : String) : (keyRequest path).Presents "upk_ab" := by
  refine ⟨?_, ?_⟩
  · change httpBearer (some "Bearer upk_ab") = some "upk_ab"
    decide
  · decide

/-- One route with a marker is denied by default. -/
theorem listJobs_denied : DefaultDeny (surfaceOf [listJobs]) listJobs := by
  apply default_deny (surfaceOf [listJobs]) listJobs List.mem_cons_self rfl
  intro first member second memberSecond _ _ _ _
  rw [List.mem_singleton.mp member, List.mem_singleton.mp memberSecond]

/-- A key reaches the second route of a function that is registered twice, and a socket without any check. -/
theorem twin_and_socket_reached :
    (¬ ∀ (surface : Surface) (route : Route), route ∈ surface.routes → route.kind = .api →
      DefaultDeny surface route) ∧
    ¬ ∀ (surface : Surface) (route : Route), route ∈ surface.routes →
      OneScopeState surface.routes route.endpoint → DefaultDeny surface route := by
  constructor
  · intro claim
    have denied := claim (surfaceOf [listJobs, listAllJobs]) listAllJobs (by simp [surfaceOf]) rfl
    have declared := denied.declared (keyRequest "/api/jobs/all") "upk_ab" (.ok (some annaKey))
      (keyRequest_presents _) rfl
    revert declared
    decide
  · intro claim
    have oneState : OneScopeState [jobLog] "job_log" := by
      intro first member second memberSecond _ _ _ _
      rw [List.mem_singleton.mp member, List.mem_singleton.mp memberSecond]
    have denied := claim (surfaceOf [jobLog]) jobLog List.mem_cons_self oneState
    have declared := denied.declared (keyRequest "/api/jobs/1/logs/ws") "upk_ab" (.ok (some annaKey))
      (keyRequest_presents _) rfl
    revert declared
    decide

end Twins
end P3Portal.ApiSurface
