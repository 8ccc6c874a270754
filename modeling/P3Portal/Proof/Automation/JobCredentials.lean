import P3Portal.Construction.Automation.JobCredentials
import P3Portal.Proof.Nodes.Lookup

namespace P3Portal.Automation
open Schema Foundation Nodes Vms

section Rows
variable (databaseText : ParamValue → Option String) (config : HostConfig) (db : Database)

/-- The row that a named node selects; a failed lookup selects none. -/
def namedRow (value : ParamValue) : Option NodeRow :=
  match tokenNode databaseText db value with
  | .ok found => found
  | .error _ => none

/-- A job without a name has its own choice of a row. -/
def chosenRow (name : Option ParamValue) (unnamed : Option NodeRow) : Option NodeRow :=
  match name with
  | some value => namedRow databaseText db value
  | none => unnamed

/-- The host of a job is the URL of its row, or the configured host when there is no row or no URL. -/
def HostConfig.hostOf (row : Option NodeRow) : String := Text.orElse (row.map NodeRow.url) config.host

theorem getNodeTokens_ok {columns : TokenColumns} {value : ParamValue} {token : Option (String × String)}
    {hostUrl : String} (answered : getNodeTokens databaseText config db columns value = .ok (token, hostUrl)) :
    token = (namedRow databaseText db value).bind columns ∧
      Text.orElse (some hostUrl) config.host = config.hostOf (namedRow databaseText db value) := by
  unfold getNodeTokens at answered
  unfold namedRow
  cases selected : tokenNode databaseText db value with
  | error failure =>
      rw [selected] at answered
      cases answered
  | ok found =>
      rw [selected] at answered
      cases found with
      | none =>
          cases answered
          refine ⟨rfl, ?_⟩
          show (if config.host = "" then config.host else config.host) = config.host
          exact ite_self _
      | some row =>
          cases answered
          exact ⟨rfl, rfl⟩

theorem getNodeTokens_error {columns : TokenColumns} {value : ParamValue} {failure : Unit}
    (raised : getNodeTokens databaseText config db columns value = .error failure) :
    namedRow databaseText db value = none := by
  unfold getNodeTokens at raised
  unfold namedRow
  cases selected : tokenNode databaseText db value with
  | error _ => rfl
  | ok found =>
      rw [selected] at raised
      cases raised

/-- A playbook takes its host and its token from the named row or else from the default node. -/
theorem resolveNodeTokens_row (name : Option ParamValue) (role : Role) :
    let row := chosenRow databaseText db (name.filter ParamValue.truthy) (getDefaultNode db)
    Text.orElse (resolveNodeTokens databaseText config db name role).1 config.host = config.hostOf row ∧
      (resolveNodeTokens databaseText config db name role).2 =
        row.bind fun row => extractToken row (tokenRole role) := by
  unfold resolveNodeTokens chosenRow
  cases name.filter ParamValue.truthy with
  | some value =>
      dsimp only
      cases answered : getNodeTokens databaseText config db (fun row => extractToken row (tokenRole role)) value with
      | error failure =>
          rw [getNodeTokens_error databaseText config db answered]
          exact ⟨rfl, rfl⟩
      | ok result =>
          obtain ⟨sameToken, sameHost⟩ := getNodeTokens_ok databaseText config db answered
          exact ⟨sameHost, sameToken⟩
  | none =>
      cases getDefaultNode db with
      | none => exact ⟨rfl, rfl⟩
      | some row => exact ⟨rfl, rfl⟩

/-- The name of the node in the params of a build. -/
def buildNode (params : Params) : Option ParamValue :=
  ((params.get? "proxmox_node").filter ParamValue.truthy).or ((params.get? "node").filter ParamValue.truthy)

/-- A build takes both from the named row, and without a name it keeps the configured host. -/
theorem packerNodeTokens_row (params : Params) :
    let row := chosenRow databaseText db (buildNode params) none
    Text.orElse (packerNodeTokens databaseText config db params).1 config.host = config.hostOf row ∧
      (packerNodeTokens databaseText config db params).2 = row.bind extractPackerToken := by
  unfold packerNodeTokens chosenRow
  rw [← buildNode]
  cases buildNode params with
  | some value =>
      dsimp only
      cases answered : getNodeTokens databaseText config db extractPackerToken value with
      | error failure =>
          rw [getNodeTokens_error databaseText config db answered]
          exact ⟨rfl, rfl⟩
      | ok result =>
          obtain ⟨sameToken, sameHost⟩ := getNodeTokens_ok databaseText config db answered
          exact ⟨sameHost, sameToken⟩
  | none => exact ⟨rfl, rfl⟩

theorem getNodeForParam_mem {value : ParamValue} {row : NodeRow}
    (found : getNodeForParam databaseText db value = .ok (some row)) : row ∈ db.nodes := by
  have sorted : ∀ {name : String},
      (defaultFirst (db.nodes.filter fun row => row.proxmoxNode = name)).head? = some row → row ∈ db.nodes := by
    intro name first
    exact (List.mem_filter.mp ((mem_defaultFirst _ _).mp (List.mem_of_head? first))).1
  unfold getNodeForParam at found
  split at found
  · exact getNodeForProxmoxName_mem (Except.ok.inj found)
  · split at found
    · cases found
    · exact sorted (Except.ok.inj found)

theorem namedRow_mem {value : ParamValue} {row : NodeRow} (named : namedRow databaseText db value = some row) :
    row ∈ db.nodes := by
  unfold namedRow tokenNode at named
  cases answered : getNodeForParam databaseText db value with
  | error failure =>
      rw [answered] at named
      cases named
  | ok found =>
      rw [answered] at named
      cases found with
      | some first =>
          have same : some first = some row := named
          rw [same] at answered
          exact getNodeForParam_mem databaseText db answered
      | none =>
          have fallback : (if countNodes db = 1 then getDefaultNode db else none) = some row := named
          split at fallback
          · exact getDefaultNode_mem fallback
          · cases fallback

end Rows

section Handover
variable (databaseText : ParamValue → Option String) (config : HostConfig) (db : Database)

/-- A job of either kind runs with the login of its user or with the token of a row. -/
inductive CredentialJob where
  | ansible (params : Params) (role : Role)
  | packer (rest : PackerInput) (params : Params)

/-- The row that the lookups of a job select. -/
def CredentialJob.node : CredentialJob → Option NodeRow
  | .ansible params _ =>
      chosenRow databaseText db ((params.get? "proxmox_node").filter ParamValue.truthy) (getDefaultNode db)
  | .packer _ params => chosenRow databaseText db (buildNode params) none

def CredentialJob.columns : CredentialJob → TokenColumns
  | .ansible _ role => fun row => extractToken row (tokenRole role)
  | .packer _ _ => extractPackerToken

/-- The selected row is one of the stored nodes. -/
theorem CredentialJob.node_mem {job : CredentialJob} {row : NodeRow}
    (selected : job.node databaseText db = some row) : row ∈ db.nodes := by
  have named : ∀ {name unnamed}, (∀ row ∈ unnamed, row ∈ db.nodes) →
      chosenRow databaseText db name unnamed = some row → row ∈ db.nodes := by
    intro name unnamed stored chosen
    cases name with
    | none => exact stored row chosen
    | some value => exact namedRow_mem databaseText db chosen
  cases job with
  | ansible params role => exact named (fun _ found => getDefaultNode_mem found) selected
  | packer rest params => exact named (fun _ impossible => by cases impossible) selected

/-- A password goes to the URL of its login, and a token to the URL of the row from which it was read. -/
def Paired (job : CredentialJob) (login : Option StoredLogin) (token : Option (String × String))
    (base : String) : Prop :=
  match login with
  | some login => base = login.verifiedAt
  | none => ∃ row ∈ job.node databaseText db,
      token.isSome ∧ token = job.columns row ∧ base = Text.rstrip '/' row.url

/-- The variables hold every one of these texts. -/
def Sets (vars : Params) (entries : List (String × String)) : Prop :=
  ∀ entry ∈ entries, vars.get? entry.1 = some (.text entry.2)

/-- The host and the credentials that a worker hands to its runner belong together. -/
def CredentialsStay (site : AnsibleSite) (login : Option StoredLogin) : CredentialJob → Prop
  | .ansible params role =>
      ∀ vars ∈ ansibleExtravars databaseText config db site params role (login.map StoredLogin.credentials),
        ∃ url token, Sets vars
            (ansibleHostVars site url ++ credentialVars (login.map StoredLogin.credentials) token) ∧
          Paired databaseText db (.ansible params role) login token (Text.rstrip '/' url)
  | .packer rest params =>
      ∀ input ∈ packerInput databaseText config db rest params (login.map StoredLogin.credentials),
        input.credentials = login.map StoredLogin.credentials ∧
          Paired databaseText db (.packer rest params) login (some (input.tokenId, input.tokenSecret))
            input.proxmoxHost

/-- The selected row stands at the URL of the login, or without one the configured host has stayed; a row with
a token has a URL. -/
def InstallationKept (job : CredentialJob) (login : Option StoredLogin) : Prop :=
  match login, (job.node databaseText db) with
  | some login, some row =>
      if row.url = "" then Text.rstrip '/' config.host = Text.rstrip '/' login.config.host
      else Text.rstrip '/' row.url = Text.rstrip '/' login.config.host
  | some login, none => Text.rstrip '/' config.host = Text.rstrip '/' login.config.host
  | none, some row => (job.columns row).isSome → row.url = "" → Text.rstrip '/' config.host = ""
  | none, none => True

variable {databaseText config db}

theorem verifiedAt_eq (login : StoredLogin) : login.verifiedAt = Text.rstrip '/' login.config.host := rfl

theorem credentialVars_distinct (site : AnsibleSite) (url : String) (login : Option ProxmoxCredentials)
    (token : Option (String × String)) :
    ((ansibleHostVars site url ++ credentialVars login token).map Prod.fst).Nodup := by
  cases login with
  | some login =>
      show ["proxmox_api_host", "proxmox_api_base_url", "api_user", "api_password"].Nodup
      decide
  | none =>
      cases token with
      | none =>
          show ["proxmox_api_host", "proxmox_api_base_url"].Nodup
          decide
      | some token =>
          unfold credentialVars tokenIdVars
          dsimp only
          split
          · show ["proxmox_api_host", "proxmox_api_base_url", "proxmox_portal_token_secret"].Nodup
            decide
          · split
            · show ["proxmox_api_host", "proxmox_api_base_url", "proxmox_portal_token_secret"].Nodup
              decide
            · show ["proxmox_api_host", "proxmox_api_base_url", "proxmox_portal_user", "proxmox_portal_realm",
                "proxmox_portal_token_name", "proxmox_portal_token_secret"].Nodup
              decide

/-- The variables of the portal win over the params. -/
theorem buildExtravars_sets (site : AnsibleSite) (params : Params) (login : Option ProxmoxCredentials)
    (hostOverride : Option String) (token : Option (String × String)) :
    Sets (buildExtravars config site params login hostOverride token)
      (ansibleHostVars site (Text.orElse hostOverride config.host) ++ credentialVars login token) := by
  intro entry member
  have distinct := credentialVars_distinct site (Text.orElse hostOverride config.host) login token
  let texts : String × String → String × ParamValue := fun entry => (entry.1, .text entry.2)
  have names : Prod.fst ∘ texts = Prod.fst := by
    funext entry
    rfl
  have assigned : Precedence.assigned ((ansibleHostVars site (Text.orElse hostOverride config.host) ++
      credentialVars login token).map texts) entry.1 = some (.text entry.2) := by
    apply Precedence.assigned_of_mem
    · rw [List.map_map, names]
      exact distinct
    · exact List.mem_map.mpr ⟨entry, member, rfl⟩
  unfold buildExtravars
  rw [← List.foldl_map (f := texts) (g := fun extra entry => OrderedMap.set extra entry.1 entry.2),
    Precedence.get?_foldl_set, assigned]
  rfl

section Ansible
variable {site : AnsibleSite} {params : Params} {role : Role} {login : Option StoredLogin} {vars : Params}

/-- The variables of a started playbook are those of its row. -/
theorem ansibleExtravars_sets
    (started : ansibleExtravars databaseText config db site params role (login.map StoredLogin.credentials) =
      some vars) :
    Sets vars (ansibleHostVars site (config.hostOf ((CredentialJob.ansible params role).node databaseText db)) ++
      credentialVars (login.map StoredLogin.credentials)
        (((CredentialJob.ansible params role).node databaseText db).bind
          (CredentialJob.ansible params role).columns)) := by
  obtain ⟨sameHost, sameToken⟩ := resolveNodeTokens_row databaseText config db (params.get? "proxmox_node") role
  unfold ansibleExtravars at started
  dsimp only at started
  split at started
  · cases started
  · rw [← Option.some.inj started]
    have sets : Sets (buildExtravars config site params _ _ _) _ :=
      buildExtravars_sets site params (login.map StoredLogin.credentials)
        (resolveNodeTokens databaseText config db (params.get? "proxmox_node") role).1
        (resolveNodeTokens databaseText config db (params.get? "proxmox_node") role).2
    rw [sameHost] at sets
    rw [sameToken] at sets ⊢
    exact sets

/-- A playbook starts with a login or with the token of its row. -/
theorem ansibleExtravars_isSome :
    (ansibleExtravars databaseText config db site params role
        (login.map StoredLogin.credentials)).isSome = true ↔
      login.isSome = true ∨ (((CredentialJob.ansible params role).node databaseText db).bind
        (CredentialJob.ansible params role).columns).isSome = true := by
  obtain ⟨-, sameToken⟩ := resolveNodeTokens_row databaseText config db (params.get? "proxmox_node") role
  unfold ansibleExtravars
  dsimp only
  rw [sameToken]
  show _ ↔ login.isSome = true ∨ ((chosenRow databaseText db ((params.get? "proxmox_node").filter
    ParamValue.truthy) (getDefaultNode db)).bind fun row => extractToken row (tokenRole role)).isSome = true
  cases login with
  | some login => simp
  | none =>
      cases (chosenRow databaseText db ((params.get? "proxmox_node").filter
        ParamValue.truthy) (getDefaultNode db)).bind fun row => extractToken row (tokenRole role) with
      | none => simp
      | some token => simp

/-- The base URL of a started playbook is that of its row. -/
theorem ansible_base_eq {url : String} {token : Option (String × String)}
    (started : ansibleExtravars databaseText config db site params role (login.map StoredLogin.credentials) =
      some vars)
    (sets : Sets vars (ansibleHostVars site url ++ credentialVars (login.map StoredLogin.credentials) token)) :
    Text.rstrip '/' url =
      Text.rstrip '/' (config.hostOf ((CredentialJob.ansible params role).node databaseText db)) := by
  have stated := sets ("proxmox_api_base_url", Text.rstrip '/' url) (by simp [ansibleHostVars])
  have actual := ansibleExtravars_sets started ("proxmox_api_base_url", Text.rstrip '/' (config.hostOf
    ((CredentialJob.ansible params role).node databaseText db))) (by simp [ansibleHostVars])
  rw [stated] at actual
  exact ParamValue.text.inj (Option.some.inj actual)

end Ansible

/-- What a pairing asks of the host of a job. -/
theorem paired_hostOf_iff (job : CredentialJob) (login : Option StoredLogin) :
    Paired databaseText db job login ((job.node databaseText db).bind job.columns)
        (Text.rstrip '/' (config.hostOf (job.node databaseText db))) ↔
      InstallationKept databaseText config db job login ∧
        (login.isSome = true ∨ ((job.node databaseText db).bind job.columns).isSome = true) := by
  unfold Paired InstallationKept HostConfig.hostOf
  cases login with
  | some login =>
      cases job.node databaseText db with
      | none => simp [Text.orElse, verifiedAt_eq]
      | some row => by_cases empty : row.url = "" <;> simp [Text.orElse, verifiedAt_eq, empty]
  | none =>
      cases job.node databaseText db with
      | none => simp
      | some row =>
          by_cases empty : row.url = ""
          · have bare : Text.rstrip '/' "" = "" := by decide
            simp only [Option.map_some, Text.orElse, empty, if_true, bare, Option.bind_some, Option.mem_def,
              Option.some.injEq, exists_eq_left', true_and, true_implies, Option.isSome_none,
              Bool.false_eq_true, false_or]
            constructor
            · intro paired
              exact ⟨fun _ => paired.2, paired.1⟩
            · intro kept
              exact ⟨kept.2, kept.1 kept.2⟩
          · simp [Text.orElse, empty]

/-- A job without credentials never starts, so nothing is asked of its row. -/
theorem installationKept_of_missing {job : CredentialJob}
    (missing : ((job.node databaseText db).bind job.columns).isSome = false) :
    InstallationKept databaseText config db job none := by
  unfold InstallationKept
  cases selected : job.node databaseText db with
  | none => trivial
  | some row =>
      intro token
      rw [selected, Option.bind_some, token] at missing
      cases missing

/-- The pairing names the row, so it also names the token. -/
theorem Paired.token {job : CredentialJob} {login : Option StoredLogin} {token : Option (String × String)}
    {base : String} (paired : Paired databaseText db job login token base) :
    Paired databaseText db job login ((job.node databaseText db).bind job.columns) base := by
  cases login with
  | some login => exact paired
  | none =>
      obtain ⟨row, selected, present, read, same⟩ := paired
      refine ⟨row, selected, ?_⟩
      rw [Option.mem_def.mp selected, Option.bind_some, ← read]
      exact ⟨present, rfl, same⟩

theorem ansible_stays_iff (site : AnsibleSite) (login : Option StoredLogin) (params : Params) (role : Role) :
    CredentialsStay databaseText config db site login (.ansible params role) ↔
      InstallationKept databaseText config db (.ansible params role) login := by
  constructor
  · intro stays
    cases started : ansibleExtravars databaseText config db site params role
        (login.map StoredLogin.credentials) with
    | some vars =>
        obtain ⟨url, token, sets, paired⟩ := stays vars started
        rw [ansible_base_eq started sets] at paired
        exact ((paired_hostOf_iff _ login).mp paired.token).1
    | none =>
        have missing := mt ansibleExtravars_isSome.mpr (by
          rw [started]
          simp)
        rw [not_or] at missing
        cases login with
        | some login => exact absurd rfl missing.1
        | none => exact installationKept_of_missing (Bool.eq_false_iff.mpr missing.2)
  · intro kept vars started
    have present := ansibleExtravars_isSome.mp (Option.isSome_of_mem started)
    exact ⟨_, _, ansibleExtravars_sets started, (paired_hostOf_iff _ login).mpr ⟨kept, present⟩⟩

section Packer
variable {rest input : PackerInput} {params : Params} {login : Option StoredLogin}

/-- A started build has the login, or else the token of its row, and the host of that row. -/
theorem packerInput_eq_some
    (started : packerInput databaseText config db rest params (login.map StoredLogin.credentials) = some input) :
    input.credentials = login.map StoredLogin.credentials ∧
      input.proxmoxHost =
        Text.rstrip '/' (config.hostOf ((CredentialJob.packer rest params).node databaseText db)) ∧
      (login = none → some (input.tokenId, input.tokenSecret) =
        ((CredentialJob.packer rest params).node databaseText db).bind extractPackerToken) := by
  obtain ⟨sameHost, sameToken⟩ := packerNodeTokens_row databaseText config db params
  show _ ∧ _ = Text.rstrip '/' (config.hostOf (chosenRow databaseText db (buildNode params) none)) ∧
    (_ → _ = (chosenRow databaseText db (buildNode params) none).bind extractPackerToken)
  rw [← sameHost, ← sameToken]
  unfold packerInput at started
  dsimp only at started
  cases login with
  | some login =>
      cases started
      exact ⟨rfl, rfl, fun impossible => by cases impossible⟩
  | none =>
      cases token : (packerNodeTokens databaseText config db params).2 with
      | none =>
          rw [token] at started
          cases started
      | some pair =>
          rw [token] at started
          cases started
          exact ⟨rfl, rfl, fun _ => rfl⟩

theorem packerInput_isSome :
    (packerInput databaseText config db rest params (login.map StoredLogin.credentials)).isSome = true ↔
      login.isSome = true ∨
        (((CredentialJob.packer rest params).node databaseText db).bind extractPackerToken).isSome = true := by
  obtain ⟨-, sameToken⟩ := packerNodeTokens_row databaseText config db params
  show _ ↔ _ ∨ ((chosenRow databaseText db (buildNode params) none).bind extractPackerToken).isSome = true
  rw [← sameToken]
  unfold packerInput
  dsimp only
  cases login with
  | some login => simp
  | none =>
      cases token : (packerNodeTokens databaseText config db params).2 with
      | none => simp
      | some pair => simp

end Packer

theorem packer_stays_iff (site : AnsibleSite) (login : Option StoredLogin) (rest : PackerInput) (params : Params) :
    CredentialsStay databaseText config db site login (.packer rest params) ↔
      InstallationKept databaseText config db (.packer rest params) login := by
  constructor
  · intro stays
    cases started : packerInput databaseText config db rest params (login.map StoredLogin.credentials) with
    | some input =>
        obtain ⟨-, paired⟩ := stays input started
        rw [(packerInput_eq_some started).2.1] at paired
        exact ((paired_hostOf_iff _ login).mp paired.token).1
    | none =>
        have missing := mt packerInput_isSome.mpr (by
          rw [started]
          simp)
        rw [not_or] at missing
        cases login with
        | some login => exact absurd rfl missing.1
        | none => exact installationKept_of_missing (Bool.eq_false_iff.mpr missing.2)
  · intro kept input started
    obtain ⟨sameLogin, sameHost, sameToken⟩ := packerInput_eq_some started
    have paired := (paired_hostOf_iff _ login).mpr
      ⟨kept, packerInput_isSome.mp (Option.isSome_of_mem started)⟩
    refine ⟨sameLogin, ?_⟩
    rw [sameHost]
    cases login with
    | some login => exact paired
    | none =>
        rw [sameToken rfl]
        exact paired

end Handover

/-- The credentials of a job stay with their installation exactly when its row has kept to the URL of the
login, and a row with a token has a URL. -/
theorem credentials_stay_iff (databaseText : ParamValue → Option String) (config : HostConfig) (db : Database)
    (site : AnsibleSite) (login : Option StoredLogin) (job : CredentialJob) :
    CredentialsStay databaseText config db site login job ↔ InstallationKept databaseText config db job login := by
  cases job with
  | ansible params role => exact ansible_stays_iff site login params role
  | packer rest params => exact packer_stays_iff site login rest params

/-- A login is verified at the configured host, and the playbook of the user runs against the default node. -/
theorem password_leaves_installation :
    ¬ CredentialsStay (fun _ => none) { configProxmoxHost := some "https://alpha:8006" }
      { nodes := [{ id := 2, name := "beta", url := "https://beta:8006", proxmoxNode := "pve", isDefault := true }] }
      ⟨fun _ => some "beta"⟩
      (some ⟨⟨"root", "pam", "secret"⟩, { configProxmoxHost := some "https://alpha:8006" }⟩)
      (.ansible OrderedMap.empty .operator) := by
  intro stays
  obtain ⟨url, token, sets, paired⟩ := stays _ rfl
  have same := ansible_base_eq rfl sets
  rw [paired] at same
  revert same
  decide

end P3Portal.Automation
