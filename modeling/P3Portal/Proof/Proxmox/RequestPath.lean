import P3Portal.Construction.Proxmox.Client
import P3Portal.Foundation.Outcome
import P3Portal.Foundation.UriPath

namespace P3Portal.Proxmox
open Foundation UriPath Http

/-- The API starts below the path of the base URL. -/
def apiSegments (base : BaseUrl) : List Segment :=
  base.path.toList.splitOn '/' ++ ["api2".toList, "json".toList]

def guestSegments (node : String) (vmid : Int) (vmType : String) : List Segment :=
  ["nodes".toList, node.toList, (kindOf vmType).toList, (toString vmid).toList]

/-- The URL template of an operation below the API, where each supplied value fills its own segment
and an entry with a mask fills the last two. -/
def Operation.endpoint : Operation → List Segment
  | .rollbackSnapshot node vmid vmType snapName =>
      guestSegments node vmid vmType ++ ["snapshot".toList, snapName.text.toList, "rollback".toList]
  | .deleteSnapshot node vmid vmType snapName =>
      guestSegments node vmid vmType ++ ["snapshot".toList, snapName.text.toList]
  | .deleteIso node volid => ["nodes".toList, node.toList, "storage".toList,
      volid.toList.takeWhile (· ≠ ':'), "content".toList, PercentEncoding.quote volid.toList]
  | .deleteIpsetEntry name cidr =>
      ["cluster".toList, "firewall".toList, "ipset".toList, name.text.toList] ++ cidr.toList.splitOn '/'
  | .deleteGuestIpsetEntry node vmid vmType name cidr =>
      guestSegments node vmid vmType ++ ["firewall".toList, "ipset".toList, name.text.toList] ++
        cidr.toList.splitOn '/'

def Operation.template (base : BaseUrl) (operation : Operation) : List Segment :=
  apiSegments base ++ operation.endpoint

def Operation.method : Operation → Method
  | .rollbackSnapshot .. => .post
  | _ => .delete

theorem apiSegments_ne_nil (base : BaseUrl) : apiSegments base ≠ [] := by
  simp [apiSegments]

theorem Operation.endpoint_ne_nil (operation : Operation) : operation.endpoint ≠ [] := by
  cases operation <;> simp [endpoint, guestSegments]

/-- The text of a call is the base path, the API root and the rest of the template. -/
theorem render_api (base : BaseUrl) (rest : List Segment) (more : rest ≠ []) :
    render (apiSegments base ++ rest) = base.path.toList ++ "/api2/json/".toList ++ render rest := by
  have root : render (apiSegments base) = base.path.toList ++ "/api2/json".toList := by
    rw [apiSegments, render_append _ _ (List.splitOn_ne_nil _ _) (by simp), render_splitOn]
    simp [render_cons]
  rw [render_append _ _ (apiSegments_ne_nil base) more, root]
  simp

/-- The endpoint interpolates the values of an operation into its template. -/
theorem Operation.call_path {base : BaseUrl} {operation : Operation} {request : Request}
    (called : operation.call base = .ok request) :
    request.method = operation.method ∧ request.path.toList = render (operation.template base) := by
  rw [template, render_api base _ operation.endpoint_ne_nil]
  cases operation with
  | rollbackSnapshot node vmid vmType snapName =>
      rw [← Except.ok.inj called]
      refine ⟨rfl, ?_⟩
      simp [Proxmox.rollbackSnapshot, vmBase, endpoint, guestSegments, render_cons]
  | deleteSnapshot node vmid vmType snapName =>
      rw [← Except.ok.inj called]
      refine ⟨rfl, ?_⟩
      simp [Proxmox.deleteSnapshot, vmBase, endpoint, guestSegments, render_cons]
  | deleteIso node volid =>
      simp only [call, Proxmox.deleteIso] at called
      split at called
      · cases called
      · rw [← Except.ok.inj called]
        refine ⟨rfl, ?_⟩
        simp [endpoint, render_cons]
  | deleteIpsetEntry name cidr =>
      obtain ⟨checked, accepted, made⟩ := Outcome.bind_eq_ok.mp called
      rw [← Except.ok.inj made]
      refine ⟨rfl, ?_⟩
      rw [endpoint, render_append _ _ (by simp) (List.splitOn_ne_nil _ _), render_splitOn]
      simp [deleteFirewallIpsetEntry, firewallRequest, render_cons]
  | deleteGuestIpsetEntry node vmid vmType name cidr =>
      obtain ⟨checked, accepted, made⟩ := Outcome.bind_eq_ok.mp called
      rw [← Except.ok.inj made]
      refine ⟨rfl, ?_⟩
      rw [endpoint, render_append _ _ (by simp) (List.splitOn_ne_nil _ _), render_splitOn]
      simp [deleteGuestFirewallIpsetEntry, firewallRequest, guestSegments, render_cons]

/-- A segment without slashes, ends and points is plain. -/
theorem plain_of_pointless {segment : Segment}
    (safe : ∀ character ∈ segment, character ≠ '/' ∧ endsPath character = false ∧ character ≠ '.') :
    Plain segment where
  noSlash inside := (safe '/' inside).1 rfl
  noEnd character inside := (safe character inside).2.1
  notHere same := (safe '.' (by rw [same]; decide)).2.2 rfl
  notParent same := (safe '.' (by rw [same]; decide)).2.2 rfl

/-- The text of an integer consists of digits after an optional sign. -/
theorem plain_toString (vmid : Int) : Plain (toString vmid).toList := by
  have digits (value : Nat) {character : Char} (inside : character ∈ value.repr.toList) :
      character ≠ '/' ∧ endsPath character = false ∧ character ≠ '.' := by
    rw [Nat.toList_repr] at inside
    have digit : character.isDigit = true := Nat.isDigit_of_mem_toDigits (by decide) (by decide) inside
    refine ⟨?_, ?_, ?_⟩
    · rintro rfl
      exact absurd digit (by decide)
    · by_contra ends
      simp only [endsPath, Bool.or_eq_true, decide_eq_true_eq, Bool.not_eq_false] at ends
      rcases ends with rfl | rfl <;> exact absurd digit (by decide)
    · rintro rfl
      exact absurd digit (by decide)
  apply plain_of_pointless
  intro character inside
  cases vmid with
  | ofNat value => exact digits value inside
  | negSucc value =>
      change character ∈ ("-" ++ (value + 1).repr).toList at inside
      rw [String.toList_append, List.mem_append] at inside
      rcases inside with sign | inside
      · rw [List.mem_singleton.mp sign]
        decide
      · exact digits _ inside

theorem plain_kindOf (vmType : String) : Plain (kindOf vmType).toList := by
  unfold kindOf
  split <;> decide

/-- Quoting makes every volume identifier a plain segment. -/
theorem plain_quote {volid : List Char} (colon : ':' ∈ volid) : Plain (PercentEncoding.quote volid) where
  noSlash := PercentEncoding.not_mem_quote volid '/' (by decide) (by decide)
  noEnd := by
    intro character inside
    by_contra ends
    simp only [endsPath, Bool.or_eq_true, decide_eq_true_eq, Bool.not_eq_false] at ends
    rcases ends with rfl | rfl
    · exact PercentEncoding.not_mem_quote volid '?' (by decide) (by decide) inside
    · exact PercentEncoding.not_mem_quote volid '#' (by decide) (by decide) inside
  notHere same := by
    have percent := PercentEncoding.percent_mem_quote colon
    rw [same] at percent
    revert percent
    decide
  notParent same := by
    have percent := PercentEncoding.percent_mem_quote colon
    rw [same] at percent
    revert percent
    decide

/-- An accepted entry fills its segments exactly when no query or fragment starts in it. -/
theorem plain_entry_iff {cidr : String} (accepted : assertSafeIpsetCidr cidr = .ok ()) :
    (∀ segment ∈ cidr.toList.splitOn '/', Plain segment) ↔
      ∀ character ∈ cidr.toList, endsPath character = false := by
  have parsed : (IpAddress.ipNetwork cidr.toList).isSome := by
    unfold assertSafeIpsetCidr at accepted
    split at accepted
    · assumption
    · cases accepted
  constructor
  · intro plain character inside
    rw [← render_splitOn cidr.toList] at inside
    rcases mem_render inside with slash | ⟨segment, member, found⟩
    · rw [slash]
      decide
    · exact (plain segment member).noEnd character found
  · intro unended segment member
    have dots := IpAddress.ipNetwork_noDots parsed member
    exact ⟨not_mem_of_mem_splitOn _ member,
      fun character inside => unended character (mem_of_mem_splitOn _ member inside), dots.1, dots.2⟩

/-- The supplied values of an operation keep their places in its URL. -/
def Operation.PlainValues : Operation → Prop
  | .rollbackSnapshot node _ _ snapName | .deleteSnapshot node _ _ snapName =>
      Plain node.toList ∧ Plain snapName.text.toList
  | .deleteIso node volid => Plain node.toList ∧ Plain (volid.toList.takeWhile (· ≠ ':'))
  | .deleteIpsetEntry name cidr =>
      Plain name.text.toList ∧ ∀ character ∈ cidr.toList, endsPath character = false
  | .deleteGuestIpsetEntry node _ _ name cidr =>
      Plain node.toList ∧ Plain name.text.toList ∧ ∀ character ∈ cidr.toList, endsPath character = false

/-- The segments of an accepted operation are plain exactly when its supplied values are. -/
theorem Operation.plain_endpoint_iff {base : BaseUrl} {operation : Operation} {request : Request}
    (called : operation.call base = .ok request) :
    (∀ segment ∈ operation.endpoint, Plain segment) ↔ operation.PlainValues := by
  have fixed : Plain "nodes".toList ∧ Plain "snapshot".toList ∧ Plain "rollback".toList ∧
      Plain "storage".toList ∧ Plain "content".toList ∧ Plain "cluster".toList ∧
      Plain "firewall".toList ∧ Plain "ipset".toList := by decide
  cases operation with
  | rollbackSnapshot node vmid vmType snapName =>
      simp only [endpoint, guestSegments, PlainValues, List.forall_mem_append, List.forall_mem_cons,
        List.not_mem_nil, plain_kindOf, plain_toString, fixed, and_true, true_and, false_implies,
        implies_true]
  | deleteSnapshot node vmid vmType snapName =>
      simp only [endpoint, guestSegments, PlainValues, List.forall_mem_append, List.forall_mem_cons,
        List.not_mem_nil, plain_kindOf, plain_toString, fixed, and_true, true_and, false_implies,
        implies_true]
  | deleteIso node volid =>
      have colon : ':' ∈ volid.toList := by
        simp only [call, Proxmox.deleteIso] at called
        split at called
        · cases called
        · rename_i present
          exact not_not.mp present
      simp only [endpoint, PlainValues, List.forall_mem_cons, List.not_mem_nil, plain_quote colon, fixed,
        and_true, true_and, false_implies, implies_true]
  | deleteIpsetEntry name cidr =>
      obtain ⟨checked, accepted, made⟩ := Outcome.bind_eq_ok.mp called
      simp only [endpoint, PlainValues, List.forall_mem_append, List.forall_mem_cons,
        List.not_mem_nil, fixed, and_true, true_and, false_implies, implies_true,
        plain_entry_iff accepted]
  | deleteGuestIpsetEntry node vmid vmType name cidr =>
      obtain ⟨checked, accepted, made⟩ := Outcome.bind_eq_ok.mp called
      simp only [endpoint, guestSegments, PlainValues, List.forall_mem_append, List.forall_mem_cons,
        List.not_mem_nil, plain_kindOf, plain_toString, fixed, and_true, true_and, false_implies,
        implies_true, plain_entry_iff accepted, and_assoc]

/-- An accepted call requests its own endpoint exactly when the base path and the supplied values
are plain. -/
theorem Operation.call_requested_iff (base : BaseUrl) (operation : Operation) (request : Request)
    (called : operation.call base = .ok request) :
    (request.method = operation.method ∧
        requested request.path.toList = operation.template base) ↔
      (∀ segment ∈ base.path.toList.splitOn '/', Plain segment) ∧ operation.PlainValues := by
  obtain ⟨method, path⟩ := Operation.call_path called
  have fixed : Plain "api2".toList ∧ Plain "json".toList := by decide
  rw [path, requested_render_iff _ (by simp [template, operation.endpoint_ne_nil]), template,
    List.forall_mem_append, Operation.plain_endpoint_iff called]
  simp only [method, true_and, apiSegments, List.forall_mem_append, List.forall_mem_cons,
    List.not_mem_nil, fixed, and_true, false_implies, implies_true]

/-- An ordinary snapshot name stays on its endpoint. -/
theorem Operation.call_requested_daily :
    requested (Proxmox.deleteSnapshot ⟨"https://pve:8006", ""⟩ "pve" 100 "daily" "qemu").path.toList =
      (Operation.deleteSnapshot "pve" 100 "qemu" ⟨"daily", by decide, by decide⟩).template
        ⟨"https://pve:8006", ""⟩ :=
  ((Operation.call_requested_iff ⟨"https://pve:8006", ""⟩
    (.deleteSnapshot "pve" 100 "qemu" ⟨"daily", by decide, by decide⟩) _ rfl).mpr
    ⟨by decide, by decide, by decide⟩).2

/-- The snapshot name `..` turns the deletion of a snapshot into the deletion of the machine. -/
theorem Operation.call_leaves_endpoint :
    ∃ (base : BaseUrl) (snapName : PathParameter) (request : Request),
      (Operation.deleteSnapshot "pve" 100 "qemu" snapName).call base = .ok request ∧
      requested request.path.toList ≠ (Operation.deleteSnapshot "pve" 100 "qemu" snapName).template base ∧
      request.method = (deleteVm base "pve" 100 "qemu").method ∧
      requested request.path.toList = requested (deleteVm base "pve" 100 "qemu").path.toList :=
  ⟨⟨"https://pve:8006", ""⟩, ⟨"..", by decide, by decide⟩, _, rfl, by decide, rfl, by decide⟩

end P3Portal.Proxmox
