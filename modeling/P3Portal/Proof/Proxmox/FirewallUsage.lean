import P3Portal.Construction.Proxmox.FirewallUsage

namespace P3Portal.Proxmox.FirewallUsage
open Foundation

section Chunks
variable {A B : Type}

/-- A selection with a weaker test is only as short when both tests agree on the list. -/
theorem map_filter_eq_iff {keep allow : A → Bool} (weaker : ∀ x, keep x = true → allow x = true) (f : A → B)
    (list : List A) :
    (list.filter keep).map f = (list.filter allow).map f ↔ ∀ x ∈ list, allow x = true → keep x = true := by
  have both : list.filter keep = (list.filter allow).filter keep := by
    rw [List.filter_filter]
    apply List.filter_congr
    intro x _
    cases kept : keep x with
    | false => rfl
    | true => rw [weaker x kept, Bool.and_self]
  constructor
  · intro same x member allowed
    have shorter : (list.filter keep).Sublist (list.filter allow) := both ▸ List.filter_sublist
    have long : (list.filter keep).length = (list.filter allow).length := by
      simpa only [List.length_map] using congrArg List.length same
    have inside : x ∈ list.filter allow := List.mem_filter.mpr ⟨member, allowed⟩
    rw [← shorter.eq_of_length long] at inside
    exact (List.mem_filter.mp inside).2
  · intro agree
    apply congrArg (List.map f)
    apply List.filter_congr
    intro x member
    cases allowed : allow x with
    | false => exact Bool.eq_false_iff.mpr fun kept => Bool.eq_false_iff.mp allowed (weaker x kept)
    | true => exact agree x member allowed

theorem flatMap_sublist {some_part whole : A → List B} (part : ∀ x, (some_part x).Sublist (whole x)) (list : List A) :
    (list.flatMap some_part).Sublist (list.flatMap whole) := by
  induction list with
  | nil => exact List.Sublist.refl _
  | cons head rest ih =>
      rw [List.flatMap_cons, List.flatMap_cons]
      exact (part head).append ih

/-- Chunks that are parts of other chunks make up the same collection only when no chunk lacks anything. -/
theorem flatMap_perm_iff {some_part whole : A → List B} (part : ∀ x, (some_part x).Sublist (whole x))
    (list : List A) :
    (list.flatMap some_part).Perm (list.flatMap whole) ↔ ∀ x ∈ list, some_part x = whole x := by
  constructor
  · intro same
    have long := same.length_eq
    clear same
    induction list with
    | nil => exact fun x member => absurd member List.not_mem_nil
    | cons head rest ih =>
        have first := (part head).length_le
        have others := (flatMap_sublist part rest).length_le
        rw [List.flatMap_cons, List.flatMap_cons, List.length_append, List.length_append] at long
        intro x member
        rcases List.mem_cons.mp member with rfl | inside
        · exact (part x).eq_of_length (by omega)
        · exact ih (by omega) x inside
  · intro each
    rw [List.flatMap_congr each]

end Chunks

/-- A rule references an object by its plain spelling or by a further one that Proxmox accepts. -/
def references (kind : ObjectKind) (name : String) (others : List String) (raw : JsonObject) : Bool :=
  match kind with
  | .group => callsGroup raw name
  | _ => ["source", "dest"].any fun field => (tokens raw field).any fun token => token ∈ kind.target name :: others

/-- A place with its rules, and whether the search asks for them. -/
structure Spot where
  place : Place
  asked : Bool
  rules : Held JsonObject

/-- The rules are asked for and the answer brings them. -/
def Spot.reached (spot : Spot) : Bool := spot.asked && spot.rules.reading = .content

/-- The search knows the rules of the place. -/
def Spot.Read (spot : Spot) : Prop := spot.asked = true ∧ spot.rules.answer = some spot.rules.content

/-- The search asks for the rules of a source that the listing brings and its filter keeps. -/
def spotOf (listing : Reading) (asks : JsonObject → Bool) (place : JsonObject → Place) (source : Source) : Spot :=
  ⟨place source.entry, decide (listing = .content) && asks source.entry, source.rules⟩

def spotsOf (asks : JsonObject → Bool) (place : JsonObject → Place) (sources : Held Source) : List Spot :=
  sources.content.map (spotOf sources.reading asks place)

/-- The nodes and the guests of the cluster. -/
def memberSpots (cluster : Cluster) : List Spot :=
  spotsOf asksNode nodePlace cluster.nodes ++ spotsOf asksGuest guestPlace cluster.guests

/-- Every place of the cluster that has rules. -/
def spots (cluster : Cluster) : List Spot :=
  ⟨{ level := .datacenter }, true, cluster.datacenter⟩ ::
    (spotsOf asksGroup groupPlace cluster.groups ++ memberSpots cluster)

/-- The rules of the cluster that reference the object. -/
def expected (cluster : Cluster) (kind : ObjectKind) (name : String) (others : List String) :
    List FirewallUsageEntry :=
  (spots cluster).flatMap fun spot =>
    (spot.rules.content.filter (references kind name others)).map spot.place.usage

section Search
variable (cluster : Cluster) (kind : ObjectKind) (name : String) (others : List String)

/-- A report that does not say that it is incomplete lists every reference once, and it says so when the rules of
a node or of a guest were not read. -/
def Complete : Prop :=
  ((findFirewallObjectUsage cluster kind name).2 = false →
    (findFirewallObjectUsage cluster kind name).1.Perm (expected cluster kind name others)) ∧
  ∀ spot ∈ memberSpots cluster, ¬ spot.Read → (findFirewallObjectUsage cluster kind name).2 = true

/-- A read that the search makes raises an exception. -/
def Failing : Prop :=
  cluster.groups.reading = .failed ∨ cluster.nodes.reading = .failed ∨ cluster.guests.reading = .failed ∨
    ∃ spot ∈ spots cluster, spot.asked = true ∧ spot.rules.reading = .failed

/-- The search asks every node and every guest and gets the rules, and each reference is in a rule that it gets
and has the plain spelling. -/
def Covered : Prop :=
  (∀ spot ∈ memberSpots cluster, spot.Read) ∧
  ∀ spot ∈ spots cluster, ∀ raw ∈ spot.rules.content, references kind name others raw = true →
    spot.reached = true ∧ ruleMatches kind name raw = true

variable {cluster kind name others}

theorem references_of_matches {raw : JsonObject} (found : ruleMatches kind name raw = true) :
    references kind name others raw = true := by
  unfold ruleMatches at found
  unfold references
  split at found
  · exact found
  · simp only [List.any_eq_true, decide_eq_true_eq] at found ⊢
    obtain ⟨field, listed, token, inside, same⟩ := found
    exact ⟨field, listed, token, inside, same ▸ List.mem_cons_self⟩

theorem failed_iff {A : Type} (held : Held A) : held.failed = true ↔ held.reading = .failed := by
  unfold Held.failed Held.answer
  cases held.reading <;> simp

/-- The reads of one step go to the sources that it asks. -/
theorem readsOf_eq (asks : JsonObject → Bool) (place : JsonObject → Place) (sources : Held Source) :
    readsOf asks place sources =
      ((spotsOf asks place sources).filter Spot.asked).map fun spot => (spot.place, spot.rules) := by
  unfold readsOf spotsOf
  rw [List.filter_map, List.map_map]
  cases reading : sources.reading with
  | content =>
      have seen : sources.seen = sources.content := by rw [Held.seen, Held.answer, reading, Option.getD_some]
      rw [seen]
      rfl
  | nothing =>
      have seen : sources.seen = [] := by rw [Held.seen, Held.answer, reading, Option.getD_some]
      have none : sources.content.filter (Spot.asked ∘ spotOf .nothing asks place) = [] :=
        List.filter_eq_nil_iff.mpr fun source _ => Bool.false_ne_true
      rw [seen, none, List.filter_nil, List.map_nil, List.map_nil]
  | failed =>
      have seen : sources.seen = [] := by rw [Held.seen, Held.answer, reading, Option.getD_none]
      have none : sources.content.filter (Spot.asked ∘ spotOf .failed asks place) = [] :=
        List.filter_eq_nil_iff.mpr fun source _ => Bool.false_ne_true
      rw [seen, none, List.filter_nil, List.map_nil, List.map_nil]

/-- The search reads the rules of the places that it asks. -/
theorem ruleReads_eq : ruleReads cluster =
    ((spots cluster).filter Spot.asked).map fun spot => (spot.place, spot.rules) := by
  unfold ruleReads spots memberSpots
  rw [List.filter_cons_of_pos rfl, List.map_cons, List.filter_append, List.filter_append, List.map_append,
    List.map_append, ← readsOf_eq, ← readsOf_eq, ← readsOf_eq, List.append_assoc]

theorem incomplete_iff : (findFirewallObjectUsage cluster kind name).2 = true ↔ Failing cluster := by
  unfold findFirewallObjectUsage Failing
  rw [ruleReads_eq]
  simp only [Bool.or_eq_true, failed_iff, List.any_map, List.any_filter, List.any_eq_true, Bool.and_eq_true,
    Function.comp_apply, or_assoc]

/-- What the search finds in one place. -/
def found (kind : ObjectKind) (name : String) (spot : Spot) : List FirewallUsageEntry :=
  if spot.asked = true then (spot.rules.seen.filter (ruleMatches kind name)).map spot.place.usage else []

theorem usages_eq : (findFirewallObjectUsage cluster kind name).1 = (spots cluster).flatMap (found kind name) := by
  show (ruleReads cluster).flatMap (fun read => (read.2.seen.filter (ruleMatches kind name)).map read.1.usage) = _
  rw [ruleReads_eq, List.flatMap_map]
  induction spots cluster with
  | nil => rfl
  | cons spot rest ih =>
      rw [List.flatMap_cons]
      cases asked : spot.asked with
      | false =>
          rw [List.filter_cons_of_neg (Bool.eq_false_iff.mp asked), ih, found, if_neg (Bool.eq_false_iff.mp asked),
            List.nil_append]
      | true => rw [List.filter_cons_of_pos asked, List.flatMap_cons, ih, found, if_pos asked]

theorem seen_cases (held : Held JsonObject) :
    held.reading = .content ∧ held.seen = held.content ∨ held.reading ≠ .content ∧ held.seen = [] := by
  unfold Held.seen Held.answer
  cases held.reading <;> simp

/-- A place lacks a reference when its rules do not come back or the spelling is another one. -/
theorem found_eq_iff (spot : Spot) :
    found kind name spot = (spot.rules.content.filter (references kind name others)).map spot.place.usage ↔
      ∀ raw ∈ spot.rules.content, references kind name others raw = true →
        spot.reached = true ∧ ruleMatches kind name raw = true := by
  have hidden (unreached : spot.reached = false) :
      [] = (spot.rules.content.filter (references kind name others)).map spot.place.usage ↔
        ∀ raw ∈ spot.rules.content, references kind name others raw = true →
          spot.reached = true ∧ ruleMatches kind name raw = true := by
    rw [eq_comm, List.map_eq_nil_iff, List.filter_eq_nil_iff]
    simp only [unreached, Bool.false_eq_true, false_and, imp_false]
  unfold found
  cases asked : spot.asked with
  | false => exact hidden (by rw [Spot.reached, asked, Bool.false_and])
  | true =>
      rcases seen_cases spot.rules with ⟨reading, seen⟩ | ⟨reading, seen⟩
      · have reached : spot.reached = true := by rw [Spot.reached, asked, reading, Bool.true_and]; rfl
        rw [if_pos rfl, seen, map_filter_eq_iff fun raw => references_of_matches]
        simp only [reached, true_and]
      · rw [if_pos rfl, seen]
        exact hidden (by rw [Spot.reached, asked, Bool.true_and, decide_eq_false reading])

theorem found_sublist (spot : Spot) : (found kind name spot).Sublist
    ((spot.rules.content.filter (references kind name others)).map spot.place.usage) := by
  unfold found
  split
  · apply List.Sublist.map
    have seen : spot.rules.seen.Sublist spot.rules.content := by
      rcases seen_cases spot.rules with ⟨_, same⟩ | ⟨_, same⟩
      · exact same ▸ List.Sublist.refl _
      · exact same ▸ List.nil_sublist _
    exact (seen.filter _).trans (List.monotone_filter_right _ fun raw => references_of_matches)
  · exact List.nil_sublist _

/-- The report keeps its word exactly when it says that it is incomplete or nothing was passed over in silence. -/
theorem usage_complete_iff : Complete cluster kind name others ↔ Failing cluster ∨ Covered cluster kind name others := by
  have listed : (findFirewallObjectUsage cluster kind name).1.Perm (expected cluster kind name others) ↔
      ∀ spot ∈ spots cluster, ∀ raw ∈ spot.rules.content, references kind name others raw = true →
        spot.reached = true ∧ ruleMatches kind name raw = true := by
    rw [usages_eq]
    unfold expected
    rw [flatMap_perm_iff found_sublist]
    simp only [found_eq_iff]
  unfold Complete Covered
  rw [← @incomplete_iff cluster kind name, listed]
  cases (findFirewallObjectUsage cluster kind name).2 with
  | true => simp
  | false =>
      simp only [forall_const, Bool.false_eq_true, imp_false, not_not, false_or]
      exact and_comm

end Search

section Examples

/-- A rule that admits the members of an IPSet under this spelling. -/
def admitting (source : String) : JsonObject := .ofMembers [("pos", .int 0), ("type", .text "in"),
  ("action", .text "ACCEPT"), ("source", .text source)]

/-- Every read of this cluster succeeds, and one of its nodes is offline. -/
def offlineCluster : Cluster where
  datacenter := ⟨[], .content⟩
  groups := ⟨[], .content⟩
  nodes := ⟨[⟨.ofMembers [("node", .text "pve2"), ("status", .text "offline")], ⟨[admitting "+web"], .content⟩⟩], .content⟩
  guests := ⟨[], .content⟩

/-- Every read of this cluster succeeds, and a rule of the datacenter names the scope of the set. -/
def scopedCluster : Cluster where
  datacenter := ⟨[admitting "+dc/web"], .content⟩
  groups := ⟨[], .content⟩
  nodes := ⟨[], .content⟩
  guests := ⟨[], .content⟩

/-- The set is reported as unused and the report as complete, while an offline node and a rule with the scope in
its spelling use the set. -/
theorem silent_gaps : ¬ Complete offlineCluster .ipset "web" ["+dc/web"] ∧
    ¬ Complete scopedCluster .ipset "web" ["+dc/web"] := by
  constructor
  · rintro ⟨-, read⟩
    have complete : (findFirewallObjectUsage offlineCluster .ipset "web").2 = false := by decide +kernel
    have offline : (memberSpots offlineCluster).all (fun spot => !spot.asked) = true := by decide +kernel
    obtain ⟨spot, member⟩ : ∃ spot, spot ∈ memberSpots offlineCluster := ⟨_, List.mem_cons_self⟩
    have unasked := List.all_eq_true.mp offline spot member
    rw [Bool.not_eq_true'] at unasked
    have told := read spot member fun known => Bool.eq_false_iff.mp unasked known.1
    exact Bool.eq_false_iff.mp complete told
  · rintro ⟨listed, -⟩
    have long := (listed (by decide +kernel)).length_eq
    revert long
    decide +kernel

end Examples
end P3Portal.Proxmox.FirewallUsage
