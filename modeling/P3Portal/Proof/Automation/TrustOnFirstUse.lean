import P3Portal.Proof.Automation.GuestRun
import P3Portal.Proof.Automation.HostKeys

namespace P3Portal.Automation
open Schema Foundation

/-- The visits of a run up to some point. -/
abbrev HostKeyPast := List (HostKeyState × HostKeyEvent)

/-- The address has presented the key to the run with the index. -/
def Presented (past : HostKeyPast) (index : Nat) (ip key : String) : Prop :=
  ∃ state site, (state, HostKeyEvent.contact index site ip key) ∈ past

/-- The run with the index has read the host while no key was stored, at the host's own address. -/
def ReadWithoutKey (past : HostKeyPast) (index : Nat) (candidate : Candidate) (ip : String) : Prop :=
  ∃ state site completed group rest selected result,
    (state, HostKeyEvent.advance index site completed) ∈ past ∧
      state.processes[index]? = some (.collecting (group :: rest) selected result) ∧ candidate ∈ group.2 ∧
        keptKey state.shared candidate = none ∧ ownAddress site state.shared candidate = some ip

/-- A stored key stays until it is reset or its row is removed. -/
def KeyStays (ssh : SshClient) (state : HostKeyState) (event : HostKeyEvent) : Prop :=
  ∀ candidate key, keptKey state.shared candidate = some key →
    let after := (hostKeyStep ssh state event).shared
    keptKey after candidate = some key ∨
      keptKey after candidate = none ∧ (event = .reset candidate ∨ hostState after candidate = none)

/-- A new key was presented to a run by the own address of a host without a key. -/
def KeyEarned (ssh : SshClient) (past : HostKeyPast) (state : HostKeyState) (event : HostKeyEvent) : Prop :=
  ∀ candidate key, keptKey (hostKeyStep ssh state event).shared candidate = some key →
    keptKey state.shared candidate ≠ some key →
      ∃ index site completed ip, event = .advance index site completed ∧
        ReadWithoutKey past index candidate ip ∧ Presented past index ip key

/-- A run contacts the address of a host only with the lines of the host's key in its file. -/
def KeyShown (state : HostKeyState) : HostKeyEvent → Prop
  | .contact index site ip _ => ∀ result knownHosts,
      state.processes[index]? = some (.running result knownHosts) →
        ∀ candidate key, keptKey state.shared candidate = some key →
          ownAddress site state.shared candidate = some ip → ∀ line ∈ keyLines key, (ip, line) ∈ knownHosts
  | _ => True

/-- An unfinished run holds these targets. -/
def GuestRunPhase.targets : GuestRunPhase → List Target
  | .collecting _ _ result => result.targets
  | .running result _ => result.targets
  | .persisting targets _ => targets
  | .finished => []

/-- The targets of a group are live under their kinds, belong to no unfinished run, and a target with a key
shares its address with no other target of the run. -/
structure GroupFits (state : HostKeyState) (site : InventorySite) (group : Int × List Candidate)
    (selected : List String) (result : InventoryResult) : Prop where
  distinct : group.2.Nodup
  free : ∀ candidate ∈ group.2, chosen site state.shared selected candidate = true →
    ∀ phase ∈ state.processes, ∀ target ∈ phase.targets, target.candidate ≠ candidate
  live : ∀ candidate ∈ group.2, chosen site state.shared selected candidate = true →
    ∃ guest, liveGuest site state.shared candidate = some guest ∧ guest.type = candidate.kind
  earlier : ∀ candidate ∈ group.2, chosen site state.shared selected candidate = true →
    ∀ target ∈ result.targets, target.ansibleHost = address site state.shared candidate →
      Text.truthy target.hostKey = none ∧ storedKey state.shared candidate = none
  alone : ∀ candidate ∈ group.2, chosen site state.shared selected candidate = true →
    (storedKey state.shared candidate).isSome → ∀ other ∈ group.2, chosen site state.shared selected other = true →
      address site state.shared other = address site state.shared candidate → other = candidate

/-- Runs share no host, know the kinds of their hosts and contact no foreign host with a stored key. -/
def Orderly (state : HostKeyState) : HostKeyEvent → Prop
  | .advance index site _ => ∀ group rest selected result,
      state.processes[index]? = some (.collecting (group :: rest) selected result) →
        GroupFits state site group selected result
  | .contact index site ip _ => ∀ result knownHosts,
      state.processes[index]? = some (.running result knownHosts) →
        ∀ candidate, (keptKey state.shared candidate).isSome →
          ownAddress site state.shared candidate = some ip →
            ∃ target ∈ result.targets, target.candidate = candidate ∧ target.ansibleHost = ip
  | _ => True

section Decidability
variable (state : HostKeyState) (site : InventorySite)

theorem groupFits_iff (group : Int × List Candidate) (selected : List String) (result : InventoryResult) :
    GroupFits state site group selected result ↔ group.2.Nodup ∧ ∀ candidate ∈ group.2,
      chosen site state.shared selected candidate = true →
        (∀ phase ∈ state.processes, ∀ target ∈ phase.targets, target.candidate ≠ candidate) ∧
        (liveGuest site state.shared candidate).any (fun guest => guest.type = candidate.kind) = true ∧
        (∀ target ∈ result.targets, target.ansibleHost = address site state.shared candidate →
          Text.truthy target.hostKey = none ∧ storedKey state.shared candidate = none) ∧
        ((storedKey state.shared candidate).isSome → ∀ other ∈ group.2,
          chosen site state.shared selected other = true →
            address site state.shared other = address site state.shared candidate → other = candidate) := by
  constructor
  · intro fits
    refine ⟨fits.distinct, fun candidate member picked => ⟨fits.free candidate member picked, ?_,
      fits.earlier candidate member picked, fits.alone candidate member picked⟩⟩
    obtain ⟨guest, live, kind⟩ := fits.live candidate member picked
    rw [live]
    exact decide_eq_true kind
  · intro ⟨distinct, each⟩
    refine ⟨distinct, fun candidate member picked => (each candidate member picked).1, ?_,
      fun candidate member picked => (each candidate member picked).2.2.1,
      fun candidate member picked => (each candidate member picked).2.2.2⟩
    intro candidate member picked
    obtain ⟨guest, live, kind⟩ := (Option.any_eq_true _ _).mp (each candidate member picked).2.1
    exact ⟨guest, live, of_decide_eq_true kind⟩

instance (group : Int × List Candidate) (selected : List String) (result : InventoryResult) :
    Decidable (GroupFits state site group selected result) :=
  decidable_of_iff _ (groupFits_iff state site group selected result).symm

/-- Only the stored rows can have a key. -/
theorem forall_keptKey_iff (db : Database) (holds : Candidate → Prop) :
    (∀ candidate, (keptKey db candidate).isSome → holds candidate) ↔
      ∀ row ∈ db.ansibleManagedHosts, (keptKey db (hostOf row)).isSome → holds (hostOf row) := by
  constructor
  · intro all row member
    exact all (hostOf row)
  · intro rows candidate stored
    cases found : hostState db candidate with
    | none =>
        rw [keptKey, found] at stored
        cases stored
    | some row =>
        have named := hostOf_hostState found
        rw [← named] at stored ⊢
        rw [hostState_eq] at found
        exact rows row (List.mem_of_find?_eq_some found) stored

/-- What concerns the next group of a collecting run is decided at the phase of the run. -/
instance decidableCollecting {fits : Int × List Candidate → List String → InventoryResult → Prop}
    [∀ group selected result, Decidable (fits group selected result)] : (phase : Option GuestRunPhase) →
    Decidable (∀ group rest selected result, phase = some (.collecting (group :: rest) selected result) →
      fits group selected result)
  | some (.collecting (group :: _) selected result) =>
      decidable_of_iff (fits group selected result)
        ⟨fun fit _ _ _ _ same => by cases same; exact fit, fun all => all _ _ _ _ rfl⟩
  | some (.collecting [] _ _) => isTrue fun _ _ _ _ => nofun
  | some (.running _ _) => isTrue fun _ _ _ _ => nofun
  | some (.persisting _ _) => isTrue fun _ _ _ _ => nofun
  | some .finished => isTrue fun _ _ _ _ => nofun
  | none => isTrue fun _ _ _ _ => nofun

/-- What concerns a contacting run is decided at the phase of the run. -/
instance decidableRunning {fits : InventoryResult → Prop} [∀ result, Decidable (fits result)] :
    (phase : Option GuestRunPhase) →
    Decidable (∀ result knownHosts, phase = some (.running result knownHosts) → fits result)
  | some (.running result _) =>
      decidable_of_iff (fits result) ⟨fun fit _ _ same => by cases same; exact fit, fun all => all _ _ rfl⟩
  | some (.collecting _ _ _) => isTrue fun _ _ => nofun
  | some (.persisting _ _) => isTrue fun _ _ => nofun
  | some .finished => isTrue fun _ _ => nofun
  | none => isTrue fun _ _ => nofun

instance (state : HostKeyState) : (event : HostKeyEvent) → Decidable (Orderly state event)
  | .advance index _ _ =>
      decidableCollecting state.processes[index]?
  | .contact index site ip _ =>
      have (result : InventoryResult) : Decidable (∀ candidate, (keptKey state.shared candidate).isSome →
          ownAddress site state.shared candidate = some ip →
            ∃ target ∈ result.targets, target.candidate = candidate ∧ target.ansibleHost = ip) :=
        decidable_of_iff _ (forall_keptKey_iff state.shared _).symm
      decidableRunning state.processes[index]?
  | .start .. => isTrue trivial
  | .reset _ => isTrue trivial
  | .upsert .. => isTrue trivial
  | .setManaged _ => isTrue trivial
  | .deleteVanished .. => isTrue trivial

end Decidability

section Invariant
variable (past : HostKeyPast) (db : Database) (index : Nat)

/-- The targets of a run before the harvest: each was read in this run, and a key that is stored now was
stored then. -/
structure TargetsFine (targets : List Target) : Prop where
  distinct : (targets.map Target.candidate).Nodup
  read : ∀ target ∈ targets, lined target.hostKey = none →
    ReadWithoutKey past index target.candidate target.ansibleHost
  current : ∀ target ∈ targets, ∀ key, keptKey db target.candidate = some key → lined target.hostKey = some key

/-- The inventory holds the key of each target under the target's address. -/
def KeysHeld (result : InventoryResult) : Prop :=
  ∀ target ∈ result.targets, ∀ key, Text.truthy target.hostKey = some key →
    result.hostKeys.get? target.ansibleHost = some key

/-- Behind the prefilled lines the file has one presented key for each new address. -/
def FileFine (result : InventoryResult) (knownHosts : KnownHosts) : Prop :=
  ∃ fresh, knownHosts = prefilled result ++ fresh ∧ (fresh.map Prod.fst).Nodup ∧
    ∀ line ∈ fresh, line.1 ∉ (prefilled result).map Prod.fst ∧ Presented past index line.1 line.2

/-- A learned key that waits was presented by the address of a target that still has no key. -/
structure LearnedFine (targets : List Target) (learned : List (String × String)) : Prop where
  distinct : (targets.map Target.candidate).Nodup
  addresses : (learned.map Prod.fst).Nodup
  presented : ∀ line ∈ learned, Presented past index line.1 line.2
  read : ∀ line ∈ learned, ∀ target, ipToTarget targets line.1 = some target →
    ReadWithoutKey past index target.candidate line.1
  empty : ∀ line ∈ learned, ∀ target, ipToTarget targets line.1 = some target →
    keptKey db target.candidate = none

def PhaseFine : GuestRunPhase → Prop
  | .collecting groups _ result => TargetsFine past db index result.targets ∧ KeysHeld result ∧
      ∀ group ∈ groups, ∀ candidate ∈ group.2, candidate.portalNodeId = group.1
  | .running result knownHosts => TargetsFine past db index result.targets ∧ KeysHeld result ∧
      FileFine past index result knownHosts
  | .persisting targets learned => LearnedFine past db index targets learned
  | .finished => True

end Invariant

/-- Two lists of targets share no host. -/
def Apart (targets others : List Target) : Prop :=
  ∀ target ∈ targets, ∀ other ∈ others, target.candidate ≠ other.candidate

/-- Every run is fine, and two unfinished runs share no host. -/
structure Trusted (past : HostKeyPast) (state : HostKeyState) : Prop where
  phases : ∀ (index : Nat) (phase : GuestRunPhase), state.processes[index]? = some phase →
    PhaseFine past state.shared index phase
  exclusive : ∀ (index other : Nat) (phase otherPhase : GuestRunPhase), index ≠ other →
    state.processes[index]? = some phase → state.processes[other]? = some otherPhase →
      Apart phase.targets otherPhase.targets

section Monotone
variable {past later : HostKeyPast} {db after : Database} {index : Nat} {phase : GuestRunPhase}

theorem Presented.mono (longer : past ⊆ later) {ip key : String} (presented : Presented past index ip key) :
    Presented later index ip key := by
  obtain ⟨state, site, member⟩ := presented
  exact ⟨state, site, longer member⟩

theorem ReadWithoutKey.mono (longer : past ⊆ later) {candidate : Candidate} {ip : String}
    (read : ReadWithoutKey past index candidate ip) : ReadWithoutKey later index candidate ip := by
  obtain ⟨state, site, completed, group, rest, selected, result, member, read⟩ := read
  exact ⟨state, site, completed, group, rest, selected, result, longer member, read⟩

theorem ipToTarget_mem {targets : List Target} {ip : String} {target : Target}
    (found : ipToTarget targets ip = some target) : target ∈ targets ∧ target.ansibleHost = ip := by
  unfold ipToTarget at found
  have member := List.mem_reverse.mp (List.mem_of_find?_eq_some found)
  have addressed := List.find?_some found
  exact ⟨List.mem_of_mem_filter member, by simpa using addressed⟩

/-- A run stays fine when the past grows and the keys of its targets are kept or dropped. -/
theorem PhaseFine.mono (fine : PhaseFine past db index phase) (longer : past ⊆ later)
    (forgets : ∀ target ∈ phase.targets, keptKey after target.candidate = keptKey db target.candidate ∨
      keptKey after target.candidate = none) : PhaseFine later after index phase := by
  have targetsFine : ∀ targets, (∀ target ∈ targets, keptKey after target.candidate =
      keptKey db target.candidate ∨ keptKey after target.candidate = none) →
      TargetsFine past db index targets → TargetsFine later after index targets := by
    intro targets forgets fine
    refine ⟨fine.distinct, fun target member keyless => (fine.read target member keyless).mono longer, ?_⟩
    intro target member key kept
    rcases forgets target member with same | dropped
    · exact fine.current target member key (same ▸ kept)
    · rw [dropped] at kept
      cases kept
  cases phase with
  | collecting groups selected result => exact ⟨targetsFine _ forgets fine.1, fine.2.1, fine.2.2⟩
  | running result knownHosts =>
      obtain ⟨targets, held, fresh, file, distinct, new⟩ := fine
      exact ⟨targetsFine _ forgets targets, held, fresh, file, distinct,
        fun line member => ⟨(new line member).1, (new line member).2.mono longer⟩⟩
  | persisting targets learned =>
      refine ⟨fine.distinct, fine.addresses, fun line member => (fine.presented line member).mono longer,
        fun line member target found => (fine.read line member target found).mono longer, ?_⟩
      intro line member target found
      rcases forgets target (ipToTarget_mem found).1 with same | dropped
      · rw [same]
        exact fine.empty line member target found
      · exact dropped
  | finished => trivial

/-- A longer past alone keeps a run fine. -/
theorem PhaseFine.longer (fine : PhaseFine past db index phase) (longer : past ⊆ later) :
    PhaseFine later db index phase :=
  fine.mono longer fun _ _ => .inl rfl

end Monotone

section Steps
variable {past later : HostKeyPast} {state : HostKeyState}

/-- The targets of a run are apart from those of every other run. -/
theorem Trusted.apart (trusted : Trusted past state) {index : Nat} {phase : GuestRunPhase}
    (present : state.processes[index]? = some phase) (other : Nat) (otherPhase : GuestRunPhase)
    (different : other ≠ index) (there : state.processes[other]? = some otherPhase) :
    Apart phase.targets otherPhase.targets :=
  trusted.exclusive index other phase otherPhase (Ne.symm different) present there

/-- A forgetful change of the stored hosts keeps the trust. -/
theorem Trusted.forget (trusted : Trusted past state) (longer : past ⊆ later) {after : Database}
    (forgets : Forgets state.shared after) : Trusted later { state with shared := after } where
  phases index phase present := (trusted.phases index phase present).mono longer fun _ _ => forgets _
  exclusive := trusted.exclusive

/-- A new run without targets joins the others. -/
theorem Trusted.spawn (trusted : Trusted past state) (longer : past ⊆ later) {phase : GuestRunPhase}
    (fine : ∀ index, PhaseFine later state.shared index phase) (empty : phase.targets = []) :
    Trusted later (state.spawn phase) := by
  have cases (index : Nat) (found : GuestRunPhase)
      (present : (state.processes ++ [phase])[index]? = some found) :
      state.processes[index]? = some found ∨ found = phase := by
    rcases Nat.lt_or_ge index state.processes.length with before | behind
    · rw [List.getElem?_append_left before] at present
      exact .inl present
    · rw [List.getElem?_append_right behind] at present
      exact .inr (List.mem_singleton.mp (List.mem_of_getElem? present))
  constructor
  · intro index found present
    rcases cases index found present with old | new
    · exact (trusted.phases index found old).mono longer fun _ _ => .inl rfl
    · rw [new]
      exact fine index
  · intro index other found otherFound different present otherPresent target member
    rcases cases index found present with old | new
    · rcases cases other otherFound otherPresent with otherOld | otherNew
      · exact trusted.exclusive index other found otherFound different old otherOld target member
      · rw [otherNew, empty]
        intro second absent
        cases absent
    · rw [new, empty] at member
      cases member

/-- A turn of one run keeps the trust when the run stays fine and apart from the others and touches the
keys of its own hosts only. -/
theorem Trusted.turn (trusted : Trusted past state) (longer : past ⊆ later) {index : Nat}
    {phase next : GuestRunPhase} {after : Database} (present : state.processes[index]? = some phase)
    (fine : PhaseFine later after index next)
    (own : ∀ candidate, candidate ∉ phase.targets.map Target.candidate →
      keptKey after candidate = keptKey state.shared candidate)
    (apart : ∀ other otherPhase, other ≠ index → state.processes[other]? = some otherPhase →
      Apart next.targets otherPhase.targets) :
    Trusted later ⟨after, state.processes.set index next⟩ := by
  have cases (other : Nat) (found : GuestRunPhase)
      (there : (state.processes.set index next)[other]? = some found) :
      other = index ∧ found = next ∨ other ≠ index ∧ state.processes[other]? = some found := by
    rw [List.getElem?_set] at there
    split at there
    · rename_i same
      split at there
      · exact .inl ⟨same.symm, (Option.some.inj there).symm⟩
      · cases there
    · rename_i different
      exact .inr ⟨fun same => different same.symm, there⟩
  constructor
  · intro other found there
    rcases cases other found there with ⟨rfl, rfl⟩ | ⟨different, old⟩
    · exact fine
    · refine (trusted.phases other found old).mono longer fun target member => .inl (own _ ?_)
      intro shared
      obtain ⟨twin, twinMember, same⟩ := List.mem_map.mp shared
      exact trusted.exclusive other index found phase different old present target member twin twinMember same.symm
  · intro first second firstFound secondFound different firstThere secondThere
    rcases cases first firstFound firstThere with ⟨rfl, rfl⟩ | ⟨firstOther, firstOld⟩
    · rcases cases second secondFound secondThere with ⟨rfl, rfl⟩ | ⟨secondOther, secondOld⟩
      · exact absurd rfl different
      · exact apart second secondFound secondOther secondOld
    · rcases cases second secondFound secondThere with ⟨rfl, rfl⟩ | ⟨secondOther, secondOld⟩
      · intro target member other otherMember same
        exact apart first firstFound firstOther firstOld other otherMember target member same.symm
      · exact trusted.exclusive first second firstFound secondFound different firstOld secondOld

end Steps

section Phases
variable {past : HostKeyPast} {state : HostKeyState} {index : Nat}

/-- A group that fits extends the targets of its run by fine ones. -/
theorem GroupFits.targetsFine {site : InventorySite} {completed : Bool} {group : Int × List Candidate}
    {rest : List (Int × List Candidate)} {selected : List String} {result : InventoryResult}
    (fits : GroupFits state site group selected result)
    (present : state.processes[index]? = some (.collecting (group :: rest) selected result))
    (fine : TargetsFine past state.shared index result.targets) :
    TargetsFine (past ++ [(state, .advance index site completed)]) state.shared index
      (result.targets ++
        (group.2.filter (chosen site state.shared selected)).map (targetOf site state.shared)) := by
  have longer : past ⊆ past ++ [(state, HostKeyEvent.advance index site completed)] :=
    List.subset_append_left _ _
  refine ⟨?_, ?_, ?_⟩
  · rw [List.map_append, List.map_map]
    have named : Target.candidate ∘ targetOf site state.shared = id := rfl
    rw [named, List.map_id]
    refine List.nodup_append.mpr ⟨fine.distinct, fits.distinct.filter _, ?_⟩
    intro candidate old other new same
    obtain ⟨target, member, rfl⟩ := List.mem_map.mp old
    obtain ⟨listed, picked⟩ := List.mem_filter.mp (same ▸ new)
    exact fits.free _ listed picked _ (List.mem_of_getElem? present) target member rfl
  · intro target member keyless
    rcases List.mem_append.mp member with old | new
    · exact (fine.read target old keyless).mono longer
    · obtain ⟨candidate, inside, rfl⟩ := List.mem_map.mp new
      obtain ⟨listed, picked⟩ := List.mem_filter.mp inside
      obtain ⟨guest, live, kind⟩ := fits.live candidate listed picked
      exact ⟨state, site, completed, group, rest, selected, result, List.mem_append_right _ (List.mem_singleton_self _),
        present, listed, keyless, ownAddress_eq (chosen_iff.mp picked).1 live kind⟩
  · intro target member key kept
    rcases List.mem_append.mp member with old | new
    · exact fine.current target old key kept
    · obtain ⟨candidate, inside, rfl⟩ := List.mem_map.mp new
      exact kept

/-- A group that fits keeps the key of every target under its address. -/
theorem GroupFits.keysHeld {site : InventorySite} {group : Int × List Candidate} {selected : List String}
    {result : InventoryResult} (fits : GroupFits state site group selected result)
    (grouped : ∀ candidate ∈ group.2, candidate.portalNodeId = group.1) (held : KeysHeld result) :
    KeysHeld (recordNode site state.shared selected result group) := by
  obtain ⟨-, targets, keys⟩ := foldl_recordCandidate site state.shared selected group.2 result
  intro target member key stored
  rw [recordNode_eq site state.shared selected grouped] at member ⊢
  rw [targets] at member
  rw [keys]
  rcases List.mem_append.mp member with old | new
  · rw [OrderedMap.get?_assignAll_of_absent]
    · exact held target old key stored
    · intro other row
      obtain ⟨candidate, inside, same⟩ := List.mem_filterMap.mp row
      obtain ⟨listed, picked⟩ := List.mem_filter.mp inside
      obtain ⟨own, ownStored, pair⟩ := Option.map_eq_some_iff.mp same
      have keyless := fits.earlier candidate listed picked target old (Prod.mk.inj pair).1.symm
      rw [keyless.1] at stored
      cases stored
  · obtain ⟨candidate, inside, rfl⟩ := List.mem_map.mp new
    obtain ⟨listed, picked⟩ := List.mem_filter.mp inside
    refine OrderedMap.get?_assignAll_of_unique _ ?_ ?_
    · exact List.mem_filterMap.mpr ⟨candidate, inside, Option.map_eq_some_iff.mpr ⟨key, stored, rfl⟩⟩
    · intro other row
      obtain ⟨twin, twinInside, same⟩ := List.mem_filterMap.mp row
      obtain ⟨twinListed, twinPicked⟩ := List.mem_filter.mp twinInside
      obtain ⟨own, ownStored, pair⟩ := Option.map_eq_some_iff.mp same
      have one : twin = candidate := fits.alone candidate listed picked (Option.isSome_of_mem stored) twin twinListed
        twinPicked (Prod.mk.inj pair).1
      rw [← (Prod.mk.inj pair).2]
      rw [one] at ownStored
      exact Option.some.inj (ownStored.symm.trans stored)

/-- A key with a line is not empty. -/
theorem truthy_of_lined {hostKey : Option String} {key : String} (written : lined hostKey = some key) :
    Text.truthy hostKey = some key := by
  obtain ⟨same, lines⟩ := Option.filter_eq_some_iff.mp written
  refine (Text.truthy_eq_some _ _).mpr ⟨same, ?_⟩
  intro empty
  rw [empty] at lines
  exact absurd lines (by decide)

/-- Every line of a held key is in the prefilled file. -/
theorem KeysHeld.prefilled {result : InventoryResult} (held : KeysHeld result) {target : Target}
    (member : target ∈ result.targets) {key : String} (written : lined target.hostKey = some key) {line : String}
    (inside : line ∈ keyLines key) : (target.ansibleHost, line) ∈ prefilled result := by
  have stored := held target member key (truthy_of_lined written)
  refine List.mem_flatMap.mpr ⟨(target.ansibleHost, key), ?_, List.mem_map.mpr ⟨line, inside, rfl⟩⟩
  exact (OrderedMap.get?_eq_some_iff _).mp stored

/-- A contact keeps the file fine. -/
theorem FileFine.contact {later : HostKeyPast} (ssh : SshClient) {result : InventoryResult} {knownHosts : KnownHosts}
    {ip key : String} (fine : FileFine past index result knownHosts) (longer : past ⊆ later)
    (presented : Presented later index ip key) :
    FileFine later index result (ssh.contact knownHosts ip key) := by
  obtain ⟨fresh, file, distinct, new⟩ := fine
  have before : ∀ line ∈ fresh, line.1 ∉ (prefilled result).map Prod.fst ∧ Presented later index line.1 line.2 :=
    fun line member => ⟨(new line member).1, (new line member).2.mono longer⟩
  rcases ssh.acceptsNew knownHosts ip key with same | ⟨absent, added⟩
  · rw [same]
    exact ⟨fresh, file, distinct, before⟩
  · rw [file, List.map_append, List.mem_append, not_or] at absent
    refine ⟨fresh ++ [(ip, key)], by rw [added, file, List.append_assoc], ?_, ?_⟩
    · rw [List.map_append, List.map_singleton, ← List.concat_eq_append]
      exact distinct.concat absent.2
    · intro line member
      rcases List.mem_append.mp member with old | here
      · exact before line old
      · rw [List.mem_singleton.mp here]
        exact ⟨absent.1, presented⟩

end Phases

section Harvest
variable {past : HostKeyPast} {db : Database} {index : Nat}

/-- One line of the file changes what the run learns. -/
def learnLine (preIps : List String) (learned : OrderedMap String String) (line : String × String) :
    OrderedMap String String :=
  if Text.strip line.2 = "" || line.1 ∈ preIps then learned
  else learned.alter line.1 fun stored => joinKey stored line.2

theorem foldl_learnLine_prefilled (preIps : List String) (lines : KnownHosts)
    (known : ∀ line ∈ lines, line.1 ∈ preIps) (learned : OrderedMap String String) :
    lines.foldl (learnLine preIps) learned = learned := by
  induction lines with
  | nil => rfl
  | cons line rest ih =>
      have skipped : learnLine preIps learned line = learned := by
        rw [learnLine, if_pos (by simp [known line List.mem_cons_self])]
      rw [List.foldl_cons, skipped]
      exact ih fun other member => known other (List.mem_cons_of_mem line member)

/-- An address that the file names once is learned with that key. -/
theorem foldl_learnLine_fresh (preIps : List String) (lines : KnownHosts) (distinct : (lines.map Prod.fst).Nodup)
    (learned : OrderedMap String String) (unlearned : ∀ line ∈ lines, learned.get? line.1 = none) {ip key : String}
    (found : (lines.foldl (learnLine preIps) learned).get? ip = some key) :
    learned.get? ip = some key ∨ (ip, key) ∈ lines := by
  induction lines generalizing learned with
  | nil => exact .inl found
  | cons line rest ih =>
      rw [List.map_cons, List.nodup_cons] at distinct
      have once : ∀ query, (learnLine preIps learned line).get? query = learned.get? query ∨
          query = line.1 ∧ (learnLine preIps learned line).get? query = some line.2 := by
        intro query
        unfold learnLine
        split
        · exact .inl rfl
        · rw [OrderedMap.get?_alter, unlearned line List.mem_cons_self]
          by_cases same : query = line.1
          · exact .inr ⟨same, by rw [if_pos same]; rfl⟩
          · exact .inl (if_neg same)
      have later : ∀ other ∈ rest, (learnLine preIps learned line).get? other.1 = none := by
        intro other member
        rcases once other.1 with same | ⟨same, -⟩
        · rw [same]
          exact unlearned other (List.mem_cons_of_mem line member)
        · exact absurd (List.mem_map.mpr ⟨other, member, same⟩) distinct.1
      rw [List.foldl_cons] at found
      rcases ih distinct.2 (learnLine preIps learned line) later found with here | there
      · rcases once ip with same | ⟨same, stored⟩
        · exact .inl (same ▸ here)
        · rw [stored] at here
          rw [same, ← Option.some.inj here]
          exact .inr List.mem_cons_self
      · exact .inr (List.mem_cons_of_mem line there)

/-- What a run learns was presented to it at an address that its file did not name before. -/
theorem FileFine.harvest {result : InventoryResult} {knownHosts : KnownHosts}
    (fine : FileFine past index result knownHosts) {line : String × String}
    (learned : line ∈ (harvest ((prefilled result).map Prod.fst) knownHosts).entries) :
    line.1 ∉ (prefilled result).map Prod.fst ∧ Presented past index line.1 line.2 := by
  obtain ⟨fresh, file, distinct, new⟩ := fine
  have found : (knownHosts.foldl (learnLine ((prefilled result).map Prod.fst)) OrderedMap.empty).get? line.1 =
      some line.2 := (OrderedMap.get?_eq_some_iff _).mpr learned
  rw [file, List.foldl_append, foldl_learnLine_prefilled _ _ fun line member => List.mem_map_of_mem member] at found
  rcases foldl_learnLine_fresh _ fresh distinct _ (fun _ _ => rfl) found with absent | member
  · cases absent
  · exact new line member

/-- A keyless target of an address that the file did not name is ready for the harvested key. -/
theorem learnedFine {result : InventoryResult} {knownHosts : KnownHosts}
    (targets : TargetsFine past db index result.targets) (held : KeysHeld result)
    (file : FileFine past index result knownHosts) :
    LearnedFine past db index result.targets
      (Automation.harvest ((prefilled result).map Prod.fst) knownHosts).entries := by
  have keyless : ∀ line ∈ (Automation.harvest ((prefilled result).map Prod.fst) knownHosts).entries,
      ∀ target, ipToTarget result.targets line.1 = some target → lined target.hostKey = none := by
    intro line learned target found
    obtain ⟨member, addressed⟩ := ipToTarget_mem found
    cases written : lined target.hostKey with
    | none => rfl
    | some key =>
        obtain ⟨first, inside⟩ := List.exists_mem_of_ne_nil _
          (by simpa using (Option.filter_eq_some_iff.mp written).2)
        have named : line.1 ∈ (prefilled result).map Prod.fst :=
          List.mem_map.mpr ⟨(target.ansibleHost, first), held.prefilled member written inside, addressed⟩
        exact absurd named (file.harvest learned).1
  refine ⟨targets.distinct, OrderedMap.keysNodup _, fun line learned => (file.harvest learned).2, ?_, ?_⟩
  · intro line learned target found
    obtain ⟨member, addressed⟩ := ipToTarget_mem found
    rw [← addressed]
    exact targets.read target member (keyless line learned target found)
  · intro line learned target found
    cases kept : keptKey db target.candidate with
    | none => rfl
    | some key =>
        have stored := targets.current target (ipToTarget_mem found).1 key kept
        rw [keyless line learned target found] at stored
        cases stored

/-- The database after one harvested key. -/
def persistLine (db : Database) (targets : List Target) (line : String × String) : Database :=
  (ipToTarget targets line.1).elim db fun target => persistHostKey db target.candidate line.2

/-- One harvested key touches the host of its target only. -/
theorem keptKey_persistLine (db : Database) (targets : List Target) (line : String × String) (candidate : Candidate) :
    keptKey (persistLine db targets line) candidate = keptKey db candidate ∨
      ∃ target, ipToTarget targets line.1 = some target ∧ target.candidate = candidate ∧
        ∀ key, keptKey (persistLine db targets line) candidate = some key → key = line.2 := by
  unfold persistLine
  cases found : ipToTarget targets line.1 with
  | none => exact .inl rfl
  | some target =>
      by_cases same : candidate = target.candidate
      · refine .inr ⟨target, rfl, same.symm, ?_⟩
        intro key kept
        rw [same] at kept
        exact keptKey_persist_self kept
      · exact .inl (keptKey_persist_other line.2 same)

/-- The remaining learned keys stay fine because they belong to other hosts. -/
theorem LearnedFine.persist {targets : List Target} {line : String × String} {rest : List (String × String)}
    (fine : LearnedFine past db index targets (line :: rest)) :
    LearnedFine past (persistLine db targets line) index targets rest := by
  have addresses := List.nodup_cons.mp fine.addresses
  refine ⟨fine.distinct, addresses.2, fun other member => fine.presented other (List.mem_cons_of_mem line member),
    fun other member => fine.read other (List.mem_cons_of_mem line member), ?_⟩
  intro other member target found
  rcases keptKey_persistLine db targets line target.candidate with same | ⟨twin, twinFound, shared, -⟩
  · rw [same]
    exact fine.empty other (List.mem_cons_of_mem line member) target found
  · have one : twin = target := List.inj_on_of_nodup_map fine.distinct (ipToTarget_mem twinFound).1
      (ipToTarget_mem found).1 shared
    have addressed : line.1 = other.1 := by
      rw [← (ipToTarget_mem twinFound).2, ← (ipToTarget_mem found).2, one]
    exact absurd (List.mem_map.mpr ⟨other, member, addressed.symm⟩) addresses.1

end Harvest

section Run
variable {past : HostKeyPast} {state : HostKeyState}

theorem startGuestRun_fine (past : HostKeyPast) (db : Database) (index : Nat) (site : InventorySite)
    (kind : ScopeKind) (ref : Option Int) (userId : Int) (targetHosts : Option (List String)) :
    PhaseFine past db index (startGuestRun site db kind ref userId targetHosts) ∧
      (startGuestRun site db kind ref userId targetHosts).targets = [] := by
  unfold startGuestRun
  split
  · exact ⟨trivial, rfl⟩
  · refine ⟨⟨⟨List.nodup_nil, ?_, ?_⟩, ?_, ?_⟩, rfl⟩
    · intro target absent
      cases absent
    · intro target absent
      cases absent
    · intro target absent
      cases absent
    · intro group stored candidate member
      exact OrderedMap.key_of_mem_groupAll stored member

/-- An orderly turn of a run keeps the trust. -/
theorem Trusted.advance (trusted : Trusted past state) {index : Nat} {site : InventorySite} {completed : Bool}
    (orderly : Orderly state (.advance index site completed)) {phase : GuestRunPhase}
    (present : state.processes[index]? = some phase) :
    Trusted (past ++ [(state, .advance index site completed)])
      ⟨(phase.turn site completed state.shared).1,
        state.processes.set index (phase.turn site completed state.shared).2⟩ := by
  have longer : past ⊆ past ++ [(state, HostKeyEvent.advance index site completed)] :=
    List.subset_append_left _ _
  have fine := (trusted.phases index phase present).longer longer
  have apart := trusted.apart present
  have none_shared : ∀ targets, Apart [] targets := by
    intro targets target absent
    cases absent
  cases phase with
  | collecting groups selected result =>
      cases groups with
      | nil =>
          refine trusted.turn longer present ?_ (fun _ _ => rfl) ?_
          · dsimp only [GuestRunPhase.turn]
            split
            · trivial
            · exact ⟨fine.1, fine.2.1, [], (List.append_nil _).symm, List.nodup_nil, by simp⟩
          · intro other otherPhase different there
            dsimp only [GuestRunPhase.turn]
            split
            · exact none_shared _
            · exact apart other otherPhase different there
      | cons group rest =>
          have fits := orderly group rest selected result present
          have grouped := fine.2.2 group List.mem_cons_self
          have before := trusted.phases index _ present
          have targets : (recordNode site state.shared selected result group).targets = result.targets ++
              (group.2.filter (chosen site state.shared selected)).map (targetOf site state.shared) := by
            rw [recordNode_eq site state.shared selected grouped]
            exact (foldl_recordCandidate site state.shared selected group.2 result).2.1
          refine trusted.turn longer present ?_ (fun _ _ => rfl) ?_
          · refine ⟨?_, fits.keysHeld grouped fine.2.1, fun other member => fine.2.2 other (List.mem_cons_of_mem _ member)⟩
            rw [targets]
            exact fits.targetsFine present before.1
          · intro other otherPhase different there target member
            change target ∈ (recordNode site state.shared selected result group).targets at member
            rw [targets] at member
            rcases List.mem_append.mp member with old | new
            · exact apart other otherPhase different there target old
            · obtain ⟨candidate, inside, rfl⟩ := List.mem_map.mp new
              obtain ⟨listed, picked⟩ := List.mem_filter.mp inside
              intro twin twinMember same
              exact fits.free candidate listed picked otherPhase (List.mem_of_getElem? there) twin twinMember same.symm
  | running result knownHosts =>
      refine trusted.turn longer present ?_ (fun _ _ => rfl) apart
      cases completed with
      | true => exact learnedFine fine.1 fine.2.1 fine.2.2
      | false => exact ⟨fine.1.distinct, List.nodup_nil, by simp, by simp, by simp⟩
  | persisting targets learned =>
      cases learned with
      | nil => exact trusted.turn longer present trivial (fun _ _ => rfl) fun _ _ _ _ => none_shared _
      | cons line rest =>
          refine trusted.turn longer present (LearnedFine.persist fine) ?_ apart
          intro candidate foreign
          rcases keptKey_persistLine state.shared targets line candidate with same | ⟨target, found, named, -⟩
          · exact same
          · exact absurd (List.mem_map.mpr ⟨target, (ipToTarget_mem found).1, named⟩) foreign
  | finished => exact trusted.turn longer present trivial (fun _ _ => rfl) fun _ _ _ _ => none_shared _

/-- Every orderly event keeps the trust. -/
theorem hostKeyStep_trusted (ssh : SshClient) (past : HostKeyPast) (state : HostKeyState) (event : HostKeyEvent)
    (trusted : Trusted past state) (orderly : Orderly state event) :
    Trusted (past ++ [(state, event)]) (hostKeyStep ssh state event) := by
  have longer : past ⊆ past ++ [(state, event)] := List.subset_append_left _ _
  cases event with
  | start site kind ref userId targetHosts =>
      exact trusted.spawn longer (fun index => (startGuestRun_fine _ _ index _ _ _ _ _).1)
        (startGuestRun_fine past state.shared 0 _ _ _ _ _).2
  | advance index site completed =>
      cases present : state.processes[index]? with
      | none =>
          rw [hostKeyStep, Interleaved.act_absent present]
          exact trusted.forget longer fun _ => .inl rfl
      | some phase =>
          simp only [hostKeyStep, Interleaved.act, present]
          exact trusted.advance orderly present
  | contact index site ip key =>
      cases present : state.processes[index]? with
      | none =>
          rw [hostKeyStep, Interleaved.act_absent present]
          exact trusted.forget longer fun _ => .inl rfl
      | some phase =>
          simp only [hostKeyStep, Interleaved.act, present]
          have fine := (trusted.phases index phase present).longer longer
          have presented : Presented (past ++ [(state, .contact index site ip key)]) index ip key :=
            ⟨state, site, List.mem_append_right _ (List.mem_singleton_self _)⟩
          have apart := trusted.apart present
          cases phase with
          | collecting groups selected result => exact trusted.turn longer present fine (fun _ _ => rfl) apart
          | running result knownHosts =>
              have file := FileFine.contact ssh (trusted.phases index _ present).2.2 longer presented
              exact trusted.turn longer present ⟨fine.1, fine.2.1, file⟩ (fun _ _ => rfl) apart
          | persisting targets learned => exact trusted.turn longer present fine (fun _ _ => rfl) apart
          | finished => exact trusted.turn longer present fine (fun _ _ => rfl) apart
  | reset candidate =>
      refine trusted.forget longer fun wanted => ?_
      rw [keptKey_resetHostKey]
      split
      · exact .inr rfl
      · exact .inl rfl
  | upsert candidate sshManaged ansibleUser =>
      exact trusted.forget longer fun wanted => .inl (keptKey_upsertHostState sshManaged ansibleUser wanted)
  | setManaged candidate => exact trusted.forget longer fun wanted => .inl (keptKey_setManaged wanted)
  | deleteVanished portalNodeId stillVisible =>
      refine trusted.forget longer fun wanted => ?_
      unfold keptKey
      rcases hostState_deleteVanished state.shared portalNodeId stillVisible wanted with same | gone
      · exact .inl (by rw [same])
      · exact .inr (by rw [gone]; rfl)

/-- An event keeps the key of a host, empties it by a reset or with its row, or persists a harvested key. -/
theorem keptKey_step (ssh : SshClient) (state : HostKeyState) (event : HostKeyEvent) (candidate : Candidate) :
    let after := (hostKeyStep ssh state event).shared
    keptKey after candidate = keptKey state.shared candidate ∨
      keptKey after candidate = none ∧ (event = .reset candidate ∨ hostState after candidate = none) ∨
      ∃ index site completed targets line rest target, event = .advance index site completed ∧
        state.processes[index]? = some (.persisting targets (line :: rest)) ∧
        ipToTarget targets line.1 = some target ∧ target.candidate = candidate ∧
        ∀ key, keptKey after candidate = some key → key = line.2 := by
  cases event with
  | start site kind ref userId targetHosts => exact .inl rfl
  | advance index site completed =>
      cases present : state.processes[index]? with
      | none =>
          rw [hostKeyStep, Interleaved.act_absent present]
          exact .inl rfl
      | some phase =>
          rw [hostKeyStep, Interleaved.act_shared present]
          cases phase with
          | collecting groups selected result => cases groups <;> exact .inl rfl
          | running result knownHosts => exact .inl rfl
          | persisting targets learned =>
              cases learned with
              | nil => exact .inl rfl
              | cons line rest =>
                  rcases keptKey_persistLine state.shared targets line candidate with
                    same | ⟨target, found, named, written⟩
                  · exact .inl same
                  · exact .inr (.inr ⟨index, site, completed, targets, line, rest, target, rfl, present, found, named,
                      written⟩)
          | finished => exact .inl rfl
  | contact index site ip key =>
      cases present : state.processes[index]? with
      | none =>
          rw [hostKeyStep, Interleaved.act_absent present]
          exact .inl rfl
      | some phase =>
          rw [hostKeyStep, Interleaved.act_shared present]
          exact .inl rfl
  | reset wanted =>
      dsimp only [hostKeyStep]
      rw [keptKey_resetHostKey]
      by_cases same : candidate = wanted
      · exact .inr (.inl ⟨if_pos same, .inl (by rw [same])⟩)
      · exact .inl (if_neg same)
  | upsert wanted sshManaged ansibleUser => exact .inl (keptKey_upsertHostState sshManaged ansibleUser candidate)
  | setManaged wanted => exact .inl (keptKey_setManaged candidate)
  | deleteVanished portalNodeId stillVisible =>
      dsimp only [hostKeyStep]
      rcases hostState_deleteVanished state.shared portalNodeId stillVisible candidate with same | gone
      · exact .inl (by rw [keptKey, keptKey, same])
      · exact .inr (.inl ⟨by rw [keptKey, gone]; rfl, .inr gone⟩)

theorem Trusted.keyStays (trusted : Trusted past state) (ssh : SshClient) (event : HostKeyEvent) :
    KeyStays ssh state event := by
  intro candidate key stored
  rcases keptKey_step ssh state event candidate with same | emptied |
    ⟨index, site, completed, targets, line, rest, target, rfl, present, found, named, written⟩
  · exact .inl (same.trans stored)
  · exact .inr emptied
  · have empty := (trusted.phases index _ present).empty line List.mem_cons_self target found
    rw [named, stored] at empty
    cases empty

theorem Trusted.keyEarned (trusted : Trusted past state) (ssh : SshClient) (event : HostKeyEvent) :
    KeyEarned ssh past state event := by
  intro candidate key stored new
  rcases keptKey_step ssh state event candidate with same | emptied |
    ⟨index, site, completed, targets, line, rest, target, rfl, present, found, named, written⟩
  · exact absurd (same.symm.trans stored) new
  · rw [emptied.1] at stored
    cases stored
  · have fine := trusted.phases index _ present
    refine ⟨index, site, completed, line.1, rfl, ?_, ?_⟩
    · rw [← named]
      exact fine.read line List.mem_cons_self target found
    · rw [written key stored]
      exact fine.presented line List.mem_cons_self

theorem Trusted.keyShown (trusted : Trusted past state) {event : HostKeyEvent} (orderly : Orderly state event) :
    KeyShown state event := by
  cases event with
  | contact index site ip presented =>
      intro result knownHosts present candidate key stored own line inside
      obtain ⟨target, member, named, addressed⟩ := orderly result knownHosts present candidate
        (by rw [stored]; rfl) own
      obtain ⟨targets, held, fresh, file, -⟩ := trusted.phases index _ present
      have written := targets.current target member key (by rw [named]; exact stored)
      rw [file, ← addressed]
      exact List.mem_append_left _ (held.prefilled member written inside)
  | start site kind ref userId targetHosts => trivial
  | advance index site completed => trivial
  | reset candidate => trivial
  | upsert candidate sshManaged ansibleUser => trivial
  | setManaged candidate => trivial
  | deleteVanished portalNodeId stillVisible => trivial

end Run

/-- A stored key stays until it is reset, a new key was presented to a run that found none, and no host with
a key is contacted without it. -/
def TrustOnFirstUse (ssh : SshClient) (past : HostKeyPast) (visit : HostKeyState × HostKeyEvent) : Prop :=
  KeyStays ssh visit.1 visit.2 ∧ KeyEarned ssh past visit.1 visit.2 ∧ KeyShown visit.1 visit.2

/-- When every event is orderly, each event of the history keeps the trust on first use. -/
theorem trust_on_first_use (ssh : SshClient) (db : Database) (events : List HostKeyEvent)
    (orderly : ∀ visit ∈ visits (hostKeyStep ssh) ⟨db, []⟩ events, Orderly visit.1 visit.2) :
    ∀ before visit after, visits (hostKeyStep ssh) ⟨db, []⟩ events = before ++ visit :: after →
      TrustOnFirstUse ssh before visit := by
  intro before visit after split
  have start : Trusted [] ⟨db, []⟩ := by
    constructor
    · intro index phase absent
      cases absent
    · intro index other phase otherPhase different absent
      cases absent
  have trusted : Trusted before visit.1 := by
    have reachedThere := visits_history (hostKeyStep ssh) (hostKeyStep_trusted ssh) events start orderly split
    rwa [List.nil_append] at reachedThere
  have here : visit ∈ visits (hostKeyStep ssh) ⟨db, []⟩ events := by
    rw [split]
    exact List.mem_append_right _ List.mem_cons_self
  exact ⟨trusted.keyStays ssh visit.2, trusted.keyEarned ssh visit.2, trusted.keyShown (orderly visit here)⟩

/-- A client that accepts the first key of an address. -/
def acceptNew : SshClient where
  contact knownHosts ip key :=
    if ip ∈ knownHosts.map Prod.fst then knownHosts else knownHosts ++ [(ip, key)]
  acceptsNew := by
    intro knownHosts ip key
    by_cases known : ip ∈ knownHosts.map Prod.fst
    · exact .inl (if_pos known)
    · exact .inr ⟨known, if_neg known⟩

/-- A guest run over all managed guests of the user takes these turns. -/
def exampleTurns (index : Nat) (key : String) : List HostKeyEvent :=
  [.advance index exampleInventory true, .advance index exampleInventory true,
    .contact index exampleInventory "10.0.0.5" key, .advance index exampleInventory true,
    .advance index exampleInventory true, .advance index exampleInventory true]

/-- The first of two runs in a row learns the key, and the second one keeps it. -/
theorem trust_on_first_use_two_runs :
    let events := HostKeyEvent.start exampleInventory .user none 7 none :: exampleTurns 0 "ssh-ed25519 A" ++
      HostKeyEvent.start exampleInventory .user none 7 none :: exampleTurns 1 "ssh-ed25519 B"
    (∀ before visit after, visits (hostKeyStep acceptNew) ⟨exampleGuests, []⟩ events = before ++ visit :: after →
        TrustOnFirstUse acceptNew before visit) ∧
      keptKey (run (hostKeyStep acceptNew) ⟨exampleGuests, []⟩ events).shared ⟨1, 100, "qemu"⟩ =
        some "ssh-ed25519 A" := by
  intro events
  exact ⟨trust_on_first_use acceptNew exampleGuests events (by decide +kernel +revert), by decide +kernel +revert⟩

/-- Two guest runs read the host before a key is stored. -/
def overlappingRuns : List HostKeyEvent :=
  .start exampleInventory .user none 7 none :: .start exampleInventory .user none 7 none ::
    .advance 1 exampleInventory true ::
    (exampleTurns 0 "ssh-ed25519 A" ++ (exampleTurns 1 "ssh-ed25519 B").tail)

/-- The runs learn two keys of one address, and the later run overwrites the stored key. -/
theorem overlapping_runs_overwrite :
    ¬ ∀ before visit after, visits (hostKeyStep acceptNew) ⟨exampleGuests, []⟩ overlappingRuns =
        before ++ visit :: after → TrustOnFirstUse acceptNew before visit := by
  intro trusted
  let earlier := overlappingRuns.take 12
  let state := run (hostKeyStep acceptNew) ⟨exampleGuests, []⟩ earlier
  have kept := (trusted (visits (hostKeyStep acceptNew) ⟨exampleGuests, []⟩ earlier)
    (state, .advance 1 exampleInventory true) _ rfl).1 ⟨1, 100, "qemu"⟩ "ssh-ed25519 A" (by decide +kernel)
  apply kept.elim
  · decide +kernel
  · intro gone
    have emptied := gone.1
    revert emptied
    decide +kernel

end P3Portal.Automation
