import P3Portal.Construction.Proxmox.HaActions

namespace P3Portal.HaActions
open Schema Foundation Vms

/-- The node and the state that a log line reports. -/
def LogLine.report : LogLine → Option (String × String)
  | .status node state => some (node, state)
  | _ => none

section Rounds
variable (sid targetNode : String)

/-- The node and the state of the service that a round of polling sees. -/
def seen (poll : StatusPoll) : Option (String × String) :=
  if poll.cancelled then none
  else (poll.entries.bind fun entries => currentService entries sid).map fun service =>
    (service.node.getD "", service.state.getD "")

/-- The service is on the target node in a state that lasts. -/
def Arrival (report : String × String) : Prop := report.1 = targetNode ∧ (report.2 ∈ stableStates ∨ report.2 = "")

instance (report : String × String) : Decidable (Arrival targetNode report) :=
  inferInstanceAs (Decidable (_ ∧ _))

/-- The round ends the job. -/
def settles (poll : StatusPoll) : Bool :=
  poll.cancelled || (seen sid poll).any fun report => Arrival targetNode report || report.2 = "error"

/-- The rounds up to the one that ends the job. -/
def observed (polls : List StatusPoll) : List StatusPoll :=
  polls.takeWhile (fun poll => !settles sid targetNode poll) ++ (polls.find? (settles sid targetNode)).toList

end Rounds

/-- What is new in the reports after the last one that was written. -/
def newReports (last : Option (String × String)) (reports : List (String × String)) : List (String × String) :=
  match last with
  | none => reports.destutter (· ≠ ·)
  | some report => (reports.destutter' (· ≠ ·) report).tail

section Polling
variable {sid targetNode : String} {last : Option (String × String)} {log : List LogLine} {poll : StatusPoll}
  {rest polls : List StatusPoll} {report : String × String}

theorem newReports_cons (last : Option (String × String)) (report : String × String)
    (reports : List (String × String)) :
    newReports last (report :: reports) =
      (if last = some report then [] else [report]) ++ newReports (some report) reports := by
  have headed (reports : List (String × String)) (report : String × String) :
      ∃ rest, reports.destutter' (· ≠ ·) report = report :: rest := by
    induction reports with
    | nil => exact ⟨[], rfl⟩
    | cons first others ih =>
        by_cases changed : report ≠ first
        · exact ⟨_, List.destutter'_cons_pos _ changed⟩
        · rw [List.destutter'_cons_neg _ changed]
          exact ih
  obtain ⟨others, same⟩ := headed reports report
  cases last with
  | none => simp [newReports, List.destutter_cons', same]
  | some before =>
      by_cases equal : before = report
      · subst equal
        simp [newReports, List.destutter'_cons_neg]
      · have changed : (fun first second : String × String => first ≠ second) before report := equal
        rw [newReports, List.destutter'_cons_pos _ changed, List.tail_cons, same,
          if_neg fun one => equal (Option.some.inj one)]
        simp only [newReports, same, List.tail_cons, List.singleton_append]

/-- A state that lasts is not on its way, and it is no error. -/
theorem arrival_iff : report.1 = targetNode ∧ report.2 ∉ transientStates ∧ (report.2 ∈ stableStates ∨ report.2 = "") ↔
    Arrival targetNode report := by
  have lasting : ∀ state ∈ "" :: stableStates, state ∉ transientStates := by decide
  unfold Arrival
  constructor
  · intro ⟨here, _, lasts⟩
    exact ⟨here, lasts⟩
  · intro ⟨here, lasts⟩
    refine ⟨here, lasting report.2 ?_, lasts⟩
    rcases lasts with stable | empty
    · exact List.mem_cons_of_mem _ stable
    · rw [empty]
      exact List.mem_cons_self

/-- A round that sees nothing of the service writes no report and goes on. -/
theorem pollUntilArrived_blind (targetNode : String) (active : poll.cancelled = false) (blind : seen sid poll = none) :
    ∃ line : List LogLine, line.filterMap LogLine.report = [] ∧ ∀ last log rest,
      pollUntilArrived sid targetNode last log (poll :: rest) =
        pollUntilArrived sid targetNode last (log ++ line) rest := by
  rw [seen, active, if_neg Bool.false_ne_true, Option.map_eq_none_iff] at blind
  cases read : poll.entries with
  | none =>
      refine ⟨[], rfl, ?_⟩
      intro last log rest
      rw [pollUntilArrived, active, if_neg Bool.false_ne_true, read, List.append_nil]
  | some entries =>
      rw [read, Option.bind_some] at blind
      refine ⟨[.missing sid], rfl, ?_⟩
      intro last log rest
      rw [pollUntilArrived, active, if_neg Bool.false_ne_true, read]
      dsimp only
      rw [blind]

/-- A round that sees the service reports a change, and then ends the job or goes on. -/
theorem pollUntilArrived_seen (active : poll.cancelled = false) (found : seen sid poll = some report)
    (last : Option (String × String)) (log : List LogLine) (rest : List StatusPoll) :
    pollUntilArrived sid targetNode last log (poll :: rest) =
      let log := log ++ if last = some report then [] else [.status report.1 report.2]
      if Arrival targetNode report then (log ++ [.arrived sid targetNode report.2], true)
      else if report.2 = "error" then (log ++ [.errorState sid], false)
      else pollUntilArrived sid targetNode (some report) log rest := by
  rw [seen, active, if_neg Bool.false_ne_true, Option.map_eq_some_iff] at found
  obtain ⟨service, current, rfl⟩ := found
  obtain ⟨entries, read, current⟩ := Option.bind_eq_some_iff.mp current
  have reported : (if last = some (service.node.getD "", service.state.getD "") then log
      else log ++ [LogLine.status (service.node.getD "") (service.state.getD "")]) = log ++
        if last = some (service.node.getD "", service.state.getD "") then []
        else [.status (service.node.getD "") (service.state.getD "")] := by
    split
    · rw [List.append_nil]
    · rfl
  rw [pollUntilArrived, active, if_neg Bool.false_ne_true, read]
  dsimp only
  rw [current]
  dsimp only
  rw [reported]
  simp only [← arrival_iff]

theorem observed_cons_settled (ends : settles sid targetNode poll = true) :
    observed sid targetNode (poll :: rest) = [poll] := by
  rw [observed, List.takeWhile_cons_of_neg (by rw [ends]; decide), List.find?_cons_of_pos ends]
  rfl

theorem observed_cons (goes : settles sid targetNode poll = false) :
    observed sid targetNode (poll :: rest) = poll :: observed sid targetNode rest := by
  rw [observed, List.takeWhile_cons_of_pos (by rw [goes]; rfl), List.find?_cons_of_neg (by rw [goes]; decide)]
  rfl

/-- The polling succeeds when the first round that settles it sees the arrival, and the log holds each change once. -/
theorem pollUntilArrived_spec (sid targetNode : String) (last : Option (String × String)) (log : List LogLine)
    (polls : List StatusPoll) :
    ((pollUntilArrived sid targetNode last log polls).2 = true ↔
      ∃ poll report, polls.find? (settles sid targetNode) = some poll ∧ seen sid poll = some report ∧
        Arrival targetNode report) ∧
    (pollUntilArrived sid targetNode last log polls).1.filterMap LogLine.report = log.filterMap LogLine.report ++
      newReports last ((observed sid targetNode polls).filterMap (seen sid)) := by
  induction polls generalizing last log with
  | nil =>
      have nothing : newReports last [] = [] := by
        cases last <;> rfl
      constructor
      · simp [pollUntilArrived]
      · simp [pollUntilArrived, observed, nothing, LogLine.report]
  | cons poll rest ih =>
      have nothing : newReports last [] = [] := by
        cases last <;> rfl
      cases active : poll.cancelled with
      | true =>
          have blind : seen sid poll = none := by rw [seen, if_pos active]
          have ends : settles sid targetNode poll = true := by rw [settles, active, Bool.true_or]
          rw [pollUntilArrived, if_pos active, List.find?_cons_of_pos ends, observed_cons_settled ends]
          constructor
          · simp [blind]
          · simp [blind, nothing, LogLine.report]
      | false =>
          cases found : seen sid poll with
          | none =>
              have goes : settles sid targetNode poll = false := by rw [settles, active, found]; rfl
              obtain ⟨line, silent, next⟩ := pollUntilArrived_blind targetNode active found
              rw [next, List.find?_cons_of_neg (by rw [goes]; decide), observed_cons goes,
                List.filterMap_cons_none found]
              have rounds := ih last (log ++ line)
              rw [List.filterMap_append, silent, List.append_nil] at rounds
              exact rounds
          | some report =>
              have written : (if last = some report then [] else [LogLine.status report.1 report.2]).filterMap
                  LogLine.report = if last = some report then [] else [report] := by
                split <;> rfl
              rw [pollUntilArrived_seen active found]
              dsimp only
              by_cases arrival : Arrival targetNode report
              · have ends : settles sid targetNode poll = true := by simp [settles, found, arrival]
                rw [if_pos arrival, List.find?_cons_of_pos ends, observed_cons_settled ends]
                constructor
                · exact iff_of_true rfl ⟨poll, report, rfl, found, arrival⟩
                · rw [List.filterMap_cons_some found, newReports_cons, List.filterMap_append, List.filterMap_append,
                    written, List.append_assoc]
                  rfl
              · rw [if_neg arrival]
                by_cases failed : report.2 = "error"
                · have ends : settles sid targetNode poll = true := by simp [settles, found, failed]
                  rw [if_pos failed, List.find?_cons_of_pos ends, observed_cons_settled ends]
                  constructor
                  · apply iff_of_false Bool.false_ne_true
                    intro ⟨same, other, first, again, arrived⟩
                    rw [← Option.some.inj first, found] at again
                    rw [← Option.some.inj again] at arrived
                    exact arrival arrived
                  · rw [List.filterMap_cons_some found, newReports_cons, List.filterMap_append,
                      List.filterMap_append, written, List.append_assoc]
                    rfl
                · have goes : settles sid targetNode poll = false := by
                    simp [settles, active, found, arrival, failed]
                  rw [if_neg failed, List.find?_cons_of_neg (by rw [goes]; decide), observed_cons goes,
                    List.filterMap_cons_some found, newReports_cons]
                  have rounds := ih (some report)
                    (log ++ if last = some report then [] else [.status report.1 report.2])
                  rw [List.filterMap_append, written, List.append_assoc] at rounds
                  exact rounds

/-- No round behind the one that ends the job matters. -/
theorem pollUntilArrived_observed (sid targetNode : String) (last : Option (String × String)) (log : List LogLine)
    {polls : List StatusPoll} (ends : polls.any (settles sid targetNode) = true) :
    pollUntilArrived sid targetNode last log (observed sid targetNode polls) =
      pollUntilArrived sid targetNode last log polls := by
  induction polls generalizing last log with
  | nil => cases ends
  | cons poll rest ih =>
      cases settled : settles sid targetNode poll with
      | true =>
          rw [observed_cons_settled settled]
          cases active : poll.cancelled with
          | true =>
              rw [pollUntilArrived, if_pos active]
              rw [pollUntilArrived, if_pos active]
          | false =>
              rw [settles, active, Bool.false_or, Option.any_eq_true] at settled
              obtain ⟨report, found, final⟩ := settled
              rw [pollUntilArrived_seen active found, pollUntilArrived_seen active found]
              dsimp only
              split
              · rfl
              · rename_i away
                have failed : report.2 = "error" := by simpa [away] using final
                rw [if_pos failed, if_pos failed]
      | false =>
          rw [List.any_cons, settled, Bool.false_or] at ends
          rw [observed_cons settled]
          have active : poll.cancelled = false := by
            rw [settles, Bool.or_eq_false_iff] at settled
            exact settled.1
          cases found : seen sid poll with
          | none =>
              obtain ⟨line, -, next⟩ := pollUntilArrived_blind targetNode active found
              rw [next, next]
              exact ih last (log ++ line) ends
          | some report =>
              rw [pollUntilArrived_seen active found, pollUntilArrived_seen active found]
              dsimp only
              rw [ih (some report) _ ends]

end Polling

/-- The rounds that a job may ask for. -/
def allowed (replies : ActionReplies) : List StatusPoll := replies.polls.take maxPolls

/-- The command was taken and the first round that ends the polling sees the service on the target node. -/
def Succeeds (job : ActionJob) (replies : ActionReplies) : Prop :=
  knownAction job.action ∧ replies.command = .ok () ∧
    ∃ poll report, (allowed replies).find? (settles job.sid job.targetNode) = some poll ∧
      seen job.sid poll = some report ∧ Arrival job.targetNode report

/-- What a job leaves behind, whatever it meets. -/
structure Concluded (now : String) (db : Database) (job : ActionJob) (replies : ActionReplies) (done : ActionEnd) :
    Prop where
  verdict : done.ok = true ↔ Succeeds job replies
  /-- The stored status and the audit row carry the verdict, and nothing else changes. -/
  stored : done.db =
    let finished := setJobStatus db job.jobId (if done.ok then .success else .failed)
    if knownAction job.action then
      writeAuditLog finished ("ha_" ++ job.action) (some job.actorUsername) (some "local")
        (some (auditDetail job done.ok)) now
    else finished
  /-- The log tells each change of the node or the state once, in order, up to the round that ended the polling. -/
  told : knownAction job.action → replies.command = .ok () →
    done.log.filterMap LogLine.report =
      ((observed job.sid job.targetNode (allowed replies)).filterMap (seen job.sid)).destutter (· ≠ ·)
  closing : knownAction job.action → done.log.getLast? = some (.closing (actionLabel job.action) done.ok)
  /-- Nothing behind the round that ended the polling was asked for. -/
  unread : (allowed replies).any (settles job.sid job.targetNode) = true →
    done = runHaActionJob now db job { replies with polls := observed job.sid job.targetNode (allowed replies) }

theorem setJobStatus_twice (db : Database) (jobId : String) (first second : JobStatus) :
    setJobStatus (setJobStatus db jobId first) jobId second = setJobStatus db jobId second := by
  unfold setJobStatus
  simp only [List.map_map]
  congr 1
  apply List.map_congr_left
  intro job _
  by_cases same : job.id = jobId
  · simp [same]
  · simp [same]

theorem length_observed_le (sid targetNode : String) (polls : List StatusPoll) :
    (observed sid targetNode polls).length ≤ polls.length := by
  induction polls with
  | nil => exact Nat.le_refl 0
  | cons poll rest ih =>
      cases settled : settles sid targetNode poll with
      | true =>
          rw [observed_cons_settled settled, List.length_singleton, List.length_cons]
          omega
      | false =>
          rw [observed_cons settled, List.length_cons, List.length_cons]
          omega

/-- A job ends well exactly when its command is taken and the round that ends the polling sees the arrival. -/
theorem runHaActionJob_ok (now : String) (db : Database) (job : ActionJob) (replies : ActionReplies) :
    (runHaActionJob now db job replies).ok = true ↔ Succeeds job replies := by
  unfold Succeeds runHaActionJob
  by_cases known : knownAction job.action
  · rw [if_pos known]
    cases command : replies.command with
    | error error =>
        apply iff_of_false Bool.false_ne_true
        intro succeeds
        cases succeeds.2.1
    | ok taken =>
        obtain ⟨verdict, -⟩ := pollUntilArrived_spec job.sid job.targetNode none
          ([.started (actionLabel job.action) job.sid job.targetNode] ++ [.queued]) (allowed replies)
        exact verdict.trans ⟨fun settled => ⟨known, rfl, settled⟩, fun succeeds => succeeds.2.2⟩
  · rw [if_neg known]
    exact iff_of_false Bool.false_ne_true fun succeeds => known succeeds.1

/-- A job of any action, with any answers, ends as the first round that settles it says, within its rounds. -/
theorem haActionJob_concluded (now : String) (db : Database) (job : ActionJob) (replies : ActionReplies) :
    Concluded now db job replies (runHaActionJob now db job replies) := by
  by_cases known : knownAction job.action
  · cases command : replies.command with
    | error error =>
        have done : runHaActionJob now db job replies = finishAction now (setJobStatus db job.jobId .running)
            ([.started (actionLabel job.action) job.sid job.targetNode] ++ [.failure (actionLabel job.action) error])
            job false := by
          rw [runHaActionJob, if_pos known, command]
        refine ⟨runHaActionJob_ok now db job replies, ?_, ?_, ?_, ?_⟩
        · rw [done]
          dsimp only [finishAction]
          rw [if_pos known, setJobStatus_twice]
          rfl
        · intro _ taken
          rw [command] at taken
          cases taken
        · intro _
          rw [done, finishAction, List.getLast?_concat]
        · intro _
          rw [done, runHaActionJob, if_pos known, command]
    | ok taken =>
        have done : runHaActionJob now db job replies = finishAction now (setJobStatus db job.jobId .running)
            (pollUntilArrived job.sid job.targetNode none
              ([.started (actionLabel job.action) job.sid job.targetNode] ++ [.queued]) (allowed replies)).1 job
            (pollUntilArrived job.sid job.targetNode none
              ([.started (actionLabel job.action) job.sid job.targetNode] ++ [.queued]) (allowed replies)).2 := by
          rw [runHaActionJob, if_pos known, command]
          rfl
        obtain ⟨-, told⟩ := pollUntilArrived_spec job.sid job.targetNode none
          ([.started (actionLabel job.action) job.sid job.targetNode] ++ [.queued]) (allowed replies)
        refine ⟨runHaActionJob_ok now db job replies, ?_, ?_, ?_, ?_⟩
        · rw [done]
          dsimp only [finishAction]
          rw [if_pos known, setJobStatus_twice]
          rfl
        · intro _ _
          rw [done, finishAction, List.filterMap_append, told]
          exact List.append_nil _
        · intro _
          rw [done, finishAction, List.getLast?_concat]
        · intro settled
          have fits : (observed job.sid job.targetNode (allowed replies)).take maxPolls =
              observed job.sid job.targetNode (allowed replies) := by
            apply List.take_of_length_le
            have short := length_observed_le job.sid job.targetNode (allowed replies)
            have limit : (allowed replies).length ≤ maxPolls := List.length_take_le _ _
            omega
          rw [done, runHaActionJob, if_pos known, command]
          dsimp only
          rw [fits, pollUntilArrived_observed _ _ _ _ settled]
  · have done : runHaActionJob now db job replies = ⟨setJobStatus (setJobStatus db job.jobId .running) job.jobId .failed,
        [.started (actionLabel job.action) job.sid job.targetNode] ++ [.unknownAction job.action], false⟩ := by
      rw [runHaActionJob, if_neg known]
    refine ⟨runHaActionJob_ok now db job replies, ?_, fun action => absurd action known, fun action => absurd action known,
      ?_⟩
    · rw [done]
      dsimp only
      rw [if_neg known, setJobStatus_twice]
      rfl
    · intro _
      rw [done, runHaActionJob, if_neg known]

/-- A job starts only for a node of the installation that does not run the service already, as far as both are known. -/
theorem runHaRuntimeAction_eq_none (valid : List String) (entries : Option (List StatusEntry)) (sid node : String) :
    runHaRuntimeAction valid entries sid node = none ↔
      (valid = [] ∨ node ∈ valid) ∧
        (node ≠ "" → (entries.bind fun entries => currentService entries sid).bind StatusEntry.node ≠ some node) := by
  unfold runHaRuntimeAction
  by_cases foreign : valid ≠ [] ∧ node ∉ valid
  · rw [if_pos foreign]
    apply iff_of_false (by simp)
    intro ⟨ours, _⟩
    exact ours.elim foreign.1 foreign.2
  · rw [if_neg foreign]
    have ours : valid = [] ∨ node ∈ valid := by
      by_contra neither
      rw [not_or] at neither
      exact foreign neither
    cases entries.bind fun entries => currentService entries sid with
    | none => simp [ours]
    | some service =>
        rw [Option.bind_some, Option.bind_some]
        cases runs : service.node with
        | none => simp [ours, Text.truthy]
        | some current =>
            by_cases named : current = ""
            · subst named
              simp [ours, Text.truthy, Option.filter, eq_comm]
            · by_cases same : current = node
              · subst same
                simp [Text.truthy, Option.filter, named]
              · simp [ours, Text.truthy, Option.filter, named, same]

/-- The node on which a status shows the service. -/
def nodeOf (sid : String) (entries : List StatusEntry) : Option String :=
  (currentService entries sid).bind StatusEntry.node

/-- A round that sees the service on a node that has a name read this name. -/
theorem nodeOf_of_seen {sid : String} {poll : StatusPoll} {report : String × String} (named : report.1 ≠ "")
    (found : seen sid poll = some report) : poll.entries.bind (nodeOf sid) = some report.1 := by
  unfold seen at found
  split at found
  · cases found
  · obtain ⟨service, current, same⟩ := Option.map_eq_some_iff.mp found
    obtain ⟨entries, answered, listed⟩ := Option.bind_eq_some_iff.mp current
    rw [answered, Option.bind_some, nodeOf, listed, Option.bind_some]
    rw [← same] at named ⊢
    cases stored : service.node with
    | none =>
        rw [stored] at named
        exact absurd rfl named
    | some node => rfl

/-- A request that the endpoint lets through and whose job ends well has moved the service: the status that the
endpoint read shows it elsewhere, and a round of the job shows it on the target node. -/
theorem haAction_moved (valid : List String) (entries : List StatusEntry) (now : String) (db : Database)
    (job : ActionJob) (replies : ActionReplies) (named : job.targetNode ≠ "")
    (admitted : runHaRuntimeAction valid (some entries) job.sid job.targetNode = none)
    (succeeded : (runHaActionJob now db job replies).ok = true) :
    (valid = [] ∨ job.targetNode ∈ valid) ∧ nodeOf job.sid entries ≠ some job.targetNode ∧
      ∃ poll ∈ allowed replies, poll.entries.bind (nodeOf job.sid) = some job.targetNode := by
  obtain ⟨ours, elsewhere⟩ := (runHaRuntimeAction_eq_none valid (some entries) job.sid job.targetNode).mp admitted
  refine ⟨ours, elsewhere named, ?_⟩
  obtain ⟨-, -, poll, report, settled, found, arrived, -⟩ := (runHaActionJob_ok now db job replies).mp succeeded
  refine ⟨poll, List.mem_of_find?_eq_some settled, ?_⟩
  rw [← arrived] at named ⊢
  exact nodeOf_of_seen named found

/-- A status that shows one service. -/
def shownOn (node state : String) : List StatusEntry :=
  [{ type := some "service", sid := some "vm:100", node := some node, state := some state }]

/-- A service leaves the first node for the second one and is seen there in the second round. -/
theorem vm100_moved :
    (["pve1", "pve2"] = [] ∨ "pve2" ∈ ["pve1", "pve2"]) ∧ nodeOf "vm:100" (shownOn "pve1" "started") ≠ some "pve2" ∧
      ∃ poll ∈ allowed ⟨.ok (), [⟨false, shownOn "pve1" "migrate"⟩, ⟨false, shownOn "pve2" "started"⟩]⟩,
        poll.entries.bind (nodeOf "vm:100") = some "pve2" :=
  haAction_moved ["pve1", "pve2"] (shownOn "pve1" "started") "now" {} ⟨"job", "migrate", "vm:100", "pve2", "admin"⟩ _
    (by decide) (by decide) (by decide)

end P3Portal.HaActions
