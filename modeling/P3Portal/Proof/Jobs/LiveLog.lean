import P3Portal.Construction.Jobs.LogSocket
import P3Portal.Foundation.TextStream

namespace P3Portal.Jobs
open Foundation Text Utf8

/-- A missing file has no bytes. -/
def LogPoll.content (poll : LogPoll) : List UInt8 := poll.file.getD []

/-- The polls of a socket until the job is terminal, over the log that the runner writes in all. -/
structure LogRun where
  written : List Char
  polls : List LogPoll
  last : LogPoll
  running : ∀ poll ∈ polls, poll.terminal = false
  ended : last.terminal = true
  grows : (polls.map LogPoll.content ++ [last.content, encode written]).Pairwise (· <+: ·)

namespace LogRun
variable (run : LogRun)

/-- The socket sends the lines of the runner, each whole, once and in order, and then the status. -/
def Faithful : Prop := followLog 0 (run.polls ++ [run.last]) = (fedLines run.written, .finished run.last.currentStatus)

/-- The last poll meets the whole log. -/
def Complete : Prop := run.last.content = encode run.written

/-- Every poll meets a closed log or the whole one, the last poll the whole one, and only newlines end lines. -/
structure Clean : Prop where
  complete : run.Complete
  feeds : OnlyFeeds run.written
  boundaries : ∀ poll ∈ run.polls, ∃ front, poll.content = encode front ∧ (Closed front ∨ front = run.written)

end LogRun

section Chunks
variable {poll : LogPoll} {position : Nat} {done text : List Char}

theorem chunk_eq (poll : LogPoll) (position : Nat) :
    poll.chunk position = (decode (poll.content.drop position)).map universalNewlines := by
  unfold LogPoll.chunk LogPoll.content
  cases poll.file with
  | none =>
      have nothing : decode (([] : List UInt8).drop position) = some [] := by
        rw [List.drop_nil]
        exact decode_encode []
      rw [Option.getD_none, nothing]
      rfl
  | some bytes => rfl

/-- Behind the bytes of a text, a poll reads the text that follows. -/
theorem chunk_behind (content : poll.content = encode (done ++ text)) (feeds : OnlyFeeds text) :
    poll.chunk (encode done).length = some text := by
  rw [chunk_eq, content, encode_append, List.drop_left, decode_encode, Option.map_some,
    universalNewlines_same feeds.no_return]

/-- What a poll reads behind the bytes of a text of the log is the next text of the log. -/
theorem chunk_cases {written chunk : List Char} (read : poll.chunk (encode done).length = some chunk)
    (behind : encode done <+: poll.content) (within : poll.content <+: encode written) (feeds : OnlyFeeds written) :
    poll.content = encode (done ++ chunk) ∧ done ++ chunk <+: written := by
  rw [chunk_eq] at read
  obtain ⟨text, decoded, translated⟩ := Option.map_eq_some_iff.mp read
  obtain ⟨bytes, whole⟩ := behind
  rw [← whole, List.drop_left] at decoded
  have content : poll.content = encode (done ++ text) := by
    rw [encode_append, encode_of_decode decoded, whole]
  rw [content] at within
  have front := prefix_of_encode within
  have plain : '\r' ∉ text := fun member => feeds.no_return (front.subset (List.mem_append_right done member))
  rw [universalNewlines_same plain] at translated
  rw [← translated]
  exact ⟨content, front⟩

theorem chunk_feeds {written rest : List Char} (whole : written = done ++ text ++ rest) (feeds : OnlyFeeds written) :
    OnlyFeeds text := by
  apply feeds.mono
  rw [whole]
  intro c member
  simp [member]

end Chunks

section Messages

/-- Every message is one line. -/
theorem followLog_one (position : Nat) (polls : List LogPoll) : ∀ line ∈ (followLog position polls).1, OneLine line := by
  induction polls generalizing position with
  | nil =>
      intro line absent
      cases absent
  | cons poll rest ih =>
      rw [followLog]
      split
      · intro line absent
        cases absent
      · rename_i chunk _
        dsimp only
        split
        · exact linesOf_one chunk
        · intro line member
          rcases List.mem_append.mp member with here | later
          · exact linesOf_one chunk line here
          · exact ih _ line later

variable {written done rest : List Char} {polls : List LogPoll} {last : LogPoll}

/-- The last poll sends the lines that are left. -/
theorem followLog_last (ended : last.terminal = true) (complete : last.content = encode written)
    (whole : written = done ++ rest) (feeds : OnlyFeeds written) :
    followLog (encode done).length [last] = (fedLines rest, .finished last.currentStatus) := by
  have only := chunk_feeds (show written = done ++ rest ++ [] by rw [List.append_nil, whole]) feeds
  rw [whole] at complete
  rw [followLog, chunk_behind complete only]
  dsimp only
  rw [if_pos ended, linesOf_feeds only]

/-- Over closed logs, the socket sends the lines that are left. -/
theorem followLog_clean (running : ∀ poll ∈ polls, poll.terminal = false) (ended : last.terminal = true)
    (complete : last.content = encode written) (feeds : OnlyFeeds written)
    (grows : (encode done :: (polls.map LogPoll.content ++ [encode written])).Pairwise (· <+: ·))
    (boundaries : ∀ poll ∈ polls, ∃ front, poll.content = encode front ∧ (Closed front ∨ front = written))
    (whole : written = done ++ rest) :
    followLog (encode done).length (polls ++ [last]) = (fedLines rest, .finished last.currentStatus) := by
  induction polls generalizing done rest with
  | nil => exact followLog_last ended complete whole feeds
  | cons poll polls ih =>
      obtain ⟨front, content, closed⟩ := boundaries poll List.mem_cons_self
      rw [List.map_cons, List.cons_append] at grows
      obtain ⟨starts, tail⟩ := List.pairwise_cons.mp grows
      have continued := starts poll.content List.mem_cons_self
      have inside := (List.pairwise_cons.mp tail).1 (encode written) (List.mem_append_right _ List.mem_cons_self)
      rw [content] at continued inside tail
      obtain ⟨chunk, rfl⟩ := prefix_of_encode continued
      obtain ⟨after, follows⟩ := prefix_of_encode inside
      have only := chunk_feeds follows.symm feeds
      have parts : rest = chunk ++ after := by
        rw [whole, List.append_assoc] at follows
        exact (List.append_cancel_left follows).symm
      have apart : fedLines (chunk ++ after) = fedLines chunk ++ fedLines after := by
        cases after with
        | nil => rw [List.append_nil, show fedLines [] = [] from rfl, List.append_nil]
        | cons c after =>
            have ends : Closed (done ++ chunk) := by
              rcases closed with ends | finished
              · exact ends
              · rw [finished] at follows
                exact absurd (List.append_right_eq_self.mp follows) (List.cons_ne_nil c after)
            apply fedLines_append
            cases chunk with
            | nil => exact .inl rfl
            | cons d chunk => exact (closed_append (List.cons_ne_nil d chunk) done).mp ends
      have later := ih (fun other member => running other (List.mem_cons_of_mem poll member)) tail
        (fun other member => boundaries other (List.mem_cons_of_mem poll member)) follows.symm
      rw [encode_append, List.length_append] at later
      rw [List.cons_append, followLog, chunk_behind content only]
      dsimp only
      rw [if_neg (by rw [running poll List.mem_cons_self]; decide), later, parts, apart, linesOf_feeds only]

/-- The socket never sends fewer lines than are left, and more of them when a poll meets a log that is not closed. -/
theorem followLog_boundaries (running : ∀ poll ∈ polls, poll.terminal = false) (ended : last.terminal = true)
    (complete : last.content = encode written) (feeds : OnlyFeeds written)
    (grows : (encode done :: (polls.map LogPoll.content ++ [encode written])).Pairwise (· <+: ·))
    (whole : written = done ++ rest) {messages : List (List Char)} {status : String}
    (sent : followLog (encode done).length (polls ++ [last]) = (messages, .finished status)) :
    (fedLines rest).length ≤ messages.length ∧
      (messages.length = (fedLines rest).length → Closed done ∨ done = written →
        ∀ poll ∈ polls, ∃ front, poll.content = encode front ∧ (Closed front ∨ front = written)) := by
  induction polls generalizing done rest messages with
  | nil =>
      rw [List.nil_append, followLog_last ended complete whole feeds] at sent
      rw [← (Prod.mk.inj sent).1]
      exact ⟨le_refl _, fun _ _ _ absent => absurd absent List.not_mem_nil⟩
  | cons poll polls ih =>
      rw [List.map_cons, List.cons_append] at grows
      obtain ⟨starts, tail⟩ := List.pairwise_cons.mp grows
      have continued := starts poll.content List.mem_cons_self
      have inside := (List.pairwise_cons.mp tail).1 (encode written) (List.mem_append_right _ List.mem_cons_self)
      rw [List.cons_append, followLog] at sent
      split at sent
      · cases (Prod.mk.inj sent).2
      · rename_i chunk read
        dsimp only at sent
        rw [if_neg (by rw [running poll List.mem_cons_self]; decide)] at sent
        obtain ⟨content, front⟩ := chunk_cases read continued inside feeds
        obtain ⟨after, follows⟩ := front
        have only := chunk_feeds follows.symm feeds
        have parts : rest = chunk ++ after := by
          rw [whole, List.append_assoc] at follows
          exact (List.append_cancel_left follows).symm
        rw [content] at tail
        obtain ⟨here, ending⟩ := Prod.mk.inj sent
        have later : followLog (encode (done ++ chunk)).length (polls ++ [last]) =
            ((followLog (encode (done ++ chunk)).length (polls ++ [last])).1, .finished status) := by
          rw [encode_append, List.length_append, ← ending]
        obtain ⟨enough, bounded⟩ := ih (fun other member => running other (List.mem_cons_of_mem poll member)) tail
          follows.symm later
        have size : messages.length = (fedLines chunk).length +
            (followLog (encode (done ++ chunk)).length (polls ++ [last])).1.length := by
          rw [← here, List.length_append, linesOf_feeds only, encode_append, List.length_append]
        rw [size, parts, length_fedLines, length_fedLines, List.count_append]
        rw [length_fedLines] at enough bounded
        cases after with
        | nil =>
            rw [List.append_nil] at follows ⊢
            refine ⟨by omega, fun same closed other member => ?_⟩
            rcases List.mem_cons.mp member with rfl | behind
            · exact ⟨_, content, .inr follows⟩
            · rw [List.count_nil] at same bounded
              exact bounded (by omega) (.inr follows) other behind
        | cons c after =>
            rw [unclosed_append (List.cons_ne_nil c after)]
            refine ⟨by omega, fun same closed => ?_⟩
            have none_open : unclosed chunk = 0 := by omega
            have ends : Closed chunk := by
              unfold unclosed at none_open
              by_contra opened
              rw [if_neg opened] at none_open
              cases none_open
            have boundary : Closed (done ++ chunk) := by
              cases chunk with
              | nil =>
                  rw [List.append_nil] at follows ⊢
                  rcases closed with shut | finished
                  · exact shut
                  · rw [finished] at follows
                    exact absurd (List.append_right_eq_self.mp follows) (List.cons_ne_nil c after)
              | cons d chunk => exact (closed_append (List.cons_ne_nil d chunk) done).mpr ends
            intro other member
            rcases List.mem_cons.mp member with rfl | behind
            · exact ⟨_, content, .inl boundary⟩
            · exact bounded (by omega) (.inl boundary) other behind

end Messages

/-- The live log is faithful in a run that meets the whole log at last, exactly when the run is clean. -/
theorem clean_iff (run : LogRun) : run.Clean ↔ run.Faithful ∧ run.Complete := by
  have grows : run.Complete →
      (encode [] :: (run.polls.map LogPoll.content ++ [encode run.written])).Pairwise (· <+: ·) := by
    intro complete
    have sublist : List.Sublist (run.polls.map LogPoll.content ++ [encode run.written])
        (run.polls.map LogPoll.content ++ [run.last.content, encode run.written]) :=
      (List.sublist_cons_self _ _).append_left _
    exact List.pairwise_cons.mpr ⟨fun _ _ => List.nil_prefix, run.grows.sublist sublist⟩
  constructor
  · intro clean
    refine ⟨?_, clean.complete⟩
    exact followLog_clean run.running run.ended clean.complete clean.feeds (grows clean.complete) clean.boundaries rfl
  · rintro ⟨faithful, complete⟩
    have feeds : OnlyFeeds run.written := by
      apply onlyFeeds_of_lines
      have one := followLog_one 0 (run.polls ++ [run.last])
      rw [show followLog 0 (run.polls ++ [run.last]) = _ from faithful] at one
      exact one
    have counted := followLog_boundaries run.running run.ended complete feeds (grows complete) rfl faithful
    exact ⟨complete, feeds, counted.2 rfl (.inl (.inl rfl))⟩

/-- A poll meets the log inside of its only line. -/
def splitRun : LogRun where
  written := "done\n".toList
  polls := [⟨some "running", some (encode "do".toList)⟩]
  last := ⟨some "success", some (encode "done\n".toList)⟩
  running := by decide
  ended := by decide
  grows := by decide

/-- The runner writes lines that end with a carriage return and a newline. -/
def returnRun : LogRun where
  written := "one\r\ntwo\r\n".toList
  polls := [⟨some "running", some (encode "one\r\n".toList)⟩]
  last := ⟨some "success", some (encode "one\r\ntwo\r\n".toList)⟩
  running := by decide
  ended := by decide
  grows := by decide

/-- A line is sent in two halves, and the newline behind a carriage return is read again as an empty line. -/
theorem split_lines : ¬ splitRun.Faithful ∧ ¬ returnRun.Faithful := by
  have halves : followLog 0 (splitRun.polls ++ [splitRun.last]) =
      (["do".toList, "ne".toList], .finished "success") := by decide +kernel
  have again : followLog 0 (returnRun.polls ++ [returnRun.last]) =
      (["one".toList, [], "two".toList], .finished "success") := by decide +kernel
  constructor
  · intro faithful
    have lines := (Prod.mk.inj (halves.symm.trans faithful)).1
    revert lines
    decide
  · intro faithful
    have lines := (Prod.mk.inj (again.symm.trans faithful)).1
    revert lines
    decide

end P3Portal.Jobs
