import Mathlib.Data.Rat.Floor
import P3Portal.Construction.ApiSurface.DefaultDeny
import P3Portal.Foundation.TokenBucket

namespace P3Portal.ApiSurface.UpkRateLimitMiddleware
open Foundation

/-- The clock never runs backwards. -/
structure InOrder (arrivals : List Arrival) : Prop where
  readings : ∀ arrival ∈ arrivals, arrival.created ≤ arrival.now
  requests : arrivals.Pairwise fun earlier later => earlier.now ≤ later.created

/-- The number of admitted requests of a key from the start to the end of a window. -/
def admissions (middleware : UpkRateLimitMiddleware) (arrivals : List Arrival) (key : String) (start finish : ℚ) : Nat :=
  (visits step middleware arrivals).countP fun visit =>
    decide (keyPrefix visit.2 = some key) && decide ((visit.1.dispatch visit.2).2 = .admitted) &&
      decide (start ≤ visit.2.now) && decide (visit.2.now ≤ finish)

/-- Every bucket stays between nothing and the capacity, every window admits at most the capacity and what arrives
meanwhile, and the answer to a refused request names a time that is enough. -/
structure Exact (middleware : UpkRateLimitMiddleware) (arrivals : List Arrival) : Prop where
  stored : ∀ key bucket, (run step middleware arrivals).buckets.get? key = some bucket →
    0 ≤ bucket.tokens ∧ bucket.tokens ≤ middleware.capacity
  window : ∀ key (start duration : ℚ), 0 ≤ duration →
    (admissions middleware arrivals key start (start + duration) : ℚ) ≤
      middleware.capacity + duration * middleware.capacity / 60
  retry : ∀ before refused between again after key wait,
    arrivals = before ++ refused :: (between ++ again :: after) →
    keyPrefix refused = some key → keyPrefix again = some key → (∀ other ∈ between, keyPrefix other ≠ some key) →
    ((run step middleware before).dispatch refused).2 = .refused wait → again.now = refused.now + wait →
    ((run step middleware (before ++ refused :: between)).dispatch again).2 = .admitted

/-- The bucket of a key as a token bucket; a missing one is made full. -/
def tokenBucket (middleware : UpkRateLimitMiddleware) (key : String) (created : ℚ) : TokenBucket ℚ :=
  ⟨(middleware.getBucket key created).tokens, (middleware.getBucket key created).lastRefill⟩

section Requests
variable {middleware : UpkRateLimitMiddleware} {key : String} {arrival : Arrival}

/-- A request spends from the token bucket of its key. -/
theorem consume_eq (middleware : UpkRateLimitMiddleware) (key : String) (created now : ℚ) :
    middleware.consume key created now =
      (middleware.store key
        ⟨((middleware.tokenBucket key created).request (middleware.capacity : ℚ) middleware.refillRate now).level, now⟩,
        if (middleware.tokenBucket key created).admits (middleware.capacity : ℚ) middleware.refillRate now then .admitted
        else if middleware.refillRate = 0 then .zeroDivisionError
        else .refused (truncated ((1 - (middleware.tokenBucket key created).filled (middleware.capacity : ℚ)
          middleware.refillRate now) / middleware.refillRate) + 1)) := by
  unfold consume TokenBucket.request TokenBucket.cost TokenBucket.admits
  have filled : min (middleware.capacity : ℚ) ((middleware.getBucket key created).tokens +
      (now - (middleware.getBucket key created).lastRefill) * middleware.refillRate) =
      (middleware.tokenBucket key created).filled (middleware.capacity : ℚ) middleware.refillRate now := rfl
  dsimp only
  rw [filled]
  split
  · rename_i enough
    simp only [enough, decide_true, if_true]
  · rename_i scarce
    simp only [scarce, decide_false, Bool.false_eq_true, if_false, sub_zero]

/-- A request of a key is a request of its bucket. -/
theorem dispatch_own (own : keyPrefix arrival = some key) :
    middleware.step arrival = middleware.store key
        ⟨((middleware.tokenBucket key arrival.created).request (middleware.capacity : ℚ) middleware.refillRate
          arrival.now).level, arrival.now⟩ ∧
      ((middleware.dispatch arrival).2 = .admitted ↔
        (middleware.tokenBucket key arrival.created).admits (middleware.capacity : ℚ) middleware.refillRate
          arrival.now = true) := by
  have dispatched : middleware.dispatch arrival = middleware.consume key arrival.created arrival.now := by
    unfold dispatch
    rw [own]
  unfold step
  rw [dispatched, consume_eq]
  refine ⟨rfl, ?_⟩
  dsimp only
  split
  · rename_i enough
    simp [enough]
  · rename_i scarce
    split
    · simp [scarce]
    · simp [scarce]

/-- The bucket of the key after its request. -/
theorem step_bucket (own : keyPrefix arrival = some key) :
    (middleware.step arrival).buckets.get? key =
      some ⟨((middleware.tokenBucket key arrival.created).request (middleware.capacity : ℚ) middleware.refillRate
        arrival.now).level, arrival.now⟩ := by
  rw [(dispatch_own own).1]
  simp [store]

/-- A request does not change the capacity. -/
@[simp] theorem step_capacity (middleware : UpkRateLimitMiddleware) (arrival : Arrival) :
    (middleware.step arrival).capacity = middleware.capacity := by
  unfold step dispatch
  split
  · rfl
  · rw [consume_eq]
    rfl

/-- A request does not change the refill rate. -/
@[simp] theorem step_refillRate (middleware : UpkRateLimitMiddleware) (arrival : Arrival) :
    (middleware.step arrival).refillRate = middleware.refillRate := by
  unfold refillRate
  rw [step_capacity]

/-- A request of another key leaves the bucket alone. -/
theorem step_other (other : keyPrefix arrival ≠ some key) :
    (middleware.step arrival).buckets.get? key = middleware.buckets.get? key := by
  unfold step dispatch
  split
  · rfl
  · rename_i found stored
    have apart : key ≠ found := by
      rintro rfl
      exact other stored
    rw [consume_eq]
    simp [store, apart]

end Requests

section Runs
variable {key : String}

/-- Requests do not change the capacity. -/
@[simp] theorem run_capacity (middleware : UpkRateLimitMiddleware) (arrivals : List Arrival) :
    (run step middleware arrivals).capacity = middleware.capacity := by
  induction arrivals generalizing middleware with
  | nil => rfl
  | cons arrival rest ih =>
      show (run step (middleware.step arrival) rest).capacity = _
      rw [ih, step_capacity]

/-- Requests do not change the refill rate. -/
@[simp] theorem run_refillRate (middleware : UpkRateLimitMiddleware) (arrivals : List Arrival) :
    (run step middleware arrivals).refillRate = middleware.refillRate := by
  unfold refillRate
  rw [run_capacity]

/-- Requests of other keys leave the bucket of a key alone. -/
theorem run_other {arrivals : List Arrival} (other : ∀ arrival ∈ arrivals, keyPrefix arrival ≠ some key)
    (middleware : UpkRateLimitMiddleware) :
    (run step middleware arrivals).buckets.get? key = middleware.buckets.get? key := by
  induction arrivals generalizing middleware with
  | nil => rfl
  | cons arrival rest ih =>
      have here := other arrival List.mem_cons_self
      show (run step (middleware.step arrival) rest).buckets.get? key = _
      rw [ih fun later member => other later (List.mem_cons_of_mem arrival member), step_other here]

/-- The times at which the requests of a key arrive. -/
def times (key : String) (arrivals : List Arrival) : List ℚ :=
  (arrivals.filter fun arrival => keyPrefix arrival = some key).map Arrival.now

/-- A request of the key counts at its time. -/
theorem times_own {arrival : Arrival} (own : keyPrefix arrival = some key) (rest : List Arrival) :
    times key (arrival :: rest) = arrival.now :: times key rest := by
  simp [times, own]

/-- A request of another key does not count. -/
theorem times_other {arrival : Arrival} (other : keyPrefix arrival ≠ some key) (rest : List Arrival) :
    times key (arrival :: rest) = times key rest := by
  simp [times, other]

/-- A request of another key is not among the admissions. -/
theorem admissions_other {arrival : Arrival} (other : keyPrefix arrival ≠ some key)
    (middleware : UpkRateLimitMiddleware) (rest : List Arrival) (start finish : ℚ) :
    admissions middleware (arrival :: rest) key start finish =
      admissions (middleware.step arrival) rest key start finish := by
  unfold admissions
  rw [visits, List.countP_cons_of_neg]
  simp [other]

/-- A request of the key counts like a request of its bucket. -/
theorem admissions_own {arrival : Arrival} (own : keyPrefix arrival = some key)
    (middleware : UpkRateLimitMiddleware) (rest : List Arrival) (start finish : ℚ) {outcomes : List (ℚ × Bool)}
    (same : admissions (middleware.step arrival) rest key start finish = TokenBucket.admitted outcomes start finish) :
    admissions middleware (arrival :: rest) key start finish =
      TokenBucket.admitted ((arrival.now, (middleware.tokenBucket key arrival.created).admits (middleware.capacity : ℚ)
        middleware.refillRate arrival.now) :: outcomes) start finish := by
  have answer := (@dispatch_own middleware key arrival own).2
  unfold admissions TokenBucket.admitted at *
  rw [visits, List.countP_cons, List.countP_cons, same]
  simp only [own, decide_true, Bool.true_and, answer, Bool.decide_eq_true]

/-- The requests of a key with a bucket are admitted as by this bucket alone. -/
theorem admissions_stored (arrivals : List Arrival) {middleware : UpkRateLimitMiddleware} {bucket : BucketState}
    (stored : middleware.buckets.get? key = some bucket) (start finish : ℚ) :
    admissions middleware arrivals key start finish =
      TokenBucket.admitted (TokenBucket.outcomes (middleware.capacity : ℚ) middleware.refillRate
        ⟨bucket.tokens, bucket.lastRefill⟩ (times key arrivals)) start finish := by
  induction arrivals generalizing middleware bucket with
  | nil => rfl
  | cons arrival rest ih =>
      by_cases own : keyPrefix arrival = some key
      · have found : middleware.tokenBucket key arrival.created = ⟨bucket.tokens, bucket.lastRefill⟩ := by
          simp [tokenBucket, getBucket, stored]
        have tail := ih (@step_bucket middleware key arrival own)
        rw [step_capacity, step_refillRate] at tail
        rw [admissions_own own middleware rest start finish tail, times_own own, TokenBucket.outcomes, found]
        rfl
      · have tail := ih ((step_other own).trans stored)
        rw [step_capacity, step_refillRate] at tail
        rw [admissions_other own, times_other own, tail]

/-- The same holds from the first request of a key on. -/
theorem admissions_first {arrival : Arrival} (own : keyPrefix arrival = some key) (middleware : UpkRateLimitMiddleware)
    (rest : List Arrival) (start finish : ℚ) :
    admissions middleware (arrival :: rest) key start finish =
      TokenBucket.admitted ((middleware.tokenBucket key arrival.created).outcomes (middleware.capacity : ℚ)
        middleware.refillRate (times key (arrival :: rest))) start finish := by
  have tail := admissions_stored rest (@step_bucket middleware key arrival own) start finish
  rw [step_capacity, step_refillRate] at tail
  rw [admissions_own own middleware rest start finish tail, times_own own]
  rfl

end Runs

section Histories
variable {middleware : UpkRateLimitMiddleware} {key : String} {arrival : Arrival} {arrivals rest : List Arrival}

/-- Every stored bucket is sound and was filled before the next requests arrive. -/
def Kept (middleware : UpkRateLimitMiddleware) (arrivals : List Arrival) : Prop :=
  ∀ key bucket, middleware.buckets.get? key = some bucket →
    TokenBucket.Sound (middleware.capacity : ℚ) ⟨bucket.tokens, bucket.lastRefill⟩ ∧
      ∀ arrival ∈ arrivals, bucket.lastRefill ≤ arrival.created

/-- The rest of requests in order is in order. -/
theorem InOrder.tail (ordered : InOrder (arrival :: rest)) : InOrder rest where
  readings later member := ordered.readings later (List.mem_cons_of_mem arrival member)
  requests := (List.pairwise_cons.mp ordered.requests).2

/-- The requests of a key come in the order of their times. -/
theorem times_ordered (ordered : InOrder arrivals) {first : ℚ} (before : ∀ arrival ∈ arrivals, first ≤ arrival.created) :
    (first :: times key arrivals).Pairwise (· ≤ ·) := by
  induction arrivals generalizing first with
  | nil => exact List.pairwise_singleton _ _
  | cons arrival rest ih =>
      have here := before arrival List.mem_cons_self
      have reading := ordered.readings arrival List.mem_cons_self
      have behind := (List.pairwise_cons.mp ordered.requests).1
      by_cases own : keyPrefix arrival = some key
      · have tail := ih ordered.tail behind
        rw [times_own own]
        refine List.pairwise_cons.mpr ⟨fun time member => ?_, tail⟩
        rcases List.mem_cons.mp member with rfl | later
        · exact le_trans here reading
        · exact le_trans (le_trans here reading) ((List.pairwise_cons.mp tail).1 time later)
      · rw [times_other own]
        exact ih ordered.tail fun later member => before later (List.mem_cons_of_mem arrival member)

/-- The refill rate is not negative. -/
theorem refillRate_nonneg (positive : 0 ≤ middleware.capacity) : 0 ≤ middleware.refillRate := by
  have exact_capacity : (0 : ℚ) ≤ middleware.capacity := Int.cast_nonneg positive
  exact div_nonneg exact_capacity (by norm_num)

/-- The bucket that a request meets is sound and was not filled later. -/
theorem Kept.bucket (kept : Kept middleware (arrival :: rest)) (positive : 0 ≤ middleware.capacity) (key : String) :
    (middleware.tokenBucket key arrival.created).Sound (middleware.capacity : ℚ) ∧
      (middleware.tokenBucket key arrival.created).last ≤ arrival.created := by
  unfold tokenBucket getBucket
  cases stored : middleware.buckets.get? key with
  | none => exact ⟨⟨Int.cast_nonneg positive, le_refl _⟩, le_refl _⟩
  | some bucket =>
      obtain ⟨sound, earlier⟩ := kept key bucket stored
      exact ⟨sound, earlier arrival List.mem_cons_self⟩

/-- A request keeps the bucket in line with its clock. -/
theorem step_kept (kept : Kept middleware (arrival :: rest)) (ordered : InOrder (arrival :: rest))
    (positive : 0 ≤ middleware.capacity) : Kept (middleware.step arrival) rest := by
  intro key bucket stored
  rw [step_capacity]
  by_cases own : keyPrefix arrival = some key
  · rw [step_bucket own] at stored
    rw [← Option.some.inj stored]
    obtain ⟨sound, earlier⟩ := kept.bucket positive key
    have reading := ordered.readings arrival List.mem_cons_self
    have after := TokenBucket.request_sound (Int.cast_nonneg positive) (refillRate_nonneg positive) sound
      (le_trans earlier reading)
    exact ⟨after, (List.pairwise_cons.mp ordered.requests).1⟩
  · rw [step_other own] at stored
    obtain ⟨sound, earlier⟩ := kept key bucket stored
    exact ⟨sound, fun later member => earlier later (List.mem_cons_of_mem arrival member)⟩

/-- Requests keep the bucket in line with its clock. -/
theorem run_kept {before after : List Arrival} (kept : Kept middleware (before ++ after))
    (ordered : InOrder (before ++ after)) (positive : 0 ≤ middleware.capacity) :
    Kept (run step middleware before) after := by
  induction before generalizing middleware with
  | nil => exact kept
  | cons arrival rest ih =>
      have next : 0 ≤ (middleware.step arrival).capacity := by
        rw [step_capacity]
        exact positive
      exact ih (step_kept kept ordered positive) ordered.tail next

/-- In any window, a key is admitted at most as often as the capacity and the time allow. -/
theorem admissions_le (kept : Kept middleware arrivals) (ordered : InOrder arrivals) (positive : 0 ≤ middleware.capacity)
    (key : String) {start finish : ℚ} (window : start ≤ finish) :
    (admissions middleware arrivals key start finish : ℚ) ≤
      middleware.capacity + (finish - start) * middleware.refillRate := by
  have capacity : (0 : ℚ) ≤ middleware.capacity := Int.cast_nonneg positive
  have gains := refillRate_nonneg positive
  induction arrivals generalizing middleware with
  | nil =>
      show ((0 : Nat) : ℚ) ≤ _
      rw [Nat.cast_zero]
      exact add_nonneg capacity (mul_nonneg (sub_nonneg.mpr window) gains)
  | cons arrival rest ih =>
      by_cases own : keyPrefix arrival = some key
      · obtain ⟨sound, earlier⟩ := kept.bucket positive key
        rw [admissions_first own]
        refine TokenBucket.admitted_le capacity gains sound (times_ordered ordered fun later member => ?_) window
        rcases List.mem_cons.mp member with rfl | behind
        · exact earlier
        · exact le_trans earlier (le_trans (ordered.readings arrival List.mem_cons_self)
            ((List.pairwise_cons.mp ordered.requests).1 later behind))
      · have tail := ih (step_kept kept ordered positive) ordered.tail (by rw [step_capacity]; exact positive)
        rw [step_capacity, step_refillRate] at tail
        rw [admissions_other own]
        exact tail capacity gains

/-- A number lies less than one above its truncation. -/
theorem lt_truncated {number : ℚ} (positive : 0 ≤ number) : number < truncated number + 1 := by
  have floor : truncated number = ⌊number⌋ := by
    rw [Rat.floor_def']
    exact Int.tdiv_eq_ediv_of_nonneg (Rat.num_nonneg.mpr positive)
  rw [floor]
  exact Int.lt_floor_add_one number

/-- A refusal names its waiting time only for a positive capacity, and the missing part of a token arrives in it. -/
theorem refused_wait (positive : 0 ≤ middleware.capacity) (own : keyPrefix arrival = some key) {wait : Int}
    (refused : (middleware.dispatch arrival).2 = .refused wait) :
    (1 : ℚ) ≤ middleware.capacity ∧
      (middleware.tokenBucket key arrival.created).admits (middleware.capacity : ℚ) middleware.refillRate arrival.now = false ∧
      1 - (middleware.tokenBucket key arrival.created).filled (middleware.capacity : ℚ) middleware.refillRate arrival.now ≤
        wait * middleware.refillRate := by
  have dispatched : middleware.dispatch arrival = middleware.consume key arrival.created arrival.now := by
    unfold dispatch
    rw [own]
  rw [dispatched, consume_eq] at refused
  dsimp only at refused
  split at refused
  · cases refused
  · rename_i scarce
    split at refused
    · cases refused
    · rename_i gains
      have named := LimitAnswer.refused.inj refused
      have rate : 0 < middleware.refillRate := lt_of_le_of_ne (refillRate_nonneg positive) (Ne.symm gains)
      have capacity : 0 < middleware.capacity := by
        refine lt_of_le_of_ne positive fun zero => gains ?_
        unfold refillRate
        rw [← zero]
        norm_num
      have missing : (middleware.tokenBucket key arrival.created).filled (middleware.capacity : ℚ) middleware.refillRate
          arrival.now < 1 := by
        simpa [TokenBucket.admits] using scarce
      have enough := lt_truncated (div_nonneg (sub_nonneg.mpr (le_of_lt missing)) (le_of_lt rate))
      refine ⟨by exact_mod_cast capacity, by simpa using scarce, ?_⟩
      rw [← named]
      push_cast
      exact le_of_lt ((div_lt_iff₀ rate).mp enough)

/-- A request of the key is admitted after the waiting time when no other one came in between. -/
theorem retry_admitted (positive : 0 ≤ middleware.capacity) {refused again : Arrival} {between : List Arrival}
    (first : keyPrefix refused = some key) (second : keyPrefix again = some key)
    (alone : ∀ other ∈ between, keyPrefix other ≠ some key) {wait : Int}
    (answer : (middleware.dispatch refused).2 = .refused wait) (later : again.now = refused.now + wait) :
    ((run step middleware (refused :: between)).dispatch again).2 = .admitted := by
  obtain ⟨whole, scarce, enough⟩ := refused_wait positive first answer
  have stored := (run_other alone (middleware.step refused)).trans (step_bucket first)
  have bucket : (run step middleware (refused :: between)).tokenBucket key again.created =
      (middleware.tokenBucket key refused.created).request (middleware.capacity : ℚ) middleware.refillRate refused.now := by
    unfold tokenBucket getBucket
    rw [show (run step middleware (refused :: between)).buckets.get? key = _ from stored]
    rfl
  rw [(dispatch_own second).2, bucket, run_capacity, run_refillRate, later]
  exact TokenBucket.admits_after_refusal whole scarce enough

/-- The limit of a key is exact, unless the configured limit is negative. -/
theorem rate_limit_exact (ratePerMin : Option Int) (rateLimitPerMin : Int)
    (configured : 0 ≤ (init ratePerMin rateLimitPerMin).capacity) (ordered : InOrder arrivals) :
    Exact (init ratePerMin rateLimitPerMin) arrivals := by
  have start : Kept (init ratePerMin rateLimitPerMin) arrivals := by
    intro key bucket stored
    cases stored
  constructor
  · intro key bucket stored
    have whole : arrivals ++ [] = arrivals := List.append_nil arrivals
    have kept : Kept (run step (init ratePerMin rateLimitPerMin) arrivals) [] :=
      run_kept (by rw [whole]; exact start) (by rw [whole]; exact ordered) configured
    have sound := (kept key bucket stored).1
    rw [run_capacity] at sound
    exact ⟨sound.nonneg, sound.within⟩
  · intro key begin duration longer
    have bound := admissions_le start ordered configured key (le_add_of_nonneg_right (a := begin) longer)
    have arrives : (begin + duration - begin) * (init ratePerMin rateLimitPerMin).refillRate =
        duration * (init ratePerMin rateLimitPerMin).capacity / 60 := by
      unfold refillRate
      ring
    rw [arrives] at bound
    exact bound
  · intro before refused between again after key wait split first second alone answer later
    have capacity : 0 ≤ (run step (init ratePerMin rateLimitPerMin) before).capacity := by
      rw [run_capacity]
      exact configured
    have admitted := retry_admitted capacity first second alone answer later
    unfold run at *
    rw [List.foldl_append]
    exact admitted

end Histories

section Examples

/-- Two requests with one key, a second apart. -/
def twoRequests : List Arrival :=
  [⟨some "Bearer upk_0123456789abcdef", 0, 0⟩, ⟨some "Bearer upk_0123456789abcdef", 1, 1⟩]

/-- The two requests of the example are in order. -/
theorem twoRequests_inOrder : InOrder twoRequests where
  readings := by decide +kernel
  requests := by decide +kernel

/-- The limit of one request a minute is exact for two requests. -/
theorem one_a_minute : Exact (init (some 1) 600) twoRequests :=
  rate_limit_exact (some 1) 600 (by decide) twoRequests_inOrder

/-- With a negative limit, the bucket holds fewer than no tokens. -/
theorem negative_limit : ¬ ∀ rateLimitPerMin arrivals, InOrder arrivals → Exact (init none rateLimitPerMin) arrivals := by
  intro holds
  have sound := (holds (-1) twoRequests twoRequests_inOrder).stored "upk_0123456789ab" ⟨-1 - 1 / 60, 1⟩ (by decide +kernel)
  revert sound
  decide +kernel

end Examples
end P3Portal.ApiSurface.UpkRateLimitMiddleware
