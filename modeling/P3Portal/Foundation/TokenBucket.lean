import Mathlib.Algebra.Order.Field.Basic
import Mathlib.Tactic.Linarith
import Mathlib.Tactic.Ring

namespace P3Portal.Foundation

/-- A bucket holds an amount of tokens and the time of its last refill. -/
structure TokenBucket (K : Type) where
  level : K
  last : K

namespace TokenBucket
variable {K : Type} [Field K] [LinearOrder K] (capacity rate : K)

/-- Tokens arrive at the rate until the capacity is reached. -/
def filled (bucket : TokenBucket K) (now : K) : K :=
  min capacity (bucket.level + (now - bucket.last) * rate)

/-- A request is admitted when a whole token is there. -/
def admits (bucket : TokenBucket K) (now : K) : Bool := decide (1 ≤ bucket.filled capacity rate now)

/-- An admitted request costs one token. -/
def cost (bucket : TokenBucket K) (now : K) : K := if bucket.admits capacity rate now then 1 else 0

def request (bucket : TokenBucket K) (now : K) : TokenBucket K :=
  ⟨bucket.filled capacity rate now - bucket.cost capacity rate now, now⟩

/-- The answers to the requests of one bucket, each with its time. -/
def outcomes (bucket : TokenBucket K) : List K → List (K × Bool)
  | [] => []
  | now :: rest => (now, bucket.admits capacity rate now) :: outcomes (bucket.request capacity rate now) rest

/-- The level lies between nothing and the capacity. -/
structure Sound (bucket : TokenBucket K) : Prop where
  nonneg : 0 ≤ bucket.level
  within : bucket.level ≤ capacity

/-- The number of requests that are admitted from the start to the end of a window. -/
def admitted (outcomes : List (K × Bool)) (start finish : K) : Nat :=
  outcomes.countP fun outcome => outcome.2 && decide (start ≤ outcome.1) && decide (outcome.1 ≤ finish)

section Requests
variable {capacity rate} {bucket : TokenBucket K} {now : K}

theorem cost_le_filled (positive : 0 ≤ bucket.filled capacity rate now) :
    bucket.cost capacity rate now ≤ bucket.filled capacity rate now := by
  unfold cost admits
  split
  · rename_i enough
    exact of_decide_eq_true enough
  · exact positive

variable [IsStrictOrderedRing K]

theorem filled_nonneg (positive : 0 ≤ capacity) (gains : 0 ≤ rate) (sound : bucket.Sound capacity)
    (later : bucket.last ≤ now) : 0 ≤ bucket.filled capacity rate now := by
  have gained : 0 ≤ (now - bucket.last) * rate := mul_nonneg (sub_nonneg.mpr later) gains
  exact le_min positive (add_nonneg sound.nonneg gained)

theorem cost_nonneg : 0 ≤ bucket.cost capacity rate now := by
  unfold cost
  split
  · exact zero_le_one
  · exact le_refl 0

/-- A request keeps the level between nothing and the capacity. -/
theorem request_sound (positive : 0 ≤ capacity) (gains : 0 ≤ rate) (sound : bucket.Sound capacity)
    (later : bucket.last ≤ now) : (bucket.request capacity rate now).Sound capacity where
  nonneg := sub_nonneg.mpr (cost_le_filled (filled_nonneg positive gains sound later))
  within := by
    have most : bucket.filled capacity rate now ≤ capacity := min_le_left _ _
    have spent : 0 ≤ bucket.cost capacity rate now := cost_nonneg
    show bucket.filled capacity rate now - bucket.cost capacity rate now ≤ capacity
    linarith

/-- The cost of a request is paid from the level and from what has arrived since. -/
theorem request_pays : bucket.cost capacity rate now + (bucket.request capacity rate now).level ≤
    bucket.level + (now - bucket.last) * rate := by
  have most : bucket.filled capacity rate now ≤ bucket.level + (now - bucket.last) * rate := min_le_right _ _
  show bucket.cost capacity rate now + (bucket.filled capacity rate now - bucket.cost capacity rate now) ≤ _
  linarith

/-- The cost of a request and what is left never exceed the capacity. -/
theorem request_within : bucket.cost capacity rate now + (bucket.request capacity rate now).level ≤ capacity := by
  have most : bucket.filled capacity rate now ≤ capacity := min_le_left _ _
  show bucket.cost capacity rate now + (bucket.filled capacity rate now - bucket.cost capacity rate now) ≤ _
  linarith

/-- After a refusal, a request is admitted once the missing part of a token has arrived. -/
theorem admits_after_refusal (whole : 1 ≤ capacity) {wait : K} (refused : bucket.admits capacity rate now = false)
    (enough : 1 - bucket.filled capacity rate now ≤ wait * rate) :
    (bucket.request capacity rate now).admits capacity rate (now + wait) = true := by
  have kept : (bucket.request capacity rate now).level = bucket.filled capacity rate now := by
    unfold request cost
    rw [refused]
    simp
  unfold admits
  apply decide_eq_true
  apply le_min whole
  show 1 ≤ (bucket.request capacity rate now).level + (now + wait - now) * rate
  rw [kept, add_sub_cancel_left]
  linarith

end Requests

section Windows
variable {capacity rate}

omit [Field K] in
@[simp] theorem admitted_nil (start finish : K) : admitted ([] : List (K × Bool)) start finish = 0 := rfl

/-- A request inside the window counts by its cost. -/
theorem admitted_inside {bucket : TokenBucket K} {now start finish : K} (rest : List (K × Bool)) (from_start : start ≤ now)
    (to_finish : now ≤ finish) :
    (admitted ((now, bucket.admits capacity rate now) :: rest) start finish : K) =
      bucket.cost capacity rate now + admitted rest start finish := by
  unfold admitted cost
  rw [List.countP_cons]
  cases bucket.admits capacity rate now with
  | false => simp
  | true =>
      simp [from_start, to_finish]
      ring

omit [Field K] in
theorem admitted_outside {now start finish : K} (answer : Bool) (rest : List (K × Bool))
    (outside : now < start ∨ finish < now) :
    admitted ((now, answer) :: rest) start finish = admitted rest start finish := by
  unfold admitted
  rw [List.countP_cons_of_neg]
  rcases outside with early | late
  · simp [not_le.mpr early]
  · simp [not_le.mpr late]

/-- No request counts after the end of the window. -/
theorem admitted_late {bucket : TokenBucket K} {times : List K} {start finish : K} (late : ∀ now ∈ times, finish < now) :
    admitted (bucket.outcomes capacity rate times) start finish = 0 := by
  induction times generalizing bucket with
  | nil => rfl
  | cons now rest ih =>
      have after := late now List.mem_cons_self
      rw [outcomes, admitted_outside _ _ (.inr after)]
      exact ih fun time member => late time (List.mem_cons_of_mem now member)

variable [IsStrictOrderedRing K] (positive : 0 ≤ capacity) (gains : 0 ≤ rate)
include positive gains

/-- Inside a window, the requests are paid from the level of the bucket and from what arrives. -/
theorem admitted_of_level {bucket : TokenBucket K} (sound : bucket.Sound capacity) {times : List K} {start finish : K}
    (ordered : (bucket.last :: times).Pairwise (· ≤ ·)) (from_start : start ≤ bucket.last) (to_finish : bucket.last ≤ finish) :
    (admitted (bucket.outcomes capacity rate times) start finish : K) ≤ bucket.level + (finish - bucket.last) * rate := by
  induction times generalizing bucket with
  | nil =>
      have gained : 0 ≤ (finish - bucket.last) * rate := mul_nonneg (sub_nonneg.mpr to_finish) gains
      simpa [outcomes] using add_nonneg sound.nonneg gained
  | cons now rest ih =>
      obtain ⟨later, following⟩ := List.pairwise_cons.mp ordered
      have next := later now List.mem_cons_self
      by_cases inside : now ≤ finish
      · have tail := ih (request_sound positive gains sound next) following (le_trans from_start next) inside
        have paid : bucket.cost capacity rate now + (bucket.request capacity rate now).level ≤
            bucket.level + (now - bucket.last) * rate := request_pays
        rw [outcomes, admitted_inside _ (le_trans from_start next) inside]
        have split : (finish - bucket.last) * rate = (now - bucket.last) * rate + (finish - now) * rate := by ring
        have tail : (admitted ((bucket.request capacity rate now).outcomes capacity rate rest) start finish : K) ≤
            (bucket.request capacity rate now).level + (finish - now) * rate := tail
        rw [split]
        linarith
      · have late : ∀ time ∈ now :: rest, finish < time := by
          intro time member
          rcases List.mem_cons.mp member with rfl | behind
          · exact not_le.mp inside
          · exact lt_of_lt_of_le (not_le.mp inside) ((List.pairwise_cons.mp following).1 time behind)
        have gained : 0 ≤ (finish - bucket.last) * rate := mul_nonneg (sub_nonneg.mpr to_finish) gains
        rw [admitted_late late, Nat.cast_zero]
        exact add_nonneg sound.nonneg gained

/-- In any window, at most the capacity and what arrives meanwhile is admitted. -/
theorem admitted_le {bucket : TokenBucket K} (sound : bucket.Sound capacity) {times : List K} {start finish : K}
    (ordered : (bucket.last :: times).Pairwise (· ≤ ·)) (window : start ≤ finish) :
    (admitted (bucket.outcomes capacity rate times) start finish : K) ≤ capacity + (finish - start) * rate := by
  have arrives : 0 ≤ (finish - start) * rate := mul_nonneg (sub_nonneg.mpr window) gains
  induction times generalizing bucket with
  | nil => simpa [outcomes] using add_nonneg positive arrives
  | cons now rest ih =>
      obtain ⟨later, following⟩ := List.pairwise_cons.mp ordered
      have kept := request_sound positive gains sound (later now List.mem_cons_self)
      by_cases early : now < start
      · rw [outcomes, admitted_outside _ _ (.inl early)]
        exact ih kept following
      · by_cases inside : now ≤ finish
        · have begun := not_lt.mp early
          have tail : (admitted ((bucket.request capacity rate now).outcomes capacity rate rest) start finish : K) ≤
              (bucket.request capacity rate now).level + (finish - now) * rate :=
            admitted_of_level positive gains kept following begun inside
          have whole : bucket.cost capacity rate now + (bucket.request capacity rate now).level ≤ capacity := request_within
          have shorter : (finish - now) * rate ≤ (finish - start) * rate :=
            mul_le_mul_of_nonneg_right (by linarith) gains
          rw [outcomes, admitted_inside _ begun inside]
          linarith
        · rw [outcomes, admitted_outside _ _ (.inr (not_le.mp inside))]
          exact ih kept following

end Windows
end TokenBucket
end P3Portal.Foundation
