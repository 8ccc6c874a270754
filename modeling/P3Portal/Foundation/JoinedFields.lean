import Mathlib.Algebra.GroupWithZero.Nat
import Mathlib.Data.List.TakeWhile
import Mathlib.Tactic.Common

namespace P3Portal.Foundation.Joined
variable {A : Type} [DecidableEq A] {separator : A}

/-- The separators of a joined list are those of its fields and one between any two of them. -/
theorem count_intercalate (field : List A) (rest : List (List A)) :
    (List.intercalate [separator] (field :: rest)).count separator =
      rest.length + ((field :: rest).map (List.count separator)).sum := by
  induction rest generalizing field with
  | nil => simp
  | cons next rest ih =>
      rw [List.intercalate_cons_cons, List.count_append, List.count_append, ih next]
      simp only [List.count_singleton_self, List.length_cons, List.map_cons, List.sum_cons]
      omega

/-- The first field ends at the first separator. -/
theorem first_separator {first second front behind : List A} (absent : separator ∉ first) (missing : separator ∉ second)
    (same : first ++ separator :: front = second ++ separator :: behind) : first = second ∧ front = behind := by
  have cut : ∀ field tail, separator ∉ field →
      (field ++ separator :: tail).takeWhile (fun a => decide (a ≠ separator)) = field := by
    intro field tail free
    have passes : ∀ a ∈ field, decide (a ≠ separator) = true := fun a member => decide_eq_true fun here => free (here ▸ member)
    rw [List.takeWhile_append_of_pos passes]
    simp
  have fields : first = second := by
    rw [← cut first front absent, same, cut second behind missing]
  rw [fields] at same
  exact ⟨fields, (List.cons.inj (List.append_cancel_left same)).2⟩

theorem count_zero {fields : List (List A)} (clear : ∀ field ∈ fields, separator ∉ field) :
    (fields.map (List.count separator)).sum = 0 := by
  rw [List.sum_eq_zero_iff_forall_eq_nat]
  intro number member
  obtain ⟨field, inside, rfl⟩ := List.mem_map.mp member
  exact List.count_eq_zero_of_not_mem (clear field inside)

/-- Fields without the separator are read back from the joined list. -/
theorem fields_of_joined {fields others : List (List A)} (clear : ∀ field ∈ fields, separator ∉ field)
    (length : others.length = fields.length)
    (same : List.intercalate [separator] others = List.intercalate [separator] fields) : others = fields := by
  have none_inside : ∀ other ∈ others, separator ∉ other := by
    cases fields with
    | nil =>
        rw [List.length_eq_zero_iff.mp length]
        intro other absent
        cases absent
    | cons field rest =>
        cases others with
        | nil => cases length
        | cons other behind =>
            have counted := congrArg (List.count separator) same
            rw [count_intercalate, count_intercalate, count_zero clear] at counted
            simp only [List.length_cons] at length
            have zero : ((other :: behind).map (List.count separator)).sum = 0 := by omega
            rw [List.sum_eq_zero_iff_forall_eq_nat] at zero
            intro part member
            exact List.count_eq_zero.mp (zero _ (List.mem_map_of_mem member))
  induction fields generalizing others with
  | nil => exact List.length_eq_zero_iff.mp length
  | cons field rest ih =>
      cases others with
      | nil => cases length
      | cons other behind =>
          have shorter : behind.length = rest.length := Nat.succ.inj length
          cases rest with
          | nil =>
              rw [List.length_eq_zero_iff.mp shorter] at same ⊢
              rw [List.intercalate_singleton, List.intercalate_singleton] at same
              rw [same]
          | cons next rest =>
              cases behind with
              | nil => cases shorter
              | cons second behind =>
                  rw [List.intercalate_cons_cons, List.intercalate_cons_cons, List.append_assoc, List.append_assoc] at same
                  obtain ⟨first, tail⟩ := first_separator (none_inside other List.mem_cons_self)
                    (clear field List.mem_cons_self) same
                  rw [first, ih (fun part member => clear part (List.mem_cons_of_mem _ member)) shorter tail
                    fun part member => none_inside part (List.mem_cons_of_mem _ member)]

/-- A separator inside a field lets the joined list be cut in another way. -/
theorem exists_recut {fields : List (List A)} (several : 2 ≤ fields.length) {field : List A} (inside : field ∈ fields)
    (divided : separator ∈ field) :
    ∃ others, others.length = fields.length ∧
      List.intercalate [separator] others = List.intercalate [separator] fields ∧ others ≠ fields := by
  induction fields with
  | nil => cases inside
  | cons first rest ih =>
      cases rest with
      | nil => exact absurd several (by simp)
      | cons second rest =>
          by_cases here : separator ∈ first
          · obtain ⟨front, behind, rfl⟩ := List.append_of_mem here
            refine ⟨front :: (behind ++ separator :: second) :: rest, rfl, ?_, ?_⟩
            · cases rest with
              | nil => simp
              | cons third rest => simp
            · intro same
              have size := congrArg List.length (List.cons.inj same).1
              simp at size
          · have later : field ∈ second :: rest := by
              rcases List.mem_cons.mp inside with rfl | later
              · exact absurd divided here
              · exact later
            cases rest with
            | nil =>
                rw [List.mem_singleton.mp later] at divided
                obtain ⟨front, behind, rfl⟩ := List.append_of_mem divided
                refine ⟨[first ++ separator :: front, behind], rfl, by simp, ?_⟩
                intro same
                have size := congrArg List.length (List.cons.inj same).1
                simp at size
            | cons third rest =>
                obtain ⟨others, length, joined, different⟩ := ih (by simp) later
                cases others with
                | nil => cases length
                | cons other others =>
                    refine ⟨first :: other :: others, congrArg Nat.succ length, ?_, ?_⟩
                    · rw [List.intercalate_cons_cons, joined, ← List.intercalate_cons_cons]
                    · intro same
                      exact different (List.cons.inj same).2

/-- A joined list determines its fields exactly when none of them holds the separator. -/
theorem determined_iff {fields : List (List A)} (several : 2 ≤ fields.length) :
    (∀ others, others.length = fields.length →
      List.intercalate [separator] others = List.intercalate [separator] fields → others = fields) ↔
      ∀ field ∈ fields, separator ∉ field := by
  constructor
  · intro determined field inside divided
    obtain ⟨others, length, same, different⟩ := exists_recut several inside divided
    exact different (determined others length same)
  · intro clear others length same
    exact fields_of_joined clear length same

end P3Portal.Foundation.Joined
