import Mathlib.Data.List.Chain
import Mathlib.Tactic.Common

namespace P3Portal.Foundation

/-- A raised alarm reports that it fires, and a lowered one that the condition is over. -/
inductive Signal where
  | firing
  | resolved
  deriving DecidableEq

/-- An alarm that is not raised counts how often in a row its condition held. -/
structure Alarm where
  raised : Bool := false
  count : Nat := 0
  deriving DecidableEq

namespace Alarm
variable (sustained : Int)

/-- The alarm is raised when its condition has held often enough in a row. -/
def observe (alarm : Alarm) (breached : Bool) : Alarm × Option Signal :=
  if breached then
    if alarm.raised then (alarm, none)
    else if sustained ≤ alarm.count + 1 then (⟨true, alarm.count + 1⟩, some .firing)
    else (⟨false, alarm.count + 1⟩, none)
  else (⟨false, 0⟩, if alarm.raised then some .resolved else none)

/-- Several observations follow each other; their signals are listed in order. -/
def observeAll (alarm : Alarm) : List Bool → Alarm × List Signal
  | [] => (alarm, [])
  | breached :: rest =>
      let first := alarm.observe sustained breached
      let later := observeAll first.1 rest
      (later.1, first.2.toList ++ later.2)

theorem observeAll_cons (alarm : Alarm) (breached : Bool) (rest : List Bool) :
    alarm.observeAll sustained (breached :: rest) =
      (((alarm.observe sustained breached).1.observeAll sustained rest).1,
        (alarm.observe sustained breached).2.toList ++
          ((alarm.observe sustained breached).1.observeAll sustained rest).2) := rfl

section Log
variable {sustained} {alarm : Alarm} {log : List Signal}

/-- The signals alternate and begin with a firing one. -/
def Alternates (log : List Signal) : Prop := (∀ first ∈ log.head?, first = .firing) ∧ log.IsChain (· ≠ ·)

/-- The log alternates and its last signal tells whether the alarm is raised. -/
structure Told (alarm : Alarm) (log : List Signal) : Prop where
  alternates : Alternates log
  current : alarm.raised = true ↔ log.getLast? = some .firing

theorem told_fresh (count : Nat) : Told ⟨false, count⟩ [] where
  alternates := ⟨fun _ absent => absurd absent (Option.not_mem_none _), List.isChain_nil⟩
  current := by simp

theorem alternates_append {signal : Signal} (told : Alternates log)
    (follows : log.getLast? = some .firing ↔ signal = .resolved) : Alternates (log ++ [signal]) := by
  constructor
  · intro first start
    cases log with
    | nil =>
        rw [List.nil_append, List.head?_cons, Option.mem_some_iff] at start
        rw [← start]
        cases signal with
        | firing => rfl
        | resolved => cases follows.mpr rfl
    | cons oldest rest => exact told.1 first start
  · apply List.isChain_append.mpr
    refine ⟨told.2, List.isChain_singleton signal, ?_⟩
    intro last ends next starts same
    rw [List.head?_cons, Option.mem_some_iff] at starts
    rw [Option.mem_def] at ends
    rw [ends, same, ← starts] at follows
    cases signal with
    | firing => cases follows.mp rfl
    | resolved => cases follows.mpr rfl

/-- An observation keeps the log true. -/
theorem told_observe (told : Told alarm log) (breached : Bool) :
    Told (alarm.observe sustained breached).1 (log ++ (alarm.observe sustained breached).2.toList) := by
  have current := told.current
  unfold observe
  cases raised : alarm.raised with
  | true =>
      rw [raised] at current
      cases breached with
      | true =>
          simp only [if_true, Option.toList_none, List.append_nil]
          exact told
      | false =>
          simp only [Bool.false_eq_true, if_false, if_true, Option.toList_some]
          exact ⟨alternates_append told.alternates (by simpa using current), by simp⟩
  | false =>
      rw [raised] at current
      cases breached with
      | true =>
          simp only [if_true, Bool.false_eq_true, if_false]
          split
          · exact ⟨alternates_append told.alternates (by simpa using current), by simp⟩
          · simp only [Option.toList_none, List.append_nil]
            exact ⟨told.alternates, current⟩
      | false =>
          simp only [Bool.false_eq_true, if_false, Option.toList_none, List.append_nil]
          exact ⟨told.alternates, current⟩

end Log

section Windows
variable {sustained} {alarm : Alarm} {observations : List Bool}

/-- The observations move the alarm as one observation does: all of them are on one side, and several of
them reach the condition only when the first one decides. -/
def Steady (sustained : Int) (alarm : Alarm) (observations : List Bool) : Prop :=
  (∀ breached ∈ observations, breached = false) ∨
    (∀ breached ∈ observations, breached = true) ∧
      (observations.length ≤ 1 ∨ alarm.raised = true ∨ sustained ≤ alarm.count + 1)

instance : Decidable (Steady sustained alarm observations) := by
  unfold Steady
  infer_instance

/-- One observation is steady. -/
theorem steady_of_length_le (single : observations.length ≤ 1) : Steady sustained alarm observations := by
  cases observations with
  | nil => exact .inl fun _ absent => by cases absent
  | cons breached rest =>
      have alone : rest = [] := List.eq_nil_of_length_eq_zero (Nat.le_zero.mp (Nat.le_of_succ_le_succ single))
      rw [alone]
      cases breached with
      | true => exact .inr ⟨fun _ member => List.mem_singleton.mp member, .inl (Nat.le_refl 1)⟩
      | false => exact .inl fun _ member => List.mem_singleton.mp member

theorem observeAll_raised (raised : alarm.raised = true) (above : ∀ breached ∈ observations, breached = true) :
    alarm.observeAll sustained observations = (alarm, []) := by
  induction observations with
  | nil => rfl
  | cons breached rest ih =>
      have here : alarm.observe sustained breached = (alarm, none) := by
        rw [above breached List.mem_cons_self]
        unfold observe
        rw [if_pos rfl, if_pos raised]
      rw [observeAll_cons, here, ih fun other member => above other (List.mem_cons_of_mem _ member)]
      rfl

theorem observeAll_quiet (quiet : alarm.raised = false) (cleared : alarm.count = 0)
    (below : ∀ breached ∈ observations, breached = false) : alarm.observeAll sustained observations = (alarm, []) := by
  induction observations with
  | nil => rfl
  | cons breached rest ih =>
      have same : alarm = ⟨false, 0⟩ := by
        rw [← quiet, ← cleared]
      have here : alarm.observe sustained breached = (alarm, none) := by
        rw [below breached List.mem_cons_self, same]
        rfl
      rw [observeAll_cons, here, ih fun other member => below other (List.mem_cons_of_mem _ member)]
      rfl

/-- Steady observations have the effect and the signal of their first one. -/
theorem observeAll_steady {first : Bool} {rest : List Bool} (steady : Steady sustained alarm (first :: rest)) :
    alarm.observeAll sustained (first :: rest) =
      ((alarm.observe sustained first).1, (alarm.observe sustained first).2.toList) := by
  have settled : (alarm.observe sustained first).1.observeAll sustained rest =
      ((alarm.observe sustained first).1, []) := by
    rcases steady with below | ⟨above, decided⟩
    · rw [below first List.mem_cons_self]
      apply observeAll_quiet rfl rfl
      intro other member
      exact below other (List.mem_cons_of_mem _ member)
    · rw [above first List.mem_cons_self]
      cases rest with
      | nil => rfl
      | cons second others =>
          apply observeAll_raised
          · unfold observe
            rw [if_pos rfl]
            split
            · assumption
            · rename_i unraised
              have reached : sustained ≤ alarm.count + 1 := by
                rcases decided with short | raised | reached
                · simp at short
                · exact absurd raised unraised
                · exact reached
              rw [if_pos reached]
          · intro other member
            exact above other (List.mem_cons_of_mem _ member)
  rw [observeAll_cons, settled, List.append_nil]

/-- The number of observations, the latest first, since the condition last failed. -/
def streak (history : List Bool) : Nat := (history.takeWhile id).length

/-- The count of a lowered alarm is covered by the latest observations. -/
def Backed (alarm : Alarm) (history : List Bool) : Prop := alarm.raised = false → alarm.count ≤ streak history

theorem backed_observe {history : List Bool} (backed : Backed alarm history) (breached : Bool) :
    Backed (alarm.observe sustained breached).1 (breached :: history) := by
  intro lowered
  cases breached with
  | false => exact Nat.zero_le _
  | true =>
      have longer : streak (true :: history) = streak history + 1 := rfl
      rw [longer]
      unfold observe at lowered ⊢
      rw [if_pos rfl] at lowered ⊢
      split at lowered
      · rename_i raised
        rw [raised] at lowered
        cases lowered
      · rename_i unraised
        have before := backed (Bool.eq_false_iff.mpr unraised)
        rw [if_neg unraised]
        split
        · exact Nat.succ_le_succ before
        · exact Nat.succ_le_succ before

/-- An alarm fires only when its condition holds now and held in the observations before. -/
theorem firing_observe {history : List Bool} {breached : Bool} (backed : Backed alarm history)
    (fires : (alarm.observe sustained breached).2 = some .firing) :
    breached = true ∧ sustained ≤ streak (breached :: history) := by
  unfold observe at fires
  cases breached with
  | false =>
      rw [if_neg Bool.false_ne_true] at fires
      dsimp only at fires
      split at fires <;> cases fires
  | true =>
      rw [if_pos rfl] at fires
      split at fires
      · cases fires
      · rename_i unraised
        split at fires
        · rename_i reached
          have before := backed (Bool.eq_false_iff.mpr unraised)
          have longer : streak (true :: history) = streak history + 1 := rfl
          exact ⟨rfl, by omega⟩
        · cases fires

/-- The latest observations of a streak all met the condition. -/
theorem take_streak {history : List Bool} {count : Nat} (within : count ≤ streak history) :
    ∀ breached ∈ history.take count, breached = true := by
  induction history generalizing count with
  | nil => simp
  | cons latest rest ih =>
      intro breached member
      cases count with
      | zero => cases member
      | succ earlier =>
          cases latest with
          | false => exact absurd within (Nat.not_succ_le_zero earlier)
          | true =>
              rcases List.mem_cons.mp member with here | older
              · exact here
              · exact ih (Nat.le_of_succ_le_succ within) breached older

theorem streak_le_length (history : List Bool) : streak history ≤ history.length :=
  (List.takeWhile_sublist id).length_le

end Windows
end Alarm
end P3Portal.Foundation
