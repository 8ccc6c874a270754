import Mathlib.Data.List.Basic
import Mathlib.Logic.Relation
import Mathlib.Tactic.Common

namespace P3Portal.Foundation.Regex

/-- A place in a text is known by the character before it and the text behind it. -/
structure Cursor where
  before : Option Char
  rest : List Char
deriving DecidableEq

/-- The part of `re` without groups that are read back; a lazy repetition finds a match when a greedy one does. -/
inductive Pattern where
  | empty
  | one (accepts : Char → Bool)
  | seq (first second : Pattern)
  | either (first second : Pattern)
  | many (inner : Pattern)
  | initial
  | final
  | boundary (isWord : Char → Bool)

/-- `\b` holds where a word begins or ends. -/
def Cursor.atBoundary (place : Cursor) (isWord : Char → Bool) : Bool :=
  place.before.any isWord != place.rest.head?.any isWord

/-- `$` holds at the end of the text and before a newline that ends it. -/
def Cursor.atEnd (place : Cursor) : Bool := place.rest = [] || place.rest = ['\n']

/-- A repetition stops when it does not move. -/
def repeatedly (step : Cursor → List Cursor) : Nat → Cursor → List Cursor
  | 0, place => [place]
  | fuel + 1, place =>
      place :: ((step place).filter fun next => next.rest.length < place.rest.length).flatMap (repeatedly step fuel)

/-- The places where a match that begins here may end. -/
def ends : Pattern → Cursor → List Cursor
  | .empty, place => [place]
  | .one accepts, place =>
      match place.rest with
      | [] => []
      | c :: rest => if accepts c then [⟨some c, rest⟩] else []
  | .seq first second, place => (ends first place).flatMap (ends second)
  | .either first second, place => ends first place ++ ends second place
  | .many inner, place => repeatedly (ends inner) place.rest.length place
  | .initial, place => if place.before = none then [place] else []
  | .final, place => if place.atEnd then [place] else []
  | .boundary isWord, place => if place.atBoundary isWord then [place] else []

/-- The places of a text from the left to the right. -/
def places (before : Option Char) : List Char → List Cursor
  | [] => [⟨before, []⟩]
  | c :: rest => ⟨before, c :: rest⟩ :: places (some c) rest

/-- `re.match` looks at the beginning of a text. -/
def Pattern.atStart (pattern : Pattern) (text : List Char) : Bool := !(ends pattern ⟨none, text⟩).isEmpty

/-- `re.search` looks at every place of a text. -/
def Pattern.search (pattern : Pattern) (text : List Char) : Bool :=
  (places none text).any fun place => !(ends pattern place).isEmpty

/-- A match as a relation between its two places. -/
def Pattern.Spans : Pattern → Cursor → Cursor → Prop
  | .empty, start, finish => finish = start
  | .one accepts, start, finish => ∃ c rest, start.rest = c :: rest ∧ accepts c = true ∧ finish = ⟨some c, rest⟩
  | .seq first second, start, finish => ∃ middle, first.Spans start middle ∧ second.Spans middle finish
  | .either first second, start, finish => first.Spans start finish ∨ second.Spans start finish
  | .many inner, start, finish => Relation.ReflTransGen inner.Spans start finish
  | .initial, start, finish => start.before = none ∧ finish = start
  | .final, start, finish => start.atEnd = true ∧ finish = start
  | .boundary isWord, start, finish => start.atBoundary isWord = true ∧ finish = start

/-- A match stays where it begins or moves on. -/
theorem Pattern.Spans.moves {pattern : Pattern} {start finish : Cursor} (spans : pattern.Spans start finish) :
    finish = start ∨ finish.rest.length < start.rest.length := by
  induction pattern generalizing start finish with
  | empty => exact .inl spans
  | one accepts =>
      obtain ⟨c, rest, behind, _, rfl⟩ := spans
      right
      rw [behind]
      exact Nat.lt_succ_self _
  | seq first second firstMoves secondMoves =>
      obtain ⟨middle, early, late⟩ := spans
      rcases firstMoves early with rfl | shorter
      · exact secondMoves late
      · rcases secondMoves late with rfl | again
        · exact .inr shorter
        · exact .inr (Nat.lt_trans again shorter)
  | either first second firstMoves secondMoves =>
      rcases spans with early | late
      · exact firstMoves early
      · exact secondMoves late
  | many inner innerMoves =>
      change Relation.ReflTransGen inner.Spans start finish at spans
      induction spans with
      | refl => exact .inl rfl
      | tail _ last ih =>
          rcases innerMoves last with rfl | shorter
          · exact ih
          · rcases ih with rfl | again
            · exact .inr shorter
            · exact .inr (Nat.lt_trans shorter again)
  | initial => exact .inl spans.2
  | final => exact .inl spans.2
  | boundary isWord => exact .inl spans.2

/-- With a step for each character the repetition finds all its ends. -/
theorem mem_repeatedly {step : Cursor → List Cursor} {relation : Cursor → Cursor → Prop}
    (same : ∀ start finish, finish ∈ step start ↔ relation start finish)
    (moves : ∀ start finish, relation start finish → finish = start ∨ finish.rest.length < start.rest.length)
    {fuel : Nat} {start finish : Cursor} (enough : start.rest.length ≤ fuel) :
    finish ∈ repeatedly step fuel start ↔ Relation.ReflTransGen relation start finish := by
  constructor
  · intro member
    clear enough
    induction fuel generalizing start with
    | zero =>
        rw [repeatedly, List.mem_singleton] at member
        rw [member]
    | succ fuel ih =>
        rw [repeatedly, List.mem_cons, List.mem_flatMap] at member
        rcases member with rfl | ⟨next, kept, later⟩
        · exact .refl
        · exact .head ((same start next).mp (List.mem_filter.mp kept).1) (ih later)
  · intro chain
    induction chain using Relation.ReflTransGen.head_induction_on generalizing fuel with
    | refl => cases fuel <;> exact List.mem_cons_self
    | @head here next first _ ih =>
        rcases moves here next first with rfl | shorter
        · exact ih enough
        · cases fuel with
          | zero => omega
          | succ fuel =>
              have kept : next ∈ (step here).filter fun next => next.rest.length < here.rest.length :=
                List.mem_filter.mpr ⟨(same here next).mpr first, decide_eq_true shorter⟩
              rw [repeatedly, List.mem_cons, List.mem_flatMap]
              exact .inr ⟨next, kept, ih (by omega)⟩

/-- The ends that are computed are those of the relation. -/
theorem mem_ends (pattern : Pattern) (start finish : Cursor) :
    finish ∈ ends pattern start ↔ pattern.Spans start finish := by
  induction pattern generalizing start finish with
  | empty => exact List.mem_singleton
  | one accepts =>
      cases behind : start.rest with
      | nil => simp [ends, Pattern.Spans, behind]
      | cons c rest =>
          by_cases accepted : accepts c = true
          · simp [ends, Pattern.Spans, behind, accepted]
          · simp [ends, Pattern.Spans, behind, accepted]
  | seq first second firstEnds secondEnds =>
      simp only [ends, List.mem_flatMap, firstEnds, secondEnds, Pattern.Spans]
  | either first second firstEnds secondEnds =>
      simp only [ends, List.mem_append, firstEnds, secondEnds, Pattern.Spans]
  | many inner innerEnds => exact mem_repeatedly innerEnds (fun _ _ => Pattern.Spans.moves) (Nat.le_refl _)
  | initial =>
      simp only [ends, Pattern.Spans]
      split <;> simp_all
  | final =>
      simp only [ends, Pattern.Spans]
      split <;> simp_all
  | boundary isWord =>
      simp only [ends, Pattern.Spans]
      split <;> simp_all

theorem nonempty_ends {pattern : Pattern} {start : Cursor} :
    (!(ends pattern start).isEmpty) = true ↔ ∃ finish, pattern.Spans start finish := by
  simp only [Bool.not_eq_true', List.isEmpty_eq_false_iff_exists_mem, mem_ends]

theorem atStart_iff (pattern : Pattern) (text : List Char) :
    pattern.atStart text = true ↔ ∃ finish, pattern.Spans ⟨none, text⟩ finish := nonempty_ends

theorem getLast?_cons_or (c : Char) (word : List Char) (before : Option Char) :
    (c :: word).getLast?.or before = word.getLast?.or (some c) := by
  rw [List.getLast?_cons]
  cases word.getLast? <;> rfl

theorem mem_places (before : Option Char) (front rest : List Char) :
    ⟨front.getLast?.or before, rest⟩ ∈ places before (front ++ rest) := by
  induction front generalizing before with
  | nil => cases rest <;> exact List.mem_cons_self
  | cons c front ih =>
      rw [getLast?_cons_or]
      exact List.mem_cons_of_mem _ (ih (some c))

/-- A match anywhere in the text is found. -/
theorem search_of_spans {pattern : Pattern} {front rest : List Char} {finish : Cursor}
    (spans : pattern.Spans ⟨front.getLast?, rest⟩ finish) : pattern.search (front ++ rest) = true := by
  have here := mem_places none front rest
  rw [Option.or_none] at here
  exact List.any_eq_true.mpr ⟨_, here, nonempty_ends.mpr ⟨finish, spans⟩⟩

/-- A word, one class for each of its characters. -/
def Pattern.word : List (Char → Bool) → Pattern
  | [] => .empty
  | accepts :: rest => .seq (.one accepts) (.word rest)

/-- One of several words. -/
def Pattern.oneOf : List Pattern → Pattern
  | [] => .one fun _ => false
  | pattern :: rest => .either pattern (.oneOf rest)

/-- `?` of a pattern. -/
def Pattern.optional (pattern : Pattern) : Pattern := .either pattern .empty

/-- `+` of a pattern. -/
def Pattern.plus (pattern : Pattern) : Pattern := .seq pattern (.many pattern)

theorem spans_word {classes : List (Char → Bool)} {word : List Char}
    (accepted : List.Forall₂ (fun accepts c => accepts c = true) classes word) (before : Option Char) (rest : List Char) :
    (Pattern.word classes).Spans ⟨before, word ++ rest⟩ ⟨word.getLast?.or before, rest⟩ := by
  induction accepted generalizing before with
  | nil => rfl
  | @cons accepts c classes word here _ ih =>
      rw [getLast?_cons_or]
      exact ⟨⟨some c, word ++ rest⟩, ⟨c, word ++ rest, rfl, here, rfl⟩, ih (some c)⟩

theorem spans_oneOf {patterns : List Pattern} {pattern : Pattern} (member : pattern ∈ patterns) {start finish : Cursor}
    (spans : pattern.Spans start finish) : (Pattern.oneOf patterns).Spans start finish := by
  induction patterns with
  | nil => cases member
  | cons other rest ih =>
      rcases List.mem_cons.mp member with rfl | later
      · exact .inl spans
      · exact .inr (ih later)

theorem spans_many {accepts : Char → Bool} {word : List Char} (accepted : ∀ c ∈ word, accepts c = true)
    (before : Option Char) (rest : List Char) :
    (Pattern.many (.one accepts)).Spans ⟨before, word ++ rest⟩ ⟨word.getLast?.or before, rest⟩ := by
  induction word generalizing before with
  | nil => exact Relation.ReflTransGen.refl
  | cons c word ih =>
      have first : (Pattern.one accepts).Spans ⟨before, c :: word ++ rest⟩ ⟨some c, word ++ rest⟩ :=
        ⟨c, word ++ rest, rfl, accepted c List.mem_cons_self, rfl⟩
      have others := ih (fun d member => accepted d (List.mem_cons_of_mem c member)) (some c)
      rw [getLast?_cons_or]
      exact Relation.ReflTransGen.head first others

/-- A repetition of one class runs over characters of the class. -/
theorem word_of_spans_many {accepts : Char → Bool} {start finish : Cursor}
    (spans : (Pattern.many (.one accepts)).Spans start finish) :
    ∃ word, start.rest = word ++ finish.rest ∧ ∀ c ∈ word, accepts c = true := by
  change Relation.ReflTransGen (Pattern.one accepts).Spans start finish at spans
  induction spans using Relation.ReflTransGen.head_induction_on with
  | refl => exact ⟨[], rfl, fun c member => absurd member List.not_mem_nil⟩
  | head first _ ih =>
      obtain ⟨c, rest, behind, accepted, rfl⟩ := first
      obtain ⟨word, split, all⟩ := ih
      refine ⟨c :: word, ?_, ?_⟩
      · rw [behind, List.cons_append, ← split]
      · intro d member
        rcases List.mem_cons.mp member with rfl | later
        · exact accepted
        · exact all d later

end P3Portal.Foundation.Regex
