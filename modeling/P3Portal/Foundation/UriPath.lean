import Mathlib.Data.List.Basic
import Mathlib.Data.List.TakeWhile
import Mathlib.Tactic.Common

namespace P3Portal.Foundation.PercentEncoding

/-- These characters stand for themselves. -/
def alwaysSafe (character : Char) : Bool :=
  character.isAlphanum || character = '_' || character = '.' || character = '-' || character = '~'

/-- The sixteen digits are written in upper case. -/
def hexDigit (value : Nat) : Char := Char.ofNat (if value < 10 then 48 + value else 55 + value)

/-- A byte is written as its safe character or as a percent sign and two digits. -/
def quoteByte (byte : UInt8) : List Char :=
  if alwaysSafe (Char.ofNat byte.toNat) then [Char.ofNat byte.toNat]
  else ['%', hexDigit (byte.toNat / 16), hexDigit (byte.toNat % 16)]

/-- `urllib.parse.quote` without further safe characters writes the UTF-8 bytes of the text. -/
def quote (text : List Char) : List Char :=
  text.flatMap fun character => (String.utf8EncodeChar character).flatMap quoteByte

/-- `urllib.parse.quote_plus` writes a space as a plus sign. -/
def quotePlus (text : List Char) : List Char :=
  text.flatMap fun character => if character = ' ' then ['+'] else quote [character]

theorem hexDigit_safe (value : Nat) (small : value < 16) : alwaysSafe (hexDigit value) = true := by
  have every : ∀ digit : Fin 16, alwaysSafe (hexDigit digit.val) = true := by decide
  exact every ⟨value, small⟩

/-- A written byte consists of safe characters and percent signs. -/
theorem mem_quoteByte {byte : UInt8} {character : Char} (inside : character ∈ quoteByte byte) :
    character = '%' ∨ alwaysSafe character = true := by
  have bound : byte.toNat < 256 := byte.toNat_lt
  unfold quoteByte at inside
  split at inside
  · rename_i safe
    rw [List.mem_singleton.mp inside]
    exact .inr safe
  · simp only [List.mem_cons, List.not_mem_nil, or_false] at inside
    rcases inside with percent | high | low
    · exact .inl percent
    · rw [high]
      exact .inr (hexDigit_safe _ (by omega))
    · rw [low]
      exact .inr (hexDigit_safe _ (by omega))

theorem mem_quote {text : List Char} {character : Char} (inside : character ∈ quote text) :
    character = '%' ∨ alwaysSafe character = true := by
  simp only [quote, List.mem_flatMap] at inside
  obtain ⟨source, member, byte, encoded, written⟩ := inside
  exact mem_quoteByte written

/-- A character that is neither safe nor a percent sign never appears in a quoted text. -/
theorem not_mem_quote (text : List Char) (character : Char) (escaped : alwaysSafe character = false)
    (other : character ≠ '%') : character ∉ quote text := by
  intro inside
  rcases mem_quote inside with percent | safe
  · exact other percent
  · rw [escaped] at safe
    cases safe

/-- A quoted colon leaves a percent sign. -/
theorem percent_mem_quote {text : List Char} (colon : ':' ∈ text) : '%' ∈ quote text := by
  have written : '%' ∈ (String.utf8EncodeChar ':').flatMap quoteByte := by decide
  exact List.mem_flatMap.mpr ⟨':', colon, written⟩
end P3Portal.Foundation.PercentEncoding

namespace P3Portal.Foundation.UriPath

/-- A segment is the text between two slashes of a path. -/
abbrev Segment := List Char

/-- A query or a fragment starts at the first of these two characters. -/
def endsPath (character : Char) : Bool := character = '?' || character = '#'

/-- The path of a reference is the text before its query and its fragment. -/
def pathPart (text : List Char) : List Char := text.takeWhile fun character => !endsPath character

/-- The removal of dot segments lets `..` erase the segment before it, but never the root. -/
def normalizePath (output : List Segment) : List Segment → List Segment
  | [] => output
  | component :: rest =>
      if component = ['.'] then normalizePath output rest
      else if component = ['.', '.'] then
        normalizePath (if output = [] ∨ output = [[]] then output else output.dropLast) rest
      else normalizePath (output ++ [component]) rest

/-- A client requests these segments for an interpolated reference. -/
def requested (text : List Char) : List Segment := normalizePath [] ((pathPart text).splitOn '/')

/-- A plain segment keeps its place: it neither divides, ends nor climbs the path. -/
structure Plain (segment : Segment) : Prop where
  noSlash : '/' ∉ segment
  noEnd : ∀ character ∈ segment, endsPath character = false
  notHere : segment ≠ ['.']
  notParent : segment ≠ ['.', '.']

instance (segment : Segment) : Decidable (Plain segment) :=
  letI : Decidable (∀ character ∈ segment, endsPath character = false) :=
    List.decidableBAll (fun character => endsPath character = false) segment
  decidable_of_iff ('/' ∉ segment ∧ (∀ character ∈ segment, endsPath character = false) ∧
      segment ≠ ['.'] ∧ segment ≠ ['.', '.'])
    ⟨fun parts => ⟨parts.1, parts.2.1, parts.2.2.1, parts.2.2.2⟩,
      fun plain => ⟨plain.noSlash, plain.noEnd, plain.notHere, plain.notParent⟩⟩

/-- A template writes its segments with slashes between them. -/
def render (segments : List Segment) : List Char := ['/'].intercalate segments

@[simp] theorem render_singleton (segment : Segment) : render [segment] = segment := by
  simp [render, List.intercalate]

theorem render_cons (segment : Segment) (rest : List Segment) (more : rest ≠ []) :
    render (segment :: rest) = segment ++ '/' :: render rest := by
  obtain ⟨next, others, rfl⟩ := List.exists_cons_of_ne_nil more
  simp [render, List.intercalate]

/-- A rendered template is the rendering of its two halves with a slash between them. -/
theorem render_append (first second : List Segment) (some : first ≠ []) (more : second ≠ []) :
    render (first ++ second) = render first ++ '/' :: render second := by
  induction first with
  | nil => exact absurd rfl some
  | cons segment rest ih =>
      by_cases last : rest = []
      · rw [last, List.cons_append, List.nil_append, render_cons segment second more, render_singleton]
      · rw [List.cons_append, render_cons segment (rest ++ second) (by simp [last]), ih last,
          render_cons segment rest last]
        simp

/-- A text is the rendering of the segments that it splits into. -/
@[simp] theorem render_splitOn (text : List Char) : render (text.splitOn '/') = text :=
  List.intercalate_splitOn '/'

theorem mem_render {segments : List Segment} {character : Char} (inside : character ∈ render segments) :
    character = '/' ∨ ∃ segment ∈ segments, character ∈ segment := by
  induction segments with
  | nil => simp [render, List.intercalate] at inside
  | cons segment rest ih =>
      by_cases last : rest = []
      · rw [last, render_singleton] at inside
        exact .inr ⟨segment, List.mem_cons_self, inside⟩
      · rw [render_cons segment rest last, List.mem_append, List.mem_cons] at inside
        rcases inside with here | slash | later
        · exact .inr ⟨segment, List.mem_cons_self, here⟩
        · exact .inl slash
        · rcases ih later with slash | ⟨other, member, found⟩
          · exact .inl slash
          · exact .inr ⟨other, List.mem_cons_of_mem segment member, found⟩

/-- Every requested segment is one of the split path, and none is a dot segment. -/
theorem mem_normalizePath (components output : List Segment) {segment : Segment}
    (inside : segment ∈ normalizePath output components) :
    segment ∈ output ∨ (segment ∈ components ∧ segment ≠ ['.'] ∧ segment ≠ ['.', '.']) := by
  induction components generalizing output with
  | nil => exact .inl inside
  | cons component rest ih =>
      unfold normalizePath at inside
      split at inside
      · rcases ih output inside with old | ⟨later, dots⟩
        · exact .inl old
        · exact .inr ⟨List.mem_cons_of_mem component later, dots⟩
      · rename_i notHere
        split at inside
        · rcases ih _ inside with old | ⟨later, dots⟩
          · refine .inl ?_
            split at old
            · exact old
            · exact List.dropLast_subset output old
          · exact .inr ⟨List.mem_cons_of_mem component later, dots⟩
        · rename_i notParent
          rcases ih _ inside with old | ⟨later, dots⟩
          · rcases List.mem_append.mp old with older | here
            · exact .inl older
            · rw [List.mem_singleton.mp here]
              exact .inr ⟨List.mem_cons_self, notHere, notParent⟩
          · exact .inr ⟨List.mem_cons_of_mem component later, dots⟩

/-- Without dot segments the removal changes nothing. -/
theorem normalizePath_of_plain (components output : List Segment)
    (plain : ∀ segment ∈ components, segment ≠ ['.'] ∧ segment ≠ ['.', '.']) :
    normalizePath output components = output ++ components := by
  induction components generalizing output with
  | nil => exact (List.append_nil output).symm
  | cons component rest ih =>
      have here := plain component List.mem_cons_self
      unfold normalizePath
      rw [if_neg here.1, if_neg here.2,
        ih _ fun segment member => plain segment (List.mem_cons_of_mem component member)]
      simp

theorem not_mem_of_mem_splitOn (text : List Char) {separator : Char} {segment : Segment}
    (member : segment ∈ text.splitOn separator) : separator ∉ segment := by
  induction text generalizing segment with
  | nil =>
      rw [List.splitOn_nil, List.mem_singleton] at member
      simp [member]
  | cons character rest ih =>
      rw [List.splitOn_cons_eq_if_modifyHead] at member
      split at member
      · rcases List.mem_cons.mp member with rfl | later
        · exact List.not_mem_nil
        · exact ih later
      · rename_i other
        obtain ⟨first, others, parts⟩ := List.exists_cons_of_ne_nil (List.splitOn_ne_nil separator rest)
        rw [parts, List.modifyHead_cons, List.mem_cons] at member
        rcases member with rfl | later
        · have inner : separator ∉ first := ih (by rw [parts]; exact List.mem_cons_self)
          simp only [List.mem_cons, not_or]
          exact ⟨fun same => other (beq_iff_eq.mpr same.symm), inner⟩
        · exact ih (by rw [parts]; exact List.mem_cons_of_mem first later)

/-- Every character of a split segment is a character of the text. -/
theorem mem_of_mem_splitOn (text : List Char) {separator : Char} {segment : Segment} {character : Char}
    (member : segment ∈ text.splitOn separator) (inside : character ∈ segment) : character ∈ text := by
  induction text generalizing segment with
  | nil =>
      rw [List.splitOn_nil, List.mem_singleton] at member
      rw [member] at inside
      cases inside
  | cons first rest ih =>
      rw [List.splitOn_cons_eq_if_modifyHead] at member
      split at member
      · rcases List.mem_cons.mp member with rfl | later
        · cases inside
        · exact List.mem_cons_of_mem first (ih later inside)
      · obtain ⟨front, others, parts⟩ := List.exists_cons_of_ne_nil (List.splitOn_ne_nil separator rest)
        rw [parts] at ih
        rw [parts, List.modifyHead_cons, List.mem_cons] at member
        rcases member with rfl | later
        · rcases List.mem_cons.mp inside with rfl | kept
          · exact List.mem_cons_self
          · exact List.mem_cons_of_mem first (ih List.mem_cons_self kept)
        · exact List.mem_cons_of_mem first (ih (List.mem_cons_of_mem front later) inside)

/-- Whatever the text, a client requests plain segments only. -/
theorem requested_plain (text : List Char) {segment : Segment} (member : segment ∈ requested text) :
    Plain segment := by
  rcases mem_normalizePath _ [] member with absent | ⟨split, notHere, notParent⟩
  · cases absent
  · refine ⟨not_mem_of_mem_splitOn _ split, ?_, notHere, notParent⟩
    intro character inside
    have kept := List.mem_takeWhile_imp (mem_of_mem_splitOn _ split inside)
    simpa using kept

/-- The client requests exactly the rendered segments when and only when all of them are plain. -/
theorem requested_render_iff (segments : List Segment) (some : segments ≠ []) :
    requested (render segments) = segments ↔ ∀ segment ∈ segments, Plain segment := by
  constructor
  · intro same segment member
    rw [← same] at member
    exact requested_plain _ member
  · intro plain
    have whole : pathPart (render segments) = render segments := by
      refine List.takeWhile_eq_self_iff.mpr fun character inside => ?_
      rcases mem_render inside with slash | ⟨segment, member, found⟩
      · rw [slash]
        decide
      · rw [(plain segment member).noEnd character found]
        rfl
    have split : (render segments).splitOn '/' = segments :=
      List.splitOn_intercalate '/' (fun segment member => (plain segment member).noSlash) some
    rw [requested, whole, split, normalizePath_of_plain _ _ fun segment member =>
      ⟨(plain segment member).notHere, (plain segment member).notParent⟩, List.nil_append]
end P3Portal.Foundation.UriPath
