import Mathlib.Data.Bool.AllAny
import P3Portal.Construction.Automation.ZipExtraction

namespace P3Portal.Automation.ZipExtraction
open Foundation PosixPath ZipSafety
open UriPath (Segment)

/-- The name without the difference between the slashes. -/
def slashed (text : List Char) : List Char := text.map fun c => if c = Char.ofNat 92 then '/' else c

/-- The name starts at the root of a file system or of a drive. -/
def StartsAtRoot (text : List Char) : Prop :=
  isAbsolute (slashed text) = true ∨ ∃ letter rest, text = letter :: ':' :: rest ∧ letter.isAlpha = true

/-- The name has a parent among its segments, with or without backslashes for slashes. -/
def Climbs (text : List Char) : Prop := ['.', '.'] ∈ text.splitOn '/' ∨ ['.', '.'] ∈ (slashed text).splitOn '/'

def Dangerous (name : String) : Prop := StartsAtRoot name.toList ∨ Climbs name.toList

section Segments

/-- A segment stands between slashes or the ends of the text. -/
structure Stands (segment text before behind : List Char) : Prop where
  whole : text = before ++ segment ++ behind
  left : before = [] ∨ before.getLast? = some '/'
  right : behind = [] ∨ behind.head? = some '/'

theorem mem_splitOn_of_stands {segment text before behind : List Char} (noSlash : '/' ∉ segment)
    (stands : Stands segment text before behind) : segment ∈ text.splitOn '/' := by
  have later : segment ∈ (segment ++ behind).splitOn '/' := by
    rcases stands.right with rfl | slash
    · rw [List.append_nil, List.splitOn_eq_singleton noSlash]
      exact List.mem_singleton_self segment
    · obtain ⟨rest, rfl⟩ := List.head?_eq_some_iff.mp slash
      rw [List.splitOn_append_cons_self, List.splitOn_eq_singleton noSlash]
      exact List.mem_append_left _ (List.mem_singleton_self segment)
  rw [stands.whole, List.append_assoc]
  rcases stands.left with rfl | slash
  · exact later
  · obtain ⟨front, rfl⟩ := List.getLast?_eq_some_iff.mp slash
    rw [List.append_assoc, List.singleton_append, List.splitOn_append_cons_self]
    exact List.mem_append_right _ later

theorem stands_of_mem_splitOn {text segment : List Char} (member : segment ∈ text.splitOn '/') :
    ∃ before behind, Stands segment text before behind := by
  obtain ⟨front, rest, parts⟩ := List.append_of_mem member
  have whole := UriPath.render_splitOn text
  have behind : ∃ behind, UriPath.render (segment :: rest) = segment ++ behind ∧ (behind = [] ∨ behind.head? = some '/') := by
    by_cases last : rest = []
    · rw [last, UriPath.render_singleton]
      exact ⟨[], (List.append_nil _).symm, .inl rfl⟩
    · rw [UriPath.render_cons segment rest last]
      exact ⟨_, rfl, .inr rfl⟩
  obtain ⟨behind, later, right⟩ := behind
  rw [parts] at whole
  by_cases first : front = []
  · rw [first, List.nil_append, later] at whole
    exact ⟨[], behind, whole.symm, .inl rfl, right⟩
  · rw [UriPath.render_append front _ first (List.cons_ne_nil _ _), later] at whole
    refine ⟨UriPath.render front ++ ['/'], behind, ?_, .inr (by simp), right⟩
    rw [← whole]
    simp

end Segments

section Reading
variable {text segment before behind : List Char}

/-- White space in front of a segment leaves the segment alone. -/
theorem Stands.dropWhile (plain : ∀ c ∈ segment, Text.isSpace c = false) (present : segment ≠ [])
    (stands : Stands segment text before behind) :
    ∃ front, Stands segment (text.dropWhile Text.isSpace) front behind := by
  obtain ⟨whole, left, right⟩ := stands
  rcases left with rfl | slash
  · refine ⟨[], ?_, .inl rfl, right⟩
    obtain ⟨c, others, rfl⟩ := List.exists_cons_of_ne_nil present
    rw [whole, List.nil_append, List.cons_append,
      List.dropWhile_cons_of_neg (Bool.eq_false_iff.mp (plain c List.mem_cons_self))]
  · obtain ⟨front, rfl⟩ := List.getLast?_eq_some_iff.mp slash
    have stops : (front ++ ['/']).dropWhile Text.isSpace = front.dropWhile Text.isSpace ++ ['/'] := by
      rw [List.dropWhile_append]
      split
      · rename_i empty
        rw [List.isEmpty_iff.mp empty]
        rfl
      · rfl
    refine ⟨front.dropWhile Text.isSpace ++ ['/'], ?_, .inr (by simp), right⟩
    rw [whole, List.append_assoc, List.dropWhile_append, stops]
    simp

theorem Stands.reverse (stands : Stands segment text before behind) :
    Stands segment.reverse text.reverse behind.reverse before.reverse where
  whole := by
    rw [stands.whole]
    simp
  left := by
    rw [List.reverse_eq_nil_iff, List.getLast?_reverse]
    exact stands.right
  right := by
    rw [List.reverse_eq_nil_iff, List.head?_reverse]
    exact stands.left

theorem Stands.rdropWhile (plain : ∀ c ∈ segment, Text.isSpace c = false) (present : segment ≠ [])
    (stands : Stands segment text before behind) :
    ∃ rest, Stands segment (text.rdropWhile Text.isSpace) before rest := by
  have backwards : ∀ c ∈ segment.reverse, Text.isSpace c = false := fun c member => plain c (List.mem_reverse.mp member)
  obtain ⟨rest, kept⟩ := stands.reverse.dropWhile backwards (mt List.reverse_eq_nil_iff.mp present)
  have turned := kept.reverse
  rw [List.reverse_reverse, List.reverse_reverse] at turned
  exact ⟨rest.reverse, turned⟩

theorem slashed_append (first second : List Char) : slashed (first ++ second) = slashed first ++ slashed second :=
  List.map_append

theorem isSpace_slashed : (Text.isSpace ∘ fun c => if c = Char.ofNat 92 then '/' else c) = Text.isSpace := by
  funext c
  by_cases backslash : c = Char.ofNat 92
  · rw [backslash]
    decide
  · rw [Function.comp_apply, if_neg backslash]

theorem slashed_dropWhile (text : List Char) : slashed (text.dropWhile Text.isSpace) = (slashed text).dropWhile Text.isSpace := by
  unfold slashed
  rw [List.dropWhile_map, isSpace_slashed]

theorem slashed_rdropWhile (text : List Char) :
    slashed (text.rdropWhile Text.isSpace) = (slashed text).rdropWhile Text.isSpace := by
  have turned := congrArg List.reverse (slashed_dropWhile text.reverse)
  unfold slashed at turned ⊢
  unfold List.rdropWhile
  rw [List.map_reverse, turned, List.map_reverse]

/-- A parent is found with slashes when it is found without them. -/
theorem climbs_slashed {text : List Char} (climbs : Climbs text) : ['.', '.'] ∈ (slashed text).splitOn '/' := by
  rcases climbs with plain | found
  · obtain ⟨before, behind, stands⟩ := stands_of_mem_splitOn plain
    have kept : Stands ['.', '.'] (slashed text) (slashed before) (slashed behind) := by
      refine ⟨?_, ?_, ?_⟩
      · rw [stands.whole, slashed_append, slashed_append]
        rfl
      · rcases stands.left with rfl | slash
        · exact .inl rfl
        · obtain ⟨front, rfl⟩ := List.getLast?_eq_some_iff.mp slash
          rw [slashed_append]
          exact .inr (by simp [slashed])
      · rcases stands.right with rfl | slash
        · exact .inl rfl
        · obtain ⟨rest, rfl⟩ := List.head?_eq_some_iff.mp slash
          exact .inr rfl
    exact mem_splitOn_of_stands (by decide) kept
  · exact found

/-- Stripping does not take a parent away. -/
theorem climbs_strip {text : List Char} (climbs : Climbs text) :
    ['.', '.'] ∈ (slashed ((text.dropWhile Text.isSpace).rdropWhile Text.isSpace)).splitOn '/' := by
  obtain ⟨before, behind, stands⟩ := stands_of_mem_splitOn (climbs_slashed climbs)
  have dots : ∀ c ∈ ['.', '.'], Text.isSpace c = false := List.all_iff_forall_prop.mp (by decide)
  obtain ⟨front, first⟩ := stands.dropWhile dots (List.cons_ne_nil _ _)
  obtain ⟨rest, last⟩ := first.rdropWhile dots (List.cons_ne_nil _ _)
  rw [slashed_rdropWhile, slashed_dropWhile]
  exact mem_splitOn_of_stands (by decide) last

end Reading

section Checks
variable {Content : Type} (system : System Content)

theorem pathParts_eq (text : String) :
    PlaybookFiles.pathParts text = (segments text.toList).map String.ofList := by
  have same : (fun part : String => part ≠ "" && part ≠ ".") ∘ String.ofList = counts := by
    funext segment
    have empty : String.ofList segment = "" ↔ segment = [] := @String.ofList_inj segment []
    have dot : String.ofList segment = "." ↔ segment = ['.'] := String.ofList_inj
    simp [counts, empty, dot]
  unfold PlaybookFiles.pathParts segments
  rw [List.filter_map, same]

/-- The check of the components passes no parent and no drive letter. -/
theorem components_safe {platform : Platform} {components : List String}
    (safe : (componentsAreSafe platform components).1 = true) {component : String} (member : component ∈ components) :
    component ≠ ".." ∧ hasDriveLetter platform component = false := by
  induction components with
  | nil => cases member
  | cons first rest ih =>
      rw [componentsAreSafe] at safe
      split at safe
      · cases safe
      · rename_i parent
        split at safe
        · cases safe
        · split at safe
          · cases safe
          · rename_i drive
            rcases List.mem_cons.mp member with rfl | later
            · exact ⟨parent, Bool.eq_false_iff.mpr drive⟩
            · exact ih safe later

/-- What the check of a name finds out. -/
theorem name_safe {platform : Platform} {name : String} (safe : (pathComponentsAreSafe platform name).1 = true) :
    Text.strip name ≠ "" ∧ Text.startsWith "/" (Text.slashes (Text.strip name)) = false ∧
      (componentsAreSafe platform (PlaybookFiles.pathParts (Text.slashes (Text.strip name)))).1 = true := by
  unfold pathComponentsAreSafe at safe
  dsimp only at safe
  split at safe
  · cases safe
  · rename_i present
    split at safe
    · cases safe
    · rename_i relative
      exact ⟨present, Bool.eq_false_iff.mpr relative, safe⟩

theorem rdropWhile_cons {c : Char} (plain : Text.isSpace c = false) (rest : List Char) :
    (c :: rest).rdropWhile Text.isSpace = c :: rest.rdropWhile Text.isSpace := by
  have kept : [c].dropWhile Text.isSpace = [c] := List.dropWhile_cons_of_neg (Bool.eq_false_iff.mp plain)
  unfold List.rdropWhile
  rw [List.reverse_cons, List.dropWhile_append, kept]
  split
  · rename_i empty
    rw [List.isEmpty_iff.mp empty]
    rfl
  · rw [List.reverse_append]
    rfl

/-- A character that is no white space stays at the start. -/
theorem strip_cons {c : Char} (plain : Text.isSpace c = false) {name : String} {rest : List Char}
    (starts : name.toList = c :: rest) : (Text.strip name).toList = c :: rest.rdropWhile Text.isSpace := by
  unfold Text.strip
  rw [String.toList_ofList, starts, List.dropWhile_cons_of_neg (Bool.eq_false_iff.mp plain), rdropWhile_cons plain]

theorem slashes_toList (text : String) : (Text.slashes text).toList = slashed text.toList := by
  unfold Text.slashes
  rw [String.toList_ofList]
  rfl

theorem letter_plain {letter : Char} (alpha : letter.isAlpha = true) :
    Text.isSpace letter = false ∧ letter ≠ Char.ofNat 92 ∧ letter ≠ '/' := by
  have range : 65 ≤ letter.toNat ∧ letter.toNat ≤ 90 ∨ 97 ≤ letter.toNat ∧ letter.toNat ≤ 122 := by
    rcases Bool.or_eq_true_iff.mp alpha with upper | lower
    · exact .inl (of_decide_eq_true upper)
    · have both : letter.val ≥ 'a'.val ∧ letter.val ≤ 'z'.val := by
        have split := Bool.and_eq_true_iff.mp lower
        exact ⟨of_decide_eq_true split.1, of_decide_eq_true split.2⟩
      exact .inr both
  refine ⟨?_, ?_, ?_⟩
  · simp only [Text.isSpace, List.mem_cons, List.not_mem_nil, or_false]
    simp only [Bool.or_eq_false_iff, Bool.and_eq_false_iff, decide_eq_false_iff_not]
    omega
  · rintro rfl
    revert range
    decide
  · rintro rfl
    revert range
    decide

theorem rooted_char {c : Char} (slash : (if c = Char.ofNat 92 then '/' else c) = '/') : Text.isSpace c = false := by
  split at slash
  · rename_i backslash
    rw [backslash]
    decide
  · rw [slash]
    decide

/-- A name that passes the check is not dangerous. -/
theorem not_dangerous_of_safe {name : String} (safe : (pathComponentsAreSafe system.platform name).1 = true) :
    ¬ Dangerous name := by
  obtain ⟨present, relative, components⟩ := name_safe safe
  rintro ((rooted | ⟨letter, rest, starts, alpha⟩) | climbs)
  · obtain ⟨rest, starts⟩ := List.head?_eq_some_iff.mp (of_decide_eq_true rooted)
    obtain ⟨c, others, text, slash, -⟩ := List.map_eq_cons_iff.mp starts
    have found : Text.startsWith "/" (Text.slashes (Text.strip name)) = true := by
      unfold Text.startsWith
      rw [slashes_toList, strip_cons (rooted_char slash) text]
      show ['/'].isPrefixOf ((if c = Char.ofNat 92 then '/' else c) :: slashed _) = true
      rw [slash]
      rfl
    rw [found] at relative
    cases relative
  · obtain ⟨plain, other, noSlash⟩ := letter_plain alpha
    obtain ⟨behind, cleaned⟩ : ∃ behind, (Text.strip name).toList = letter :: ':' :: behind := by
      rw [strip_cons plain starts, rdropWhile_cons (by decide)]
      exact ⟨_, rfl⟩
    obtain ⟨segment, tail, whole, listed⟩ : ∃ segment tail, segment = letter :: ':' :: tail ∧
        segment ∈ (slashed (Text.strip name).toList).splitOn '/' := by
      have same : slashed (Text.strip name).toList = [letter, ':'] ++ slashed behind := by
        rw [cleaned]
        show (if letter = Char.ofNat 92 then '/' else letter) :: ':' :: slashed behind = _
        rw [if_neg other]
        rfl
      refine ⟨_, (slashed behind).takeWhile (· ≠ '/'), rfl, ?_⟩
      have free : '/' ∉ letter :: ':' :: (slashed behind).takeWhile (· ≠ '/') := by
        simp only [List.mem_cons, not_or]
        refine ⟨noSlash.symm, by decide, ?_⟩
        intro member
        have passed := List.mem_takeWhile_imp member
        simp at passed
      have stands : Stands (letter :: ':' :: (slashed behind).takeWhile (· ≠ '/')) (slashed (Text.strip name).toList) []
          ((slashed behind).dropWhile (· ≠ '/')) := by
        refine ⟨?_, .inl rfl, ?_⟩
        · rw [same]
          simp
        · cases rest : (slashed behind).dropWhile (· ≠ '/') with
          | nil => exact .inl rfl
          | cons c others =>
              have occurs : (slashed behind).dropWhile (· ≠ '/') ≠ [] := by
                rw [rest]
                exact List.cons_ne_nil _ _
              have stops := List.head_dropWhile_not (· ≠ '/') occurs
              simp only [rest, List.head_cons, decide_eq_false_iff_not, not_not] at stops
              exact .inr (congrArg some stops)
      exact mem_splitOn_of_stands free stands
    have member : String.ofList segment ∈ PlaybookFiles.pathParts (Text.slashes (Text.strip name)) := by
      rw [pathParts_eq, slashes_toList]
      apply List.mem_map_of_mem
      refine List.mem_filter.mpr ⟨listed, counts_iff.mpr ?_⟩
      rw [whole]
      simp
    have drive := (components_safe components member).2
    unfold hasDriveLetter at drive
    rw [String.toList_ofList, whole] at drive
    exact absurd (system.ascii letter alpha) (Bool.eq_false_iff.mp drive)
  · have parent := climbs_strip climbs
    have listed : String.ofList ['.', '.'] ∈ PlaybookFiles.pathParts (Text.slashes (Text.strip name)) := by
      rw [pathParts_eq, slashes_toList]
      apply List.mem_map_of_mem
      refine List.mem_filter.mpr ⟨?_, by decide⟩
      unfold Text.strip
      rw [String.toList_ofList]
      exact parent
    exact (components_safe components listed).1 (by decide)

end Checks
end P3Portal.Automation.ZipExtraction
