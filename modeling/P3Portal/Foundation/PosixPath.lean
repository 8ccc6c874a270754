import Mathlib.Data.List.DropRight
import P3Portal.Foundation.UriPath

namespace P3Portal.Foundation.PosixPath
open UriPath

/-- `os.path.isabs`. -/
def isAbsolute (path : List Char) : Bool := path.head? = some '/'

/-- `os.path.join` of two paths. -/
def joinPath (base path : List Char) : List Char :=
  if isAbsolute path then path
  else if base = [] ∨ base.getLast? = some '/' then base ++ path
  else base ++ '/' :: path

/-- A component of a path follows the ones before it; a parent takes the last of them away. -/
def addComponent (rooted : Bool) (done : List Segment) (component : Segment) : List Segment :=
  if component = [] ∨ component = ['.'] then done
  else if component ≠ ['.', '.'] ∨ (rooted = false ∧ done = []) ∨ done.getLast? = some ['.', '.'] then
    done ++ [component]
  else done.dropLast

/-- Two leading slashes are kept, and three count as one. -/
def leadingSlashes : List Char → List Char
  | '/' :: '/' :: '/' :: _ => ['/']
  | '/' :: '/' :: _ => ['/', '/']
  | '/' :: _ => ['/']
  | _ => []

/-- `os.path.normpath`. -/
def normpath (path : List Char) : List Char :=
  let start := leadingSlashes path
  let whole := start ++ render ((path.splitOn '/').foldl (addComponent (start ≠ [])) [])
  if whole = [] then ['.'] else whole

/-- Empty components and dots say nothing. -/
def counts (component : Segment) : Bool := component ≠ [] && component ≠ ['.']

def segments (path : List Char) : List Segment := (path.splitOn '/').filter counts

def commonStart : List Segment → List Segment → List Segment
  | first :: firsts, second :: seconds => if first = second then first :: commonStart firsts seconds else []
  | _, _ => []

/-- `os.path.commonpath` of two paths, which raises for an absolute and a relative one. -/
def commonpath (first second : List Char) : Option (List Char) :=
  if isAbsolute first ≠ isAbsolute second then none
  else some ((if isAbsolute first then ['/'] else []) ++ render (commonStart (segments first) (segments second)))

/-- `os.path.dirname`. -/
def dirname (path : List Char) : List Char :=
  let head := path.rdropWhile (· ≠ '/')
  if head.all (· = '/') then head else head.rdropWhile (· = '/')

/-- The name of a directory entry. -/
structure Proper (segment : Segment) : Prop where
  present : segment ≠ []
  notHere : segment ≠ ['.']
  notParent : segment ≠ ['.', '.']
  noSlash : '/' ∉ segment

/-- The normal form of an absolute path. -/
def absolute (path : List Segment) : List Char := '/' :: render path

theorem counts_iff {component : Segment} : counts component = true ↔ component ≠ [] ∧ component ≠ ['.'] := by
  simp [counts]

section Segments
variable {path : List Segment} {text : List Char}

theorem proper_of_segment {segment : Segment} (member : segment ∈ segments text) (notParent : segment ≠ ['.', '.']) :
    Proper segment := by
  obtain ⟨split, kept⟩ := List.mem_filter.mp member
  obtain ⟨present, notHere⟩ := counts_iff.mp kept
  exact ⟨present, notHere, notParent, not_mem_of_mem_splitOn text split⟩

theorem filter_proper (proper : ∀ segment ∈ path, Proper segment) : path.filter counts = path := by
  apply List.filter_eq_self.mpr
  intro segment member
  exact counts_iff.mpr ⟨(proper segment member).present, (proper segment member).notHere⟩

theorem splitOn_rendered {first : Segment} {rest : List Segment} (noSlash : ∀ segment ∈ first :: rest, '/' ∉ segment) :
    (render (first :: rest)).splitOn '/' = first :: rest :=
  List.splitOn_intercalate '/' noSlash (List.cons_ne_nil _ _)

@[simp] theorem isAbsolute_absolute (path : List Segment) : isAbsolute (absolute path) = true := rfl

@[simp] theorem segments_absolute (proper : ∀ segment ∈ path, Proper segment) : segments (absolute path) = path := by
  by_cases root : path = []
  · rw [root]
    decide
  · have rendered : absolute path = render ([] :: path) := by
      rw [render_cons [] path root]
      rfl
    have noSlash : ∀ segment ∈ [] :: path, '/' ∉ segment :=
      List.forall_mem_cons.mpr ⟨List.not_mem_nil, fun segment member => (proper segment member).noSlash⟩
    unfold segments
    rw [rendered, splitOn_rendered noSlash, List.filter_cons_of_neg (by decide), filter_proper proper]

end Segments

section Normal
variable {base path : List Segment} {text : List Char}

/-- Without a parent among them all components are kept. -/
theorem foldl_addComponent {components : List Segment} (climbs : ['.', '.'] ∉ components) (done : List Segment) :
    components.foldl (addComponent true) done = done ++ components.filter counts := by
  induction components generalizing done with
  | nil => exact (List.append_nil done).symm
  | cons component rest ih =>
      obtain ⟨other, later⟩ := not_or.mp (mt List.mem_cons.mpr climbs)
      rw [List.foldl_cons, ih later]
      unfold addComponent
      cases kept : counts component with
      | false =>
          have silent : component = [] ∨ component = ['.'] := by
            by_contra other
            rw [counts_iff.mpr (not_or.mp other)] at kept
            cases kept
          rw [if_pos silent, List.filter_cons_of_neg (Bool.eq_false_iff.mp kept)]
      | true =>
          rw [if_neg (not_or.mpr (counts_iff.mp kept)), if_pos (.inl (Ne.symm other)), List.filter_cons_of_pos kept,
            List.append_assoc]
          rfl

theorem leadingSlashes_single {rest : List Char} (other : rest.head? ≠ some '/') : leadingSlashes ('/' :: rest) = ['/'] := by
  cases rest with
  | nil => rfl
  | cons c rest =>
      have apart : c ≠ '/' := fun same => other (congrArg some same)
      unfold leadingSlashes
      split
      · rfl
      · rename_i same
        exact absurd (List.cons.inj (List.cons.inj same).2).1 apart
      · rfl
      · rename_i impossible
        exact absurd rfl (impossible _)

theorem head_render (proper : ∀ segment ∈ path, Proper segment) : (render path).head? ≠ some '/' := by
  cases path with
  | nil => simp [render, List.intercalate]
  | cons segment rest =>
      have named := proper segment List.mem_cons_self
      obtain ⟨c, others, same⟩ := List.exists_cons_of_ne_nil named.present
      have apart : c ≠ '/' := by
        rintro rfl
        exact named.noSlash (same ▸ List.mem_cons_self)
      by_cases last : rest = []
      · rw [last, render_singleton, same]
        exact fun found => apart (Option.some.inj found)
      · rw [render_cons segment rest last, same]
        exact fun found => apart (Option.some.inj found)

theorem absolute_concat (front : List Segment) (segment : Segment) :
    absolute (front ++ [segment]) = (if front = [] then ['/'] else absolute front ++ ['/']) ++ segment := by
  by_cases alone : front = []
  · rw [if_pos alone, alone]
    unfold absolute
    rw [List.nil_append, render_singleton]
    rfl
  · rw [if_neg alone]
    unfold absolute
    rw [render_append front [segment] alone (List.cons_ne_nil _ _), render_singleton]
    simp

theorem last_absolute (proper : ∀ segment ∈ path, Proper segment) (below : path ≠ []) :
    (absolute path).getLast? ≠ some '/' := by
  obtain ⟨front, segment, rfl⟩ := (List.eq_nil_or_concat' path).resolve_left below
  have named := proper segment (by simp)
  rw [absolute_concat, List.getLast?_append_of_ne_nil _ named.present]
  intro found
  exact named.noSlash (List.mem_of_getLast? found)

theorem joins_below (proper : ∀ segment ∈ path, Proper segment) (below : path ≠ []) :
    ¬ (absolute path = [] ∨ (absolute path).getLast? = some '/') :=
  not_or.mpr ⟨List.cons_ne_nil _ _, last_absolute proper below⟩

/-- A joined path has the components of both. -/
theorem splitOn_joinPath (proper : ∀ segment ∈ base, Proper segment) (relative : isAbsolute text = false) :
    (joinPath (absolute base) text).splitOn '/' = [] :: (base ++ text.splitOn '/') := by
  have joined : joinPath (absolute base) text = render ([] :: (base ++ text.splitOn '/')) := by
    have more := List.splitOn_ne_nil '/' text
    rw [render_cons [] _ (List.append_ne_nil_of_right_ne_nil base more), List.nil_append]
    unfold joinPath
    rw [if_neg (Bool.eq_false_iff.mp relative)]
    by_cases root : base = []
    · rw [root, List.nil_append, render_splitOn]
      rfl
    · rw [if_neg (joins_below proper root), render_append base _ root more,
        render_splitOn]
      rfl
  rw [joined]
  apply splitOn_rendered
  intro segment member
  simp only [List.mem_cons, List.mem_append] at member
  rcases member with rfl | inside | inside
  · exact List.not_mem_nil
  · exact (proper segment inside).noSlash
  · exact not_mem_of_mem_splitOn text inside

theorem leadingSlashes_joinPath (proper : ∀ segment ∈ base, Proper segment) (relative : isAbsolute text = false) :
    leadingSlashes (joinPath (absolute base) text) = ['/'] := by
  unfold joinPath
  rw [if_neg (Bool.eq_false_iff.mp relative)]
  by_cases root : base = []
  · rw [root]
    apply leadingSlashes_single
    exact of_decide_eq_false relative
  · rw [if_neg (joins_below proper root)]
    apply leadingSlashes_single
    have some_text : render base ≠ [] := by
      intro empty
      have shown := last_absolute proper root
      unfold absolute at shown
      rw [empty] at shown
      exact shown rfl
    show (render base ++ '/' :: text).head? ≠ some '/'
    rw [List.head?_append_of_ne_nil _ some_text]
    exact head_render proper

/-- A relative path without parents stays below its base. -/
theorem normpath_joinPath (proper : ∀ segment ∈ base, Proper segment) (relative : isAbsolute text = false)
    (climbs : ['.', '.'] ∉ text.splitOn '/') :
    normpath (joinPath (absolute base) text) = absolute (base ++ segments text) := by
  have inside : ['.', '.'] ∉ [] :: (base ++ text.splitOn '/') := by
    intro member
    simp only [List.mem_cons, List.mem_append] at member
    rcases member with empty | within | within
    · cases empty
    · exact (proper _ within).notParent rfl
    · exact climbs within
  have kept := foldl_addComponent inside []
  rw [List.nil_append, List.filter_cons_of_neg (by decide), List.filter_append, filter_proper proper] at kept
  unfold normpath
  rw [leadingSlashes_joinPath proper relative, splitOn_joinPath proper relative]
  show (if '/' :: render (List.foldl (addComponent true) [] _) = [] then _ else '/' :: render (List.foldl _ [] _)) = _
  rw [if_neg (List.cons_ne_nil _ _)]
  exact congrArg (fun parts => '/' :: render parts) kept

end Normal

section Containment
variable {base more : List Segment}

theorem commonStart_append (base more : List Segment) : commonStart base (base ++ more) = base := by
  induction base with
  | nil => rfl
  | cons segment rest ih =>
      rw [List.cons_append, commonStart, if_pos rfl, ih]

theorem commonpath_below (proper : ∀ segment ∈ base ++ more, Proper segment) :
    commonpath (absolute base) (absolute (base ++ more)) = some (absolute base) := by
  have front : ∀ segment ∈ base, Proper segment := fun segment member => proper segment (List.mem_append_left _ member)
  unfold commonpath
  rw [segments_absolute front, segments_absolute proper, commonStart_append]
  rfl

/-- What follows the last slash is dropped. -/
theorem rdropWhile_name {name : List Char} (noSlash : '/' ∉ name) (before : List Char) :
    (before ++ ['/'] ++ name).rdropWhile (· ≠ '/') = before ++ ['/'] := by
  induction name using List.reverseRecOn with
  | nil =>
      rw [List.append_nil]
      exact List.rdropWhile_concat_neg _ _ _ (by simp)
  | append_singleton front c ih =>
      obtain ⟨inner, last⟩ := not_or.mp (mt List.mem_append.mpr noSlash)
      have other : c ≠ '/' := fun same => last (List.mem_singleton.mpr same.symm)
      rw [← List.append_assoc, List.rdropWhile_concat, if_pos (decide_eq_true other)]
      exact ih inner

theorem dirname_absolute (proper : ∀ segment ∈ more, Proper segment) :
    dirname (absolute more) = absolute more.dropLast := by
  by_cases root : more = []
  · rw [root]
    decide
  · obtain ⟨front, segment, rfl⟩ := (List.eq_nil_or_concat' more).resolve_left root
    have named := proper segment (by simp)
    have below : ∀ segment ∈ front, Proper segment := fun segment member => proper segment (List.mem_append_left _ member)
    rw [absolute_concat, List.dropLast_concat]
    unfold dirname
    by_cases alone : front = []
    · have head := rdropWhile_name named.noSlash []
      rw [List.nil_append] at head
      rw [if_pos alone, head, alone]
      rfl
    · have last := last_absolute below alone
      have slashed : ¬ ((absolute front ++ ['/']).all (· = '/')) = true := by
        intro every
        rw [List.all_append, Bool.and_eq_true] at every
        have present : absolute front ≠ [] := List.cons_ne_nil _ _
        have slash := List.all_eq_true.mp every.1 _ (List.getLast_mem present)
        rw [List.getLast?_eq_getLast_of_ne_nil present, of_decide_eq_true slash] at last
        exact last rfl
      have kept : (absolute front).rdropWhile (· = '/') = absolute front := by
        apply List.rdropWhile_eq_self_iff.mpr
        intro present slash
        rw [List.getLast?_eq_getLast_of_ne_nil present, of_decide_eq_true slash] at last
        exact last rfl
      rw [if_neg alone, rdropWhile_name named.noSlash (absolute front)]
      show (if (absolute front ++ ['/']).all _ = true then _ else _) = _
      rw [if_neg slashed, List.rdropWhile_concat_pos _ _ _ (by decide), kept]

end Containment
end P3Portal.Foundation.PosixPath
