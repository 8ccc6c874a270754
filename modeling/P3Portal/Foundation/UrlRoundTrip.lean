import Mathlib.Data.Bool.AllAny
import Mathlib.Data.List.TakeWhile
import P3Portal.Foundation.PythonUrl

namespace P3Portal.Foundation.PythonUrl
open IpAddress

section Dividing
variable {separator : Char} {text before after : List Char}

theorem divide_append (free : separator ∉ before) (after : List Char) :
    divide separator (before ++ separator :: after) = (before, some after) := by
  have passes : ∀ c ∈ before, decide (c ≠ separator) = true := by
    intro c member
    exact decide_eq_true fun same => free (same ▸ member)
  unfold divide
  rw [List.dropWhile_append_of_pos passes, List.takeWhile_append_of_pos passes]
  simp

theorem divide_absent (free : separator ∉ text) : divide separator text = (text, none) := by
  have passes : ∀ c ∈ text, decide (c ≠ separator) = true := by
    intro c member
    exact decide_eq_true fun same => free (same ▸ member)
  unfold divide
  rw [List.dropWhile_eq_nil_iff.mpr passes]

/-- A text lacks the separator, or it is divided at the first one. -/
theorem divide_cases (separator : Char) (text : List Char) :
    (separator ∉ text ∧ divide separator text = (text, none)) ∨
      ∃ before after, text = before ++ separator :: after ∧ separator ∉ before ∧
        divide separator text = (before, some after) := by
  by_cases member : separator ∈ text
  · obtain ⟨before, after, same, first⟩ := List.eq_append_cons_of_mem member
    refine .inr ⟨before, after, same, first, ?_⟩
    rw [same]
    exact divide_append first after
  · exact .inl ⟨member, divide_absent member⟩

theorem divide_fst_free (separator : Char) (text : List Char) : separator ∉ (divide separator text).1 := by
  rcases divide_cases separator text with ⟨free, same⟩ | ⟨before, after, _, free, same⟩
  · rw [same]
    exact free
  · rw [same]
    exact free

theorem divide_fst_prefix (separator : Char) (text : List Char) : (divide separator text).1 <+: text := by
  rcases divide_cases separator text with ⟨_, same⟩ | ⟨before, after, whole, _, same⟩
  · have whole : (divide separator text).1 = text := by rw [same]
    exact whole.symm ▸ List.prefix_refl text
  · rw [same, whole]
    exact List.prefix_append before _

theorem divide_snd_subset (separator : Char) (text : List Char) : ((divide separator text).2).getD [] ⊆ text := by
  rcases divide_cases separator text with ⟨_, same⟩ | ⟨before, after, whole, _, same⟩
  · rw [same]
    exact List.nil_subset text
  · rw [same, whole]
    exact fun c member => List.mem_append_right _ (List.mem_cons_of_mem _ member)

end Dividing

section Params
variable {front last path params : List Char}

/-- The text up to the last slash. -/
def EndsSegment (front : List Char) : Prop := front = [] ∨ front.getLast? = some '/'

theorem lastSegment_append (ends : EndsSegment front) (inner : '/' ∉ last) :
    ((front ++ last).reverse.takeWhile (· ≠ '/')).reverse = last := by
  have passes : ∀ c ∈ last.reverse, decide (c ≠ '/') = true := by
    intro c member
    exact decide_eq_true fun same => inner (same ▸ List.mem_reverse.mp member)
  rw [List.reverse_append, List.takeWhile_append_of_pos passes]
  rcases ends with rfl | slash
  · simp
  · obtain ⟨before, rfl⟩ := List.getLast?_eq_some_iff.mp slash
    simp

theorem exists_lastSegment (path : List Char) : ∃ front last, path = front ++ last ∧ EndsSegment front ∧ '/' ∉ last := by
  induction path with
  | nil => exact ⟨[], [], rfl, .inl rfl, List.not_mem_nil⟩
  | cons c rest ih =>
      obtain ⟨front, last, rfl, ends, inner⟩ := ih
      by_cases slash : c = '/'
      · refine ⟨c :: front, last, rfl, .inr ?_, inner⟩
        rcases ends with rfl | slashed
        · exact congrArg some slash
        · cases front with
          | nil => exact congrArg some slash
          | cons other others => exact slashed
      · rcases ends with rfl | slashed
        · refine ⟨[], c :: last, rfl, .inl rfl, ?_⟩
          intro member
          rcases List.mem_cons.mp member with same | later
          · exact slash same.symm
          · exact inner later
        · refine ⟨c :: front, last, rfl, .inr ?_, inner⟩
          cases front with
          | nil => cases slashed
          | cons other others => exact slashed

theorem splitParams_plain (ends : EndsSegment front) (inner : '/' ∉ last) (unmarked : ';' ∉ last) :
    splitParams (front ++ last) = (front ++ last, []) := by
  unfold splitParams
  dsimp only
  rw [lastSegment_append ends inner, divide_absent unmarked]

theorem splitParams_marked (ends : EndsSegment front) (inner : '/' ∉ last) (unmarked : ';' ∉ last)
    (flat : '/' ∉ params) : splitParams (front ++ last ++ ';' :: params) = (front ++ last, params) := by
  have whole : '/' ∉ last ++ ';' :: params := by
    rw [List.mem_append, List.mem_cons]
    rintro (here | mark | there)
    · exact inner here
    · cases mark
    · exact flat there
  have size : (front ++ (last ++ ';' :: params)).length - (last ++ ';' :: params).length = front.length := by
    rw [List.length_append]
    omega
  unfold splitParams
  dsimp only
  rw [List.append_assoc, lastSegment_append ends whole, divide_append unmarked, size, List.take_left]

/-- The parameters are taken from the last segment. -/
theorem splitParams_cases (path : List Char) : ∃ front last params, splitParams path = (front ++ last, params) ∧
    EndsSegment front ∧ '/' ∉ last ∧ ';' ∉ last ∧ '/' ∉ params ∧
      (params = [] ∧ path = front ++ last ∨ path = front ++ last ++ ';' :: params) := by
  obtain ⟨front, last, rfl, ends, inner⟩ := exists_lastSegment path
  rcases divide_cases ';' last with ⟨unmarked, _⟩ | ⟨before, after, rfl, unmarked, _⟩
  · exact ⟨front, last, [], splitParams_plain ends inner unmarked, ends, inner, unmarked, List.not_mem_nil, .inl ⟨rfl, rfl⟩⟩
  · obtain ⟨left, right⟩ := not_or.mp (mt List.mem_append.mpr inner)
    have flat : '/' ∉ after := fun member => right (List.mem_cons_of_mem _ member)
    refine ⟨front, before, after, ?_, ends, left, unmarked, flat, .inr (List.append_assoc _ _ _).symm⟩
    rw [← List.append_assoc]
    exact splitParams_marked ends left unmarked flat

end Params

section Splitting

def isControl (c : Char) : Bool := c = '\t' || c = '\r' || c = '\n'

/-- The path, the query and the fragment of a URL as the library takes them apart. -/
structure WellSplit (parsed : ParseResult) : Prop where
  path_start : parsed.path = [] ∧ parsed.params = [] ∨ parsed.path.head? = some '/'
  path_marks : '?' ∉ parsed.path ∧ '#' ∉ parsed.path
  path_last : ∃ front last, parsed.path = front ++ last ∧ EndsSegment front ∧ '/' ∉ last ∧ ';' ∉ last
  params_marks : '?' ∉ parsed.params ∧ '#' ∉ parsed.params ∧ '/' ∉ parsed.params
  query_marks : '#' ∉ parsed.query
  plain : ∀ c ∈ parsed.path ++ parsed.params ++ parsed.query ++ parsed.fragment, isControl c = false

/-- What `urlparse` makes of the text behind the authority. -/
def assemble (scheme netloc rest : List Char) : ParseResult :=
  let (rest, fragment) := divide '#' rest
  let (path, query) := divide '?' rest
  let (path, params) := if String.ofList scheme ∈ usesParams then splitParams path else (path, [])
  ⟨scheme, netloc, path, params, query.getD [], fragment.getD []⟩

theorem urlparse_eq_ok {checkNetloc : List Char → Except String Unit} {url : List Char} {parsed : ParseResult} :
    urlparse checkNetloc url = .ok parsed ↔
      ((splitNetloc (splitScheme (cleaned url)).2).1.contains '[' =
          (splitNetloc (splitScheme (cleaned url)).2).1.contains ']' ∧
        checkNetloc (splitNetloc (splitScheme (cleaned url)).2).1 = .ok ()) ∧
      parsed = assemble (splitScheme (cleaned url)).1 (splitNetloc (splitScheme (cleaned url)).2).1
        (splitNetloc (splitScheme (cleaned url)).2).2 := by
  unfold urlparse
  generalize splitScheme (cleaned url) = parts
  obtain ⟨scheme, rest⟩ := parts
  dsimp only
  generalize splitNetloc rest = parts
  obtain ⟨netloc, rest⟩ := parts
  dsimp only
  generalize netloc.contains '[' = opens
  generalize netloc.contains ']' = closes
  by_cases matching : opens = closes
  · rw [matching, bne_self_eq_false]
    cases checkNetloc netloc with
    | error message => simp [Bind.bind, Except.bind]
    | ok _ => simp [Bind.bind, Except.bind, pure, Except.pure, assemble, eq_comm]
  · have different : (opens != closes) = true := bne_iff_ne.mpr matching
    rw [different]
    simp [Bind.bind, Except.bind, throw, throwThe, MonadExceptOf.throw, matching]

/-- An authority ends where a path, a query or a fragment starts. -/
theorem splitNetloc_after {url : List Char} (present : (splitNetloc url).1 ≠ []) : AfterNetloc (splitNetloc url).2 := by
  unfold splitNetloc at present ⊢
  split at present
  · rename_i rest
    intro c head
    have stops := List.head?_dropWhile_not (fun c => !endsNetloc c) rest
    rw [head] at stops
    simpa using stops
  · exact absurd rfl present

theorem splitNetloc_subset (url : List Char) : (splitNetloc url).2 ⊆ url := by
  unfold splitNetloc
  split
  · rename_i rest
    intro c member
    exact List.mem_cons_of_mem _ (List.mem_cons_of_mem _ ((List.dropWhile_suffix _).subset member))
  · exact List.Subset.refl url

theorem splitScheme_subset (url : List Char) : (splitScheme url).2 ⊆ url := by
  unfold splitScheme
  rcases divide_cases ':' url with ⟨_, same⟩ | ⟨before, after, whole, _, same⟩
  · rw [same]
    exact List.Subset.refl url
  · rw [same]
    dsimp only
    split
    · rw [whole]
      intro c member
      exact List.mem_append_right _ (List.mem_cons_of_mem _ member)
    · exact List.Subset.refl url

theorem cleaned_plain {url : List Char} {c : Char} (member : c ∈ cleaned url) : isControl c = false := by
  have kept := (List.mem_filter.mp member).2
  simp only [ne_eq, Bool.and_eq_true, decide_eq_true_eq] at kept
  simp [isControl, kept]

/-- What is assembled behind an authority is well split. -/
theorem wellSplit_assemble {scheme netloc rest : List Char} (known : String.ofList scheme ∈ usesParams)
    (after : AfterNetloc rest) (plain : ∀ c ∈ rest, isControl c = false) : WellSplit (assemble scheme netloc rest) := by
  obtain ⟨front, last, params, split, ends, inner, unmarked, flat, whole⟩ :=
    splitParams_cases (divide '?' (divide '#' rest).1).1
  have same : assemble scheme netloc rest = ⟨scheme, netloc, front ++ last, params,
      ((divide '?' (divide '#' rest).1).2).getD [], ((divide '#' rest).2).getD []⟩ := by
    unfold assemble
    dsimp only
    rw [if_pos known, split]
  have body_free := divide_fst_free '#' rest
  have body_start := divide_fst_prefix '#' rest
  have path_free := divide_fst_free '?' (divide '#' rest).1
  have path_start := divide_fst_prefix '?' (divide '#' rest).1
  have query_part := divide_snd_subset '?' (divide '#' rest).1
  have fragment_part := divide_snd_subset '#' rest
  have whole_path : ∀ c ∈ front ++ last ++ params, c ∈ (divide '?' (divide '#' rest).1).1 := by
    intro c member
    rcases whole with ⟨none, path⟩ | path
    · rw [none, List.append_nil] at member
      rwa [path]
    · rw [path, List.mem_append, List.mem_cons]
      rcases List.mem_append.mp member with left | right
      · exact .inl left
      · exact .inr (.inr right)
  have marks : ∀ c ∈ front ++ last ++ params, c ≠ '?' ∧ c ≠ '#' := by
    intro c member
    have inside := whole_path c member
    exact ⟨fun mark => path_free (mark ▸ inside), fun mark => body_free (mark ▸ path_start.subset inside)⟩
  have front_marks : ∀ c ∈ front ++ last, c ≠ '?' ∧ c ≠ '#' := fun c member => marks c (List.mem_append_left _ member)
  have params_marks : ∀ c ∈ params, c ≠ '?' ∧ c ≠ '#' := fun c member => marks c (List.mem_append_right _ member)
  rw [same]
  refine ⟨?_, ⟨fun member => (front_marks _ member).1 rfl, fun member => (front_marks _ member).2 rfl⟩,
    ⟨front, last, rfl, ends, inner, unmarked⟩,
    ⟨fun member => (params_marks _ member).1 rfl, fun member => (params_marks _ member).2 rfl, flat⟩,
    fun member => body_free (query_part member), ?_⟩
  · have text_start := path_start.trans body_start
    cases path : (divide '?' (divide '#' rest).1).1 with
    | nil =>
        rw [path] at whole
        rcases whole with ⟨none, empty⟩ | impossible
        · exact .inl ⟨empty.symm, none⟩
        · exact absurd impossible.symm (List.append_ne_nil_of_right_ne_nil _ (List.cons_ne_nil _ _))
    | cons first others =>
        rw [path] at text_start path_free path_start whole
        have head : rest.head? = some first := by
          obtain ⟨behind, joined⟩ := text_start
          rw [← joined]
          rfl
        have slash : first = '/' := by
          have ending := after first head
          simp only [endsNetloc, Bool.or_eq_true, decide_eq_true_eq] at ending
          rcases ending with (slash | query) | fragment
          · exact slash
          · exact absurd List.mem_cons_self (query ▸ path_free)
          · exact absurd (path_start.subset List.mem_cons_self) (fragment ▸ body_free)
        rw [slash] at whole
        refine .inr ?_
        rcases whole with ⟨_, joined⟩ | joined
        · show (front ++ last).head? = _
          rw [← joined]
          rfl
        · show (front ++ last).head? = _
          cases begun : front ++ last with
          | nil =>
              rw [begun] at joined
              cases joined
          | cons c more =>
              rw [begun] at joined
              exact congrArg some (List.cons.inj joined).1.symm
  · intro c member
    rw [List.mem_append, List.mem_append] at member
    rcases member with (path | query) | fragment
    · exact plain c ((path_start.trans body_start).subset (whole_path c path))
    · exact plain c (body_start.subset (query_part query))
    · exact plain c (fragment_part fragment)

/-- A URL with an authority and a scheme of the web is well split. -/
theorem wellSplit_of_urlparse {checkNetloc : List Char → Except String Unit} {url : List Char} {parsed : ParseResult}
    (read : urlparse checkNetloc url = .ok parsed) (known : String.ofList parsed.scheme ∈ usesParams)
    (present : parsed.netloc ≠ []) : WellSplit parsed := by
  obtain ⟨_, same⟩ := urlparse_eq_ok.mp read
  rw [same] at known present ⊢
  apply wellSplit_assemble known (splitNetloc_after present)
  intro c member
  exact cleaned_plain (splitScheme_subset _ (splitNetloc_subset _ member))

theorem usesParams_of_web {scheme : List Char} (web : scheme = "http".toList ∨ scheme = "https".toList) :
    String.ofList scheme ∈ usesParams := by
  rcases web with rfl | rfl
  · decide
  · decide

end Splitting

section Composing
variable {parsed : ParseResult}

theorem divide_appendPart {mark : Char} {text : List Char} (free : mark ∉ text) (part : List Char) :
    (divide mark (appendPart mark text part)).1 = text ∧ ((divide mark (appendPart mark text part)).2).getD [] = part := by
  unfold appendPart
  split
  · rename_i empty
    rw [divide_absent free, empty]
    exact ⟨rfl, rfl⟩
  · rw [divide_append free]
    exact ⟨rfl, rfl⟩

theorem mem_appendPart {c mark : Char} {text part : List Char} (member : c ∈ appendPart mark text part) :
    c ∈ text ∨ c = mark ∨ c ∈ part := by
  unfold appendPart at member
  split at member
  · exact .inl member
  · rwa [List.mem_append, List.mem_cons] at member

theorem mem_rooted {c : Char} {path : List Char} (member : c ∈ rooted path) : c = '/' ∨ c ∈ path := by
  unfold rooted at member
  split at member
  · exact List.mem_cons.mp member
  · exact .inr member

theorem not_mem_appendPart {c mark : Char} {text part : List Char} (text_free : c ∉ text) (other : c ≠ mark)
    (part_free : c ∉ part) : c ∉ appendPart mark text part := by
  intro member
  rcases mem_appendPart member with inside | same | inside
  · exact text_free inside
  · exact other same
  · exact part_free inside

theorem behind_plain (split : WellSplit parsed) : ∀ c ∈ parsed.behind, isControl c = false := by
  intro c member
  have path : c ∈ parsed.path → isControl c = false := fun member => split.plain c (by simp [member])
  have params : c ∈ parsed.params → isControl c = false := fun member => split.plain c (by simp [member])
  rcases mem_appendPart member with body | mark | fragment
  · rcases mem_appendPart body with inner | mark | query
    · rcases mem_rooted inner with slash | inner
      · rw [slash]
        decide
      · split at inner
        · exact path inner
        · rcases List.mem_append.mp inner with before | behind
          · exact path before
          · rcases List.mem_cons.mp behind with mark | given
            · rw [mark]
              decide
            · exact params given
    · rw [mark]
      decide
    · exact split.plain c (by simp [query])
  · rw [mark]
    decide
  · exact split.plain c (by simp [fragment])

/-- Well-split parts are taken apart as they were put together. -/
theorem assemble_behind (split : WellSplit parsed) (known : String.ofList parsed.scheme ∈ usesParams) (netloc : List Char) :
    assemble parsed.scheme netloc parsed.behind = { parsed with netloc := netloc } := by
  obtain ⟨path, whole⟩ :
      ∃ path, path = if parsed.params = [] then parsed.path else parsed.path ++ ';' :: parsed.params := ⟨_, rfl⟩
  obtain ⟨front, last, joined, ends, inner, unmarked⟩ := split.path_last
  have start : path = [] ∨ path.head? = some '/' := by
    rw [whole]
    rcases split.path_start with ⟨empty, none⟩ | slash
    · rw [if_pos none]
      exact .inl empty
    · refine .inr ?_
      split
      · exact slash
      · cases known_path : parsed.path with
        | nil =>
            rw [known_path] at slash
            cases slash
        | cons c rest =>
            rw [known_path] at slash
            exact slash
  have kept : rooted path = path := by
    unfold rooted
    rcases start with empty | slash
    · rw [empty]
      rfl
    · rw [slash]
      simp
  have marks : ∀ c ∈ path, c = ';' ∨ c ∈ parsed.path ∨ c ∈ parsed.params := by
    intro c member
    rw [whole] at member
    split at member
    · exact .inr (.inl member)
    · rcases List.mem_append.mp member with before | behind
      · exact .inr (.inl before)
      · rcases List.mem_cons.mp behind with mark | given
        · exact .inl mark
        · exact .inr (.inr given)
  have question : '?' ∉ path := by
    intro member
    rcases marks _ member with mark | before | given
    · cases mark
    · exact split.path_marks.1 before
    · exact split.params_marks.1 given
  have hash : '#' ∉ path := by
    intro member
    rcases marks _ member with mark | before | given
    · cases mark
    · exact split.path_marks.2 before
    · exact split.params_marks.2.1 given
  have params : splitParams path = (parsed.path, parsed.params) := by
    rw [whole, joined]
    split
    · rename_i none
      rw [none]
      exact splitParams_plain ends inner unmarked
    · exact splitParams_marked ends inner unmarked split.params_marks.2.2
  have body_free : '#' ∉ appendPart '?' path parsed.query := not_mem_appendPart hash (by decide) split.query_marks
  have body := divide_appendPart body_free parsed.fragment
  have deeper := divide_appendPart question parsed.query
  unfold assemble ParseResult.behind
  rw [← whole, kept]
  dsimp only
  rw [body.1, body.2, deeper.1, deeper.2, if_pos known, params]

theorem isControl_eq_false {c : Char} (plain : isControl c = false) : (c ≠ '\t' && c ≠ '\r' && c ≠ '\n') = true := by
  simpa [isControl] using plain

/-- A URL without control characters is cleaned already. -/
theorem cleaned_eq_self {first : Char} {rest : List Char} (visible : 32 < first.toNat)
    (plain : ∀ c ∈ first :: rest, isControl c = false) : cleaned (first :: rest) = first :: rest := by
  unfold cleaned
  rw [List.dropWhile_cons_of_neg (by simpa using visible)]
  exact List.filter_eq_self.mpr fun c member => isControl_eq_false (plain c member)

theorem splitNetloc_append {netloc rest : List Char} (plain : ∀ c ∈ netloc, endsNetloc c = false)
    (after : AfterNetloc rest) : splitNetloc ('/' :: '/' :: (netloc ++ rest)) = (netloc, rest) := by
  have passes : ∀ c ∈ netloc, (!endsNetloc c) = true := by
    intro c member
    rw [plain c member]
    rfl
  have stops : rest.takeWhile (fun c => !endsNetloc c) = [] ∧ rest.dropWhile (fun c => !endsNetloc c) = rest := by
    cases rest with
    | nil => exact ⟨rfl, rfl⟩
    | cons c others => simp [after c rfl]
  show ((netloc ++ rest).takeWhile _, (netloc ++ rest).dropWhile _) = _
  rw [List.takeWhile_append_of_pos passes, List.dropWhile_append_of_pos passes, stops.1, stops.2, List.append_nil]

/-- A URL with a plain authority is read back. -/
theorem urlparse_geturl (split : WellSplit parsed) (scheme : parsed.scheme = "http".toList ∨ parsed.scheme = "https".toList)
    {netloc : List Char} (plain : ∀ c ∈ netloc, endsNetloc c = false ∧ isControl c = false)
    (brackets : netloc.contains '[' = netloc.contains ']') :
    urlparse (fun _ => .ok ()) { parsed with netloc := netloc }.geturl = .ok { parsed with netloc := netloc } := by
  have known := usesParams_of_web scheme
  have rest_plain : ∀ c ∈ '/' :: '/' :: (netloc ++ parsed.behind), isControl c = false := by
    intro c member
    simp only [List.mem_cons, List.mem_append] at member
    rcases member with slash | slash | inside | inside
    · rw [slash]
      decide
    · rw [slash]
      decide
    · exact (plain c inside).2
    · exact behind_plain split c inside
  have named : cleaned { parsed with netloc := netloc }.geturl = { parsed with netloc := netloc }.geturl ∧
      splitScheme { parsed with netloc := netloc }.geturl =
        (parsed.scheme, '/' :: '/' :: (netloc ++ parsed.behind)) := by
    rw [ParseResult.geturl_behind]
    show cleaned (parsed.scheme ++ ':' :: '/' :: '/' :: (netloc ++ parsed.behind)) = _ ∧
      splitScheme (parsed.scheme ++ ':' :: '/' :: '/' :: (netloc ++ parsed.behind)) = _
    have plain_http : ∀ c ∈ "http".toList, isControl c = false := List.all_iff_forall_prop.mp (by decide)
    have plain_https : ∀ c ∈ "https".toList, isControl c = false := List.all_iff_forall_prop.mp (by decide)
    have colon : isControl ':' = false := by decide
    unfold splitScheme
    rcases scheme with same | same
    · rw [same, divide_append (by decide)]
      have every := List.forall_mem_append.mpr ⟨plain_http, List.forall_mem_cons.mpr ⟨colon, rest_plain⟩⟩
      exact ⟨cleaned_eq_self (by decide) every, rfl⟩
    · rw [same, divide_append (by decide)]
      have every := List.forall_mem_append.mpr ⟨plain_https, List.forall_mem_cons.mpr ⟨colon, rest_plain⟩⟩
      exact ⟨cleaned_eq_self (by decide) every, rfl⟩
  rw [urlparse_eq_ok, named.1, named.2, splitNetloc_append (fun c member => (plain c member).1) parsed.behind_after]
  exact ⟨⟨brackets, rfl⟩, (assemble_behind split known netloc).symm⟩

end Composing
end P3Portal.Foundation.PythonUrl
