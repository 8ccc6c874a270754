import Mathlib.Data.List.Basic
import Mathlib.Data.List.Lex
import Mathlib.Data.List.Sort
import Mathlib.Data.String.Basic
import Mathlib.Tactic.Common
import P3Portal.Foundation.OrderedMap
import P3Portal.Foundation.Script

namespace P3Portal.Foundation.Glob

/-- A part of a shell pattern. -/
inductive Token where
  | any
  | one
  | charClass (negated : Bool) (ranges : List (Char × Char))
  | literal (character : Char)
  deriving DecidableEq

def Token.accepts (character : Char) : Token → Bool
  | .any => true
  | .one => true
  | .charClass negated ranges => (ranges.any fun range => range.1 ≤ character && character ≤ range.2) != negated
  | .literal expected => character = expected

/-- A hyphen between two characters makes a range. -/
def classRanges : List Char → List (Char × Char)
  | low :: '-' :: high :: rest => (low, high) :: classRanges rest
  | character :: rest => (character, character) :: classRanges rest
  | [] => []

/-- The class ends at the next bracket, which may not be its first character. -/
def closeClass (body : List Char) : Option (List Char × List Char) :=
  match body with
  | [] => none
  | first :: rest =>
      let inside := if first = ']' then first :: rest.takeWhile (· ≠ ']') else body.takeWhile (· ≠ ']')
      match (if first = ']' then rest else body).dropWhile (· ≠ ']') with
      | [] => none
      | _ :: after => some (inside, after)

/-- A bracket without an end stands for itself. -/
def openClass : List Char → Option (Token × List Char)
  | '!' :: body => (closeClass body).map fun parts => (.charClass true (classRanges parts.1), parts.2)
  | body => (closeClass body).map fun parts => (.charClass false (classRanges parts.1), parts.2)

/-- The fuel is the length of the pattern. -/
def tokens : Nat → List Char → List Token
  | 0, _ => []
  | _ + 1, [] => []
  | fuel + 1, '*' :: rest => .any :: tokens fuel rest
  | fuel + 1, '?' :: rest => .one :: tokens fuel rest
  | fuel + 1, '[' :: rest =>
      match openClass rest with
      | some (token, after) => token :: tokens fuel after
      | none => .literal '[' :: tokens fuel rest
  | fuel + 1, character :: rest => .literal character :: tokens fuel rest

/-- A star takes any part of the text. -/
def matchTokens : List Token → List Char → Bool
  | [], text => text.isEmpty
  | .any :: rest, text => text.tails.any (matchTokens rest)
  | token :: rest, text =>
      match text with
      | [] => false
      | character :: text => token.accepts character && matchTokens rest text

/-- `fnmatch.fnmatchcase`. -/
def fnmatch (pattern text : String) : Bool :=
  matchTokens (tokens pattern.toList.length pattern.toList) text.toList

def wildcards : List Char := ['*', '?', '[']

/-- A character that is no wildcard stands for itself. -/
theorem tokens_ordinary {character : Char} (ordinary : character ∉ wildcards) (fuel : Nat) (rest : List Char) :
    tokens (fuel + 1) (character :: rest) = .literal character :: tokens fuel rest := by
  simp only [wildcards, List.mem_cons, List.not_mem_nil, or_false, not_or] at ordinary
  rw [tokens]
  · exact ordinary.1
  · exact ordinary.2.1
  · exact ordinary.2.2

theorem tokens_literal {pattern : List Char} (plain : ∀ character ∈ pattern, character ∉ wildcards) {fuel : Nat}
    (enough : pattern.length ≤ fuel) : tokens fuel pattern = pattern.map Token.literal := by
  induction pattern generalizing fuel with
  | nil => cases fuel <;> rfl
  | cons first rest ih =>
      cases fuel with
      | zero => cases enough
      | succ fuel =>
          have shorter : rest.length ≤ fuel := Nat.le_of_succ_le_succ enough
          have later := ih (fun character member => plain character (List.mem_cons_of_mem first member)) shorter
          rw [tokens_ordinary (plain first List.mem_cons_self), later]
          rfl

theorem matchTokens_literal (pattern text : List Char) :
    matchTokens (pattern.map Token.literal) text = true ↔ text = pattern := by
  induction pattern generalizing text with
  | nil => cases text <;> simp [matchTokens]
  | cons first rest ih =>
      cases text with
      | nil => simp [matchTokens]
      | cons character text => simp [matchTokens, Token.accepts, ih]

/-- A pattern without wildcards matches only itself. -/
theorem fnmatch_iff_of_plain {pattern : String} (plain : ∀ character ∈ pattern.toList, character ∉ wildcards)
    (text : String) : fnmatch pattern text = true ↔ text = pattern := by
  unfold fnmatch
  rw [tokens_literal plain (Nat.le_refl _), matchTokens_literal, String.toList_inj]
end P3Portal.Foundation.Glob

namespace P3Portal.Foundation

/-- The names on the way from the root of a tree to one of its items. -/
abbrev FileTree.Path := List String

inductive FileTree.Item (Content : Type) where
  | directory
  | file (content : Content)
  deriving DecidableEq

/-- Each path below the root names at most one item. -/
abbrev FileTree (Content : Type) := OrderedMap FileTree.Path (FileTree.Item Content)

namespace FileTree

/-- The file system enumerates the results of a search in an order of its own. -/
structure Enumeration where
  order : List Path → List Path
  perm : ∀ paths, (order paths).Perm paths

/-- In this order a chosen path comes first. -/
def Enumeration.startingAt (path : Path) : Enumeration where
  order paths := if path ∈ paths then path :: paths.erase path else paths
  perm paths := by
    split
    · rename_i member
      exact (List.perm_cons_erase member).symm
    · exact List.Perm.refl paths

theorem Enumeration.head?_startingAt {path : Path} {paths : List Path} (member : path ∈ paths) :
    ((Enumeration.startingAt path).order paths).head? = some path := by
  show (if path ∈ paths then path :: paths.erase path else paths).head? = some path
  rw [if_pos member]
  rfl

theorem Enumeration.mem_order (enumeration : Enumeration) {path : Path} {paths : List Path} :
    path ∈ enumeration.order paths ↔ path ∈ paths := (enumeration.perm paths).mem_iff

section Search
variable {Content : Type}

/-- The paths below the root that a search selects. -/
def search (tree : FileTree Content) (wanted : Path → Bool) : List Path :=
  (tree.entries.map Prod.fst).filter wanted

theorem mem_search {tree : FileTree Content} {wanted : Path → Bool} {path : Path} :
    path ∈ search tree wanted ↔ (tree.get? path).isSome = true ∧ wanted path = true := by
  rw [search, List.mem_filter, OrderedMap.mem_keys_iff]

theorem search_nodup (tree : FileTree Content) (wanted : Path → Bool) : (search tree wanted).Nodup :=
  tree.keysNodup.filter wanted

/-- The whole directory is removed with all items below it. -/
def rmtree (tree : FileTree Content) (folder : Path) : FileTree Content :=
  tree.filter fun path _ => !folder.isPrefixOf path

theorem get?_rmtree (tree : FileTree Content) (folder path : Path) :
    (rmtree tree folder).get? path = if folder <+: path then none else tree.get? path := by
  unfold rmtree
  rw [OrderedMap.get?_filter]
  by_cases inside : folder <+: path
  · have removed : folder.isPrefixOf path = true := List.isPrefixOf_iff_prefix.mpr inside
    simp [inside, removed]
  · have kept : folder.isPrefixOf path = false := by
      rw [Bool.eq_false_iff]
      exact mt List.isPrefixOf_iff_prefix.mp inside
    rw [if_neg inside, kept]
    cases tree.get? path with
    | none => rfl
    | some item => rfl

theorem rmtree_set (tree : FileTree Content) {folder path : Path} (inside : folder <+: path) (item : Item Content) :
    rmtree (tree.set path item) folder = rmtree tree folder := by
  unfold rmtree
  apply OrderedMap.filter_set
  intro _
  rw [List.isPrefixOf_iff_prefix.mpr inside]
  rfl

theorem rmtree_eq_self {tree : FileTree Content} {folder : Path}
    (absent : ∀ path, folder <+: path → tree.get? path = none) : rmtree tree folder = tree := by
  unfold rmtree
  apply OrderedMap.filter_eq_self
  intro entry member
  have outside : ¬ folder <+: entry.1 := by
    intro inside
    have stored := tree.get?_of_mem member
    rw [absent entry.1 inside] at stored
    cases stored
  rw [← List.isPrefixOf_iff_prefix] at outside
  simp [outside]

/-- Trees that differ only below a folder answer the same outside of it. -/
theorem get?_of_rmtree_eq {first second : FileTree Content} {folder path : Path}
    (same : rmtree first folder = rmtree second folder) (outside : ¬ folder <+: path) :
    first.get? path = second.get? path := by
  have lookups := congrArg (fun tree => OrderedMap.get? tree path) same
  simp only [get?_rmtree, if_neg outside] at lookups
  exact lookups

/-- Each item stands in a directory. -/
def Rooted (tree : FileTree Content) : Prop :=
  ∀ entry ∈ tree.entries, entry.1 ≠ [] ∧ (entry.1.dropLast = [] ∨ tree.get? entry.1.dropLast = some .directory)

/-- Nothing stands below a directory that does not exist. -/
theorem Rooted.absent_below {tree : FileTree Content} (rooted : Rooted tree) {folder : Path} (named : folder ≠ [])
    (absent : tree.get? folder = none) {path : Path} (inside : folder <+: path) : tree.get? path = none := by
  obtain ⟨rest, rfl⟩ := inside
  induction rest using List.reverseRecOn with
  | nil => rw [List.append_nil, absent]
  | append_singleton rest name ih =>
      by_contra present
      obtain ⟨item, stored⟩ := Option.ne_none_iff_exists'.mp present
      have parent := (rooted _ ((tree.get?_eq_some_iff).mp stored)).2
      rw [← List.append_assoc, List.dropLast_concat, ih] at parent
      rcases parent with root | impossible
      · exact named (List.append_eq_nil_iff.mp root).1
      · cases impossible

end Search

section Writing
variable {Content : Type} (refuses : Path → Bool)

/-- `os.mkdir`, for which an existing directory is no failure. -/
def ensureDirectory (path : Path) : Script (FileTree Content) Unit := fun tree =>
  match tree.get? path with
  | some .directory => (.ok (), tree)
  | some (.file _) => (.error (), tree)
  | none => if refuses path then (.error (), tree) else (.ok (), tree.set path .directory)

/-- `os.makedirs` with `exist_ok` makes the missing directories from the base down. -/
def makedirs (base : Path) : Path → Script (FileTree Content) Unit
  | [] => pure ()
  | part :: rest => do
      ensureDirectory refuses (base ++ [part])
      makedirs (base ++ [part]) rest

/-- A file is opened for writing and gets this content; a directory cannot be opened. -/
def writeFile (path : Path) (content : Content) : Script (FileTree Content) Unit := fun tree =>
  match tree.get? path with
  | some .directory => (.error (), tree)
  | _ => if refuses path then (.error (), tree) else (.ok (), tree.set path (.file content))

theorem keeps_ensureDirectory {folder path : Path} (inside : folder <+: path) :
    Script.Keeps (rmtree · folder) (ensureDirectory refuses path : Script (FileTree Content) Unit) := by
  intro tree
  unfold Script.final ensureDirectory
  cases tree.get? path with
  | none =>
      cases refuses path with
      | true => rfl
      | false => exact rmtree_set tree inside .directory
  | some item => cases item <;> rfl

theorem keeps_writeFile {folder path : Path} (inside : folder <+: path) (content : Content) :
    Script.Keeps (rmtree · folder) (writeFile refuses path content) := by
  intro tree
  unfold Script.final writeFile
  split
  · rfl
  · cases refuses path with
    | true => rfl
    | false => exact rmtree_set tree inside (.file content)

theorem keeps_makedirs {folder base : Path} (inside : folder <+: base) (parts : Path) :
    Script.Keeps (rmtree · folder) (makedirs refuses base parts : Script (FileTree Content) Unit) := by
  induction parts generalizing base with
  | nil => exact Script.Keeps.pure _ ()
  | cons part rest ih =>
      have deeper : folder <+: base ++ [part] := inside.trans (List.prefix_append base [part])
      exact (keeps_ensureDirectory refuses deeper).bind fun _ => ih deeper

/-- A directory stands at this path, or it can be made there. -/
def Passable (tree : FileTree Content) (path : Path) : Prop :=
  tree.get? path = some .directory ∨ tree.get? path = none ∧ refuses path = false

theorem runsTo_ensureDirectory {tree after : FileTree Content} {path : Path} :
    Script.RunsTo (ensureDirectory refuses path) tree after ↔ Passable refuses tree path ∧
      after = if tree.get? path = none then tree.set path .directory else tree := by
  unfold Script.RunsTo ensureDirectory Passable
  cases tree.get? path with
  | none => cases refuses path <;> simp [eq_comm (a := after)]
  | some item => cases item <;> simp [eq_comm (a := after)]

theorem get?_of_ensureDirectory {tree after : FileTree Content} {path : Path}
    (done : Script.RunsTo (ensureDirectory refuses path) tree after) (query : Path) :
    after.get? query = if query = path then some .directory else tree.get? query := by
  obtain ⟨passable, same⟩ := (runsTo_ensureDirectory refuses).mp done
  by_cases absent : tree.get? path = none
  · rw [same, if_pos absent, OrderedMap.get?_set]
  · rw [same, if_neg absent]
    have stored : tree.get? path = some .directory := passable.resolve_right fun missing => absent missing.1
    split
    · rename_i here
      rw [here, stored]
    · rfl

/-- The directories that `makedirs` passes. -/
def OnTheWay (base parts path : Path) : Prop := ∃ start, start ≠ [] ∧ start <+: parts ∧ path = base ++ start

theorem onTheWay_cons {base path : Path} {part : String} {rest : Path} :
    OnTheWay base (part :: rest) path ↔ path = base ++ [part] ∨ OnTheWay (base ++ [part]) rest path := by
  unfold OnTheWay
  constructor
  · rintro ⟨start, filled, inside, same⟩
    obtain ⟨further, rfl, deeper⟩ := (List.prefix_cons_iff.mp inside).resolve_left filled
    cases further with
    | nil => exact .inl same
    | cons next later => exact .inr ⟨next :: later, List.cons_ne_nil _ _, deeper, by rw [same, List.append_cons]⟩
  · rintro (same | ⟨start, filled, inside, same⟩)
    · exact ⟨[part], List.cons_ne_nil _ _, List.prefix_cons_inj part |>.mpr (List.nil_prefix), same⟩
    · refine ⟨part :: start, List.cons_ne_nil _ _, (List.prefix_cons_inj part).mpr inside, ?_⟩
      rw [same, List.append_cons base part start]

/-- Afterwards directories stand on the whole way, and nothing else has changed. -/
theorem get?_of_makedirs {base parts : Path} {tree after : FileTree Content}
    (done : Script.RunsTo (makedirs refuses base parts) tree after) (query : Path) :
    (OnTheWay base parts query → after.get? query = some .directory) ∧
      (¬ OnTheWay base parts query → after.get? query = tree.get? query) := by
  induction parts generalizing base tree with
  | nil =>
      constructor
      · rintro ⟨start, filled, inside, -⟩
        exact absurd (List.prefix_nil.mp inside) filled
      · intro _
        rw [Script.runsTo_pure.mp done]
  | cons part rest ih =>
      obtain ⟨middle, first, later⟩ := Script.runsTo_bind.mp done
      have here := get?_of_ensureDirectory refuses first query
      obtain ⟨passed, kept⟩ := ih later
      rw [onTheWay_cons]
      by_cases deeper : OnTheWay (base ++ [part]) rest query
      · exact ⟨fun _ => passed deeper, fun outside => absurd (.inr deeper) outside⟩
      · rw [kept deeper, here]
        constructor
        · rintro (same | impossible)
          · rw [if_pos same]
          · exact absurd impossible deeper
        · intro outside
          rw [if_neg fun same => outside (.inl same)]

/-- It succeeds exactly when every directory on the way is there or can be made. -/
theorem makedirs_succeeds_iff {base parts : Path} {tree : FileTree Content} :
    (∃ after, Script.RunsTo (makedirs refuses base parts) tree after) ↔
      ∀ path, OnTheWay base parts path → Passable refuses tree path := by
  induction parts generalizing base tree with
  | nil =>
      constructor
      · rintro - path ⟨start, filled, inside, -⟩
        exact absurd (List.prefix_nil.mp inside) filled
      · intro _
        exact ⟨tree, Script.runsTo_pure.mpr rfl⟩
  | cons part rest ih =>
      -- The directory of the first part is none of the deeper ones, so their state is the old one.
      have deeper {path : Path} (inside : OnTheWay (base ++ [part]) rest path) : path ≠ base ++ [part] := by
        obtain ⟨start, filled, -, rfl⟩ := inside
        intro same
        exact filled (List.append_right_eq_self.mp same)
      have unchanged {middle : FileTree Content} {path : Path}
          (first : Script.RunsTo (ensureDirectory refuses (base ++ [part])) tree middle)
          (inside : OnTheWay (base ++ [part]) rest path) :
          Passable refuses middle path ↔ Passable refuses tree path := by
        unfold Passable
        rw [get?_of_ensureDirectory refuses first path, if_neg (deeper inside)]
      constructor
      · rintro ⟨after, done⟩ path inside
        obtain ⟨middle, first, later⟩ := Script.runsTo_bind.mp done
        rcases onTheWay_cons.mp inside with rfl | further
        · exact ((runsTo_ensureDirectory refuses).mp first).1
        · exact (unchanged first further).mp (ih.mp ⟨after, later⟩ path further)
      · intro passable
        have first := (runsTo_ensureDirectory refuses).mpr
          ⟨passable _ (onTheWay_cons.mpr (.inl rfl)), rfl⟩
        obtain ⟨after, later⟩ := ih.mpr fun path inside =>
          (unchanged first inside).mpr (passable path (onTheWay_cons.mpr (.inr inside)))
        exact ⟨after, Script.runsTo_bind.mpr ⟨_, first, later⟩⟩

theorem runsTo_writeFile {tree after : FileTree Content} {path : Path} {content : Content} :
    Script.RunsTo (writeFile refuses path content) tree after ↔
      tree.get? path ≠ some .directory ∧ refuses path = false ∧ after = tree.set path (.file content) := by
  unfold Script.RunsTo writeFile
  cases tree.get? path with
  | none => cases refuses path <;> simp [eq_comm (a := after)]
  | some item => cases item <;> cases refuses path <;> simp [eq_comm (a := after)]

end Writing

section Sorted

/-- `sorted` compares the names of two paths in turn. -/
def sorted (paths : List Path) : List Path := paths.insertionSort (· ≤ ·)

theorem mem_sorted {path : Path} {paths : List Path} : path ∈ sorted paths ↔ path ∈ paths :=
  List.mem_insertionSort _

/-- The sorted list does not depend on the enumeration. -/
theorem sorted_order (enumeration : Enumeration) (paths : List Path) :
    sorted (enumeration.order paths) = sorted paths := by
  apply List.Perm.eq_of_pairwise
  · intro first second _ _ before after
    exact le_antisymm before after
  · exact List.pairwise_insertionSort _ _
  · exact List.pairwise_insertionSort _ _
  · unfold sorted
    exact (List.perm_insertionSort _ _).trans
      ((enumeration.perm paths).trans (List.perm_insertionSort _ _).symm)

theorem sorted_increasing {paths : List Path} (distinct : paths.Nodup) : (sorted paths).Pairwise (· < ·) := by
  have ordered : (sorted paths).Pairwise (· ≤ ·) := List.pairwise_insertionSort _ _
  have different : (sorted paths).Nodup := (List.perm_insertionSort _ paths).nodup_iff.mpr distinct
  apply (ordered.and different).imp
  intro first second both
  exact lt_of_le_of_ne both.1 both.2

/-- The first hit of an increasing list is its least hit. -/
theorem find?_increasing {paths : List Path} (increasing : paths.Pairwise (· < ·)) {hit : Path → Bool}
    {path : Path} : paths.find? hit = some path ↔
      path ∈ paths ∧ hit path = true ∧ ∀ other ∈ paths, other < path → hit other = false := by
  induction paths with
  | nil => simp
  | cons first rest ih =>
      obtain ⟨least, further⟩ := List.pairwise_cons.mp increasing
      cases here : hit first with
      | true =>
          rw [List.find?_cons_of_pos here]
          constructor
          · intro found
            rw [← Option.some.inj found]
            refine ⟨List.mem_cons_self, here, ?_⟩
            intro other member smaller
            rcases List.mem_cons.mp member with same | later
            · exact absurd smaller (same ▸ lt_irrefl other)
            · exact absurd smaller (lt_asymm (least other later))
          · intro ⟨member, _, smallest⟩
            rcases List.mem_cons.mp member with same | later
            · rw [same]
            · have missed := smallest first List.mem_cons_self (least path later)
              rw [here] at missed
              cases missed
      | false =>
          rw [List.find?_cons_of_neg (Bool.eq_false_iff.mp here), ih further]
          constructor
          · intro ⟨member, there, smallest⟩
            refine ⟨List.mem_cons_of_mem first member, there, ?_⟩
            intro other inside smaller
            rcases List.mem_cons.mp inside with same | later
            · rw [same]
              exact here
            · exact smallest other later smaller
          · intro ⟨member, there, smallest⟩
            rcases List.mem_cons.mp member with same | later
            · rw [same, here] at there
              cases there
            · exact ⟨later, there, fun other inside => smallest other (List.mem_cons_of_mem first inside)⟩

end Sorted

end FileTree
end P3Portal.Foundation
