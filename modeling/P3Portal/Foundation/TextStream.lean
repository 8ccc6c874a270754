import Mathlib.Data.List.Infix
import Mathlib.Tactic.Common
import P3Portal.Foundation.TextSplit

namespace P3Portal.Foundation.Utf8

/-- The bytes of a text. -/
def encode (text : List Char) : List UInt8 := text.flatMap String.utf8EncodeChar

/-- A strict decoder fails on bytes that are no text, also on a text that ends inside a character. -/
def decode (bytes : List UInt8) : Option (List Char) := bytes.toByteArray.utf8Decode?.map Array.toList

@[simp] theorem encode_nil : encode [] = [] := rfl

@[simp] theorem encode_append (first second : List Char) : encode (first ++ second) = encode first ++ encode second :=
  List.flatMap_append

@[simp] theorem decode_encode (text : List Char) : decode (encode text) = some text := by
  have bytes : (encode text).toByteArray = text.utf8Encode := rfl
  unfold decode
  rw [bytes, List.utf8Decode?_utf8Encode]
  rfl

/-- What is decoded are the bytes of a text. -/
theorem encode_of_decode {bytes : List UInt8} {text : List Char} (decoded : decode bytes = some text) :
    encode text = bytes := by
  obtain ⟨characters, found, same⟩ := Option.map_eq_some_iff.mp decoded
  have some_text : bytes.toByteArray.utf8Decode?.isSome := by
    rw [found]
    rfl
  have back := @ByteArray.utf8Encode_get_utf8Decode? bytes.toByteArray some_text
  simp only [found, Option.get_some, same] at back
  exact List.toByteArray_inj.mp back

theorem encode_inj {first second : List Char} (same : encode first = encode second) : first = second := by
  have decoded := decode_encode first
  rw [same, decode_encode] at decoded
  exact (Option.some.inj decoded).symm

/-- A text whose bytes start those of another one starts that text. -/
theorem prefix_of_encode {front text : List Char} (starts : encode front <+: encode text) : front <+: text := by
  obtain ⟨rest, whole⟩ := starts
  apply List.isPrefix_of_utf8Encode_append_eq_utf8Encode rest.toByteArray
  have joined := congrArg List.toByteArray whole
  rw [List.toByteArray_append] at joined
  exact joined
end P3Portal.Foundation.Utf8

namespace P3Portal.Foundation.Text

/-- The current line is kept reversed, and only a newline ends it. -/
def fedLinesFrom (current : List Char) : List Char → List (List Char)
  | [] => if current = [] then [] else [current.reverse]
  | c :: rest => if c = '\n' then current.reverse :: fedLinesFrom [] rest else fedLinesFrom (c :: current) rest

/-- The lines of a writer that ends each line with a newline; the last one may have none. -/
def fedLines (text : List Char) : List (List Char) := fedLinesFrom [] text

/-- No character but the newline ends a line of the text. -/
def OnlyFeeds (text : List Char) : Prop := ∀ c ∈ text, isLineBreak c = true → c = '\n'

/-- A text is closed when nothing is left of a line at its end. -/
def Closed (text : List Char) : Prop := text = [] ∨ text.getLast? = some '\n'

instance (text : List Char) : Decidable (Closed text) := inferInstanceAs (Decidable (_ ∨ _))

/-- The number of lines that a text begins but does not end. -/
def unclosed (text : List Char) : Nat := if Closed text then 0 else 1

section Feeds
variable {text front rest : List Char}

theorem OnlyFeeds.no_return (feeds : OnlyFeeds text) : '\r' ∉ text := by
  intro member
  have same := feeds _ member (by decide)
  revert same
  decide

theorem OnlyFeeds.mono (feeds : OnlyFeeds text) (subset : front ⊆ text) : OnlyFeeds front :=
  fun c member => feeds c (subset member)

/-- The lines of `str.splitlines` are those of the writer. -/
theorem splitlinesFrom_feeds (feeds : OnlyFeeds text) (current : List Char) :
    (splitlinesFrom current text).map String.toList = fedLinesFrom current text := by
  induction text generalizing current with
  | nil =>
      rw [splitlinesFrom, fedLinesFrom]
      split
      · rfl
      · simp
  | cons c rest ih =>
      have later := ih fun other member => feeds other (List.mem_cons_of_mem c member)
      have other : c ≠ '\r' := fun same => feeds.no_return (same ▸ List.mem_cons_self)
      rw [splitlinesFrom.eq_3 _ _ _ (fun _ same _ => other same), fedLinesFrom]
      by_cases feed : c = '\n'
      · rw [feed, if_pos (by decide), if_pos rfl, List.map_cons, later, String.toList_ofList]
      · rw [if_neg fun broken => feed (feeds c List.mem_cons_self broken), if_neg feed, later]

theorem linesOf_feeds (feeds : OnlyFeeds text) : linesOf text = fedLines text := splitlinesFrom_feeds feeds []

/-- Behind a closed text, the lines start anew. -/
theorem fedLinesFrom_append (current : List Char) (closed : front.getLast? = some '\n') (rest : List Char) :
    fedLinesFrom current (front ++ rest) = fedLinesFrom current front ++ fedLines rest := by
  induction front generalizing current with
  | nil => cases closed
  | cons c front ih =>
      rw [List.cons_append, fedLinesFrom, fedLinesFrom]
      cases front with
      | nil =>
          have feed : c = '\n' := Option.some.inj closed
          rw [if_pos feed, if_pos feed]
          rfl
      | cons next front =>
          have closed : (next :: front).getLast? = some '\n' := by
            rw [← closed, List.getLast?_cons_cons]
          split
          · rw [ih _ closed]
            rfl
          · exact ih _ closed

theorem fedLines_append (closed : Closed front) (rest : List Char) :
    fedLines (front ++ rest) = fedLines front ++ fedLines rest := by
  rcases closed with rfl | closed
  · rfl
  · exact fedLinesFrom_append [] closed rest

/-- The text that ends each line with a newline. -/
def unlines (lines : List (List Char)) : List Char := lines.flatMap (· ++ ['\n'])

theorem unlines_append (first second : List (List Char)) : unlines (first ++ second) = unlines first ++ unlines second :=
  List.flatMap_append

theorem fedLines_line {line : List Char} (single : '\n' ∉ line) (rest : List Char) :
    fedLines (line ++ '\n' :: rest) = line :: fedLines rest := by
  have whole : ∀ current, fedLinesFrom current (line ++ '\n' :: rest) = (current.reverse ++ line) :: fedLines rest := by
    induction line with
    | nil =>
        intro current
        rw [List.nil_append, fedLinesFrom, if_pos rfl, List.append_nil]
        rfl
    | cons c line ih =>
        intro current
        obtain ⟨other, later⟩ := List.ne_and_not_mem_of_not_mem_cons single
        rw [List.cons_append, fedLinesFrom, if_neg other.symm, ih later, List.reverse_cons, List.append_assoc]
        rfl
  exact whole []

/-- The lines of a text are those that it was written from. -/
theorem fedLines_unlines {lines : List (List Char)} (single : ∀ line ∈ lines, '\n' ∉ line) (rest : List Char) :
    fedLines (unlines lines ++ rest) = lines ++ fedLines rest := by
  induction lines with
  | nil => rfl
  | cons line lines ih =>
      have later := ih fun other member => single other (List.mem_cons_of_mem line member)
      have parts : unlines (line :: lines) ++ rest = line ++ '\n' :: (unlines lines ++ rest) := by
        rw [unlines, List.flatMap_cons, List.append_assoc, List.append_assoc]
        rfl
      rw [parts, fedLines_line (single line List.mem_cons_self), later]
      rfl

/-- Every character but the newlines stands in a line. -/
theorem mem_fedLinesFrom {c : Char} (current : List Char) (member : c ∈ current ∨ c ∈ text) (other : c ≠ '\n') :
    ∃ line ∈ fedLinesFrom current text, c ∈ line := by
  induction text generalizing current with
  | nil =>
      have here : c ∈ current := member.resolve_right List.not_mem_nil
      rw [fedLinesFrom, if_neg (List.ne_nil_of_mem here)]
      exact ⟨_, List.mem_cons_self, List.mem_reverse.mpr here⟩
  | cons d rest ih =>
      rw [fedLinesFrom]
      split
      · rename_i feed
        rcases member with here | there
        · exact ⟨_, List.mem_cons_self, List.mem_reverse.mpr here⟩
        · have later : c ∈ rest := (List.mem_cons.mp there).resolve_left fun same => other (same.trans feed)
          obtain ⟨line, listed, inside⟩ := ih [] (.inr later)
          exact ⟨line, List.mem_cons_of_mem _ listed, inside⟩
      · apply ih (d :: current)
        rcases member with here | there
        · exact .inl (List.mem_cons_of_mem d here)
        · rcases List.mem_cons.mp there with rfl | later
          · exact .inl List.mem_cons_self
          · exact .inr later

/-- A text has only newlines when each of its lines is one line for `str.splitlines`. -/
theorem onlyFeeds_of_lines (one : ∀ line ∈ fedLines text, OneLine line) : OnlyFeeds text := by
  intro c member broken
  by_contra other
  obtain ⟨line, listed, inside⟩ := mem_fedLinesFrom [] (.inr member) other
  have plain := one line listed c inside
  rw [broken] at plain
  cases plain

theorem closed_append (more : rest ≠ []) (front : List Char) : Closed (front ++ rest) ↔ Closed rest := by
  have last : (front ++ rest).getLast? = rest.getLast? := List.getLast?_append_of_ne_nil _ more
  have longer : front ++ rest ≠ [] := List.append_ne_nil_of_right_ne_nil _ more
  unfold Closed
  rw [last, or_iff_right longer, or_iff_right more]

theorem unclosed_append (more : rest ≠ []) (front : List Char) : unclosed (front ++ rest) = unclosed rest := by
  unfold unclosed
  simp only [closed_append more]

/-- The lines are the newlines and the line that is not ended. -/
theorem length_fedLinesFrom (current text : List Char) :
    (fedLinesFrom current text).length = text.count '\n' + if current = [] then unclosed text else
      if text = [] then 1 else unclosed text := by
  induction text generalizing current with
  | nil =>
      rw [fedLinesFrom]
      split
      · rfl
      · simp
  | cons c rest ih =>
      have tail : rest ≠ [] → unclosed (c :: rest) = unclosed rest := fun more => unclosed_append more [c]
      rw [fedLinesFrom]
      split
      · rename_i feed
        rw [List.length_cons, ih, if_pos rfl, feed, List.count_cons_self]
        cases rest with
        | nil => simp [unclosed, Closed]
        | cons next rest =>
            rw [feed] at tail
            rw [tail (List.cons_ne_nil _ _)]
            simp
            omega
      · rename_i other
        rw [ih, List.count_cons_of_ne other]
        cases rest with
        | nil => simp [unclosed, Closed, other]
        | cons next rest =>
            rw [tail (List.cons_ne_nil _ _)]
            simp

theorem length_fedLines (text : List Char) : (fedLines text).length = text.count '\n' + unclosed text := by
  rw [fedLines, length_fedLinesFrom, if_pos rfl]

end Feeds
end P3Portal.Foundation.Text
