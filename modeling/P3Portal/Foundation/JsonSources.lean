import P3Portal.Foundation.JsonLeaves
import P3Portal.Foundation.JsonWriter

namespace P3Portal.Foundation.Json

section
variable {C : Type} [Annotated C]

/-- A character is written because of characters of a given kind, or because of none. -/
def WrittenFrom (source : C → Prop) (c : C) : Prop :=
  ∃ sources character, c = write sources character ∧ ∀ origin ∈ sources, source origin

theorem WrittenFrom.mono {first second : C → Prop} {c : C} (written : WrittenFrom first c)
    (weaker : ∀ origin, first origin → second origin) : WrittenFrom second c := by
  obtain ⟨sources, character, same, origins⟩ := written
  exact ⟨sources, character, same, fun origin member => weaker origin (origins origin member)⟩

theorem written_of_fresh {source : C → Prop} {c : C} {text : List Char} (member : c ∈ fresh text) :
    WrittenFrom source c := by
  obtain ⟨character, _, same⟩ := List.mem_map.mp member
  exact ⟨[], character, same.symm, fun origin absent => absurd absent List.not_mem_nil⟩

/-- The characters of an escape that has been read in part. -/
def Pending.sources : Pending C → List C
  | .plain => []
  | .escaped sources => sources
  | .hex _ _ sources => sources

/-- A unit comes from characters of its literal. -/
theorem decodeFrom_sources (pending : Pending C) (content : List C) :
    ∀ unit ∈ decodeFrom pending content, ∀ origin ∈ unit.2, origin ∈ pending.sources ++ content := by
  induction content generalizing pending with
  | nil =>
      intro unit absent
      cases pending <;> cases absent
  | cons c rest ih =>
      intro unit member origin inside
      have shifted : ∀ sources : List C, origin ∈ sources ++ [c] ++ rest → origin ∈ sources ++ c :: rest := by
        intro sources found
        rwa [List.append_assoc] at found
      cases pending with
      | plain =>
          unfold decodeFrom at member
          split at member
          · exact ih (.escaped [c]) unit member origin inside
          · rcases List.mem_cons.mp member with here | behind
            · rw [here] at inside
              exact List.mem_append_left rest inside
            · exact List.mem_cons_of_mem c (ih .plain unit behind origin inside)
      | escaped sources =>
          apply shifted sources
          unfold decodeFrom at member
          split at member
          · exact ih (.hex 3 0 (sources ++ [c])) unit member origin inside
          · rcases List.mem_cons.mp member with here | behind
            · rw [here] at inside
              exact List.mem_append_left rest inside
            · exact List.mem_append_right _ (ih .plain unit behind origin inside)
      | hex left number sources =>
          apply shifted sources
          cases left with
          | zero =>
              rcases List.mem_cons.mp member with here | behind
              · rw [here] at inside
                exact List.mem_append_left rest inside
              · exact List.mem_append_right _ (ih .plain unit behind origin inside)
          | succ left => exact ih (.hex left _ (sources ++ [c])) unit member origin inside

/-- The state of the reader of a literal that an escape belongs to. -/
def Pending.state : Pending C → LiteralState
  | .plain => .plain
  | .escaped _ => .escaped
  | .hex left _ _ => .hex left

theorem next_of_plain {character : Char} (slash : isBackslash character = false)
    (accepted : LiteralState.plain.next character ≠ .refused) : LiteralState.plain.next character = .plain := by
  unfold LiteralState.next at accepted ⊢
  simp only [slash, Bool.false_eq_true, if_false] at accepted ⊢
  split at accepted
  · exact absurd rfl accepted
  · rename_i fine
    exact if_neg fine

/-- The decoder goes along with the reader, and a character that is no backslash stands for itself outside of escapes. -/
theorem decodeFrom_step (pending : Pending C) (c : C) (rest : List C)
    (accepted : pending.state.next (char c) ≠ .refused) :
    ∃ units after, decodeFrom pending (c :: rest) = units ++ decodeFrom after rest ∧
      after.state = pending.state.next (char c) ∧
      (pending.state = .plain → isBackslash (char c) = false → units = [((char c).toNat, [c])]) := by
  cases pending with
  | plain =>
      cases slash : isBackslash (char c) with
      | true => exact ⟨[], .escaped [c], if_pos slash, (if_pos slash).symm, fun _ other => by cases other⟩
      | false =>
          refine ⟨[((char c).toNat, [c])], .plain, ?_, (next_of_plain slash accepted).symm, fun _ _ => rfl⟩
          show (if isBackslash (char c) then _ else _) = _
          rw [slash]
          rfl
  | escaped sources =>
      by_cases unicode : char c = 'u'
      · refine ⟨[], .hex 3 0 (sources ++ [c]), if_pos unicode, (if_pos unicode).symm, fun plain => ?_⟩
        cases plain
      · refine ⟨[((simpleEscape (char c)).getD 0, sources ++ [c])], .plain, if_neg unicode, ?_, fun plain => ?_⟩
        · have accepted : (if char c = 'u' then LiteralState.hex 3
            else if (simpleEscape (char c)).isSome then .plain else .refused) ≠ .refused := accepted
          show _ = if char c = 'u' then LiteralState.hex 3
            else if (simpleEscape (char c)).isSome then .plain else .refused
          rw [if_neg unicode] at accepted ⊢
          split at accepted
          · rename_i simple
            exact (if_pos simple).symm
          · cases accepted rfl
        · cases plain
  | hex left unit sources =>
      have digit : (hexValue (char c)).isNone = false := by
        by_contra refused
        exact accepted (if_pos ((Bool.not_eq_false _).mp refused))
      cases left with
      | zero =>
          refine ⟨[(16 * unit + (hexValue (char c)).getD 0, sources ++ [c])], .plain, rfl, ?_, fun plain => ?_⟩
          · show _ = if (hexValue (char c)).isNone then LiteralState.refused else .plain
            rw [digit]
            rfl
          · cases plain
      | succ left =>
          refine ⟨[], .hex left (16 * unit + (hexValue (char c)).getD 0) (sources ++ [c]), rfl, ?_, fun plain => ?_⟩
          · show _ = if (hexValue (char c)).isNone then LiteralState.refused else .hex left
            rw [digit]
            rfl
          · cases plain

/-- A sign that no escape accepts stands for itself. -/
theorem sign_decoded {sign : Char} (other : isEscapeLetter sign = false) (slash : isBackslash sign = false)
    (pending : Pending C) {content : List C} (closed : pending.state.read content = .plain) {c : C}
    (member : c ∈ content) (same : char c = sign) : sign.toNat ∈ (decodeFrom pending content).map Prod.fst := by
  induction content generalizing pending with
  | nil => cases member
  | cons head rest ih =>
      have accepted := next_of_closed closed
      obtain ⟨units, after, decoded, state, itself⟩ := decodeFrom_step pending head rest accepted
      rw [decoded, List.map_append]
      rcases List.mem_cons.mp member with here | behind
      · rw [← here, same] at accepted itself
        have known := itself (plain_of_next accepted other) slash
        apply List.mem_append_left
        rw [known]
        exact List.mem_cons_self
      · apply List.mem_append_right
        apply ih after _ behind
        rw [state]
        exact closed

omit [Annotated C] in
/-- Only surrogates are joined. -/
theorem mem_joinPairs {number : Nat} (high : isHigh number = false) (low : isLow number = false)
    {units : List (Nat × List C)} (member : number ∈ units.map Prod.fst) : number ∈ (joinPairs units).map Prod.fst := by
  fun_induction joinPairs units with
  | case1 first second rest pair ih =>
      rw [Bool.and_eq_true] at pair
      rcases List.mem_cons.mp member with here | behind
      · rw [here, pair.1] at high
        cases high
      · rcases List.mem_cons.mp behind with here | behind
        · rw [here, pair.2] at low
          cases low
        · exact List.mem_cons_of_mem _ (ih behind)
  | case2 first second rest other ih =>
      rcases List.mem_cons.mp member with here | behind
      · rw [here]
        exact List.mem_cons_self
      · exact List.mem_cons_of_mem _ (ih behind)
  | case3 units => exact member

omit [Annotated C] in
theorem joinPairs_sources (content : List C) (units : List (Nat × List C))
    (known : ∀ unit ∈ units, ∀ origin ∈ unit.2, origin ∈ content) :
    ∀ unit ∈ joinPairs units, ∀ origin ∈ unit.2, origin ∈ content := by
  fun_induction joinPairs units with
  | case1 high low rest pair ih =>
      have first := known high List.mem_cons_self
      have second := known low (List.mem_cons_of_mem _ List.mem_cons_self)
      have later := ih fun unit member => known unit (List.mem_cons_of_mem _ (List.mem_cons_of_mem _ member))
      have both : ∀ origin ∈ high.2 ++ low.2, origin ∈ content := List.forall_mem_append.mpr ⟨first, second⟩
      exact List.forall_mem_cons.mpr ⟨both, later⟩
  | case2 high low rest other ih =>
      have first := known high List.mem_cons_self
      have later := ih fun unit member => known unit (List.mem_cons_of_mem _ member)
      exact List.forall_mem_cons.mpr ⟨first, later⟩
  | case3 units => exact known

theorem decode_sources (content : List C) : ∀ unit ∈ decode content, ∀ origin ∈ unit.2, origin ∈ content :=
  joinPairs_sources content _ (decodeFrom_sources .plain content)

theorem dumpsLiteral_written (content : List C) : ∀ c ∈ dumpsLiteral content, WrittenFrom (· ∈ content) c := by
  have quote : ∀ c ∈ (fresh [Char.ofNat 34] : List C), WrittenFrom (· ∈ content) c :=
    fun c member => written_of_fresh member
  intro c member
  have member : c ∈ fresh [Char.ofNat 34] ++ (decode content).flatMap
      (fun unit => (escapeUnit unit.1).map (write unit.2)) ++ fresh [Char.ofNat 34] := member
  rw [List.mem_append, List.mem_append, List.mem_flatMap] at member
  rcases member with (opens | ⟨unit, listed, inside⟩) | closes
  · exact quote c opens
  · obtain ⟨character, _, same⟩ := List.mem_map.mp inside
    exact ⟨unit.2, character, same.symm, decode_sources content unit listed⟩
  · exact quote c closes

section Numbers
variable (numberText : List Char → List Char)

theorem mem_dumpsItems {items : List (Document C)} {c : C} (member : c ∈ dumpsItems numberText items) :
    (∃ item ∈ items, c ∈ dumps numberText item) ∨ c ∈ fresh [',', ' '] := by
  induction items with
  | nil => cases member
  | cons item rest ih =>
      have member : c ∈ dumps numberText item ++ (if rest.isEmpty then [] else fresh [',', ' ']) ++
        dumpsItems numberText rest := member
      rw [List.mem_append, List.mem_append] at member
      rcases member with (here | between) | behind
      · exact .inl ⟨item, List.mem_cons_self, here⟩
      · split at between
        · cases between
        · exact .inr between
      · rcases ih behind with ⟨other, listed, inside⟩ | between
        · exact .inl ⟨other, List.mem_cons_of_mem _ listed, inside⟩
        · exact .inr between

theorem mem_dumpsMembers {members : List (List C × Document C)} {c : C}
    (member : c ∈ dumpsMembers numberText members) :
    (∃ entry ∈ members, c ∈ dumpsLiteral entry.1 ∨ c ∈ dumps numberText entry.2) ∨ c ∈ fresh [':', ',', ' '] := by
  have signs : ∀ {signs : List Char}, signs ⊆ [':', ',', ' '] → c ∈ fresh signs → c ∈ fresh [':', ',', ' '] := by
    intro signs listed inside
    obtain ⟨sign, found, same⟩ := List.mem_map.mp inside
    exact List.mem_map.mpr ⟨sign, listed found, same⟩
  induction members with
  | nil => cases member
  | cons entry rest ih =>
      have member : c ∈ dumpsLiteral entry.1 ++ fresh [':', ' '] ++ dumps numberText entry.2 ++
        (if rest.isEmpty then [] else fresh [',', ' ']) ++ dumpsMembers numberText rest := member
      simp only [List.mem_append] at member
      rcases member with (((key | colon) | value) | between) | behind
      · exact .inl ⟨entry, List.mem_cons_self, .inl key⟩
      · exact .inr (signs (by decide) colon)
      · exact .inl ⟨entry, List.mem_cons_self, .inr value⟩
      · split at between
        · cases between
        · exact .inr (signs (by decide) between)
      · rcases ih behind with ⟨other, listed, inside⟩ | sign
        · exact .inl ⟨other, List.mem_cons_of_mem _ listed, inside⟩
        · exact .inr sign

/-- A document is written because of its own characters. -/
theorem dumps_written (document : Document C) :
    ∀ c ∈ dumps numberText document, WrittenFrom (· ∈ document.chars) c := by
  induction document using Document.induct with
  | atom text =>
      intro c member
      obtain ⟨character, _, same⟩ := List.mem_map.mp member
      exact ⟨text, character, same.symm, by simp⟩
  | literal content =>
      intro c member
      exact (dumpsLiteral_written content c member).mono (by simp)
  | array items ih =>
      intro c member
      have member : c ∈ fresh ['['] ++ dumpsItems numberText items ++ fresh [']'] := member
      rw [List.mem_append, List.mem_append] at member
      rcases member with (opens | inside) | closes
      · exact written_of_fresh opens
      · rcases mem_dumpsItems numberText inside with ⟨item, listed, found⟩ | between
        · apply (ih item listed c found).mono
          intro origin known
          rw [Document.chars_array]
          exact List.mem_flatMap.mpr ⟨item, listed, known⟩
        · exact written_of_fresh between
      · exact written_of_fresh closes
  | object members ih =>
      intro c member
      have member : c ∈ fresh [Char.ofNat 123] ++ dumpsMembers numberText members ++ fresh [Char.ofNat 125] := member
      rw [List.mem_append, List.mem_append] at member
      rcases member with (opens | inside) | closes
      · exact written_of_fresh opens
      · rcases mem_dumpsMembers numberText inside with ⟨entry, listed, found⟩ | sign
        · have known : ∀ origin, origin ∈ entry.1 ∨ origin ∈ entry.2.chars →
              origin ∈ (Document.object members).chars := by
            intro origin found
            rw [Document.chars_object]
            exact List.mem_flatMap.mpr ⟨entry, listed, List.mem_append.mpr found⟩
          rcases found with key | value
          · exact (dumpsLiteral_written entry.1 c key).mono fun origin found => known origin (.inl found)
          · exact (ih entry listed c value).mono fun origin found => known origin (.inr found)
        · exact written_of_fresh sign
      · exact written_of_fresh closes

end Numbers
end

section
variable {C D : Type} [Annotated C] [Annotated D]

/-- Notes are dropped without a change of the characters. -/
structure Erases (erase : C → D) : Prop where
  char_same : ∀ c, char (erase c) = char c
  write_same : ∀ sources character, erase (write sources character) = write (sources.map erase) character

theorem erases_char : Erases (char : C → Char) where
  char_same _ := rfl
  write_same := Annotated.char_write

variable {erase : C → D}

theorem map_char_erase (erases : Erases erase) (text : List C) : (text.map erase).map char = text.map char := by
  rw [List.map_map]
  exact List.map_congr_left fun c _ => erases.char_same c

theorem isAtom_erase (erases : Erases erase) (text : List C) : isAtom (text.map erase) = isAtom text := by
  unfold isAtom
  rw [map_char_erase erases]

section Lexer

def Mode.map (erase : C → D) : Mode C → Mode D
  | .outside => .outside
  | .literal content state => .literal (content.map erase) state
  | .atom text => .atom (text.map erase)

/-- A token or a document without its notes. -/
def Token.erased (erase : C → D) (token : Token C) : Token D := token.map (List.map erase) (List.map erase)

def Document.erased (erase : C → D) (document : Document C) : Document D :=
  document.map (List.map erase) (List.map erase)

theorem lexOutside_erase (erases : Erases erase) (c : C) :
    lexOutside (erase c) = ((lexOutside c).1.map (Token.erased erase), (lexOutside c).2.map erase) := by
  unfold lexOutside
  rw [erases.char_same]
  split
  · rfl
  · split
    · rfl
    · split
      · rfl
      · rfl

theorem lexStep_erase (erases : Erases erase) (mode : Mode C) (c : C) :
    lexStep (mode.map erase) (erase c) =
      ((lexStep mode c).1.map (Token.erased erase), (lexStep mode c).2.map erase) := by
  cases mode with
  | outside => exact lexOutside_erase erases c
  | literal content state =>
      unfold lexStep Mode.map
      simp only [erases.char_same]
      split
      · rfl
      · simp [List.map_append]
  | atom text =>
      unfold lexStep Mode.map
      simp only [erases.char_same, lexOutside_erase erases]
      split
      · rfl
      · simp [List.map_append]

theorem lex_erase (erases : Erases erase) (mode : Mode C) (text : List C) :
    lex (mode.map erase) (text.map erase) = (lex mode text).map (List.map (Token.erased erase)) := by
  induction text generalizing mode with
  | nil => cases mode <;> rfl
  | cons c rest ih =>
      rw [List.map_cons, lex_cons, lex_cons, lexStep_erase erases, ih, Option.map_map, Option.map_map]
      congr 1
      funext tokens
      exact (List.map_append).symm

/-- A text is read as the same document with and without its notes. -/
theorem readDocument_erase (erases : Erases erase) (text : List C) :
    readDocument (text.map erase) = (readDocument text).map (Document.erased erase) := by
  have cut := lex_erase erases .outside text
  unfold readDocument
  rw [show lex .outside (text.map erase) = _ from cut]
  cases lex .outside text with
  | none => rfl
  | some tokens => exact parse_map (isAtom_erase erases) (.value []) tokens

end Lexer

section Decoder

def Pending.map (erase : C → D) : Pending C → Pending D
  | .plain => .plain
  | .escaped sources => .escaped (sources.map erase)
  | .hex left unit sources => .hex left unit (sources.map erase)

/-- A unit without the notes of its characters. -/
def erasedUnit (erase : C → D) (unit : Nat × List C) : Nat × List D := (unit.1, unit.2.map erase)

theorem decodeFrom_erase (erases : Erases erase) (pending : Pending C) (content : List C) :
    decodeFrom (pending.map erase) (content.map erase) = (decodeFrom pending content).map (erasedUnit erase) := by
  induction content generalizing pending with
  | nil => cases pending <;> rfl
  | cons c rest ih =>
      have grows : ∀ sources : List C, sources.map erase ++ [erase c] = (sources ++ [c]).map erase :=
        fun sources => (@List.map_append _ _ erase sources [c]).symm
      cases pending with
      | plain =>
          have later := ih .plain
          have escape := ih (.escaped [c])
          unfold Pending.map at later escape ⊢
          rw [List.map_cons, decodeFrom, decodeFrom, erases.char_same]
          split
          · exact escape
          · rw [later]
            rfl
      | escaped sources =>
          have later := ih .plain
          have unicode := ih (.hex 3 0 (sources ++ [c]))
          unfold Pending.map at later unicode ⊢
          rw [List.map_cons, decodeFrom, decodeFrom, erases.char_same, grows]
          split
          · exact unicode
          · rw [later]
            rfl
      | hex left unit sources =>
          cases left with
          | zero =>
              have later := ih .plain
              unfold Pending.map at later ⊢
              rw [List.map_cons, decodeFrom, decodeFrom, erases.char_same, grows, later]
              rfl
          | succ left =>
              have later := ih (.hex left (16 * unit + (hexValue (char c)).getD 0) (sources ++ [c]))
              unfold Pending.map at later ⊢
              rw [List.map_cons, decodeFrom, decodeFrom, erases.char_same, grows, later]

omit [Annotated C] [Annotated D] in
theorem joinPairs_erase (units : List (Nat × List C)) :
    joinPairs (units.map (erasedUnit erase)) = (joinPairs units).map (erasedUnit erase) := by
  fun_induction joinPairs units with
  | case1 high low rest pair ih =>
      have joins : joinPairs (erasedUnit erase high :: erasedUnit erase low :: rest.map (erasedUnit erase)) =
          (0x10000 + 1024 * (high.1 - 0xd800) + (low.1 - 0xdc00), high.2.map erase ++ low.2.map erase) ::
            joinPairs (rest.map (erasedUnit erase)) := if_pos pair
      rw [List.map_cons, List.map_cons, joins, ih, ← List.map_append]
      rfl
  | case2 high low rest other ih =>
      have stays : joinPairs (erasedUnit erase high :: erasedUnit erase low :: rest.map (erasedUnit erase)) =
          erasedUnit erase high :: joinPairs ((low :: rest).map (erasedUnit erase)) := if_neg other
      rw [List.map_cons, List.map_cons, stays, ih]
      rfl
  | case3 units short =>
      cases units with
      | nil => rfl
      | cons first rest =>
          cases rest with
          | nil => rfl
          | cons second rest => exact absurd rfl (short first second rest)

theorem decode_erase (erases : Erases erase) (content : List C) :
    decode (content.map erase) = (decode content).map (erasedUnit erase) := by
  unfold decode
  rw [← joinPairs_erase]
  exact congrArg joinPairs (decodeFrom_erase erases .plain content)

theorem spelled_erase (erases : Erases erase) (content : List C) : spelled (content.map erase) = spelled content := by
  unfold spelled
  rw [decode_erase erases, List.map_map]
  rfl

/-- A member without its notes. -/
def erasedMember (erase : C → D) (member : List C × Document C) : List D × Document D :=
  (member.1.map erase, member.2.erased erase)

theorem addMember_erase (erases : Erases erase) (members : List (List C × Document C))
    (member : List C × Document C) :
    addMember (members.map (erasedMember erase)) (erasedMember erase member) =
      (addMember members member).map (erasedMember erase) := by
  have names : ∀ entry : List C × Document C, spelled (erasedMember erase entry).1 = spelled entry.1 :=
    fun entry => spelled_erase erases entry.1
  unfold addMember
  rw [List.any_map, names]
  simp only [Function.comp_def, names]
  split
  · rw [List.map_map, List.map_map]
    apply List.map_congr_left
    intro stored _
    simp only [Function.comp_apply, names]
    split
    · rfl
    · rfl
  · exact (@List.map_append _ _ (erasedMember erase) members [member]).symm

theorem addMembers_erase (erases : Erases erase) (members entries : List (List C × Document C)) :
    (entries.map (erasedMember erase)).foldl addMember (members.map (erasedMember erase)) =
      (entries.foldl addMember members).map (erasedMember erase) := by
  induction entries generalizing members with
  | nil => rfl
  | cons entry rest ih =>
      rw [List.map_cons, List.foldl_cons, addMember_erase erases, ih]
      rfl

theorem dicts_erase (erases : Erases erase) (document : Document C) :
    dicts (document.erased erase) = (dicts document).erased erase := by
  induction document using Document.induct with
  | atom text => rfl
  | literal content => rfl
  | array items ih =>
      show Document.array (dictsItems (mapItems _ _ items)) = .array (mapItems _ _ (dictsItems items))
      rw [dictsItems_eq, mapItems_eq, mapItems_eq, dictsItems_eq, List.map_map, List.map_map]
      congr 1
      exact List.map_congr_left ih
  | object members ih =>
      have each : dictsMembers (mapMembers (List.map erase) (List.map erase) members) =
          (dictsMembers members).map (erasedMember erase) := by
        rw [dictsMembers_eq, mapMembers_eq, dictsMembers_eq, List.map_map, List.map_map]
        apply List.map_congr_left
        intro member listed
        exact Prod.ext rfl (ih member listed)
      show Document.object ((dictsMembers (mapMembers _ _ members)).foldl addMember []) = .object (mapMembers _ _ _)
      rw [each, mapMembers_eq]
      exact congrArg Document.object (addMembers_erase erases [] _)

end Decoder

section Output
variable (numberText : List Char → List Char)

theorem fresh_erase (erases : Erases erase) (text : List Char) : (fresh text : List C).map erase = fresh text := by
  unfold fresh
  rw [List.map_map]
  exact List.map_congr_left fun letter _ => erases.write_same [] letter

theorem written_erase (erases : Erases erase) (sources : List C) (text : List Char) :
    (text.map (write sources)).map erase = text.map (write (sources.map erase)) := by
  rw [List.map_map]
  exact List.map_congr_left fun letter _ => erases.write_same sources letter

theorem dumpsLiteral_erase (erases : Erases erase) (content : List C) :
    dumpsLiteral (content.map erase) = (dumpsLiteral content).map erase := by
  unfold dumpsLiteral
  rw [decode_erase erases, List.flatMap_map]
  simp only [List.cons_append, List.map_cons, List.map_append, List.map_flatMap, written_erase erases, erases.write_same]
  rfl

theorem dumpsItems_erase (erases : Erases erase) {items : List (Document C)}
    (each : ∀ item ∈ items, dumps numberText (item.erased erase) = (dumps numberText item).map erase) :
    dumpsItems numberText (items.map (Document.erased erase)) = (dumpsItems numberText items).map erase := by
  induction items with
  | nil => rfl
  | cons item rest ih =>
      rw [List.map_cons, dumpsItems, dumpsItems, each item List.mem_cons_self,
        ih fun item member => each item (List.mem_cons_of_mem _ member), List.map_append, List.map_append,
        List.isEmpty_map, apply_ite (List.map erase), fresh_erase erases]
      rfl

theorem dumpsMembers_erase (erases : Erases erase) {members : List (List C × Document C)}
    (each : ∀ member ∈ members, dumps numberText (member.2.erased erase) = (dumps numberText member.2).map erase) :
    dumpsMembers numberText (members.map (erasedMember erase)) = (dumpsMembers numberText members).map erase := by
  induction members with
  | nil => rfl
  | cons member rest ih =>
      have value := each member List.mem_cons_self
      have later := ih fun member listed => each member (List.mem_cons_of_mem _ listed)
      rw [List.map_cons]
      show dumpsLiteral (member.1.map erase) ++ fresh [':', ' '] ++ dumps numberText (member.2.erased erase) ++
        (if (rest.map (erasedMember erase)).isEmpty then [] else fresh [',', ' ']) ++ dumpsMembers numberText _ =
        (dumpsLiteral member.1 ++ fresh [':', ' '] ++ dumps numberText member.2 ++
          (if rest.isEmpty then [] else fresh [',', ' ']) ++ dumpsMembers numberText rest).map erase
      rw [value, later, dumpsLiteral_erase erases, List.isEmpty_map]
      simp only [List.map_append, apply_ite (List.map erase), fresh_erase erases, List.map_nil]

/-- A document is written as the same text with and without its notes. -/
theorem dumps_erase (erases : Erases erase) (document : Document C) :
    dumps numberText (document.erased erase) = (dumps numberText document).map erase := by
  induction document using Document.induct with
  | atom text =>
      show dumpsAtom numberText (text.map erase) = (dumpsAtom numberText text).map erase
      unfold dumpsAtom
      rw [map_char_erase erases, written_erase erases]
  | literal content => exact dumpsLiteral_erase erases content
  | array items ih =>
      show fresh ['['] ++ dumpsItems numberText (mapItems _ _ items) ++ fresh [']'] =
        (fresh ['['] ++ dumpsItems numberText items ++ fresh [']']).map erase
      rw [mapItems_eq, List.map_append, List.map_append, fresh_erase erases, fresh_erase erases,
        ← dumpsItems_erase numberText erases ih]
      rfl
  | object members ih =>
      show fresh [Char.ofNat 123] ++ dumpsMembers numberText (mapMembers _ _ members) ++ fresh [Char.ofNat 125] =
        (fresh [Char.ofNat 123] ++ dumpsMembers numberText members ++ fresh [Char.ofNat 125]).map erase
      rw [mapMembers_eq, List.map_append, List.map_append, fresh_erase erases, fresh_erase erases,
        ← dumpsMembers_erase numberText erases ih]
      rfl

end Output
end
end P3Portal.Foundation.Json
