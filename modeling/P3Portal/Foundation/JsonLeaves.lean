import P3Portal.Foundation.JsonReader

namespace P3Portal.Foundation.Json

section
variable {C : Type}

def Token.isLeaf : Token C → Bool
  | .mark _ => false
  | _ => true

def Token.chars : Token C → List C
  | .mark _ => []
  | .literal content => content
  | .atom text => text

mutual

/-- The literals and the words of a document in the order of its text. -/
def Document.leaves : Document C → List (Token C)
  | .atom text => [.atom text]
  | .literal content => [.literal content]
  | .array items => leavesItems items
  | .object members => leavesMembers members

def leavesItems : List (Document C) → List (Token C)
  | [] => []
  | item :: rest => item.leaves ++ leavesItems rest

def leavesMembers : List (List C × Document C) → List (Token C)
  | [] => []
  | (key, value) :: rest => .literal key :: value.leaves ++ leavesMembers rest

end

def Document.chars (document : Document C) : List C := document.leaves.flatMap Token.chars

/-- What holds of a container when it holds of its items and of the values of its members holds of each document. -/
@[elab_as_elim]
theorem Document.induct {motive : Document C → Prop} (atom : ∀ text, motive (.atom text))
    (literal : ∀ content, motive (.literal content))
    (array : ∀ items, (∀ item ∈ items, motive item) → motive (.array items))
    (object : ∀ members, (∀ member ∈ members, motive member.2) → motive (.object members))
    (document : Document C) : motive document :=
  @Document.rec C motive (fun items => ∀ item ∈ items, motive item)
    (fun members => ∀ member ∈ members, motive member.2) (fun member => motive member.2)
    atom literal array object (by simp) (fun _ _ first rest => List.forall_mem_cons.mpr ⟨first, rest⟩)
    (by simp) (fun _ _ first rest => List.forall_mem_cons.mpr ⟨first, rest⟩) (fun _ _ value => value) document

theorem leavesItems_eq (items : List (Document C)) : leavesItems items = items.flatMap Document.leaves := by
  induction items with
  | nil => rfl
  | cons item rest ih => exact congrArg (item.leaves ++ ·) ih

theorem leavesMembers_eq (members : List (List C × Document C)) :
    leavesMembers members = members.flatMap fun member => .literal member.1 :: member.2.leaves := by
  induction members with
  | nil => rfl
  | cons member rest ih => exact congrArg (.literal member.1 :: member.2.leaves ++ ·) ih

@[simp]
theorem Document.chars_atom (text : List C) : (Document.atom text).chars = text := List.append_nil text

@[simp]
theorem Document.chars_literal (content : List C) : (Document.literal content).chars = content :=
  List.append_nil content

@[simp]
theorem Document.chars_array (items : List (Document C)) :
    (Document.array items).chars = items.flatMap Document.chars := by
  show (leavesItems items).flatMap Token.chars = _
  rw [leavesItems_eq, List.flatMap_assoc]
  rfl

@[simp]
theorem Document.chars_object (members : List (List C × Document C)) :
    (Document.object members).chars = members.flatMap fun member => member.1 ++ member.2.chars := by
  show (leavesMembers members).flatMap Token.chars = _
  rw [leavesMembers_eq, List.flatMap_assoc]
  rfl

def Frame.leaves : Frame C → List (Token C)
  | .array items => leavesItems items
  | .object members key => leavesMembers members ++ [.literal key]

/-- The innermost container stands first. -/
def leavesFrames : List (Frame C) → List (Token C)
  | [] => []
  | frame :: frames => leavesFrames frames ++ frame.leaves

def ParseState.leaves : ParseState C → List (Token C)
  | .value frames => leavesFrames frames
  | .firstItem frames => leavesFrames frames
  | .firstKey frames => leavesFrames frames
  | .key frames members => leavesFrames frames ++ leavesMembers members
  | .colon frames members name => leavesFrames frames ++ leavesMembers members ++ [.literal name]
  | .done frames result => leavesFrames frames ++ result.leaves

theorem leavesItems_concat (items : List (Document C)) (value : Document C) :
    leavesItems (items ++ [value]) = leavesItems items ++ value.leaves := by
  rw [leavesItems_eq, leavesItems_eq, List.flatMap_append, List.flatMap_singleton]

theorem leavesMembers_concat (members : List (List C × Document C)) (key : List C) (value : Document C) :
    leavesMembers (members ++ [(key, value)]) = leavesMembers members ++ (.literal key :: value.leaves) := by
  rw [leavesMembers_eq, leavesMembers_eq, List.flatMap_append, List.flatMap_singleton]

/-- A token that starts a value adds its leaf. -/
theorem startValue_leaves [Annotated C] {frames : List (Frame C)} {token : Token C} {next : ParseState C}
    (step : startValue frames token = some next) :
    next.leaves = leavesFrames frames ++ [token].filter Token.isLeaf := by
  cases token with
  | mark mark =>
      cases mark with
      | openArray =>
          rw [← Option.some.inj step]
          exact (List.append_nil _).symm
      | openObject =>
          rw [← Option.some.inj step]
          exact (List.append_nil _).symm
      | closeObject => cases step
      | closeArray => cases step
      | colon => cases step
      | comma => cases step
  | literal content =>
      rw [← Option.some.inj step]
      rfl
  | atom text =>
      rw [(startValue_atom step).2]
      rfl

/-- A value that ends keeps its leaves. -/
theorem endValue_leaves {value : Document C} {frames : List (Frame C)} {mark : Mark} {next : ParseState C}
    (step : endValue value frames mark = some next) : next.leaves = leavesFrames frames ++ value.leaves := by
  unfold endValue at step
  split at step
  · rw [← Option.some.inj step]
    show leavesFrames _ ++ leavesItems _ = leavesFrames _ ++ leavesItems _ ++ _
    rw [leavesItems_concat, List.append_assoc]
  · rw [← Option.some.inj step]
    show leavesFrames _ ++ leavesItems _ = leavesFrames _ ++ leavesItems _ ++ _
    rw [leavesItems_concat, List.append_assoc]
  · rw [← Option.some.inj step]
    show leavesFrames _ ++ leavesMembers _ = leavesFrames _ ++ (leavesMembers _ ++ [_]) ++ _
    rw [leavesMembers_concat, List.append_assoc, List.append_assoc]
    rfl
  · rw [← Option.some.inj step]
    show leavesFrames _ ++ leavesMembers _ = leavesFrames _ ++ (leavesMembers _ ++ [_]) ++ _
    rw [leavesMembers_concat, List.append_assoc, List.append_assoc]
    rfl
  · cases step

theorem parseStep_leaves [Annotated C] {state next : ParseState C} {token : Token C} (step : parseStep state token = some next) :
    next.leaves = state.leaves ++ [token].filter Token.isLeaf := by
  unfold parseStep at step
  split at step
  · exact startValue_leaves step
  · split at step
    · rw [← Option.some.inj step]
      rfl
    · rw [startValue_leaves step]
      show leavesFrames _ ++ [] ++ _ = _
      rw [List.append_nil]
      rfl
  · split at step
    · rw [← Option.some.inj step]
      rfl
    · rw [← Option.some.inj step]
      show leavesFrames _ ++ [] ++ _ = _
      rw [List.append_nil]
      rfl
    · cases step
  · split at step
    · rw [← Option.some.inj step]
      rfl
    · cases step
  · split at step
    · rw [← Option.some.inj step]
      show leavesFrames _ ++ (leavesMembers _ ++ [_]) = leavesFrames _ ++ leavesMembers _ ++ [_] ++ []
      rw [List.append_nil, List.append_assoc]
    · cases step
  · split at step
    · rw [endValue_leaves step]
      exact (List.append_nil _).symm
    · cases step

/-- A document holds the leaves that were read, and no others. -/
theorem parse_leaves [Annotated C] {state : ParseState C} {tokens : List (Token C)} {document : Document C}
    (parsed : parse state tokens = some document) :
    document.leaves = state.leaves ++ tokens.filter Token.isLeaf := by
  induction tokens generalizing state with
  | nil =>
      unfold parse at parsed
      split at parsed
      · rw [← Option.some.inj parsed]
        exact (List.append_nil _).symm
      · cases parsed
  | cons token rest ih =>
      obtain ⟨next, step, later⟩ := Option.bind_eq_some_iff.mp parsed
      rw [ih later, parseStep_leaves step, List.append_assoc, ← List.filter_append]
      rfl

/-- The leaves of a text stand in the text. -/
theorem Spells.sublist [Annotated C] {text : List C} {tokens : List (Token C)} (spells : Spells text tokens) :
    List.Sublist (tokens.flatMap Token.chars) text := by
  induction spells with
  | nil => exact List.Sublist.refl _
  | blank _ _ ih => exact ih.cons _
  | mark _ _ _ ih => exact ih.cons _
  | literal _ _ _ _ ih => exact ((List.Sublist.refl _).append (ih.cons _)).cons _
  | atom _ _ _ _ ih => exact (List.Sublist.refl _).append ih

theorem chars_filter (tokens : List (Token C)) :
    (tokens.filter Token.isLeaf).flatMap Token.chars = tokens.flatMap Token.chars := by
  induction tokens with
  | nil => rfl
  | cons token rest ih =>
      cases token with
      | mark mark => exact ih
      | literal content =>
          show content ++ (rest.filter Token.isLeaf).flatMap Token.chars = content ++ rest.flatMap Token.chars
          rw [ih]
      | atom text =>
          show text ++ (rest.filter Token.isLeaf).flatMap Token.chars = text ++ rest.flatMap Token.chars
          rw [ih]
end

section
variable {C D : Type}

section Mapping
variable (onAtom onLiteral : List C → List D)

def Token.map : Token C → Token D
  | .mark sign => .mark sign
  | .literal content => .literal (onLiteral content)
  | .atom text => .atom (onAtom text)

mutual

/-- The shape of a document stays while its words and literals change. -/
def Document.map : Document C → Document D
  | .atom text => .atom (onAtom text)
  | .literal content => .literal (onLiteral content)
  | .array items => .array (mapItems items)
  | .object members => .object (mapMembers members)

def mapItems : List (Document C) → List (Document D)
  | [] => []
  | item :: rest => Document.map item :: mapItems rest

def mapMembers : List (List C × Document C) → List (List D × Document D)
  | [] => []
  | (key, value) :: rest => (onLiteral key, Document.map value) :: mapMembers rest

end

def Frame.map : Frame C → Frame D
  | .array items => .array (mapItems onAtom onLiteral items)
  | .object members key => .object (mapMembers onAtom onLiteral members) (onLiteral key)

def ParseState.map : ParseState C → ParseState D
  | .value frames => .value (frames.map (Frame.map onAtom onLiteral))
  | .firstItem frames => .firstItem (frames.map (Frame.map onAtom onLiteral))
  | .firstKey frames => .firstKey (frames.map (Frame.map onAtom onLiteral))
  | .key frames members => .key (frames.map (Frame.map onAtom onLiteral)) (mapMembers onAtom onLiteral members)
  | .colon frames members name =>
      .colon (frames.map (Frame.map onAtom onLiteral)) (mapMembers onAtom onLiteral members) (onLiteral name)
  | .done frames result => .done (frames.map (Frame.map onAtom onLiteral)) (result.map onAtom onLiteral)

theorem mapItems_eq (items : List (Document C)) :
    mapItems onAtom onLiteral items = items.map (Document.map onAtom onLiteral) := by
  induction items with
  | nil => rfl
  | cons item rest ih => exact congrArg (item.map onAtom onLiteral :: ·) ih

theorem mapMembers_eq (members : List (List C × Document C)) :
    mapMembers onAtom onLiteral members =
      members.map fun member => (onLiteral member.1, member.2.map onAtom onLiteral) := by
  induction members with
  | nil => rfl
  | cons member rest ih => exact congrArg ((onLiteral member.1, member.2.map onAtom onLiteral) :: ·) ih

theorem mapItems_concat (items : List (Document C)) (value : Document C) :
    mapItems onAtom onLiteral (items ++ [value]) =
      mapItems onAtom onLiteral items ++ [value.map onAtom onLiteral] := by
  rw [mapItems_eq, mapItems_eq, List.map_append]
  rfl

theorem mapMembers_concat (members : List (List C × Document C)) (key : List C) (value : Document C) :
    mapMembers onAtom onLiteral (members ++ [(key, value)]) =
      mapMembers onAtom onLiteral members ++ [(onLiteral key, value.map onAtom onLiteral)] := by
  rw [mapMembers_eq, mapMembers_eq, List.map_append]
  rfl

variable [Annotated C] [Annotated D] {onAtom onLiteral}

theorem startValue_map (same : ∀ text, isAtom (onAtom text) = isAtom text) (frames : List (Frame C))
    (token : Token C) :
    startValue (frames.map (Frame.map onAtom onLiteral)) (token.map onAtom onLiteral) =
      (startValue frames token).map (ParseState.map onAtom onLiteral) := by
  cases token with
  | mark mark => cases mark <;> rfl
  | literal content => rfl
  | atom text =>
      show (if isAtom (onAtom text) then _ else none) = (if isAtom text then _ else none : Option _).map _
      rw [same, apply_ite (Option.map _)]
      rfl

omit [Annotated C] [Annotated D] in
theorem endValue_map (value : Document C) (frames : List (Frame C)) (mark : Mark) :
    endValue (value.map onAtom onLiteral) (frames.map (Frame.map onAtom onLiteral)) mark =
      (endValue value frames mark).map (ParseState.map onAtom onLiteral) := by
  cases frames with
  | nil => rfl
  | cons frame frames =>
      cases frame with
      | array items =>
          have grows := mapItems_concat onAtom onLiteral items value
          cases mark with
          | comma =>
              show some (ParseState.value (Frame.array _ :: _)) = some (ParseState.value (Frame.array _ :: _))
              rw [grows]
          | closeArray =>
              show some (ParseState.done _ (Document.array _)) = some (ParseState.done _ (Document.array _))
              rw [grows]
          | openObject => rfl
          | closeObject => rfl
          | openArray => rfl
          | colon => rfl
      | object members key =>
          have grows := mapMembers_concat onAtom onLiteral members key value
          cases mark with
          | comma =>
              show some (ParseState.key _ _) = some (ParseState.key _ _)
              rw [grows]
          | closeObject =>
              show some (ParseState.done _ (Document.object _)) = some (ParseState.done _ (Document.object _))
              rw [grows]
          | openObject => rfl
          | openArray => rfl
          | closeArray => rfl
          | colon => rfl

/-- The parser looks at words only, and only whether they are words of JSON. -/
theorem parseStep_map (same : ∀ text, isAtom (onAtom text) = isAtom text) (state : ParseState C)
    (token : Token C) :
    parseStep (state.map onAtom onLiteral) (token.map onAtom onLiteral) =
      (parseStep state token).map (ParseState.map onAtom onLiteral) := by
  cases state with
  | value frames => exact startValue_map same frames token
  | firstItem frames =>
      have starts : startValue (.array [] :: frames.map (Frame.map onAtom onLiteral)) (token.map onAtom onLiteral) =
          (startValue (.array [] :: frames) token).map (ParseState.map onAtom onLiteral) :=
        startValue_map same (.array [] :: frames) token
      cases token with
      | mark mark => cases mark <;> rfl
      | literal content => exact starts
      | atom text => exact starts
  | firstKey frames =>
      cases token with
      | mark mark => cases mark <;> rfl
      | literal content => rfl
      | atom text => rfl
  | key frames members => cases token <;> rfl
  | colon frames members key =>
      cases token with
      | mark mark => cases mark <;> rfl
      | literal content => rfl
      | atom text => rfl
  | done frames value =>
      cases token with
      | mark mark => exact endValue_map value frames mark
      | literal content => rfl
      | atom text => rfl

theorem parse_map (same : ∀ text, isAtom (onAtom text) = isAtom text) (state : ParseState C)
    (tokens : List (Token C)) :
    parse (state.map onAtom onLiteral) (tokens.map (Token.map onAtom onLiteral)) =
      (parse state tokens).map (Document.map onAtom onLiteral) := by
  induction tokens generalizing state with
  | nil =>
      cases state with
      | done frames value => cases frames <;> rfl
      | value frames => rfl
      | firstItem frames => rfl
      | firstKey frames => rfl
      | key frames members => rfl
      | colon frames members key => rfl
  | cons token rest ih =>
      show (parseStep _ _).bind _ = _
      rw [parseStep_map same]
      cases step : parseStep state token with
      | none =>
          show none = ((parseStep state token).bind _).map _
          rw [step]
          rfl
      | some next =>
          show parse (next.map onAtom onLiteral) _ = ((parseStep state token).bind _).map _
          rw [ih, step]
          rfl

end Mapping
end
end P3Portal.Foundation.Json
