import P3Portal.Foundation.OrderedMap

namespace P3Portal.Foundation.Precedence

section
variable {Name Value : Type}

/-- A layer gives values to some names. -/
abbrev Layer (Name Value : Type) := Name → Option Value

/-- The layers stand in rising precedence, so the last layer with the name decides. -/
def effective (layers : List (Layer Name Value)) (name : Name) : Option Value :=
  layers.foldl (fun below layer => (layer name).or below) none

theorem foldl_or (layers : List (Layer Name Value)) (name : Name) (below : Option Value) :
    layers.foldl (fun below layer => (layer name).or below) below = (effective layers name).or below := by
  unfold effective
  induction layers generalizing below with
  | nil => rfl
  | cons layer rest ih =>
      rw [List.foldl_cons, List.foldl_cons, ih, ih ((layer name).or none), Option.or_none, Option.or_assoc]

@[simp] theorem effective_nil (name : Name) : effective ([] : List (Layer Name Value)) name = none := rfl

/-- Higher layers are asked first. -/
theorem effective_append (low high : List (Layer Name Value)) (name : Name) :
    effective (low ++ high) name = (effective high name).or (effective low name) := by
  rw [← foldl_or high name (effective low name)]
  unfold effective
  rw [List.foldl_append]

@[simp] theorem effective_singleton (layer : Layer Name Value) (name : Name) :
    effective [layer] name = layer name := Option.or_none

/-- Higher layers change nothing exactly when every value that they give is already effective. -/
theorem effective_append_eq_iff (low high : List (Layer Name Value)) (name : Name) :
    effective (low ++ high) name = effective low name ↔
      ∀ value ∈ effective high name, effective low name = some value := by
  rw [effective_append]
  cases given : effective high name with
  | none => simp
  | some value => simp [eq_comm]

variable [DecidableEq Name]

/-- One assignment is a layer of one name. -/
def single (assignment : Name × Value) : Layer Name Value := fun name =>
  if name = assignment.1 then some assignment.2 else none

/-- Assignments in order, of which the last one to a name wins. -/
def assigned (assignments : List (Name × Value)) : Layer Name Value := effective (assignments.map single)

@[simp] theorem assigned_nil (name : Name) : assigned ([] : List (Name × Value)) name = none := rfl

theorem assigned_append (first second : List (Name × Value)) (name : Name) :
    assigned (first ++ second) name = (assigned second name).or (assigned first name) := by
  unfold assigned
  rw [List.map_append, effective_append]

theorem assigned_cons (first : Name × Value) (rest : List (Name × Value)) (name : Name) :
    assigned (first :: rest) name = (assigned rest name).or (if name = first.1 then some first.2 else none) := by
  change assigned ([first] ++ rest) name = _
  rw [assigned_append]
  apply congrArg
  exact effective_singleton (single first) name

/-- Each assigned value comes from one of the assignments. -/
theorem mem_of_assigned {assignments : List (Name × Value)} {name : Name} {value : Value}
    (found : assigned assignments name = some value) : (name, value) ∈ assignments := by
  induction assignments with
  | nil => cases found
  | cons first rest ih =>
      rw [assigned_cons, Option.or_eq_some_iff] at found
      rcases found with later | ⟨-, here⟩
      · exact List.mem_cons_of_mem first (ih later)
      · split at here
        · rename_i same
          rw [same, ← Option.some.inj here]
          exact List.mem_cons_self
        · cases here

/-- Among assignments to distinct names each one is in effect. -/
theorem assigned_of_mem {assignments : List (Name × Value)} {name : Name} {value : Value}
    (distinct : (assignments.map Prod.fst).Nodup) (member : (name, value) ∈ assignments) :
    assigned assignments name = some value := by
  induction assignments with
  | nil => cases member
  | cons first rest ih =>
      rw [List.map_cons, List.nodup_cons] at distinct
      rw [assigned_cons]
      rcases List.mem_cons.mp member with rfl | later
      · have absent : assigned rest name = none := by
          by_contra present
          obtain ⟨other, found⟩ := Option.ne_none_iff_exists'.mp present
          exact distinct.1 (List.mem_map.mpr ⟨_, mem_of_assigned found, rfl⟩)
        simp [absent]
      · rw [ih distinct.2 later]
        rfl

theorem assigned_isSome_iff {assignments : List (Name × Value)} {name : Name} :
    (assigned assignments name).isSome = true ↔ name ∈ assignments.map Prod.fst := by
  induction assignments with
  | nil => simp
  | cons first rest ih =>
      rw [assigned_cons, Option.isSome_or, Bool.or_eq_true, ih, List.map_cons, List.mem_cons]
      by_cases same : name = first.1 <;> simp [same]

/-- Assignments over a map win over its values. -/
theorem get?_foldl_set (map : OrderedMap Name Value) (assignments : List (Name × Value)) (name : Name) :
    (assignments.foldl (fun map assignment => map.set assignment.1 assignment.2) map).get? name =
      (assigned assignments name).or (map.get? name) := by
  induction assignments generalizing map with
  | nil => rfl
  | cons first rest ih =>
      rw [List.foldl_cons, ih, assigned_cons, OrderedMap.get?_set, Option.or_assoc]
      by_cases same : name = first.1 <;> simp [same]

section Rules
variable {Rule : Type} (allowed : Rule → Bool) (name : Rule → Name) (value : Rule → Value)

/-- An allowed rule writes its value over what stands under its name. -/
def overwrite (map : OrderedMap Name Value) (rule : Rule) : OrderedMap Name Value :=
  if allowed rule then map.set (name rule) (value rule) else map

/-- An allowed rule writes its value where nothing stands under its name. -/
def fill (map : OrderedMap Name Value) (rule : Rule) : OrderedMap Name Value :=
  if allowed rule && (map.get? (name rule)).isNone then map.set (name rule) (value rule) else map

variable {allowed name value}

/-- The last allowed rule of a name wins over the values below. -/
theorem get?_foldl_overwrite (rules : List Rule) (map : OrderedMap Name Value) (query : Name) :
    (rules.foldl (overwrite allowed name value) map).get? query =
      ((rules.reverse.find? fun rule => allowed rule && name rule = query).map value).or (map.get? query) := by
  induction rules generalizing map with
  | nil => rfl
  | cons rule rest ih =>
      rw [List.foldl_cons, ih, List.reverse_cons, List.find?_append, Option.map_or, Option.or_assoc]
      congr 1
      unfold overwrite
      by_cases chosen : allowed rule = true
      · rw [if_pos chosen, OrderedMap.get?_set]
        by_cases same : query = name rule
        · simp [chosen, same]
        · have different : ¬ name rule = query := fun equal => same equal.symm
          simp [same, different]
      · simp [chosen]

/-- The first allowed rule of a name stands where nothing stood below. -/
theorem get?_foldl_fill (rules : List Rule) (map : OrderedMap Name Value) (query : Name) :
    (rules.foldl (fill allowed name value) map).get? query =
      (map.get? query).or ((rules.find? fun rule => allowed rule && name rule = query).map value) := by
  induction rules generalizing map with
  | nil => simp
  | cons rule rest ih =>
      rw [List.foldl_cons, ih, List.find?_cons]
      unfold fill
      by_cases same : name rule = query
      · cases stored : map.get? query with
        | none => cases chosen : allowed rule <;> simp [same, stored]
        | some below => cases chosen : allowed rule <;> simp [same, stored]
      · have different : ¬ query = name rule := fun equal => same equal.symm
        split <;> simp [same, different]

end Rules
end
end P3Portal.Foundation.Precedence

namespace P3Portal.Foundation.OrderedMap

section
variable {Key Value : Type} [DecidableEq Key]

/-- A partial update drops the removed keys, overwrites the given ones and keeps the others. -/
def put (stored given : OrderedMap Key Value) (removed : List Key) : OrderedMap Key Value :=
  given.entries.foldl (fun map entry => map.set entry.1 entry.2) (stored.filter fun key _ => !removed.contains key)

/-- An optional value is only written when it is there. -/
def setSome (map : OrderedMap Key Value) (key : Key) (value : Option Value) : OrderedMap Key Value :=
  value.elim map (map.set key)

@[simp] theorem get?_setSome (map : OrderedMap Key Value) (key query : Key) (value : Option Value) :
    (map.setSome key value).get? query = if query = key then value.or (map.get? query) else map.get? query := by
  cases value with
  | none => simp [setSome]
  | some content => simp [setSome]

/-- The map answers for a key. -/
def Stores (map : OrderedMap Key Value) (key : Key) : Prop := (map.get? key).isSome

@[simp] theorem stores_empty (key : Key) : ¬ (empty : OrderedMap Key Value).Stores key := by
  simp [Stores]

/-- A key is there after an assignment when it was assigned or there before. -/
@[simp] theorem stores_set (map : OrderedMap Key Value) (key query : Key) (value : Value) :
    (map.set key value).Stores query ↔ query = key ∨ map.Stores query := by
  unfold Stores
  rw [get?_set]
  split
  · simp [*]
  · simp [*]

@[simp] theorem stores_setSome (map : OrderedMap Key Value) (key query : Key) (value : Option Value) :
    (map.setSome key value).Stores query ↔ query = key ∧ value.isSome ∨ map.Stores query := by
  cases value with
  | none => simp [setSome]
  | some content => simp [setSome]

/-- Writing entries with distinct keys answers from them first. -/
theorem get?_foldl_set (entries : List (Key × Value)) (distinct : (entries.map Prod.fst).Nodup)
    (map : OrderedMap Key Value) (query : Key) :
    (entries.foldl (fun map entry => map.set entry.1 entry.2) map).get? query =
      (entries.lookup query).or (map.get? query) := by
  induction entries generalizing map with
  | nil => rfl
  | cons entry rest ih =>
      rw [List.map_cons, List.nodup_cons] at distinct
      rw [List.foldl_cons, ih distinct.2, get?_set, List.lookup_cons]
      by_cases same : query = entry.1
      · have absent : rest.lookup query = none := by
          rw [List.lookup_eq_none_iff]
          intro other member
          rw [bne_iff_ne]
          rintro rfl
          exact distinct.1 (List.mem_map.mpr ⟨other, member, same⟩)
        rw [if_pos same, absent, same, beq_self_eq_true]
        rfl
      · rw [if_neg same, beq_eq_false_iff_ne.mpr same]

/-- The updated object answers what was given, and what it stored unless that was removed. -/
theorem get?_put (stored given : OrderedMap Key Value) (removed : List Key) (key : Key) :
    (put stored given removed).get? key =
      (given.get? key).or (if key ∈ removed then none else stored.get? key) := by
  unfold put
  rw [get?_foldl_set _ given.keysNodup, get?_filter]
  congr 1
  by_cases dropped : key ∈ removed
  · rw [if_pos dropped]
    simp [dropped]
  · rw [if_neg dropped]
    cases stored.get? key with
    | none => rfl
    | some value => simp [dropped]

/-- A partial update replaces the object exactly when it gives or removes everything that was stored. -/
theorem put_replaces_iff (stored given : OrderedMap Key Value) (removed ignored : List Key) :
    (∀ key, key ∉ ignored → (put stored given removed).get? key = given.get? key) ↔
      ∀ key, key ∉ ignored → stored.Stores key → key ∈ removed ∨ given.Stores key := by
  apply forall₂_congr
  intro key _
  rw [get?_put]
  unfold Stores
  cases given.get? key with
  | some value => simp
  | none =>
      by_cases dropped : key ∈ removed
      · simp [dropped]
      · simp [dropped]
end
end P3Portal.Foundation.OrderedMap
