import P3Portal.Construction.Automation.Onboarding
import P3Portal.Foundation.HereDocument
import P3Portal.Foundation.Outcome

namespace P3Portal.Automation
open Foundation Foundation.Text

section Distinct
variable {A : Type} [DecidableEq A]

/-- A new entry goes to the end. -/
def appendNew (out : List A) (entry : A) : List A := if entry ∈ out then out else out ++ [entry]

/-- What is appended to a list are the first occurrences of the other entries. -/
theorem foldl_appendNew (entries out : List A) :
    entries.foldl appendNew out = out ++ (entries.removeAll out).eraseDups := by
  induction entries generalizing out with
  | nil => rw [List.foldl_nil, List.nil_removeAll, List.eraseDups_nil, List.append_nil]
  | cons entry rest ih =>
      rw [List.foldl_cons, ih, List.cons_removeAll, appendNew]
      by_cases known : entry ∈ out
      · have found : out.contains entry = true := List.contains_iff_mem.mpr known
        rw [if_pos known, found]
        rfl
      · have absent : out.contains entry = false := Bool.eq_false_iff.mpr (mt List.contains_iff_mem.mp known)
        have removed : rest.removeAll (out ++ [entry]) = (rest.removeAll out).filter (!· == entry) := by
          unfold List.removeAll
          rw [List.filter_filter]
          apply List.filter_congr
          intro other _
          rw [Bool.eq_iff_iff]
          simp [and_comm]
        rw [if_neg known, absent, removed, List.append_assoc]
        simp only [↓reduceIte, List.eraseDups_cons]
        rfl

/-- Duplicates are left out one by one. -/
theorem eraseDups_eq_foldl (entries : List A) : entries.eraseDups = entries.foldl appendNew [] := by
  rw [foldl_appendNew, List.removeAll_nil, List.nil_append]

/-- New entries are added once. -/
theorem nodup_foldl {entries out : List A} (distinct : out.Nodup) : (entries.foldl appendNew out).Nodup := by
  induction entries generalizing out with
  | nil => exact distinct
  | cons entry rest ih =>
      apply ih
      unfold appendNew
      split
      · exact distinct
      · rename_i absent
        rw [← List.concat_eq_append]
        exact distinct.concat absent

/-- Distinct entries are all appended. -/
theorem foldl_distinct {entries out : List A} (distinct : (out ++ entries).Nodup) :
    entries.foldl appendNew out = out ++ entries := by
  induction entries generalizing out with
  | nil => rw [List.foldl_nil, List.append_nil]
  | cons entry rest ih =>
      have absent : entry ∉ out := fun known =>
        (List.nodup_append.mp distinct).2.2 entry known entry List.mem_cons_self rfl
      have together : out ++ [entry] ++ rest = out ++ entry :: rest := by
        rw [List.append_assoc]
        rfl
      rw [List.foldl_cons, appendNew, if_neg absent, ih (together ▸ distinct), together]

/-- Without duplicates nothing is left out. -/
theorem eraseDups_eraseDups (entries : List A) : entries.eraseDups.eraseDups = entries.eraseDups := by
  have distinct : entries.eraseDups.Nodup := by
    rw [eraseDups_eq_foldl]
    exact nodup_foldl List.nodup_nil
  rw [eraseDups_eq_foldl entries.eraseDups, foldl_distinct distinct]
  rfl

end Distinct

/-- The key of an entry, unless the entry is absent or blank. -/
def trimmedKey (raw : Option String) : Option String := (raw.map strip).filter (· ≠ "")

/-- The trimmedKey keys that are not empty, each at its first occurrence. -/
def distinctKeys (publicKeys : List (Option String)) : List String := (publicKeys.filterMap trimmedKey).eraseDups

/-- A key that is accepted is one line without a sentinel. -/
structure SafeKey (key : String) : Prop where
  no_newline : '\n' ∉ key.toList
  no_return : '\r' ∉ key.toList
  no_sentinel : contains keysSentinel key = false
  no_other_sentinel : contains sudoersSentinel key = false
  no_control : (key.toList.any fun c => decide (c.toNat < 0x20)) = false

/-- A missing key is skipped. -/
theorem left_out (out next : List String) : (Except.ok out : Except InvalidPublicKey (List String)) = .ok next ↔
    (∀ key ∈ (none : Option String), SafeKey key) ∧ next = (none : Option String).elim out (appendNew out) := by
  constructor
  · intro same
    have vacuous : ∀ key ∈ (none : Option String), SafeKey key := by
      intro key absent
      cases absent
    exact ⟨vacuous, (Except.ok.inj same).symm⟩
  · intro same
    rw [same.2]
    rfl

/-- One key is accepted exactly when it is missing or safe. -/
theorem sanitizeKey_eq_ok (out next : List String) (raw : Option String) : sanitizeKey out raw = .ok next ↔
    (∀ key ∈ trimmedKey raw, SafeKey key) ∧ next = (trimmedKey raw).elim out (appendNew out) := by
  cases raw with
  | none => exact left_out out next
  | some raw =>
      by_cases empty : strip raw = ""
      · have blank : trimmedKey (some raw) = none := by
          rw [trimmedKey, Option.map_some, empty]
          rfl
        have skipped : sanitizeKey out (some raw) = .ok out := if_pos empty
        rw [blank, skipped]
        exact left_out out next
      · have present : trimmedKey (some raw) = some (strip raw) := by
          rw [trimmedKey, Option.map_some, Option.filter_some, if_pos (decide_eq_true empty)]
        simp only [present, sanitizeKey, if_neg empty, Option.elim_some, Option.mem_def, Option.some.injEq,
          forall_eq']
        constructor
        · intro accepted
          split at accepted
          · cases accepted
          split at accepted
          · cases accepted
          split at accepted
          · cases accepted
          rename_i single free plain
          have lines := not_or.mp single
          have sentinels := not_or.mp free
          exact ⟨⟨lines.1, lines.2, Bool.eq_false_iff.mpr sentinels.1, Bool.eq_false_iff.mpr sentinels.2,
            Bool.eq_false_iff.mpr plain⟩, (Except.ok.inj accepted).symm⟩
        · intro ⟨safe, appended⟩
          have single := not_or.mpr ⟨safe.no_newline, safe.no_return⟩
          have free := not_or.mpr ⟨Bool.eq_false_iff.mp safe.no_sentinel, Bool.eq_false_iff.mp safe.no_other_sentinel⟩
          rw [if_neg single, if_neg free, if_neg (Bool.eq_false_iff.mp safe.no_control), appended]
          rfl

/-- All keys are accepted exactly when the present ones are safe. -/
theorem foldlM_eq_ok (publicKeys : List (Option String)) (out keys : List String) :
    publicKeys.foldlM sanitizeKey out = .ok keys ↔ (∀ key ∈ publicKeys.filterMap trimmedKey, SafeKey key) ∧
      keys = (publicKeys.filterMap trimmedKey).foldl appendNew out := by
  induction publicKeys generalizing out with
  | nil =>
      show Except.ok out = Except.ok keys ↔ _
      simp only [Except.ok.injEq, List.filterMap_nil, List.not_mem_nil, false_imp_iff, implies_true, true_and,
        List.foldl_nil, eq_comm]
  | cons raw rest ih =>
      simp only [List.foldlM_cons, Outcome.bind_eq_ok, sanitizeKey_eq_ok, ih]
      cases kept : trimmedKey raw with
      | none =>
          rw [List.filterMap_cons_none kept]
          simp
      | some key =>
          rw [List.filterMap_cons_some kept]
          simp [and_assoc]

/-- The keys are accepted when each of them is safe, and what is kept are the distinct keys. -/
theorem sanitizeKeys_eq_ok (publicKeys : List (Option String)) (keys : List String) :
    sanitizeKeys publicKeys = .ok keys ↔
      (∀ key ∈ publicKeys.filterMap trimmedKey, SafeKey key) ∧ keys = distinctKeys publicKeys := by
  rw [sanitizeKeys, foldlM_eq_ok, ← eraseDups_eq_foldl]
  rfl

/-- The script has its lines one by one. -/
theorem template_cons (line : String) (lines : List String) :
    template (line :: lines) = line ++ "\n" ++ template lines := String.join_cons

/-- The script is its lines with their line breaks. -/
theorem toList_template (lines : List String) : (template lines).toList = unlines (lines.map String.toList) := by
  induction lines with
  | nil => rfl
  | cons line lines ih =>
      rw [template_cons, String.toList_append, String.toList_append, ih]
      rfl

/-- The keys are joined to the lines of the heredoc. -/
theorem keysBlock_eq {keys : List String} (written : ∀ key ∈ keys, key ≠ "") :
    (if "\n".intercalate keys ≠ "" then "\n".intercalate keys ++ "\n" else "\n".intercalate keys) = template keys := by
  cases keys with
  | nil => rfl
  | cons key rest =>
      rw [if_pos (intercalate_ne_empty "\n" (List.cons_ne_nil key rest) written)]
      clear written
      induction rest generalizing key with
      | nil =>
          rw [String.intercalate_singleton, template_cons]
          exact String.append_empty.symm
      | cons next rest ih =>
          rw [String.intercalate_cons_cons, String.append_assoc, ih next, template_cons key]

section Accepted
variable {publicKeys : List (Option String)} {keys : List String}

/-- The keys of the script are the present ones. -/
theorem mem_distinctKeys {key : String} : key ∈ distinctKeys publicKeys ↔ key ∈ publicKeys.filterMap trimmedKey :=
  List.mem_eraseDups

/-- A key of the script needs no trimming. -/
theorem trimmedKey_of_mem {key : String} (member : key ∈ distinctKeys publicKeys) : trimmedKey (some key) = some key := by
  obtain ⟨raw, _, kept⟩ := List.mem_filterMap.mp (mem_distinctKeys.mp member)
  obtain ⟨mapped, written⟩ := Option.filter_eq_some_iff.mp kept
  obtain ⟨text, rfl, stripped⟩ := Option.map_eq_some_iff.mp mapped
  rw [trimmedKey, Option.map_some, Option.filter_eq_some_iff]
  exact ⟨by rw [← stripped, strip_strip], written⟩

/-- The kept keys are kept again. -/
theorem filterMap_distinctKeys (publicKeys : List (Option String)) :
    ((distinctKeys publicKeys).map some).filterMap trimmedKey = distinctKeys publicKeys := by
  rw [List.filterMap_map]
  have kept : ∀ key ∈ distinctKeys publicKeys, (trimmedKey ∘ some) key = some key := by
    intro key member
    rw [Function.comp_apply]
    exact trimmedKey_of_mem member
  rw [List.filterMap_congr kept]
  exact List.filterMap_some

/-- Accepted keys are accepted again as they are. -/
theorem sanitizeKeys_again (accepted : sanitizeKeys publicKeys = .ok keys) :
    sanitizeKeys (keys.map some) = .ok keys := by
  obtain ⟨safe, rfl⟩ := (sanitizeKeys_eq_ok _ _).mp accepted
  have kept := filterMap_distinctKeys publicKeys
  rw [sanitizeKeys_eq_ok, kept, distinctKeys.eq_1 ((distinctKeys publicKeys).map some), kept]
  constructor
  · intro key member
    exact safe key (mem_distinctKeys.mp member)
  · exact (eraseDups_eraseDups _).symm

/-- The script is its fixed lines with the keys between them. -/
theorem renderOnboardingBlock_lines (accepted : sanitizeKeys publicKeys = .ok keys) :
    ∃ block, renderOnboardingBlock publicKeys = .ok block ∧
      block.toList = unlines (scriptHead.map String.toList ++ keys.map String.toList ++ scriptTail.map String.toList) := by
  obtain ⟨_, rfl⟩ := (sanitizeKeys_eq_ok _ _).mp accepted
  have joined : (if "\n".intercalate (distinctKeys publicKeys) ≠ "" then
      "\n".intercalate (distinctKeys publicKeys) ++ "\n" else "\n".intercalate (distinctKeys publicKeys)) =
        template (distinctKeys publicKeys) := by
    apply keysBlock_eq
    intro key member
    exact of_decide_eq_true (Option.filter_eq_some_iff.mp (trimmedKey_of_mem member)).2
  refine ⟨template scriptHead ++ template (distinctKeys publicKeys) ++ template scriptTail, ?_, ?_⟩
  · simp only [renderOnboardingBlock, accepted, Outcome.ok_bind, joined]
    rfl
  · simp only [String.toList_append, toList_template, unlines_append]

end Accepted

section Script
open HereDocument

/-- The lines of the script in front of the heredoc for sudo. -/
def beforeSudoers : List Line := (scriptHead.take 10).map String.toList

def sudoersLine : Line := "cat > /etc/sudoers.d/p3-ansible <<'P3_SUDOERS_EOF'".toList

def sudoersRule : Line := "p3-ansible ALL=(ALL) NOPASSWD:ALL".toList

/-- The lines of the script between the two heredocs. -/
def betweenHeredocs : List Line := ((scriptHead.drop 13).take 7).map String.toList

def keysLine : Line := "cat > \"$P3_HOME/.ssh/authorized_keys\" <<'P3_KEYS_EOF'".toList

/-- The lines of the script behind the heredoc of the keys. -/
def behindKeys : List Line := (scriptTail.drop 1).map String.toList

theorem scriptHead_parts : scriptHead.map String.toList = beforeSudoers ++
    sudoersLine :: ([sudoersRule] ++ sudoersSentinel.toList :: (betweenHeredocs ++ [keysLine])) := rfl

theorem scriptTail_parts : scriptTail.map String.toList = keysSentinel.toList :: behindKeys := rfl

/-- The fixed lines are single lines, the two heredocs begin with their delimiters, and no other line begins one. -/
theorem fixed_lines :
    ((scriptHead ++ scriptTail).all fun line => !line.toList.contains '\n') = true ∧
      ((beforeSudoers ++ betweenHeredocs ++ behindKeys).all fun line => decide (delimiters line = some [])) = true ∧
      delimiters sudoersLine = some [sudoersSentinel.toList] ∧ delimiters keysLine = some [keysSentinel.toList] ∧
      sudoersSentinel.toList ∉ [sudoersRule] := by
  simp only [beforeSudoers, betweenHeredocs, behindKeys, scriptHead, scriptTail, List.take_succ_cons, List.take_zero,
    List.drop_succ_cons, List.drop_zero, List.map_cons, List.map_nil, List.cons_append, List.nil_append,
    List.all_cons, List.all_nil]
  repeat rw [String.toList_ofList]
  decide +kernel

/-- The other lines of the script begin no heredoc. -/
theorem plain_lines : ∀ line ∈ beforeSudoers ++ betweenHeredocs ++ behindKeys, delimiters line = some [] := by
  intro line member
  exact of_decide_eq_true (List.all_eq_true.mp fixed_lines.2.1 line member)

/-- No line of the script has a line break. -/
theorem scriptLines_single {keys : List String} (safe : ∀ key ∈ keys, SafeKey key) :
    ∀ line ∈ scriptHead.map String.toList ++ keys.map String.toList ++ scriptTail.map String.toList, '\n' ∉ line := by
  have single : ∀ text ∈ scriptHead ++ scriptTail, '\n' ∉ text.toList := by
    intro text listed inside
    have free := List.all_eq_true.mp fixed_lines.1 text listed
    rw [List.contains_iff_mem.mpr inside] at free
    cases free
  intro line member
  rcases List.mem_append.mp member with early | late
  · rcases List.mem_append.mp early with head | key
    · obtain ⟨text, listed, rfl⟩ := List.mem_map.mp head
      exact single text (List.mem_append_left _ listed)
    · obtain ⟨text, listed, rfl⟩ := List.mem_map.mp key
      exact (safe text listed).no_newline
  · obtain ⟨text, listed, rfl⟩ := List.mem_map.mp late
    exact single text (List.mem_append_right _ listed)

/-- The commands of the script; only the heredoc of the keys depends on the keys. -/
def scriptCommands (keys : List Line) : List Command :=
  beforeSudoers.map (Command.mk · []) ++ ⟨sudoersLine, [[sudoersRule]]⟩ ::
    (betweenHeredocs.map (Command.mk · []) ++ ⟨keysLine, [keys]⟩ :: behindKeys.map (Command.mk · []))

/-- A shell reads these commands when no key is the delimiter. -/
theorem read_script {keys : List Line} (free : keysSentinel.toList ∉ keys) :
    read (scriptHead.map String.toList ++ keys ++ scriptTail.map String.toList) = some (scriptCommands keys) := by
  have before : ∀ line ∈ beforeSudoers, delimiters line = some [] := fun line member =>
    plain_lines line (List.mem_append_left _ (List.mem_append_left _ member))
  have between : ∀ line ∈ betweenHeredocs, delimiters line = some [] := fun line member =>
    plain_lines line (List.mem_append_left _ (List.mem_append_right _ member))
  have behind : ∀ line ∈ behindKeys, delimiters line = some [] := fun line member =>
    plain_lines line (List.mem_append_right _ member)
  have parts : scriptHead.map String.toList ++ keys ++ scriptTail.map String.toList =
      beforeSudoers ++ (sudoersLine :: ([sudoersRule] ++ sudoersSentinel.toList ::
        (betweenHeredocs ++ keysLine :: (keys ++ keysSentinel.toList :: (behindKeys ++ []))))) := by
    rw [scriptHead_parts, scriptTail_parts]
    simp only [List.append_assoc, List.cons_append, List.append_nil, List.nil_append]
  obtain ⟨_, _, sudoers, begins, other⟩ := fixed_lines
  rw [parts, read_plain before, read_document sudoers other, read_plain between, read_document begins free,
    read_plain behind, read_nil]
  simp only [Option.map_some, List.append_nil]
  rfl

/-- The command lines are the same for all keys. -/
theorem scriptCommands_lines (keys : List Line) :
    (scriptCommands keys).map Command.line = (scriptCommands []).map Command.line := by
  simp only [scriptCommands, List.map_append, List.map_cons]

/-- Plain lines write nothing. -/
theorem written_plain (lines : List Line) : (lines.map (Command.mk · [])).filterMap Command.written = [] := by
  rw [List.filterMap_map, List.filterMap_eq_nil_iff]
  intro line _
  rfl

/-- What the heredocs of the script write. -/
theorem written_script (keys : List Line) : (scriptCommands keys).filterMap Command.written =
    [("/etc/sudoers.d/p3-ansible".toList, "p3-ansible ALL=(ALL) NOPASSWD:ALL\n".toList),
      ("\"$P3_HOME/.ssh/authorized_keys\"".toList, unlines keys)] := by
  have sudoers : Command.written ⟨sudoersLine, [[sudoersRule]]⟩ =
      some ("/etc/sudoers.d/p3-ansible".toList, "p3-ansible ALL=(ALL) NOPASSWD:ALL\n".toList) := by decide +kernel
  have starts : "cat > ".toList.isPrefixOf keysLine = true := by decide +kernel
  have target : (keysLine.drop 6).takeWhile (· ≠ ' ') = "\"$P3_HOME/.ssh/authorized_keys\"".toList := by decide +kernel
  have kept : Command.written ⟨keysLine, [keys]⟩ =
      some ("\"$P3_HOME/.ssh/authorized_keys\"".toList, unlines keys) := by
    rw [← target, Command.written]
    simp only [starts, ↓reduceIte]
  rw [scriptCommands, List.filterMap_append, written_plain, List.filterMap_cons_some sudoers, List.filterMap_append,
    written_plain, List.filterMap_cons_some kept, written_plain]
  rfl

end Script

section VendorData

/-- The lines of the vendor data in front of the content. -/
def vendorHead : List String :=
  ["#cloud-config", "write_files:", "  - path: /var/lib/p3-onboard.sh", "    permissions: '0700'", "    encoding: b64"]

def vendorTail : List String := ["runcmd:", "  - [ /bin/sh, /var/lib/p3-onboard.sh ]"]

/-- Behind its label stands the content. -/
theorem behind_label (label content : List Char) :
    (if label.isPrefixOf (label ++ content) then some ((label ++ content).drop label.length) else none) =
      some content := by
  rw [if_pos (List.isPrefixOf_iff_prefix.mpr (List.prefix_append label content)), List.drop_left]

/-- The field is read back from the vendor data. -/
theorem contentField_template {content : List Char} (single : '\n' ∉ content) :
    contentField (template (vendorHead ++ ("    content: " ++ String.ofList content) :: vendorTail)) = some content := by
  have fixed : ((vendorHead ++ vendorTail).all fun line => !line.toList.contains '\n') = true := by decide +kernel
  have label : ("    content: " ++ String.ofList content).toList = "    content: ".toList ++ content :=
    String.toList_append.trans (congrArg ("    content: ".toList ++ ·) String.toList_ofList)
  have lines : ∀ line ∈ (vendorHead ++ ("    content: " ++ String.ofList content) :: vendorTail).map String.toList,
      '\n' ∉ line := by
    intro line member inside
    obtain ⟨text, listed, rfl⟩ := List.mem_map.mp member
    rcases List.mem_append.mp listed with early | late
    · have free := List.all_eq_true.mp fixed text (List.mem_append_left _ early)
      rw [List.contains_iff_mem.mpr inside] at free
      cases free
    rcases List.mem_cons.mp late with rfl | late
    · rw [label] at inside
      rcases List.mem_append.mp inside with label | value
      · revert label
        decide +kernel
      · exact single value
    · have free := List.all_eq_true.mp fixed text (List.mem_append_right _ late)
      rw [List.contains_iff_mem.mpr inside] at free
      cases free
  have read := fedLines_unlines lines []
  rw [List.append_nil, show fedLines [] = [] from rfl, List.append_nil] at read
  rw [contentField, toList_template, read, List.map_append, List.findSome?_append]
  have skipped : (vendorHead.map String.toList).findSome? (fun line =>
      if "    content: ".toList.isPrefixOf line then some (line.drop 13) else none) = none := by decide +kernel
  have width : "    content: ".toList.length = 13 := by decide +kernel
  have found := behind_label "    content: ".toList content
  rw [width, ← label] at found
  rw [skipped, Option.none_or, List.map_cons, List.findSome?_cons, found]

/-- The decoded content of the vendor data is the script. -/
theorem renderCloudInitVendorData_content {publicKeys : List (Option String)} {block : String}
    (rendered : renderOnboardingBlock publicKeys = .ok block) :
    ∃ vendorData, renderCloudInitVendorData publicKeys = .ok vendorData ∧
      ((contentField vendorData).bind Base64.decode).bind Utf8.decode = some block.toList := by
  have served : renderCloudInitVendorData publicKeys = .ok (template (vendorHead ++
      ("    content: " ++ String.ofList (Base64.encode (Utf8.encode block.toList))) :: vendorTail)) := by
    rw [renderCloudInitVendorData, rendered, Outcome.ok_bind]
    rfl
  refine ⟨_, served, ?_⟩
  rw [contentField_template (Base64.encode_one_line (Utf8.encode block.toList)), Option.bind_some,
    Base64.decode_encode, Option.bind_some, Utf8.decode_encode]

end VendorData

/-- The onboarding script writes the accepted keys and nothing else of them. -/
theorem onboarding_injection_free {publicKeys : List (Option String)} {keys : List String}
    (accepted : sanitizeKeys publicKeys = .ok keys) :
    keys = distinctKeys publicKeys ∧ sanitizeKeys (keys.map some) = .ok keys ∧
      ∃ block vendorData, renderOnboardingBlock publicKeys = .ok block ∧
        fedLines block.toList =
          scriptHead.map String.toList ++ keys.map String.toList ++ scriptTail.map String.toList ∧
        (HereDocument.read (fedLines block.toList)).map (·.map HereDocument.Command.line) =
          some ((scriptCommands []).map HereDocument.Command.line) ∧
        (HereDocument.read (fedLines block.toList)).map (·.filterMap HereDocument.Command.written) =
          some [("/etc/sudoers.d/p3-ansible".toList, "p3-ansible ALL=(ALL) NOPASSWD:ALL\n".toList),
            ("\"$P3_HOME/.ssh/authorized_keys\"".toList, unlines (keys.map String.toList))] ∧
        renderCloudInitVendorData publicKeys = .ok vendorData ∧
        ((contentField vendorData).bind Base64.decode).bind Utf8.decode = some block.toList := by
  obtain ⟨block, rendered, written⟩ := renderOnboardingBlock_lines accepted
  obtain ⟨vendorData, served, content⟩ := renderCloudInitVendorData_content rendered
  obtain ⟨safe, same⟩ := (sanitizeKeys_eq_ok _ _).mp accepted
  have each : ∀ key ∈ keys, SafeKey key := by
    intro key member
    exact safe key (mem_distinctKeys.mp (same ▸ member))
  have lines : fedLines block.toList =
      scriptHead.map String.toList ++ keys.map String.toList ++ scriptTail.map String.toList := by
    have read := fedLines_unlines (scriptLines_single each) []
    rwa [List.append_nil, ← written, show fedLines [] = [] from rfl, List.append_nil] at read
  have free : keysSentinel.toList ∉ keys.map String.toList := by
    intro member
    obtain ⟨key, listed, sentinel⟩ := List.mem_map.mp member
    have clean := (each key listed).no_sentinel
    rw [String.toList_inj.mp sentinel, Text.contains_self] at clean
    cases clean
  have read := read_script free
  rw [← lines] at read
  refine ⟨same, sanitizeKeys_again accepted, block, vendorData, rendered, lines, ?_, ?_, served, content⟩
  · rw [read, Option.map_some, scriptCommands_lines]
  · rw [read, Option.map_some, written_script]

/-- A padded key, an absent one, a blank one and a repeated one leave one line. -/
theorem onboarding_four_entries :
    distinctKeys [some " ssh-ed25519 AAAA one\n", none, some " ", some "ssh-ed25519 AAAA one"] =
      ["ssh-ed25519 AAAA one"] := by
  have accepted : sanitizeKeys [some " ssh-ed25519 AAAA one\n", none, some " ", some "ssh-ed25519 AAAA one"] =
      .ok ["ssh-ed25519 AAAA one"] := by decide +kernel
  exact (onboarding_injection_free accepted).1.symm

end P3Portal.Automation
