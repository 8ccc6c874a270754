import P3Portal.Construction.Http.HttpClient

namespace P3Portal.Http
open Foundation IpAddress PythonUrl

/-- Every listed network is one that the library reads. -/
example : blockedNetworks.length = blockedNetworkTexts.length := by
  decide +kernel

theorem isPrivateIp_parsed {ip : List Char} (isPublic : isPrivateIp ip = false) : (ipAddress ip).isSome = true := by
  unfold isPrivateIp at isPublic
  cases parsed : ipAddress ip with
  | none => simp [parsed] at isPublic
  | some addr => rfl

theorem portPart_isPort (port : Option Nat) : IsPort (portPart port) := by
  cases port with
  | none => exact .inl rfl
  | some port =>
      cases port with
      | zero => exact .inl rfl
      | succ port =>
          refine .inr ⟨_, rfl, List.all_eq_true.mpr ?_⟩
          intro character inside
          have digit := Nat.isDigit_of_mem_toDigits (by decide) (by decide) inside
          simpa [isDigit, Char.isDigit, Char.le_def] using digit

section
variable {checkNetloc : List Char → Except String Unit} {lookup : List Char → Lookup}

/-- An accepted URL has one of the two schemes. -/
theorem validateWebhookUrl_scheme {url : List Char} {allowHttp : Bool} {allowlist : List String}
    (accepted : validateWebhookUrl checkNetloc lookup url allowHttp allowlist = .ok ()) {parsed : ParseResult}
    (read : urlparse checkNetloc url = .ok parsed) :
    parsed.scheme = "http".toList ∨ parsed.scheme = "https".toList := by
  by_contra other
  rw [not_or] at other
  unfold validateWebhookUrl at accepted
  rw [read] at accepted
  simp only [Bind.bind, Except.bind, if_neg other.1, if_neg other.2] at accepted
  split at accepted <;> cases accepted

/-- A safe name comes with the first address of the answer, which is not private. -/
theorem checkDnsRebinding_safe {hostname resolvedIp : List Char}
    (safe : checkDnsRebinding lookup hostname = .ok (true, resolvedIp)) :
    ∃ address answers, lookup hostname = .answers (address :: answers) ∧ resolvedIp = address.val ∧
      isPrivateIp address.val = false := by
  unfold checkDnsRebinding at safe
  cases answer : lookup hostname with
  | answers addresses =>
      cases addresses with
      | nil =>
          rw [answer] at safe
          cases safe
      | cons address answers =>
          rw [answer] at safe
          have same := Prod.mk.inj (Except.ok.inj safe)
          exact ⟨address, answers, rfl, same.2.symm, by simpa using same.1⟩
  | failed =>
      rw [answer] at safe
      cases safe
  | raised message =>
      rw [answer] at safe
      cases safe

/-- The pinned URL has the scheme of the URL and the address as its host. -/
theorem pinUrlToIp_url {url resolvedIp pinnedUrl hostHeader : List Char}
    (pinned : pinUrlToIp checkNetloc url resolvedIp = .ok (pinnedUrl, hostHeader)) {parsed : ParseResult}
    (read : urlparse checkNetloc url = .ok parsed) :
    ∃ port rest, IsPort port ∧ AfterNetloc rest ∧
      pinnedUrl = parsed.scheme ++ ':' :: '/' :: '/' :: (ipInUrl resolvedIp ++ port ++ rest) := by
  unfold pinUrlToIp at pinned
  rw [read] at pinned
  cases number : parsed.port with
  | error message =>
      simp only [Bind.bind, Except.bind, number] at pinned
      cases pinned
  | ok port =>
      simp only [Bind.bind, Except.bind, number] at pinned
      obtain ⟨rest, after, written⟩ :=
        ({ parsed with netloc := ipInUrl resolvedIp ++ portPart port } : ParseResult).geturl_eq
      have same := (Prod.mk.inj (Except.ok.inj pinned)).1
      exact ⟨portPart port, rest, portPart_isPort port, after, same.symm.trans written⟩

end

section
variable {checkNetloc : List Char → Except String Unit} {outside : Outside} {callbackUrl : List Char}

/-- A connection goes to the first address that the lookup of its attempt answered, and this address is public. -/
def Checked (checkNetloc : List Char → Except String Unit) (outside : Outside) (callbackUrl : List Char)
    (connection : Connection) : Prop :=
  ∃ parsed address answers, urlparse checkNetloc callbackUrl = .ok parsed ∧
    outside.lookup connection.attempt (parsed.hostname.getD []) = .answers (address :: answers) ∧
    connection.address = address.val ∧ isPrivateIp connection.address = false

/-- The connection that an attempt opened, if it opened one. -/
def Attempt.connection : Attempt → Option Connection
  | .blocked _ => none
  | .failed _ connection => connection
  | .succeeded _ connection => some connection

theorem post_connection {attempt : Nat} {hostname pinnedUrl hostHeader : List Char} {connection : Connection}
    (opened : (post outside attempt hostname pinnedUrl hostHeader).connection = some connection) :
    connection.attempt = attempt ∧
      outside.client.connectsTo (outside.later attempt) pinnedUrl = .ok connection.address := by
  unfold post at opened
  split at opened
  · cases opened
  · rename_i target connects
    split at opened
    · cases opened
      exact ⟨rfl, connects⟩
    · split at opened <;> cases opened <;> exact ⟨rfl, connects⟩

/-- One attempt connects to nothing but its checked address. -/
theorem attemptOnce_checked {attempt : Nat} {connection : Connection} (schemes : ∀ parsed,
      urlparse checkNetloc callbackUrl = .ok parsed →
        parsed.scheme = "http".toList ∨ parsed.scheme = "https".toList)
    (opened : (attemptOnce checkNetloc outside callbackUrl attempt).connection = some connection) :
    Checked checkNetloc outside callbackUrl connection := by
  unfold attemptOnce at opened
  split at opened
  · cases opened
  · rename_i parsed read
    dsimp only at opened
    split at opened
    · cases opened
    · cases opened
    · rename_i resolvedIp safe
      obtain ⟨address, answers, answered, rfl, isPublic⟩ := checkDnsRebinding_safe safe
      split at opened
      · cases opened
      · rename_i pinnedUrl hostHeader pinned
        obtain ⟨port, rest, isPort, after, rfl⟩ := pinUrlToIp_url pinned read
        obtain ⟨rfl, connects⟩ := post_connection opened
        have target := outside.client.literal _ _ address port rest _ (schemes parsed read)
          (isPrivateIp_parsed isPublic) isPort after connects
        exact ⟨parsed, address, answers, read, answered, target, target ▸ isPublic⟩

/-- The loop over the attempts connects to checked addresses only. -/
theorem attemptFrom_checked (schemes : ∀ parsed, urlparse checkNetloc callbackUrl = .ok parsed →
      parsed.scheme = "http".toList ∨ parsed.scheme = "https".toList) (delays : List Nat) (attempt : Nat)
    (lastExc : String) : ∀ connection ∈ (attemptFrom checkNetloc outside callbackUrl attempt lastExc delays).1,
      Checked checkNetloc outside callbackUrl connection := by
  induction delays generalizing attempt lastExc with
  | nil =>
      intro connection member
      cases member
  | cons delay delays ih =>
      intro connection member
      have once : (attemptOnce checkNetloc outside callbackUrl attempt).connection = some connection →
          Checked checkNetloc outside callbackUrl connection := attemptOnce_checked schemes
      unfold attemptFrom at member
      cases result : attemptOnce checkNetloc outside callbackUrl attempt with
      | blocked message =>
          rw [result] at member
          cases member
      | succeeded statusCode opened =>
          rw [result] at member once
          exact once (congrArg some (List.mem_singleton.mp member).symm)
      | failed message opened =>
          rw [result] at member once
          rcases List.mem_append.mp member with here | later
          · exact once (Option.mem_toList.mp here)
          · exact ih (attempt + 1) message connection later

/-- A dispatch connects only after the validation accepted the URL, and each connection goes to the first address
that the check of its attempt was answered, which is not private, whatever the client itself would look up. -/
theorem dispatchWebhook_connects_to_checked (allowlist : List String) :
    ∀ connection ∈ (dispatchWebhook checkNetloc outside callbackUrl allowlist).1,
      validateWebhookUrl checkNetloc (outside.lookup 0) callbackUrl false allowlist = .ok () ∧
        Checked checkNetloc outside callbackUrl connection := by
  intro connection member
  unfold dispatchWebhook at member
  split at member
  · cases member
  · rename_i accepted
    exact ⟨accepted, attemptFrom_checked (fun parsed read => validateWebhookUrl_scheme accepted read) _ _ _
      connection member⟩

end

/-- The host of a URL stands between the two slashes and the port; brackets protect the colons of an address. -/
def requestHost (url : List Char) : List Char :=
  match (splitNetloc ((divide ':' url).2.getD [])).1 with
  | '[' :: bracketed => bracketed.takeWhile (· ≠ ']')
  | authority => authority.takeWhile (· ≠ ':')

theorem takeWhile_stops {A : Type} {keep : A → Bool} {before rest : List A} (kept : ∀ item ∈ before, keep item = true)
    (stops : ∀ item, rest.head? = some item → keep item = false) : (before ++ rest).takeWhile keep = before := by
  rw [List.takeWhile_append_of_pos kept]
  cases rest with
  | nil => simp
  | cons item items => simp [stops item rfl]

theorem IsPort.plain {port : List Char} (isPort : IsPort port) {character : Char} (inside : character ∈ port) :
    endsNetloc character = false := by
  rcases isPort with rfl | ⟨digits, rfl, numeric⟩
  · cases inside
  · rcases List.mem_cons.mp inside with rfl | digit
    · rfl
    · have bounds := List.all_eq_true.mp numeric character digit
      simp only [isDigit, Bool.and_eq_true, decide_eq_true_eq] at bounds
      simp only [endsNetloc, Bool.or_eq_false_iff, decide_eq_false_iff_not]
      refine ⟨⟨?_, ?_⟩, ?_⟩ <;>
        · rintro rfl
          revert bounds
          decide

/-- A URL with a literal address as its host names this address. -/
theorem requestHost_literal {scheme port rest : List Char} {address : AddressText}
    (known : scheme = "http".toList ∨ scheme = "https".toList) (valid : (ipAddress address.val).isSome = true)
    (isPort : IsPort port) (after : AfterNetloc rest) :
    requestHost (scheme ++ ':' :: '/' :: '/' :: (ipInUrl address.val ++ port ++ rest)) = address.val := by
  obtain ⟨addr, parsed⟩ := Option.isSome_iff_exists.mp valid
  have path : (divide ':' (scheme ++ ':' :: '/' :: '/' :: (ipInUrl address.val ++ port ++ rest))).2.getD [] =
      '/' :: '/' :: (ipInUrl address.val ++ port ++ rest) := by
    rcases known with rfl | rfl <;> simp [divide]
  have plain : ∀ character ∈ ipInUrl address.val, endsNetloc character = false := by
    intro character inside
    unfold ipInUrl at inside
    split at inside
    · rcases List.mem_cons.mp inside with rfl | later
      · rfl
      · rcases List.mem_append.mp later with here | close
        · exact (address.property character here).1
        · rw [List.mem_singleton.mp close]
          rfl
    · exact (address.property character inside).1
  have authority : (splitNetloc ('/' :: '/' :: (ipInUrl address.val ++ port ++ rest))).1 =
      ipInUrl address.val ++ port := by
    apply takeWhile_stops
    · intro character inside
      rcases List.mem_append.mp inside with host | number
      · rw [plain character host]
        rfl
      · rw [isPort.plain number]
        rfl
    · intro character head
      rw [after character head]
      rfl
  have noColon : ∀ character, port.head? = some character → decide (character ≠ ':') = false := by
    intro character head
    rcases isPort with rfl | ⟨digits, rfl, -⟩
    · cases head
    · rw [← Option.some.inj head]
      rfl
  unfold requestHost
  rw [path, authority]
  unfold ipInUrl
  rw [parsed, Option.any_some]
  by_cases six : addr.1 = .v6
  · rw [if_pos (decide_eq_true six)]
    change ((address.val ++ [']']) ++ port).takeWhile (· ≠ ']') = address.val
    rw [List.append_assoc]
    apply takeWhile_stops
    · intro character inside
      have other := (address.property character inside).2
      simp only [List.mem_cons, not_or] at other
      simp [other.2.1]
    · intro character head
      rw [← Option.some.inj head]
      rfl
  · rw [if_neg fun version => six (of_decide_eq_true version)]
    obtain ⟨value, read⟩ := ipv4FromString_of_ipAddress parsed six
    split
    · rename_i bracketed opened
      have bracket : '[' ∈ address.val ++ port := by
        rw [opened]
        exact List.mem_cons_self
      rcases List.mem_append.mp bracket with host | number
      · exact absurd List.mem_cons_self (address.property _ host).2
      · rcases isPort with rfl | ⟨digits, rfl, numeric⟩
        · cases number
        · rcases List.mem_cons.mp number with colon | digit
          · cases colon
          · exact absurd (List.all_eq_true.mp numeric _ digit) (by decide)
    · apply takeWhile_stops
      · intro character inside
        rcases ipv4FromString_chars read inside with digit | dot
        · simp only [decide_eq_true_eq]
          rintro rfl
          exact absurd digit (by decide)
        · rw [dot]
          rfl
      · exact noColon

/-- This client connects to a literal host and looks any other host up. -/
def directClient : HttpClient where
  connectsTo lookup url :=
    let host := requestHost url
    if (ipAddress host).isSome then .ok host
    else match lookup host with
      | .answers (address :: _) => .ok address.val
      | _ => .error "All connection attempts failed"
  literal := by
    intro lookup scheme address port rest target known valid isPort after connects
    dsimp only at connects
    rw [requestHost_literal known valid isPort after, if_pos valid] at connects
    exact (Except.ok.inj connects).symm

theorem undivided_of_all {text : List Char}
    (plain : (text.all fun character => !endsNetloc character && !List.contains ['[', ']', '@'] character) = true) :
    ∀ character ∈ text, endsNetloc character = false ∧ character ∉ ['[', ']', '@'] := by
  intro character member
  have fine := List.all_eq_true.mp plain character member
  simpa using fine

/-- The name is public when it is checked, and the client would be led to the loopback. -/
def rebinding : Outside where
  lookup _ _ := .answers [⟨"93.184.216.34".toList, undivided_of_all (by decide)⟩,
    ⟨"127.0.0.1".toList, undivided_of_all (by decide)⟩]
  later _ _ := .answers [⟨"127.0.0.1".toList, undivided_of_all (by decide)⟩]
  client := directClient
  reply _ := .status 200

theorem dispatchWebhook_connects_to_checked_rebinding :
    let url := "https://hooks.example.com:8443/run?job=1".toList
    let connection : Connection :=
      ⟨1, "93.184.216.34".toList, "hooks.example.com:8443".toList, "hooks.example.com".toList⟩
    (dispatchWebhook (fun _ => .ok ()) rebinding url []).1 = [connection] ∧
      validateWebhookUrl (fun _ => .ok ()) (rebinding.lookup 0) url false [] = .ok () ∧
      Checked (fun _ => .ok ()) rebinding url connection := by
  intro url connection
  have sent : (dispatchWebhook (fun _ => .ok ()) rebinding url []).1 = [connection] := by
    decide +kernel
  exact ⟨sent, dispatchWebhook_connects_to_checked [] connection (sent ▸ List.mem_singleton_self connection)⟩

end P3Portal.Http
