import PaladinsCat.Regex
import PaladinsCat.Text

/-!
The boundary of the developer API (`resolve_developer_api_route`, security.rs). Requests below
`/v1` are decided on the path as the url crate normalises it; what is supported is rewritten to
the path of the application. The search handler reads the query of the rewritten request again.
-/

namespace PaladinsCat.DeveloperApi

open Regex (Pattern)
open Regex.Pattern (text plus optional anyOf sequence isMatch)

/-! ### Requests -/

/-- A URL that the url crate has joined to the base of the service: its path is percent-encoded,
and ends where the query begins. -/
structure ParsedUrl where
  path : String
  query : Option String
  ascii : ∀ c ∈ path.toList, c.toNat < 128
  unquestioned : '?' ∉ path.toList

def startsWith (path front : String) : Bool := front.toList.isPrefixOf path.toList

def asciiUpper (c : Char) : Char := if 97 ≤ c.toNat && c.toNat ≤ 122 then Char.ofNat (c.toNat - 32) else c

def toAsciiUppercase (letters : String) : String := String.ofList (letters.toList.map asciiUpper)

structure DeveloperApiDecision where
  attempted : Bool
  supported : Bool
  anonymous : Bool
  targetUrl : String
  statusCode : Option Nat := none
  code : Option String := none
  message : Option String := none
  deriving DecidableEq

def untouchedDecision (rawUrl : String) : DeveloperApiDecision :=
  { attempted := false, supported := false, anonymous := false, targetUrl := rawUrl }

def rejectedDecision (rawUrl : String) (statusCode : Nat) (code message : String) : DeveloperApiDecision :=
  { attempted := true
    supported := false
    anonymous := false
    targetUrl := rawUrl
    statusCode := some statusCode
    code := some code
    message := some message }

/-! ### The paths -/

/-- `\d+` -/
def digits : Pattern := plus (.chars .digit)

/-- `[^/]+` -/
def segment : Pattern := plus (.chars (.noneOf ['/']))

/-- `(?:/\d+)?` -/
def optionalId : Pattern := optional (sequence [text "/", digits])

/-- `(?:/.*)?` -/
def below : Pattern := optional (sequence [text "/", .star (.chars (.noneOf ['\n']))])

def safePaths : List Pattern :=
  [text "/notifications",
    text "/operations/stats",
    text "/system/hirez-status",
    text "/hirez-status",
    sequence [text "/search/", anyOf ["universal", "players", "matches"]],
    sequence [text "/reference/", anyOf ["champions", "items", "bounty-items", "maps", "tiers", "regions", "talents",
      "queues", "patches", "cards", "skins", "abilities"], optionalId],
    text "/reference/lookup",
    text "/champions",
    sequence [text "/champions/", anyOf ["overview", "tiers", "top-winrate"]],
    sequence [text "/champions/", segment],
    sequence [text "/champions/", segment, text "/", anyOf ["page-data", "patch-history", "counters"]],
    sequence [text "/champions/", segment, text "/talents/", digits, text "/page-data"],
    sequence [text "/players/", anyOf ["overview", "search", "bulk"]],
    sequence [text "/players/leaderboard/", anyOf ["class", "champion-elo", "performance"]],
    sequence [text "/players/", digits],
    sequence [text "/players/", digits, text "/",
      anyOf ["matches", "champions", "charts", "loadouts", "card-winrates"]],
    sequence [text "/players/", digits, text "/loadouts/decks/", digits],
    sequence [text "/player-ext/", anyOf ["name-history", "merges", "status", "achievements"], text "/", digits],
    sequence [text "/matches/", anyOf ["overview", "batch", "recent", "search", "bans", "hourly-stats",
      "compositions"]],
    sequence [text "/matches/queue/", digits],
    sequence [text "/matches/fact/", digits],
    sequence [text "/matches/", digits],
    text "/live/matches",
    sequence [text "/live/matches/", digits],
    text "/live/ended",
    sequence [text "/stats", below],
    sequence [text "/ratings", below],
    sequence [text "/coplay", below],
    text "/meta/changelog",
    sequence [text "/meta/", anyOf ["items", "talents", "cards", "compositions", "top"], optionalId]]

def anonymousReadPaths : List Pattern := [text "/stats/champions"]

/-- `^/players/\d+/refresh$` -/
def refreshPath : Pattern := sequence [text "/players/", digits, text "/refresh"]

def guardedWritePaths : List Pattern := [refreshPath]

def matchesAny (patterns : List Pattern) (path : String) : Bool := patterns.any fun pattern => pattern.isMatch path.toList

/-! ### resolve_developer_api_route -/

def versionPrefix : String := "/v1"

def stripPrefix (front path : String) : Option String :=
  if startsWith path front then some (String.ofList (path.toList.drop front.toList.length)) else none

def anonymousTarget (path : String) : Option String :=
  if path = "/health" then some "/health" else if path = "/version" then some "/meta/version" else none

def methodSupported (normalizedMethod : String) (guardedWrite : Bool) : Bool :=
  ((normalizedMethod == "GET" || normalizedMethod == "HEAD") && !guardedWrite) ||
    (normalizedMethod == "POST" && guardedWrite)

/-- The first `remote` pair asks for a lookup. -/
def asksRemote (pairs : List (String × String)) : Bool :=
  (pairs.find? fun pair => pair.1 == "remote").any fun pair =>
    ["true", "1"].contains (Text.toAsciiLowercase pair.2)

section
-- `Url::join` to the base of the service, and the decoder of queries that url and axum share.
variable (join : String → Option ParsedUrl) (decode : String → List (String × String))

def resolvePath (method rawUrl : String) (parsed : ParsedUrl) (path : String) : DeveloperApiDecision :=
  let guardedWrite := matchesAny guardedWritePaths path
  let safePath := (anonymousTarget path).isSome || matchesAny safePaths path || guardedWrite
  if !safePath then
    rejectedDecision rawUrl 404 "API_ROUTE_NOT_FOUND" "This endpoint is not part of the PaladinsCat v1 API."
  else if !methodSupported (toAsciiUppercase method) guardedWrite then
    rejectedDecision rawUrl 405 "METHOD_NOT_ALLOWED"
      "This method is not available for the requested PaladinsCat v1 endpoint."
  else if path == "/search/universal" && asksRemote (decode (parsed.query.getD "")) then
    rejectedDecision rawUrl 400 "REMOTE_LOOKUP_NOT_AVAILABLE"
      "Developer API searches are database-only and cannot request an upstream lookup."
  else
    { attempted := true
      supported := true
      anonymous := (anonymousTarget path).isSome || matchesAny anonymousReadPaths path
      targetUrl := (anonymousTarget path).getD path ++ ((parsed.query.map fun query => "?" ++ query).getD "") }

def resolveDeveloperApiRoute (method rawUrl : String) : DeveloperApiDecision :=
  match join rawUrl with
  | none => untouchedDecision rawUrl
  | some parsed =>
      if parsed.path ≠ versionPrefix ∧ startsWith parsed.path "/v1/" = false then untouchedDecision rawUrl
      else resolvePath decode method rawUrl parsed
        (((stripPrefix versionPrefix parsed.path).filter fun path => decide (path ≠ "")).getD "/")

end

/-! ### Guarded routes -/

def isSensitiveOperatorRoute (method path : String) : Bool :=
  startsWith path "/recovery/" || path == "/recovery" || startsWith path "/api/hirez-raw-responses" ||
    startsWith path "/api/raw-responses" || startsWith path "/matches/raw/" || startsWith path "/players/raw/" ||
    path == "/api-keys/status" ||
    (Text.eqIgnoreAsciiCase method "POST" && (path == "/matches/pull" || path == "/matches/discover"))

def isServiceOnlyRoute (path : String) : Bool := path == "/players/discord" || startsWith path "/players/discord/"

/-! ### universal_search -/

structure SearchQuery where
  q : Option String
  limit : Option String
  remote : Option String
  remoteTarget : Option String
  refresh : Option String
  bypassCache : Option String

/-- The value of a field, which must not be repeated. -/
def queryField (pairs : List (String × String)) (name : String) : Option (Option String) :=
  match pairs.filter fun pair => pair.1 == name with
  | [] => some none
  | [pair] => some (some pair.2)
  | _ => none

/-- `Query<SearchQuery>`; other fields are ignored. -/
def searchQuery (pairs : List (String × String)) : Option SearchQuery := do
  let q ← queryField pairs "q"
  let limit ← queryField pairs "limit"
  let remote ← queryField pairs "remote"
  let remoteTarget ← queryField pairs "remoteTarget"
  let refresh ← queryField pairs "refresh"
  let bypassCache ← queryField pairs "bypassCache"
  some { q, limit, remote, remoteTarget, refresh, bypassCache }

def truthyFlag (value : Option String) : Bool := value == some "true" || value == some "1"

def allDigits (value : String) : Bool := value.toList.all Char.isDigit

def isNumericId (value : String) : Bool :=
  let value := Text.trim value
  decide (2 ≤ value.utf8ByteSize) && allDigits value

def isLikelyMatchId (value : String) : Bool :=
  let value := Text.trim value
  decide (10 ≤ value.utf8ByteSize) && decide (value.utf8ByteSize ≤ 13) && allDigits value &&
    (Text.parseSigned (-2 ^ 63) (2 ^ 63 - 1) value).any fun id => decide (1000000000 ≤ id)

/-- `parse_portal_hint(value).is_some()`: a portal and behind it a name of 2 to 64 bytes. -/
def hasPortalHint (value : String) : Bool :=
  let letters := (Text.trim value).toList
  let portal := String.ofList ((letters.takeWhile fun c => c != ':' && c != '/').map Text.asciiLower)
  match letters.dropWhile fun c => c != ':' && c != '/' with
  | [] => false
  | _ :: name =>
      let raw := Text.trim (String.ofList name)
      ["xbox", "xbl", "psn", "ps", "playstation", "switch", "nintendo"].contains portal && !name.isEmpty &&
        !name.contains '\n' && decide (2 ≤ raw.utf8ByteSize) && decide (raw.utf8ByteSize ≤ 64)

def isSafeExactPlayerName (value : String) : Bool :=
  let value := Text.trim value
  hasPortalHint value ||
    (decide (3 ≤ value.utf8ByteSize) && decide (value.utf8ByteSize ≤ 32) && !allDigits value &&
      !value.toList.any fun c => [',', '%', '*', '?'].contains c)

def normalizeRemoteTarget (value : Option String) (q : String) : Option String :=
  match value.map fun value => Text.toLowercase (Text.trim value) with
  | some "player-id" => if isNumericId q then some "player-id" else none
  | some "match-id" => if isLikelyMatchId q then some "match-id" else none
  | some "player-name" => if isSafeExactPlayerName q then some "player-name" else none
  | _ => none

def remoteTarget (query : SearchQuery) (developer : Bool) (q : String) : Option String :=
  if isLikelyMatchId q && !developer then some "match-id"
  else if truthyFlag query.remote then normalizeRemoteTarget query.remoteTarget q
  else none

/-- Whether `universal_search` runs a remote lookup, given what it has found in the database. -/
def runsRemoteLookup (query : SearchQuery) (developer exactLocalPlayer exactLocalMatch : Bool) : Bool :=
  let q := Text.trim (query.q.getD "")
  if q = "" then false
  else match remoteTarget query developer q with
    | none => false
    | some target =>
        if (target == "player-id" || target == "player-name") && exactLocalPlayer then false
        else !(target == "match-id" && exactLocalMatch)

/-- The path and the query of a request target. -/
def uriParts (target : String) : String × Option String :=
  (String.ofList (target.toList.takeWhile (· != '?')),
    match target.toList.dropWhile (· != '?') with
    | [] => none
    | _ :: query => some (String.ofList query))

/-! ### What the patterns keep out -/

def barredPrefixes : List String :=
  ["/recovery/", "/api/hirez-raw-responses", "/api/raw-responses", "/matches/raw/", "/players/raw/",
    "/players/discord/"]

def barredPaths : List String :=
  ["/recovery", "/api-keys/status", "/matches/pull", "/matches/discover", "/players/discord"]

-- No pattern has anything left behind one of the prefixes.
theorem derivs_barred : ∀ pattern ∈ refreshPath :: safePaths, ∀ front ∈ barredPrefixes,
    pattern.derivs front.toList = .empty := by
  decide +kernel

theorem isMatch_barred : ∀ pattern ∈ refreshPath :: safePaths, ∀ path ∈ barredPaths,
    pattern.isMatch path.toList = false := by
  decide +kernel

/-- A path that is open to nobody but operators or services. -/
def Barred (path : String) : Prop := path ∈ barredPaths ∨ ∃ front ∈ barredPrefixes, startsWith path front = true

section
variable {method path : String}

theorem barred_of_sensitive (sensitive : isSensitiveOperatorRoute method path = true) : Barred path := by
  simp only [isSensitiveOperatorRoute, Bool.or_eq_true, Bool.and_eq_true, beq_iff_eq] at sensitive
  rcases sensitive with ((((((inRecovery | recovery) | hirez) | responses) | matchRaw) | playerRaw) | keys) |
    ⟨_, pull | discover⟩
  · exact .inr ⟨_, by simp [barredPrefixes], inRecovery⟩
  · exact .inl (by simp [barredPaths, recovery])
  · exact .inr ⟨_, by simp [barredPrefixes], hirez⟩
  · exact .inr ⟨_, by simp [barredPrefixes], responses⟩
  · exact .inr ⟨_, by simp [barredPrefixes], matchRaw⟩
  · exact .inr ⟨_, by simp [barredPrefixes], playerRaw⟩
  · exact .inl (by simp [barredPaths, keys])
  · exact .inl (by simp [barredPaths, pull])
  · exact .inl (by simp [barredPaths, discover])

theorem barred_of_serviceOnly (only : isServiceOnlyRoute path = true) : Barred path := by
  simp only [isServiceOnlyRoute, Bool.or_eq_true, beq_iff_eq] at only
  rcases only with exact_ | inside
  · exact .inl (by simp [barredPaths, exact_])
  · exact .inr ⟨_, by simp [barredPrefixes], inside⟩

theorem not_barred_of_match {pattern : Pattern} (listed : pattern ∈ refreshPath :: safePaths)
    (matched : pattern.isMatch path.toList = true) : ¬Barred path := by
  rintro (exact_ | ⟨front, barred, starts⟩)
  · rw [isMatch_barred pattern listed path exact_] at matched
    cases matched
  · rw [Regex.Pattern.isMatch_prefix (derivs_barred pattern listed front barred)
      (List.isPrefixOf_iff_prefix.mp starts)] at matched
    cases matched

theorem anonymousTarget_cases {target : String} (anonymous : anonymousTarget path = some target) :
    target = "/health" ∨ target = "/meta/version" := by
  unfold anonymousTarget at anonymous
  split_ifs at anonymous
  · exact .inl (Option.some.inj anonymous).symm
  · exact .inr (Option.some.inj anonymous).symm

theorem anonymousTarget_not_barred {target : String} (anonymous : anonymousTarget path = some target) :
    ¬Barred target := by
  unfold Barred
  rcases anonymousTarget_cases anonymous with rfl | rfl
  · decide
  · decide

/-- What a decision lets through is not barred. -/
theorem target_not_barred
    (safe : ((anonymousTarget path).isSome || matchesAny safePaths path || matchesAny guardedWritePaths path) = true) :
    ¬Barred ((anonymousTarget path).getD path) := by
  cases anonymous : anonymousTarget path with
  | some target => exact anonymousTarget_not_barred anonymous
  | none =>
      simp only [anonymous, Option.isSome_none, Bool.false_or, Bool.or_eq_true, matchesAny, List.any_eq_true] at safe
      rcases safe with ⟨pattern, listed, matched⟩ | ⟨pattern, listed, matched⟩
      · exact not_barred_of_match (List.mem_cons_of_mem _ listed) matched
      · rw [List.mem_singleton.mp listed] at matched
        exact not_barred_of_match List.mem_cons_self matched

/-- The guarded writes are the refreshes of players. -/
theorem matchesAny_guarded : matchesAny guardedWritePaths path = true ↔
    ∃ id : List Char, id ≠ [] ∧ (∀ c ∈ id, c.isDigit = true) ∧
      path.toList = "/players/".toList ++ id ++ "/refresh".toList := by
  rw [matchesAny, guardedWritePaths, List.any_cons, List.any_nil, Bool.or_false, Regex.Pattern.isMatch_iff, refreshPath]
  simp only [Regex.Pattern.mem_sequence_cons, Regex.Pattern.mem_sequence_nil, Regex.Pattern.mem_text, digits,
    Regex.Pattern.mem_plus_chars]
  constructor
  · rintro ⟨_, rfl, _, ⟨id, ⟨some_, all⟩, _, ⟨_, rfl, _, rfl, rfl⟩, rfl⟩, joined⟩
    exact ⟨id, some_, all, by rw [← joined, List.append_nil, List.append_assoc]⟩
  · rintro ⟨id, some_, all, joined⟩
    exact ⟨_, rfl, _, ⟨id, ⟨some_, all⟩, _, ⟨_, rfl, _, rfl, rfl⟩, rfl⟩, by rw [joined, List.append_nil, List.append_assoc]⟩

end

/-! ### The query -/

section
variable {pairs : List (String × String)} {query : SearchQuery}

/-- The value of a field that is not repeated is that of its first pair. -/
theorem queryField_first {name : String} {value : Option String} (read : queryField pairs name = some value) :
    (pairs.find? fun pair => pair.1 == name).map Prod.snd = value := by
  unfold queryField at read
  rw [← List.head?_filter]
  split at read
  · rename_i none_
    rw [none_]
    exact Option.some.inj read
  · rename_i one
    rw [one]
    exact Option.some.inj read
  · cases read

theorem searchQuery_remote (decoded : searchQuery pairs = some query) :
    queryField pairs "remote" = some query.remote := by
  simp only [searchQuery, Option.bind_eq_bind, Option.bind_eq_some_iff] at decoded
  obtain ⟨_, _, _, _, remote, read, _, _, _, _, _, _, same⟩ := decoded
  cases same
  exact read

/-- The flag of the handler is one that the gate sees. -/
theorem asksRemote_of_truthy (decoded : searchQuery pairs = some query) (truthy : truthyFlag query.remote = true) :
    asksRemote pairs = true := by
  have first := queryField_first (searchQuery_remote decoded)
  cases found : pairs.find? fun pair => pair.1 == "remote" with
  | none =>
      rw [found] at first
      rw [← first] at truthy
      cases truthy
  | some pair =>
      rw [found, Option.map_some] at first
      rw [← first, truthyFlag, Bool.or_eq_true, beq_iff_eq, beq_iff_eq, Option.some.injEq, Option.some.injEq] at truthy
      rw [asksRemote, found, Option.any_some]
      rcases truthy with same | same
      · rw [same]
        decide
      · rw [same]
        decide

/-- A developer has a lookup run only by the flag. -/
theorem runsRemoteLookup_flag {exactLocalPlayer exactLocalMatch : Bool}
    (unflagged : truthyFlag query.remote = false) :
    runsRemoteLookup query true exactLocalPlayer exactLocalMatch = false := by
  have nowhere : ∀ q, remoteTarget query true q = none := by
    intro q
    simp [remoteTarget, unflagged]
  unfold runsRemoteLookup
  simp only [nowhere, ite_self]

theorem uriParts_target {path : String} {query : Option String} (unquestioned : '?' ∉ path.toList) :
    uriParts (path ++ ((query.map fun query => "?" ++ query).getD "")) = (path, query) := by
  have plain : ∀ c ∈ path.toList, (c != '?') = true := fun c member => by
    simpa using fun same : c = '?' => unquestioned (same ▸ member)
  cases query with
  | none =>
      simp only [uriParts, Option.map_none, Option.getD_none, String.append_empty]
      rw [List.takeWhile_eq_self_iff.mpr plain, List.dropWhile_eq_nil_iff.mpr plain, String.ofList_toList]
  | some query =>
      simp only [uriParts, Option.map_some, Option.getD_some, String.toList_append]
      rw [List.takeWhile_append_of_pos plain, List.dropWhile_append_of_pos plain]
      simp

end

/-! ### The boundary -/

section
variable {join : String → Option ParsedUrl} {decode : String → List (String × String)} {method rawUrl : String}

/-- A supported request has passed every check on its path. -/
structure Passed (decode : String → List (String × String)) (method path : String) (query : Option String) : Prop where
  safe : ((anonymousTarget path).isSome || matchesAny safePaths path || matchesAny guardedWritePaths path) = true
  method : methodSupported (toAsciiUppercase method) (matchesAny guardedWritePaths path) = true
  local_ : path = "/search/universal" → asksRemote (decode (query.getD "")) = false

theorem resolvePath_supported {parsed : ParsedUrl} {path : String}
    (supported : (resolvePath decode method rawUrl parsed path).supported = true) :
    Passed decode method path parsed.query ∧ (resolvePath decode method rawUrl parsed path).targetUrl =
      (anonymousTarget path).getD path ++ ((parsed.query.map fun query => "?" ++ query).getD "") := by
  unfold resolvePath at supported ⊢
  dsimp only at supported ⊢
  split_ifs at supported ⊢ with safe method_ remote
  · cases supported
  · cases supported
  · cases supported
  · refine ⟨⟨eq_true_of_ne_false fun unsafe_ => safe (by rw [unsafe_]; rfl), by simpa using method_, fun universal => ?_⟩, rfl⟩
    simpa [universal] using remote

/-- A supported URL lies below `/v1`, and what is behind has no question mark. -/
theorem resolveDeveloperApiRoute_supported
    (supported : (resolveDeveloperApiRoute join decode method rawUrl).supported = true) :
    ∃ path query, '?' ∉ path.toList ∧ Passed decode method path query ∧
      uriParts (resolveDeveloperApiRoute join decode method rawUrl).targetUrl =
        ((anonymousTarget path).getD path, query) := by
  unfold resolveDeveloperApiRoute at supported ⊢
  cases joined : join rawUrl with
  | none =>
      rw [joined] at supported
      cases supported
  | some parsed =>
      simp only [joined] at supported ⊢
      by_cases outside : parsed.path ≠ versionPrefix ∧ startsWith parsed.path "/v1/" = false
      · rw [if_pos outside] at supported
        cases supported
      · rw [if_neg outside] at supported ⊢
        obtain ⟨passed, target⟩ := resolvePath_supported supported
        have kept : '?' ∉ (((stripPrefix versionPrefix parsed.path).filter fun path =>
            decide (path ≠ "")).getD "/").toList := by
          cases stripped : (stripPrefix versionPrefix parsed.path).filter fun path => decide (path ≠ "") with
          | none => decide
          | some path =>
              have found := (Option.filter_eq_some_iff.mp stripped).1
              unfold stripPrefix at found
              split_ifs at found
              cases found
              rw [Option.getD_some, String.toList_ofList]
              exact fun member => parsed.unquestioned (List.drop_subset _ _ member)
        generalize (((stripPrefix versionPrefix parsed.path).filter fun path => decide (path ≠ "")).getD "/") = path
          at kept passed target
        refine ⟨path, parsed.query, kept, passed, ?_⟩
        rw [target]
        apply uriParts_target
        cases anonymous : anonymousTarget path with
        | none => exact kept
        | some fixed =>
            rw [Option.getD_some]
            rcases anonymousTarget_cases anonymous with rfl | rfl
            · decide
            · decide

end

/-- Whatever is supported stays away from the routes of operators and services, reads or refreshes a
player, and makes a developer's search stay in the database. -/
theorem developer_api_boundary {join : String → Option ParsedUrl} {decode : String → List (String × String)}
    {method rawUrl : String} (supported : (resolveDeveloperApiRoute join decode method rawUrl).supported = true) :
    let target := uriParts (resolveDeveloperApiRoute join decode method rawUrl).targetUrl
    isSensitiveOperatorRoute method target.1 = false ∧ isServiceOnlyRoute target.1 = false ∧
    (toAsciiUppercase method = "GET" ∨ toAsciiUppercase method = "HEAD" ∨ toAsciiUppercase method = "POST" ∧
      ∃ id : List Char, id ≠ [] ∧ (∀ c ∈ id, c.isDigit = true) ∧
        target.1.toList = "/players/".toList ++ id ++ "/refresh".toList) ∧
    ∀ query exactLocalPlayer exactLocalMatch, target.1 = "/search/universal" →
      searchQuery (decode (target.2.getD "")) = some query →
      runsRemoteLookup query true exactLocalPlayer exactLocalMatch = false := by
  obtain ⟨path, query, _, passed, split⟩ := resolveDeveloperApiRoute_supported supported
  have open_ := target_not_barred passed.safe
  rw [split]
  refine ⟨?_, ?_, ?_, ?_⟩
  · exact Bool.eq_false_iff.mpr fun sensitive => open_ (barred_of_sensitive sensitive)
  · exact Bool.eq_false_iff.mpr fun only => open_ (barred_of_serviceOnly only)
  · have supports := passed.method
    simp only [methodSupported, Bool.or_eq_true, Bool.and_eq_true, beq_iff_eq] at supports
    rcases supports with ⟨get | head, _⟩ | ⟨post, guarded⟩
    · exact .inl get
    · exact .inr (.inl head)
    · obtain ⟨id, some_, all, spelled⟩ := matchesAny_guarded.mp guarded
      refine .inr (.inr ⟨post, id, some_, all, ?_⟩)
      -- A refresh is no anonymous route, so its path is kept.
      have named : anonymousTarget path = none := by
        unfold anonymousTarget
        rw [if_neg, if_neg]
        · rintro rfl
          exact absurd spelled (by simp)
        · rintro rfl
          exact absurd spelled (by simp)
      rw [named, Option.getD_none]
      exact spelled
  · intro fields exactLocalPlayer exactLocalMatch universal decoded
    apply runsRemoteLookup_flag
    have searched : path = "/search/universal" := by
      cases anonymous : anonymousTarget path with
      | none =>
          rw [anonymous] at universal
          exact universal
      | some fixed =>
          rw [anonymous, Option.getD_some] at universal
          dsimp only at universal
          rcases anonymousTarget_cases anonymous with rfl | rfl
          · exact absurd universal (by decide)
          · exact absurd universal (by decide)
    exact Bool.eq_false_iff.mpr fun truthy =>
      Bool.eq_false_iff.mp (passed.local_ searched) (asksRemote_of_truthy decoded truthy)

/-! ### A method in lower case -/

def healthUrl : ParsedUrl where
  path := "/v1/health"
  query := none
  ascii := by simp
  unquestioned := by decide

def joinHealth (rawUrl : String) : Option ParsedUrl := if rawUrl = "/v1/health" then some healthUrl else none

def noPairs (_query : String) : List (String × String) := []

theorem lowercase_get_stays_inside :
    let target := uriParts (resolveDeveloperApiRoute joinHealth noPairs "get" "/v1/health").targetUrl
    isSensitiveOperatorRoute "get" target.1 = false ∧ isServiceOnlyRoute target.1 = false ∧
    (toAsciiUppercase "get" = "GET" ∨ toAsciiUppercase "get" = "HEAD" ∨ toAsciiUppercase "get" = "POST" ∧
      ∃ id : List Char, id ≠ [] ∧ (∀ c ∈ id, c.isDigit = true) ∧
        target.1.toList = "/players/".toList ++ id ++ "/refresh".toList) ∧
    ∀ query exactLocalPlayer exactLocalMatch, target.1 = "/search/universal" →
      searchQuery (noPairs (target.2.getD "")) = some query →
      runsRemoteLookup query true exactLocalPlayer exactLocalMatch = false :=
  developer_api_boundary (by decide)

theorem lowercase_get_is_supported :
    (resolveDeveloperApiRoute joinHealth noPairs "get" "/v1/health").supported = true ∧
      "get" ≠ "GET" ∧ "get" ≠ "HEAD" ∧ "get" ≠ "POST" := by
  decide

end PaladinsCat.DeveloperApi
