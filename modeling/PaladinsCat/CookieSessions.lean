import PaladinsCat.ClientAddress
import PaladinsCat.DeveloperApi

/-!
Sessions in cookies. The middleware (foundation.rs) looks for a session cookie and asks such a
request for its CSRF token; the handlers (`session_token`, routes/identity.rs) read the cookie
with code of their own. The digest of the sha2 crate and the parser of the url crate are given.
-/

namespace PaladinsCat.CookieSessions

open ClientAddress (HeaderMap HeaderValue headerText)
open DeveloperApi (startsWith stripPrefix)

/-! ### session_token -/

/-- `str::trim_start` -/
def trimStart (text : String) : String := String.ofList (text.toList.dropWhile Text.isWhitespace)

def bearerToken (headers : HeaderMap) : Option String :=
  ((headerText headers "authorization").bind (stripPrefix "Bearer ")).filter (· ≠ "")

def cookieToken (headers : HeaderMap) : Option String :=
  (headerText headers "cookie").bind fun value =>
    (Text.split ';' value).findSome? fun part => (stripPrefix "__Host-pc_session=" (Text.trim part)).filter (· ≠ "")

def sessionToken (headers : HeaderMap) : Option String := (bearerToken headers).or (cookieToken headers)

/-! ### application_foundation -/

inductive Method where
  | get
  | head
  | options
  | other (name : String)
  deriving DecidableEq

structure Request where
  method : Method
  headers : HeaderMap

structure SecurityContext where
  corsOrigins : List String
  environment : String

section
variable {Digest : Type} [DecidableEq Digest] (digest : String → Digest) (hostStr : String → Option String)
  (security : SecurityContext)

def constantTimeEqual (candidate expected : String) : Bool := decide (digest candidate = digest expected)

def isAllowedCorsOrigin (origin : String) : Bool :=
  if security.corsOrigins.contains origin then true
  else if security.environment = "production" then false
  else (hostStr origin).any fun host => ["localhost", "127.0.0.1", "::1"].contains host

def hasSessionCookie (headers : HeaderMap) : Bool :=
  (headerText headers "cookie").any fun value =>
    (Text.split ';' value).any fun part => startsWith (trimStart part) "__Host-pc_session="

def csrfHeader (headers : HeaderMap) : Option String := headerText headers "x-csrf-token"

def csrfCookie (headers : HeaderMap) : Option String :=
  (headerText headers "cookie").bind fun value =>
    (Text.split ';' value).findSome? fun part => stripPrefix "__Host-pc_csrf=" (Text.trim part)

def cookieRequestIsSafe (request : Request) (origin : Option String) : Bool :=
  if headerText request.headers "x-forwarded-proto" ≠ some "https" then false
  else if [.get, .head, .options].contains request.method then true
  else if !origin.any (isAllowedCorsOrigin hostStr security) then false
  else
    match csrfHeader request.headers, csrfCookie request.headers with
    | some header, some cookie => decide (32 ≤ header.utf8ByteSize) && constantTimeEqual digest header cookie
    | _, _ => false

structure Response where
  status : Nat
  body : String

def forbidden : Response := ⟨403, "Cookie authentication requires HTTPS, same-origin and CSRF protection"⟩

inductive Passage where
  | answered (response : Response)
  | forwarded (request : Request)

/-- The stages behind the check (preflight, deployment, limits, developer keys, operators) answer
a request or leave its method and its headers as they are. -/
def applicationFoundation (later : Request → Option Response) (request : Request) : Passage :=
  let origin := headerText request.headers "origin"
  if hasSessionCookie request.headers && !cookieRequestIsSafe digest hostStr security request origin then
    .answered forbidden
  else
    match later request with
    | some response => .answered response
    | none => .forwarded request

/-! ### The two readers of the cookie -/

section
variable {front text value : String} {headers : HeaderMap} {request passed : Request}

/-- What starts a trimmed text starts it when only its front is trimmed. -/
theorem startsWith_trimStart (found : startsWith (Text.trim text) front = true) :
    startsWith (trimStart text) front = true := by
  unfold startsWith at found ⊢
  rw [List.isPrefixOf_iff_prefix] at found ⊢
  rw [trimStart, String.toList_ofList]
  rw [Text.trim, String.toList_ofList] at found
  refine found.trans ?_
  have behind := List.dropWhile_suffix (l := (text.toList.dropWhile Text.isWhitespace).reverse) Text.isWhitespace
  have front := List.reverse_prefix.mpr behind
  rwa [List.reverse_reverse] at front

theorem startsWith_of_stripPrefix (found : stripPrefix front text = some value) : startsWith text front = true := by
  unfold stripPrefix at found
  split at found
  · assumption
  · cases found

theorem hasSessionCookie_of_cookieToken (token : (cookieToken headers).isSome = true) : hasSessionCookie headers = true := by
  obtain ⟨found, read⟩ := Option.isSome_iff_exists.mp token
  obtain ⟨cookies, present, listed⟩ := Option.bind_eq_some_iff.mp read
  -- the part that the handlers took is one that the middleware sees
  obtain ⟨part, member, stripped⟩ := List.exists_of_findSome?_eq_some listed
  have named := startsWith_of_stripPrefix (Option.filter_eq_some_iff.mp stripped).1
  rw [hasSessionCookie, present, Option.any_some, List.any_eq_true]
  exact ⟨part, member, startsWith_trimStart named⟩

/-! ### The check -/

/-- What a request with a session cookie shows before it may change anything. -/
structure CsrfChecked (request : Request) : Prop where
  https : headerText request.headers "x-forwarded-proto" = some "https"
  origin : ∃ origin, headerText request.headers "origin" = some origin ∧ isAllowedCorsOrigin hostStr security origin = true
  token : ∃ token, csrfHeader request.headers = some token ∧ csrfCookie request.headers = some token ∧
    32 ≤ token.utf8ByteSize

theorem checked_of_safe (changes : request.method ≠ .get ∧ request.method ≠ .head ∧ request.method ≠ .options)
    (noCollision : ∀ header cookie, csrfHeader request.headers = some header → csrfCookie request.headers = some cookie →
      digest header = digest cookie → header = cookie)
    (safe : cookieRequestIsSafe digest hostStr security request (headerText request.headers "origin") = true) :
    CsrfChecked hostStr security request := by
  have listed : [Method.get, .head, .options].contains request.method = false := by
    simp [changes.1, changes.2.1, changes.2.2]
  simp only [cookieRequestIsSafe, listed, Bool.false_eq_true, if_false] at safe
  -- the scheme, the origin and the token are looked at in this order
  split_ifs at safe with plain foreign
  · have https : headerText request.headers "x-forwarded-proto" = some "https" := not_not.mp plain
    rw [Bool.not_eq_true', Bool.not_eq_false] at foreign
    obtain ⟨origin, sent, allowed⟩ := (Option.any_eq_true _ _).mp foreign
    cases header : csrfHeader request.headers with
    | none => simp [header] at safe
    | some token =>
        cases cookie : csrfCookie request.headers with
        | none => simp [header, cookie] at safe
        | some other =>
            simp only [header, cookie, Bool.and_eq_true, decide_eq_true_iff, constantTimeEqual] at safe
            obtain rfl := noCollision token other header cookie safe.2
            exact ⟨https, ⟨origin, sent, allowed⟩, token, header, cookie, safe.1⟩

theorem safe_of_forwarded {later : Request → Option Response} (session : hasSessionCookie request.headers = true)
    (onward : applicationFoundation digest hostStr security later request = .forwarded passed) :
    passed = request ∧
      cookieRequestIsSafe digest hostStr security request (headerText request.headers "origin") = true := by
  unfold applicationFoundation at onward
  simp only [session, Bool.true_and] at onward
  split at onward
  · cases onward
  · -- a response of the stages behind the check forwards nothing
    rename_i safe
    split at onward
    · cases onward
    · cases onward
      exact ⟨rfl, by simpa using safe⟩

/-- A request that the handlers would take a session out of the cookie for is seen by the
middleware, which forwards it only with its CSRF token. -/
theorem cookie_sessions_are_csrf_checked (later : Request → Option Response) (request passed : Request)
    (unauthorized : bearerToken request.headers = none) (authenticated : (sessionToken request.headers).isSome = true)
    (noCollision : ∀ header cookie, csrfHeader request.headers = some header → csrfCookie request.headers = some cookie →
      digest header = digest cookie → header = cookie) :
    hasSessionCookie request.headers = true ∧
      (request.method ≠ .get ∧ request.method ≠ .head ∧ request.method ≠ .options →
        applicationFoundation digest hostStr security later request = .forwarded passed →
        passed = request ∧ CsrfChecked hostStr security request) := by
  have fromCookie : (cookieToken request.headers).isSome = true := by
    rwa [sessionToken, unauthorized, Option.none_or] at authenticated
  have seen := hasSessionCookie_of_cookieToken fromCookie
  refine ⟨seen, fun changes onward => ?_⟩
  obtain ⟨same, safe⟩ := safe_of_forwarded digest hostStr security seen onward
  exact ⟨same, checked_of_safe digest hostStr security changes noCollision safe⟩

end

end

/-! ### A request that may change something -/

def production : SecurityContext := ⟨["https://paladinscat.com"], "production"⟩

def proxied : HeaderValue := ⟨ClientAddress.ascii "https", List.all_eq_true.mp (by decide)⟩
def sameOrigin : HeaderValue := ⟨ClientAddress.ascii "https://paladinscat.com", List.all_eq_true.mp (by decide)⟩
def csrf : HeaderValue := ⟨ClientAddress.ascii "0123456789abcdef0123456789abcdef", List.all_eq_true.mp (by decide)⟩

def cookies : HeaderValue :=
  ⟨ClientAddress.ascii "; __Host-pc_session=;  __Host-pc_session=abc ; __Host-pc_csrf=0123456789abcdef0123456789abcdef",
    List.all_eq_true.mp (by decide +kernel)⟩

def likeRequest : Request where
  method := .other "POST"
  headers := fun name =>
    if name = "x-forwarded-proto" then [proxied]
    else if name = "origin" then [sameOrigin]
    else if name = "x-csrf-token" then [csrf]
    else if name = "cookie" then [cookies]
    else []

/-- A header of printable ASCII is read as it is. -/
theorem toStr_ascii {text : String} (valid : ∀ byte ∈ ClientAddress.ascii text, ClientAddress.isHeaderByte byte = true)
    (printable : text.toList.all (fun c => 32 ≤ c.toNat && c.toNat < 127) = true) :
    ClientAddress.toStr ⟨ClientAddress.ascii text, valid⟩ = some text := by
  have plain : ∀ c ∈ text.toList, 32 ≤ c.toNat ∧ c.toNat < 127 := fun c listed => by
    simpa using List.all_eq_true.mp printable c listed
  have letters : (ClientAddress.ascii text).map ClientAddress.charOf = text.toList := by
    refine List.map_map.trans ((List.map_congr_left fun c listed => ?_).trans (List.map_id _))
    exact ClientAddress.charOf_toNat (Nat.lt_succ_of_lt (plain c listed).2)
  have readable : ClientAddress.Readable ⟨ClientAddress.ascii text, valid⟩ := by
    intro byte listed
    obtain ⟨c, inText, rfl⟩ := List.mem_map.mp listed
    have range := plain c inText
    have number : (UInt8.ofNat c.toNat).toNat = c.toNat := by
      rw [UInt8.toNat_ofNat', Nat.mod_eq_of_lt (by omega)]
    simp [ClientAddress.isVisible, UInt8.le_iff_toNat_le, UInt8.lt_iff_toNat_lt, number, range]
  rw [ClientAddress.toStr, if_pos readable, ClientAddress.textOf, letters, String.ofList_toList]

theorem likeRequest_cookie : headerText likeRequest.headers "cookie" =
    some "; __Host-pc_session=;  __Host-pc_session=abc ; __Host-pc_csrf=0123456789abcdef0123456789abcdef" := by
  have sent : ClientAddress.get likeRequest.headers "cookie" = some cookies := by
    simp [ClientAddress.get, likeRequest]
  rw [headerText, sent, Option.bind_some, cookies]
  exact toStr_ascii _ (by simp only [String.reduceToList]; decide +kernel)

theorem likeRequest_csrf : csrfHeader likeRequest.headers = some "0123456789abcdef0123456789abcdef" := by
  have sent : ClientAddress.get likeRequest.headers "x-csrf-token" = some csrf := by
    simp [ClientAddress.get, likeRequest]
  rw [csrfHeader, headerText, sent, Option.bind_some, csrf]
  exact toStr_ascii _ (by simp only [String.reduceToList]; decide +kernel)

theorem like_request_is_checked :
    hasSessionCookie likeRequest.headers = true ∧ CsrfChecked (fun _ => none) production likeRequest := by
  have token : (sessionToken likeRequest.headers).isSome = true := by
    have fromCookie : (cookieToken likeRequest.headers).isSome = true := by
      rw [cookieToken, likeRequest_cookie, Option.bind_some]
      simp only [Text.split, Text.trim, stripPrefix, startsWith, String.toList_ofList, String.reduceToList,
        List.findSome?_map, Function.comp_def]
      decide +kernel
    rw [sessionToken, Option.isSome_or, fromCookie, Bool.or_true]
  have cookie : csrfCookie likeRequest.headers = some "0123456789abcdef0123456789abcdef" := by
    rw [csrfCookie, likeRequest_cookie, Option.bind_some]
    simp only [Text.split, Text.trim, stripPrefix, startsWith, String.toList_ofList, String.reduceToList,
      List.findSome?_map, Function.comp_def]
    decide +kernel
  have safe : cookieRequestIsSafe String.toList (fun _ => none) production likeRequest
      (headerText likeRequest.headers "origin") = true := by
    rw [cookieRequestIsSafe, likeRequest_csrf, cookie]
    decide +kernel
  have onward : applicationFoundation String.toList (fun _ => none) production (fun _ => none) likeRequest =
      .forwarded likeRequest := by
    simp [applicationFoundation, safe]
  obtain ⟨seen, checked⟩ := cookie_sessions_are_csrf_checked String.toList (fun _ => none) production (fun _ => none)
    likeRequest likeRequest rfl token (fun _ _ _ _ same => String.toList_injective same)
  exact ⟨seen, (checked (by simp [likeRequest]) onward).2⟩

end PaladinsCat.CookieSessions
