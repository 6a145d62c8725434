import PaladinsCat.IpText

/-!
The client address behind a trusted proxy: `resolve_client_address` of security.rs and
the `request_identity` of the vendor guards in routes/live.rs and routes/search.rs, on
the headers as the proxy forwards them. The digest of the sha2 crate is a parameter.
-/

namespace PaladinsCat.ClientAddress

open IpText

/-! ### Headers -/

/-- The bytes that `HeaderValue::from_bytes` accepts. -/
def isHeaderByte (byte : UInt8) : Bool := byte = 9 || (32 ≤ byte && byte ≠ 127)

structure HeaderValue where
  bytes : List UInt8
  valid : ∀ byte ∈ bytes, isHeaderByte byte = true

/-- The values of each header, in the order in which they came. -/
abbrev HeaderMap := String → List HeaderValue

def get (headers : HeaderMap) (name : String) : Option HeaderValue := (headers name).head?

def isVisible (byte : UInt8) : Bool := byte = 9 || (32 ≤ byte && byte < 127)

/-- The condition of `HeaderValue::to_str`. -/
def Readable (value : HeaderValue) : Prop := ∀ byte ∈ value.bytes, isVisible byte = true

instance (value : HeaderValue) : Decidable (Readable value) := inferInstanceAs (Decidable (∀ _ ∈ _, _))

def charOf (byte : UInt8) : Char := Char.ofNat byte.toNat

def textOf (value : HeaderValue) : String := String.ofList (value.bytes.map charOf)

/-- `HeaderValue::to_str`. -/
def toStr (value : HeaderValue) : Option String := if Readable value then some (textOf value) else none

def headerText (headers : HeaderMap) (name : String) : Option String := (get headers name).bind toStr

/-! ### Addresses -/

def trimStartMatches (separator : Char) (text : String) : String :=
  String.ofList (text.toList.dropWhile (· == separator))

def trimEndMatches (separator : Char) (text : String) : String :=
  String.ofList (text.toList.reverse.dropWhile (· == separator)).reverse

def normalizeIp (value : String) : Option String :=
  let trimmed := trimEndMatches ']' (trimStartMatches '[' (Text.trim value))
  ((parseIpAddr trimmed).map (·.text)).or ((parseSocketAddrV4 trimmed).map (·.text))

def fallbackText (fallback : Option IpAddr) : String := (fallback.map (·.text)).getD "unknown"

def forwardedAddress (forwarded : String) : Option String :=
  ((Text.split ',' forwarded).filterMap normalizeIp).getLast?

def resolveClientAddress (headers : HeaderMap) (fallback : Option IpAddr) (trustCloudflareHeaders : Bool) : String :=
  let cloudflare := if trustCloudflareHeaders then (headerText headers "cf-connecting-ip").bind normalizeIp else none
  match cloudflare with
  | some address => address
  | none => ((headerText headers "x-forwarded-for").bind forwardedAddress).getD (fallbackText fallback)

def hexDigit (value : Nat) : Char := "0123456789abcdef".toList.getD value '0'

def encodeHex (value : List UInt8) : String :=
  String.ofList (value.flatMap fun byte => [hexDigit (byte.toNat / 16), hexDigit (byte.toNat % 16)])

section Identities

variable (digest : String → Vector UInt8 32)

def clientRateLimitIdentity (address : String) : String := "client:" ++ encodeHex ((digest address).toList.take 16)

def lastPart (text : String) : String := (Text.split ',' text).getLastD ""

/-- The address of the first of the two headers, whichever client wrote it. -/
def requestAddress (headers : HeaderMap) : String :=
  let value := (get headers "cf-connecting-ip").or (get headers "x-forwarded-for")
  (((value.bind toStr).map lastPart).map Text.trim).getD "unknown"

namespace Live

def requestIdentity (headers : HeaderMap) : String := clientRateLimitIdentity digest (requestAddress headers)

end Live

namespace Search

def requestIdentity (headers : HeaderMap) : String := clientRateLimitIdentity digest (requestAddress headers)

end Search

/-- What the three functions give for a request: the identity of the public limits,
which do not trust the headers of Cloudflare, and those of the vendor guards. -/
def identities (fallback : Option IpAddr) (headers : HeaderMap) : List String :=
  [clientRateLimitIdentity digest (resolveClientAddress headers fallback false),
    Live.requestIdentity digest headers, Search.requestIdentity digest headers]

end Identities

/-! ### The proxy -/

/-- What the code's scanners look for is not in the text of an address. -/
def isPlain (c : Char) : Bool :=
  c.toNat < 128 && isVisible (.ofNat c.toNat) && c != ',' && !Text.isWhitespace c && c != '[' && c != ']'

theorem addressChar_plain : ∀ c ∈ addressChars, isPlain c = true := List.all_eq_true.mp (by decide)

theorem text_plain (address : IpAddr) : ∀ c ∈ address.text.toList, isPlain c = true :=
  fun c member => addressChar_plain c (text_chars address c member)

theorem visible_valid {byte : UInt8} (visible : isVisible byte = true) : isHeaderByte byte = true := by
  simp only [isVisible, isHeaderByte, Bool.or_eq_true, Bool.and_eq_true, decide_eq_true_eq] at visible ⊢
  rcases visible with tab | ⟨low, high⟩
  · exact .inl tab
  · refine .inr ⟨low, ?_⟩
    rintro rfl
    exact absurd high (by decide)

def addressBytes (address : IpAddr) : List UInt8 := address.text.toList.map fun c => .ofNat c.toNat

theorem addressBytes_visible (address : IpAddr) : ∀ byte ∈ addressBytes address, isVisible byte = true := by
  intro byte member
  obtain ⟨c, inside, rfl⟩ := List.mem_map.mp member
  have plain := text_plain address c inside
  simp only [isPlain, Bool.and_eq_true] at plain
  exact plain.1.1.1.1.2

theorem separators_valid : ∀ byte ∈ [(44 : UInt8), 32], isHeaderByte byte = true :=
  List.all_eq_true.mp (by decide)

def appendedBytes (received : List HeaderValue) (address : IpAddr) : List UInt8 :=
  (received.flatMap fun value => value.bytes ++ [44, 32]) ++ addressBytes address

/-- The received values and the address, joined by commas and blanks. -/
def appended (received : List HeaderValue) (address : IpAddr) : HeaderValue where
  bytes := appendedBytes received address
  valid := by
    intro byte member
    rcases List.mem_append.mp member with front | last
    · obtain ⟨value, _, inside⟩ := List.mem_flatMap.mp front
      rcases List.mem_append.mp inside with own | separator
      · exact value.valid byte own
      · exact separators_valid byte separator
    · exact visible_valid (addressBytes_visible address byte last)

/-- What the backend receives: the proxy appends the address of its peer. -/
def proxied (address : IpAddr) (headers : HeaderMap) : HeaderMap := fun name =>
  if name = "x-forwarded-for" then [appended (headers name) address] else headers name

theorem appended_readable (received : List HeaderValue) (address : IpAddr) :
    Readable (appended received address) ↔ ∀ value ∈ received, Readable value := by
  have separators : ∀ byte ∈ [(44 : UInt8), 32], isVisible byte = true :=
    List.all_eq_true.mp (by decide)
  constructor
  · intro readable value member byte inside
    exact readable byte (List.mem_append_left _
      (List.mem_flatMap.mpr ⟨value, member, List.mem_append_left _ inside⟩))
  · intro readable byte member
    rcases List.mem_append.mp member with front | last
    · obtain ⟨value, sent, inside⟩ := List.mem_flatMap.mp front
      rcases List.mem_append.mp inside with own | separator
      · exact readable value sent byte own
      · exact separators byte separator
    · exact addressBytes_visible address byte last

theorem charOf_toNat {c : Char} (ascii : c.toNat < 128) : charOf (.ofNat c.toNat) = c := by
  have small : (UInt8.ofNat c.toNat).toNat = c.toNat := by
    rw [UInt8.toNat_ofNat']
    omega
  rw [charOf, small, Char.ofNat_toNat]

theorem addressBytes_chars (address : IpAddr) : (addressBytes address).map charOf = address.text.toList := by
  rw [addressBytes, List.map_map]
  refine (List.map_congr_left fun c member => ?_).trans (List.map_id _)
  have plain := text_plain address c member
  simp only [isPlain, Bool.and_eq_true, decide_eq_true_eq] at plain
  exact charOf_toNat plain.1.1.1.1.1

theorem dropWhile_none {chars : List Char} {p : Char → Bool} (none_ : ∀ c ∈ chars, p c = false) :
    chars.dropWhile p = chars := by
  cases chars with
  | nil => rfl
  | cons c rest => exact List.dropWhile_cons_of_neg (by simp [none_ c List.mem_cons_self])

/-- Blanks before an address are trimmed, and nothing else. -/
theorem trim_address (address : IpAddr) {blanks : List Char} (blank : ∀ c ∈ blanks, Text.isWhitespace c = true) :
    Text.trim (String.ofList (blanks ++ address.text.toList)) = address.text := by
  have solid : ∀ c ∈ address.text.toList, Text.isWhitespace c = false := by
    intro c member
    have plain := text_plain address c member
    simp only [isPlain, Bool.and_eq_true, Bool.not_eq_true'] at plain
    exact plain.1.1.2
  have front : (blanks ++ address.text.toList).dropWhile Text.isWhitespace = address.text.toList := by
    rw [List.dropWhile_append_of_pos blank, dropWhile_none solid]
  rw [Text.trim, String.toList_ofList, front, dropWhile_none fun c member => solid c (List.mem_reverse.mp member),
    List.reverse_reverse, String.ofList_toList]

theorem normalizeIp_address {address : IpAddr} {part : String} (trimmed : Text.trim part = address.text) :
    normalizeIp part = some address.text := by
  have open_ : ∀ c ∈ address.text.toList, (c == '[') = false := by
    intro c member
    have plain := text_plain address c member
    simp only [isPlain, Bool.and_eq_true, bne_iff_ne] at plain
    simpa using plain.1.2
  have close : ∀ c ∈ address.text.toList.reverse, (c == ']') = false := by
    intro c member
    have plain := text_plain address c (List.mem_reverse.mp member)
    simp only [isPlain, Bool.and_eq_true, bne_iff_ne] at plain
    simpa using plain.2
  have whole : trimEndMatches ']' (trimStartMatches '[' address.text) = address.text := by
    rw [trimStartMatches, dropWhile_none open_, String.ofList_toList, trimEndMatches, dropWhile_none close,
      List.reverse_reverse, String.ofList_toList]
  have read : parseIpAddr (trimEndMatches ']' (trimStartMatches '[' (Text.trim part))) = some address := by
    rw [trimmed, whole, parseIpAddr_text]
  rw [normalizeIp, read, Option.map_some, Option.some_or]

theorem noComma (address : IpAddr) : ',' ∉ address.text.toList := by
  intro member
  have plain := text_plain address ',' member
  simp [isPlain] at plain

/-- The last part of the forwarded value is the address of the peer, whatever came before it. -/
theorem appended_split (received : List HeaderValue) (address : IpAddr) :
    ∃ front part, Text.split ',' (textOf (appended received address)) = front ++ [part] ∧
      Text.trim part = address.text := by
  have chars : (textOf (appended received address)).toList =
      (received.flatMap fun value => value.bytes ++ [44, 32]).map charOf ++ address.text.toList := by
    simp only [textOf, appended, appendedBytes, String.toList_ofList, List.map_append, addressBytes_chars]
  rcases List.eq_nil_or_concat received with rfl | ⟨init, last, rfl⟩
  · refine ⟨[], String.ofList ([] ++ address.text.toList), ?_, trim_address address (by simp)⟩
    rw [Text.split, chars]
    simp [List.splitOn_eq_singleton (noComma address)]
  · have blank : (' ' : Char) ≠ ',' := by decide
    have white : ∀ c ∈ [' '], Text.isWhitespace c = true := List.all_eq_true.mp (by decide)
    have text : (textOf (appended (init.concat last) address)).toList =
        ((init.flatMap fun value : HeaderValue => value.bytes ++ [44, 32]) ++ last.bytes).map charOf ++
          ',' :: ([' '] ++ address.text.toList) := by
      rw [chars]
      simp [charOf]
    have single : ([' '] ++ address.text.toList).splitOn ',' = [[' '] ++ address.text.toList] :=
      List.splitOn_eq_singleton (by simp [blank.symm, noComma address])
    have parts := congrArg (List.map String.ofList) (congrArg (List.splitOn ',') text)
    rw [List.splitOn_append_cons_self, single, List.map_append, List.map_singleton] at parts
    exact ⟨_, _, parts, trim_address address white⟩

/-! ### What the functions make of a forwarded request -/

/-- The client's part of the forwarded value leaves it readable. -/
def ForwardedReadable (headers : HeaderMap) : Prop := ∀ value ∈ headers "x-forwarded-for", Readable value

instance (headers : HeaderMap) : Decidable (ForwardedReadable headers) := inferInstanceAs (Decidable (∀ _ ∈ _, _))

theorem get_proxied (address : IpAddr) (headers : HeaderMap) :
    get (proxied address headers) "x-forwarded-for" = some (appended (headers "x-forwarded-for") address) := by
  simp [get, proxied]

theorem get_proxied_other (address : IpAddr) (headers : HeaderMap) :
    get (proxied address headers) "cf-connecting-ip" = get headers "cf-connecting-ip" := by
  simp [get, proxied]

theorem toStr_appended (address : IpAddr) (headers : HeaderMap) :
    toStr (appended (headers "x-forwarded-for") address) =
      if ForwardedReadable headers then some (textOf (appended (headers "x-forwarded-for") address)) else none := by
  by_cases readable : ForwardedReadable headers
  · rw [toStr, if_pos ((appended_readable _ _).mpr readable), if_pos readable]
  · rw [toStr, if_neg (mt (appended_readable _ _).mp readable), if_neg readable]

theorem forwardedAddress_appended (received : List HeaderValue) (address : IpAddr) :
    forwardedAddress (textOf (appended received address)) = some address.text := by
  obtain ⟨front, part, parts, trimmed⟩ := appended_split received address
  rw [forwardedAddress, parts, List.filterMap_append, List.filterMap_cons, normalizeIp_address trimmed]
  simp

theorem resolveClientAddress_proxied (address : IpAddr) (headers : HeaderMap) (fallback : Option IpAddr) :
    resolveClientAddress (proxied address headers) fallback false =
      if ForwardedReadable headers then address.text else fallbackText fallback := by
  simp only [resolveClientAddress, headerText, get_proxied, Option.bind_some, toStr_appended, Bool.false_eq_true,
    if_false]
  split
  · rw [Option.bind_some, forwardedAddress_appended, Option.getD_some]
  · rfl

theorem trim_lastPart (received : List HeaderValue) (address : IpAddr) :
    Text.trim (lastPart (textOf (appended received address))) = address.text := by
  obtain ⟨front, part, parts, trimmed⟩ := appended_split received address
  rw [lastPart, parts, List.getLastD_concat, trimmed]

theorem requestAddress_proxied (address : IpAddr) (headers : HeaderMap) :
    requestAddress (proxied address headers) =
      match get headers "cf-connecting-ip" with
      | some value => if Readable value then Text.trim (lastPart (textOf value)) else "unknown"
      | none => if ForwardedReadable headers then address.text else "unknown" := by
  simp only [requestAddress, get_proxied_other, get_proxied]
  cases get headers "cf-connecting-ip" with
  | some value =>
      simp only [Option.some_or, Option.bind_some, toStr]
      split <;> rfl
  | none =>
      simp only [Option.none_or, Option.bind_some, toStr_appended]
      split
      · rw [Option.map_some, Option.map_some, Option.getD_some, trim_lastPart]
      · rfl

/-! ### Choosing an identity -/

section Choice

variable (digest : String → Vector UInt8 32) (fallback : Option IpAddr) (address : IpAddr)

/-- The text gives the identity of the address: it is its text, or the digests agree. -/
def Derived (text : String) : Prop :=
  clientRateLimitIdentity digest text = clientRateLimitIdentity digest address.text

/-- The requests differ in the two headers only, as their clients send them. -/
def DifferOnly (first second : HeaderMap) : Prop :=
  ∀ name, name ≠ "cf-connecting-ip" → name ≠ "x-forwarded-for" → first name = second name

/-- Both requests have the identities that come from the address of the peer. -/
def SameIdentity (first second : HeaderMap) : Prop :=
  identities digest fallback (proxied address first) = identities digest fallback (proxied address second) ∧
    ∀ identity ∈ identities digest fallback (proxied address first),
      identity = clientRateLimitIdentity digest address.text

/-- The client leaves its identity alone: the forwarded value stays readable, or the
peer that the backend sees is the client; and there is no header of Cloudflare, or one
whose last part is the address of the client. -/
def LeavesIdentity (headers : HeaderMap) : Prop :=
  (ForwardedReadable headers ∨ Derived digest address (fallbackText fallback)) ∧
    match get headers "cf-connecting-ip" with
    | some value =>
        if Readable value then Derived digest address (Text.trim (lastPart (textOf value)))
        else Derived digest address "unknown"
    | none => ForwardedReadable headers ∨ Derived digest address "unknown"

theorem identities_derived (headers : HeaderMap) :
    (∀ identity ∈ identities digest fallback (proxied address headers),
      identity = clientRateLimitIdentity digest address.text) ↔ LeavesIdentity digest fallback address headers := by
  have limits : clientRateLimitIdentity digest (resolveClientAddress (proxied address headers) fallback false) =
      clientRateLimitIdentity digest address.text ↔
        ForwardedReadable headers ∨ Derived digest address (fallbackText fallback) := by
    rw [resolveClientAddress_proxied]
    by_cases readable : ForwardedReadable headers
    · simp [readable]
    · simp [readable, Derived]
  have guards : clientRateLimitIdentity digest (requestAddress (proxied address headers)) =
      clientRateLimitIdentity digest address.text ↔
        match get headers "cf-connecting-ip" with
        | some value =>
            if Readable value then Derived digest address (Text.trim (lastPart (textOf value)))
            else Derived digest address "unknown"
        | none => ForwardedReadable headers ∨ Derived digest address "unknown" := by
    rw [requestAddress_proxied]
    cases get headers "cf-connecting-ip" with
    | some value => by_cases readable : Readable value <;> simp [readable, Derived]
    | none => by_cases readable : ForwardedReadable headers <;> simp [readable, Derived]
  simp only [identities, List.forall_mem_cons, List.not_mem_nil, false_implies, implies_true, and_true,
    Live.requestIdentity, Search.requestIdentity, limits, guards, and_self, LeavesIdentity]

theorem leavesIdentity_cloudflare {headers : HeaderMap} {value : HeaderValue}
    (sent : get headers "cf-connecting-ip" = some value) (readable : Readable value)
    (leaves : LeavesIdentity digest fallback address headers) :
    Derived digest address (Text.trim (lastPart (textOf value))) := by
  have own := leaves.2
  rw [sent] at own
  simpa only [readable, if_true] using own

/-- Two requests have the identities of their peer exactly when both clients leave them alone. -/
theorem client_cannot_choose (first second : HeaderMap) :
    SameIdentity digest fallback address first second ↔
      LeavesIdentity digest fallback address first ∧ LeavesIdentity digest fallback address second := by
  rw [SameIdentity, ← identities_derived, ← identities_derived]
  constructor
  · intro ⟨same, derived⟩
    exact ⟨derived, same ▸ derived⟩
  · intro ⟨left, right⟩
    refine ⟨?_, left⟩
    simp only [identities, List.forall_mem_cons] at left right ⊢
    simp [left.1, left.2.1, left.2.2.1, right.1, right.2.1, right.2.2.1]

end Choice

/-! ### A client with a header of its own -/

def ascii (text : String) : List UInt8 := text.toList.map fun c => .ofNat c.toNat

/-- The SHA-256 digests of the two addresses. -/
def sampleDigest (text : String) : Vector UInt8 32 :=
  if text = "203.0.113.7" then
    #v[254, 197, 37, 101, 170, 12, 241, 143, 87, 215, 207, 91, 58, 199, 40, 80,
      59, 137, 146, 210, 214, 247, 212, 109, 161, 209, 32, 16, 144, 144, 43, 2]
  else #v[102, 148, 248, 60, 159, 71, 109, 163, 31, 93, 246, 188, 197, 32, 3, 78,
      126, 87, 212, 33, 210, 71, 185, 211, 79, 73, 237, 191, 200, 74, 118, 76]

def plainRequest : HeaderMap := fun _ => []

def forgedAddress : HeaderValue where
  bytes := ascii "1.2.3.4"
  valid := List.all_eq_true.mp (by decide)

def forgedRequest : HeaderMap := fun name => if name = "cf-connecting-ip" then [forgedAddress] else []

theorem client_chooses_address :
    ¬ ∀ (digest : String → Vector UInt8 32) (fallback : Option IpAddr) (address : IpAddr) (first second : HeaderMap),
      DifferOnly first second → SameIdentity digest fallback address first second := by
  intro all
  have differ : DifferOnly plainRequest forgedRequest := by
    intro name other _
    simp [plainRequest, forgedRequest, other]
  have same := all sampleDigest none (.v4 203 0 113 7) plainRequest forgedRequest differ
  have derived : ∀ identity ∈ identities sampleDigest none (proxied (.v4 203 0 113 7) forgedRequest),
      identity = clientRateLimitIdentity sampleDigest (IpAddr.v4 203 0 113 7).text := same.1 ▸ same.2
  have leaves : LeavesIdentity sampleDigest none (.v4 203 0 113 7) forgedRequest :=
    (identities_derived sampleDigest none (.v4 203 0 113 7) forgedRequest).mp derived
  have visible : forgedAddress.bytes.all isVisible = true := by decide +kernel
  have text : Text.trim (lastPart (textOf forgedAddress)) = "1.2.3.4" := by decide +kernel
  have peer : (IpAddr.v4 203 0 113 7).text = "203.0.113.7" := by decide +kernel
  have chosen : Derived sampleDigest (.v4 203 0 113 7) (Text.trim (lastPart (textOf forgedAddress))) :=
    leavesIdentity_cloudflare sampleDigest none _ rfl (List.all_eq_true.mp visible) leaves
  rw [text, Derived, peer] at chosen
  exact absurd chosen (by decide +kernel)

end PaladinsCat.ClientAddress
