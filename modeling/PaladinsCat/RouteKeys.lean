import PaladinsCat.FormUrlencoded
import PaladinsCat.Text

/-!
The key that a request is cached under (route_cache.rs): the path and the query pairs in sorted
order, without those that only track a visitor.
-/

namespace PaladinsCat.RouteCache

/-! ### Uri -/

/-- A request's target; a path that does not start with a slash is that of an asterisk or of an
authority, which have no query. -/
structure Uri where
  path : String
  query : Option String
  path_plain : '?' ∉ path.toList ∧ '#' ∉ path.toList
  query_plain : ∀ text ∈ query, '#' ∉ text.toList
  rooted : path.toList.head? = some '/' ∨ (path = "*" ∨ path = "") ∧ query = none

def maxUriBytes : Nat := 65534

def beforeFragment (text : List Char) : List Char := text.takeWhile (· != '#')

theorem not_mem_takeWhile (mark : Char) (text : List Char) : mark ∉ text.takeWhile (· != mark) := by
  intro member
  exact absurd (List.mem_takeWhile_imp member) (by simp)

/-- The query behind the first question mark. -/
def behindPath (text : List Char) : Option String :=
  match text.dropWhile (· != '?') with
  | _ :: query => some (String.ofList query)
  | [] => none

/-- A path with a query, or the asterisk. The other forms of a target do not start with a slash. -/
def Uri.ofText (text : String) : Option Uri :=
  if maxUriBytes < text.utf8ByteSize then none
  else if text = "*" then some ⟨"*", none, by decide, by simp, by simp⟩
  else
    let target := beforeFragment text.toList
    if rooted : (target.takeWhile (· != '?')).head? = some '/' then
      some {
        path := String.ofList (target.takeWhile (· != '?'))
        query := behindPath target
        path_plain := by
          rw [String.toList_ofList]
          exact ⟨not_mem_takeWhile '?' target,
            fun member => not_mem_takeWhile '#' text.toList (List.takeWhile_subset _ member)⟩
        query_plain := by
          intro query found
          unfold behindPath at found
          split at found
          · rename_i mark tail behind
            obtain rfl := Option.some.inj found
            rw [String.toList_ofList]
            intro member
            have inside : '#' ∈ target.dropWhile (· != '?') := by
              rw [behind]
              exact List.mem_cons_of_mem mark member
            exact not_mem_takeWhile '#' text.toList ((List.dropWhile_suffix _).subset inside)
          · cases found
        rooted := by
          rw [String.toList_ofList]
          exact .inl rooted }
    else none

/-! ### canonical_route_cache_url -/

def ignoredQueryParams : List String :=
  ["utm_source", "utm_medium", "utm_campaign", "utm_term", "utm_content", "fbclid", "gclid"]

def isIgnored (key : String) : Bool := ignoredQueryParams.contains (Text.toAsciiLowercase key)

section
variable (forms : FormUrlencoded)

/-- The decoded pairs of a request that are not ignored. -/
def queryEntries (uri : Uri) : List (String × String) :=
  match uri.query with
  | some query => (forms.parse query).filter fun entry => !isIgnored entry.1
  | none => []

def sortEntries (entries : List (String × String)) : List (String × String) :=
  entries.insertionSort fun left right => toLex left ≤ toLex right

def canonicalRouteCacheUrl (uri : Uri) : String :=
  let query := forms.serialize (sortEntries (queryEntries forms uri))
  if query = "" then uri.path else uri.path ++ "?" ++ query

end

/-! ### Sorted pairs -/

instance routeOrderTotal : Std.Total fun left right : String × String => toLex left ≤ toLex right :=
  ⟨fun left right => le_total (toLex left) (toLex right)⟩

instance routeOrderTrans : IsTrans (String × String) fun left right => toLex left ≤ toLex right :=
  ⟨fun _ _ _ => le_trans⟩

theorem sortEntries_perm (entries : List (String × String)) : (sortEntries entries).Perm entries :=
  List.perm_insertionSort _ entries

theorem sortEntries_of_perm {left right : List (String × String)} (order : left.Perm right) :
    sortEntries left = sortEntries right := by
  have both := ((sortEntries_perm left).trans order).trans (sortEntries_perm right).symm
  apply both.eq_of_pairwise ?_ (List.pairwise_insertionSort _ left) (List.pairwise_insertionSort _ right)
  intro first second _ _ below above
  exact toLex_inj.mp (le_antisymm below above)

theorem sortEntries_eq_iff {left right : List (String × String)} :
    sortEntries left = sortEntries right ↔ left.Perm right := by
  constructor
  · intro same
    have sorted := sortEntries_perm left
    rw [same] at sorted
    exact sorted.symm.trans (sortEntries_perm right)
  · exact sortEntries_of_perm

/-! ### Keys and requests -/

section
variable (forms : FormUrlencoded)

/-- The parts of a key. -/
theorem canonicalRouteCacheUrl_toList (uri : Uri) :
    (canonicalRouteCacheUrl forms uri).toList =
      uri.path.toList ++
        if sortEntries (queryEntries forms uri) = [] then []
        else '?' :: (forms.serialize (sortEntries (queryEntries forms uri))).toList := by
  unfold canonicalRouteCacheUrl
  by_cases none : sortEntries (queryEntries forms uri) = []
  · rw [if_pos (forms.serialize_eq_empty.mpr none), if_pos none, List.append_nil]
  · simp only [if_neg (mt forms.serialize_eq_empty.mp none), if_neg none, String.toList_append, List.append_assoc]
    rfl

/-- What stands before the first question mark of a key is the path. -/
theorem takeWhile_path (uri : Uri) {behind : List Char} (marked : behind.head? = some '?' ∨ behind = []) :
    (uri.path.toList ++ behind).takeWhile (· != '?') = uri.path.toList ∧
      (uri.path.toList ++ behind).dropWhile (· != '?') = behind := by
  have before : ∀ c ∈ uri.path.toList, (c != '?') = true := by
    intro c member
    rw [bne_iff_ne]
    rintro rfl
    exact uri.path_plain.1 member
  rw [List.takeWhile_append_of_pos before, List.dropWhile_append_of_pos before]
  cases behind with
  | nil => simp
  | cons c behind =>
      obtain rfl : c = '?' := by simpa using marked
      simp

theorem queryText_marked (entries : List (String × String)) :
    (if entries = [] then [] else '?' :: (forms.serialize entries).toList).head? = some '?' ∨
      (if entries = [] then [] else '?' :: (forms.serialize entries).toList) = [] := by
  split <;> simp

theorem canonicalRouteCacheUrl_eq_iff (left right : Uri) :
    canonicalRouteCacheUrl forms left = canonicalRouteCacheUrl forms right ↔
      left.path = right.path ∧ (queryEntries forms left).Perm (queryEntries forms right) := by
  rw [← String.toList_inj, canonicalRouteCacheUrl_toList, canonicalRouteCacheUrl_toList, ← sortEntries_eq_iff]
  constructor
  · intro same
    obtain ⟨leftPath, leftQuery⟩ := takeWhile_path left (queryText_marked forms (sortEntries (queryEntries forms left)))
    obtain ⟨rightPath, rightQuery⟩ :=
      takeWhile_path right (queryText_marked forms (sortEntries (queryEntries forms right)))
    rw [same] at leftPath leftQuery
    refine ⟨String.toList_inj.mp (leftPath.symm.trans rightPath), ?_⟩
    have queries := leftQuery.symm.trans rightQuery
    split_ifs at queries with leftNone rightNone rightNone
    · rw [leftNone, rightNone]
    · exact forms.serialize_injective (String.toList_inj.mp (List.cons.inj queries).2)
  · rintro ⟨path, entries⟩
    rw [path, entries]

theorem canonicalRouteCacheUrl_plain (uri : Uri) : '#' ∉ (canonicalRouteCacheUrl forms uri).toList := by
  rw [canonicalRouteCacheUrl_toList]
  intro member
  rcases List.mem_append.mp member with path | query
  · exact uri.path_plain.2 path
  · split_ifs at query with none
    · cases query
    · rcases List.mem_cons.mp query with wrong | inside
      · exact absurd wrong (by decide)
      · exact forms.serialize_plain _ inside

theorem beforeFragment_canonical (uri : Uri) :
    beforeFragment (canonicalRouteCacheUrl forms uri).toList = (canonicalRouteCacheUrl forms uri).toList := by
  rw [beforeFragment, List.takeWhile_eq_self_iff]
  intro c member
  rw [bne_iff_ne]
  rintro rfl
  exact canonicalRouteCacheUrl_plain forms uri member

theorem queryEntries_some {uri : Uri} {query : String} (some_ : uri.query = some query) :
    queryEntries forms uri = (forms.parse query).filter fun entry => !isIgnored entry.1 := by
  rw [queryEntries, some_]

theorem queryEntries_none {uri : Uri} (none : uri.query = none) : queryEntries forms uri = [] := by
  rw [queryEntries, none]

/-- A key without a path to start from is the asterisk or the empty text. -/
theorem canonicalRouteCacheUrl_unrooted {uri : Uri} (unrooted : uri.path.toList.head? ≠ some '/') :
    canonicalRouteCacheUrl forms uri = uri.path ∧ (uri.path = "*" ∨ uri.path = "") ∧ queryEntries forms uri = [] := by
  rcases uri.rooted with rooted | ⟨path, query⟩
  · exact absurd rooted unrooted
  · have none := queryEntries_none forms query
    refine ⟨?_, path, none⟩
    rw [← String.toList_inj, canonicalRouteCacheUrl_toList, none]
    simp [sortEntries]

theorem filter_sortEntries (uri : Uri) :
    ((sortEntries (queryEntries forms uri)).filter fun entry => !isIgnored entry.1) =
      sortEntries (queryEntries forms uri) := by
  rw [List.filter_eq_self]
  intro entry member
  have kept := (sortEntries_perm _).mem_iff.mp member
  unfold queryEntries at kept
  split at kept
  · exact (List.mem_filter.mp kept).2
  · cases kept

/-- A key is read back as a target with the same path and the kept pairs, in sorted order. -/
theorem ofText_canonical {uri read : Uri} (text : Uri.ofText (canonicalRouteCacheUrl forms uri) = some read) :
    read.path = uri.path ∧ queryEntries forms read = sortEntries (queryEntries forms uri) := by
  obtain ⟨path, behind⟩ := takeWhile_path uri (queryText_marked forms (sortEntries (queryEntries forms uri)))
  rw [← canonicalRouteCacheUrl_toList] at path behind
  simp only [Uri.ofText, beforeFragment_canonical, path] at text
  split_ifs at text with long asterisk rooted
  · obtain rfl := Option.some.inj text
    have unrooted : uri.path.toList.head? ≠ some '/' := by
      intro rooted
      have first : (canonicalRouteCacheUrl forms uri).toList.head? = some '/' := by
        rw [canonicalRouteCacheUrl_toList, List.head?_append, rooted]
        rfl
      rw [asterisk] at first
      exact absurd first (by decide)
    obtain ⟨same, -, none⟩ := canonicalRouteCacheUrl_unrooted forms unrooted
    exact ⟨asterisk.symm.trans same, by rw [none]; rfl⟩
  · obtain rfl := Option.some.inj text
    refine ⟨String.ofList_toList, ?_⟩
    by_cases none : sortEntries (queryEntries forms uri) = []
    · rw [if_pos none] at behind
      rw [none]
      refine queryEntries_none forms ?_
      simp only [behindPath, behind]
    · rw [if_neg none] at behind
      rw [@queryEntries_some forms _ (forms.serialize (sortEntries (queryEntries forms uri))), forms.parse_serialize,
        filter_sortEntries]
      simp only [behindPath, behind, String.ofList_toList]

theorem isSome_ofText_canonical {uri : Uri} (path : uri.path ≠ "")
    (short : (canonicalRouteCacheUrl forms uri).utf8ByteSize ≤ maxUriBytes) :
    (Uri.ofText (canonicalRouteCacheUrl forms uri)).isSome = true := by
  have before := (takeWhile_path uri (queryText_marked forms (sortEntries (queryEntries forms uri)))).1
  rw [← canonicalRouteCacheUrl_toList] at before
  simp only [Uri.ofText, beforeFragment_canonical, before, if_neg (Nat.not_lt.mpr short)]
  by_cases rooted : uri.path.toList.head? = some '/'
  · split_ifs <;> rfl
  · obtain ⟨same, asterisk, -⟩ := canonicalRouteCacheUrl_unrooted forms rooted
    rw [if_pos (same.trans (asterisk.resolve_right path))]
    rfl

/-- Requests have one key if they have the same path and, up to their order, the same pairs that
are not ignored; a key is its own key. -/
theorem canonicalRouteCacheUrl_identifies :
    (∀ left right : Uri, canonicalRouteCacheUrl forms left = canonicalRouteCacheUrl forms right ↔
      left.path = right.path ∧ (queryEntries forms left).Perm (queryEntries forms right)) ∧
    ∀ uri : Uri,
      (∀ read, Uri.ofText (canonicalRouteCacheUrl forms uri) = some read →
        canonicalRouteCacheUrl forms read = canonicalRouteCacheUrl forms uri) ∧
      (uri.path ≠ "" → (canonicalRouteCacheUrl forms uri).utf8ByteSize ≤ maxUriBytes →
        (Uri.ofText (canonicalRouteCacheUrl forms uri)).isSome = true) := by
  refine ⟨canonicalRouteCacheUrl_eq_iff forms, fun uri => ⟨?_, isSome_ofText_canonical forms⟩⟩
  intro read text
  obtain ⟨path, entries⟩ := ofText_canonical forms text
  rw [canonicalRouteCacheUrl_eq_iff, entries]
  exact ⟨path, sortEntries_perm _⟩

end

def notifications : Uri where
  path := "/notifications/"
  query := some "UTM_Source=x&limit=5&b=2&b=1"
  path_plain := by decide
  query_plain := by decide
  rooted := by decide

theorem canonicalRouteCacheUrl_notifications :
    ∃ read, Uri.ofText "/notifications/?b=1&b=2&limit=5" = some read ∧
      canonicalRouteCacheUrl .ascii read = canonicalRouteCacheUrl .ascii notifications ∧
      canonicalRouteCacheUrl .ascii notifications = "/notifications/?b=1&b=2&limit=5" := by
  have key : canonicalRouteCacheUrl .ascii notifications = "/notifications/?b=1&b=2&limit=5" := by decide +kernel
  have again := (canonicalRouteCacheUrl_identifies .ascii).2 notifications
  have some_ := again.2 (by decide) (by rw [key]; decide)
  rw [key] at some_
  obtain ⟨read, text⟩ := Option.isSome_iff_exists.mp some_
  exact ⟨read, text, again.1 read (by rw [key]; exact text), key⟩

end PaladinsCat.RouteCache
