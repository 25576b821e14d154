import Sidereon.Distribution.Confinement

/-!
# Which cookies are sent

The cookies that a chain of responses leaves are those that the last accepted Set-Cookie of their
key set, and a request carries exactly the ones that its host, its path and its scheme admit.
-/

namespace Sidereon.Distribution

open Foundation

section Statement

/-- The key of a cookie. -/
def Cookie.key (cookie : Cookie) : CookieKey := (cookie.domain, cookie.path, cookie.name)

/-- A host that a cookie is for: its domain, or a subdomain unless the cookie is for its host
only. -/
def ForHost (cookie : Cookie) (host : Binary) : Prop :=
  host = cookie.domain ∨ cookie.hostOnly = false ∧ ∃ label, host = label ++ 46 :: cookie.domain

/-- A path that a cookie is for: its own, or one that goes on at a slash. -/
def ForPath (cookie : Cookie) (path : Binary) : Prop :=
  path = cookie.path ∨ ∃ rest, path = cookie.path ++ rest ∧
    (cookie.path.getLast? = some 47 ∨ rest.head? = some 47)

variable (library : Library)

/-- The attributes of a Set-Cookie, latest first. -/
def setAttributes (value : Binary) : List (Binary × Option Binary) :=
  cookieAttributes library (value.splitOn 59).tail

/-- A Set-Cookie from a URL is accepted, and sets or deletes a cookie: it has a name, the host is
one the cookie is for, and a cookie without a domain is for that host only. -/
structure Accepted (setter value : Binary) (cookie : Cookie) (deletes : Bool) : Prop where
  pair : library.trim ((value.splitOn 59).headD []) = cookie.name ++ 61 :: cookie.value
  named : cookie.name ≠ [] ∧ 61 ∉ cookie.name
  host : ∃ host, hostOf library (Uri.parse setter) = some host ∧ ForHost cookie host ∧
    (cookie.domain, cookie.hostOnly) = cookieDomain library (setAttributes library value) host
  path : cookie.path = cookiePath (setAttributes library value) ((Uri.parse setter).path.getD [47])
  secure : cookie.secure = ((setAttributes library value).lookup (ascii "secure")).isSome
  deletes : deletes =
    decide ((setAttributes library value).lookup (ascii "max-age") = some (some (ascii "0")))

/-- The Set-Cookies of a chain, earliest first, each with the URL that it came from. -/
abbrev SetCookies := List (Binary × Binary)

/-- The last accepted Set-Cookie of a cookie's key set it. -/
def KeptCookie (setCookies : SetCookies) (cookie : Cookie) : Prop :=
  ∃ before setter value after, setCookies = before ++ (setter, value) :: after ∧
    Accepted library setter value cookie false ∧
    ∀ later ∈ after, ∀ other deletes, Accepted library later.1 later.2 other deletes →
      other.key ≠ cookie.key

/-- A cookie that a request for a URL carries. -/
def Carried (setCookies : SetCookies) (url : Binary) (cookie : Cookie) : Prop :=
  KeptCookie library setCookies cookie ∧
    (∃ host, hostOf library (Uri.parse url) = some host ∧ ForHost cookie host) ∧
    ForPath cookie ((Uri.parse url).path.getD [47]) ∧
    (cookie.secure = true → (Uri.parse url).scheme = some https)

/-- The responses of a chain, latest first. -/
def received : Past → List (Binary × Headers)
  | ⟨.getCustom url _, .response _ headers (some _)⟩ :: past => (url, headers) :: received past
  | ⟨.getReq url _ _, .response _ headers _ _⟩ :: past => (url, headers) :: received past
  | _ :: past => received past
  | [] => []

/-- The Set-Cookies that were received. -/
def receivedCookies (past : Past) : SetCookies :=
  (received past).reverse.flatMap fun response =>
    (headerValues library response.2 (ascii "set-cookie")).map fun value => (response.1, value)

/-- The text that names cookies. -/
def cookieText (cookies : List Cookie) : Binary :=
  (ascii "; ").intercalate (cookies.map fun cookie => cookie.name ++ ascii "=" ++ cookie.value)

/-- The headers that name cookies are one with the given cookies, or none without any. -/
def NamesCookies (headers : List Header) (cookies : List Cookie) : Prop :=
  headers.filter (·.1 = ascii "cookie") =
    if cookies = [] then [] else [(ascii "cookie", cookieText cookies)]

/-- A call that requests a URL with headers. -/
def Requests (request : Call) (url : Binary) (headers : List Header) : Prop :=
  request = .getCustom url headers ∨ ∃ limit, request = .getReq url headers limit

/-- A request names the cookies that it carries, each once. -/
def CarriesCookies (past : Past) (request : Call) : Prop :=
  ∀ url headers, Requests request url headers →
    ∃ cookies : List Cookie, NamesCookies headers cookies ∧ (cookies.map Cookie.key).Nodup ∧
      ∀ cookie, cookie ∈ cookies ↔ Carried library (receivedCookies library past) url cookie

end Statement

section Order

/-- The order of byte strings is the lexicographic one. -/
theorem below_iff {a b : Binary} : below a b = true ↔ List.Lex (· < ·) a b := by
  rw [below, List.lex_eq_true_iff_lex]
  simp only [decide_eq_true_eq]

/-- The order of byte strings is irreflexive. -/
theorem below_irrefl (a : Binary) : ¬ below a a = true :=
  fun less => List.lex_irrefl (fun x => UInt8.lt_irrefl x) a (below_iff.mp less)

/-- The order of byte strings is transitive. -/
theorem below_trans {a b c : Binary} (first : below a b = true) (second : below b c = true) :
    below a c = true :=
  below_iff.mpr (List.lex_trans UInt8.lt_trans (below_iff.mp first) (below_iff.mp second))

/-- The order of byte strings is total. -/
theorem below_total (a b : Binary) : below a b = true ∨ a = b ∨ below b a = true := by
  simp only [below_iff]
  induction a generalizing b with
  | nil =>
    cases b with
    | nil => exact .inr (.inl rfl)
    | cons y b => exact .inl .nil
  | cons x a ih =>
    cases b with
    | nil => exact .inr (.inr .nil)
    | cons y b =>
      have bytes : x < y ∨ x = y ∨ y < x := by
        rw [UInt8.lt_iff_toNat_lt, UInt8.lt_iff_toNat_lt, ← UInt8.toNat_inj]
        omega
      cases bytes with
      | inl less => exact .inl (.rel less)
      | inr rest =>
        cases rest with
        | inl same =>
          rw [same]
          cases ih b with
          | inl less => exact .inl (.cons less)
          | inr rest =>
            cases rest with
            | inl equal => exact .inr (.inl (congrArg (y :: ·) equal))
            | inr greater => exact .inr (.inr (.cons greater))
        | inr greater => exact .inr (.inr (.rel greater))

/-- The order of keys, by its parts. -/
theorem keyBelow_iff {a b : CookieKey} : keyBelow a b = true ↔
    below a.1 b.1 = true ∨ a.1 = b.1 ∧
      (below a.2.1 b.2.1 = true ∨ a.2.1 = b.2.1 ∧ below a.2.2 b.2.2 = true) := by
  simp only [keyBelow, Bool.or_eq_true, Bool.and_eq_true, beq_iff_eq]

/-- The order of keys is irreflexive. -/
theorem keyBelow_irrefl (a : CookieKey) : ¬ keyBelow a a = true := by
  rw [keyBelow_iff]
  have first := below_irrefl a.1
  have second := below_irrefl a.2.1
  have third := below_irrefl a.2.2
  grind

/-- The order of keys is transitive. -/
theorem keyBelow_trans {a b c : CookieKey} (first : keyBelow a b = true)
    (second : keyBelow b c = true) : keyBelow a c = true := by
  rw [keyBelow_iff] at *
  have domains := @below_trans a.1 b.1 c.1
  have paths := @below_trans a.2.1 b.2.1 c.2.1
  have names := @below_trans a.2.2 b.2.2 c.2.2
  grind

/-- The order of keys is total. -/
theorem keyBelow_total (a b : CookieKey) : keyBelow a b = true ∨ a = b ∨ keyBelow b a = true := by
  rw [keyBelow_iff, keyBelow_iff, Prod.ext_iff, Prod.ext_iff]
  have domains := below_total a.1 b.1
  have paths := below_total a.2.1 b.2.1
  have names := below_total a.2.2 b.2.2
  grind

end Order

section Jars

/-- A jar has its keys in order. -/
def Sorted (jar : Jar) : Prop := jar.Pairwise fun a b => keyBelow a.1 b.1 = true

variable {key : CookieKey} {cookie : Cookie}

/-- A jar in which a cookie is put has it, and the cookies of the other keys. -/
theorem mem_put {jar : Jar} (sorted : Sorted jar) {entry : CookieKey × Cookie} :
    entry ∈ jar.put key cookie ↔ entry = (key, cookie) ∨ entry.1 ≠ key ∧ entry ∈ jar := by
  induction jar with
  | nil => simp [Jar.put]
  | cons first jar ih =>
    obtain ⟨other, kept⟩ := first
    have later : ∀ entry ∈ jar, keyBelow other entry.1 = true := (List.pairwise_cons.mp sorted).1
    have apart {smaller : CookieKey} (least : smaller = other ∨ keyBelow smaller other = true) :
        ∀ entry ∈ jar, entry.1 ≠ smaller := by
      intro entry member same
      have above := later entry member
      rw [same] at above
      cases least with
      | inl equal => exact keyBelow_irrefl _ (equal ▸ above)
      | inr less => exact keyBelow_irrefl _ (keyBelow_trans less above)
    unfold Jar.put
    by_cases same : key = other
    · have others := apart (.inl same)
      rw [if_pos same]
      grind
    · rw [if_neg same]
      by_cases less : keyBelow key other = true
      · have others := apart (.inr less)
        rw [if_pos less]
        grind
      · rw [if_neg less]
        have rest := ih (List.Pairwise.of_cons sorted)
        grind

/-- A jar in which a cookie is put stays in order. -/
theorem put_sorted {jar : Jar} (sorted : Sorted jar) : Sorted (jar.put key cookie) := by
  induction jar with
  | nil => exact List.pairwise_singleton _ _
  | cons first jar ih =>
    obtain ⟨other, kept⟩ := first
    have later : ∀ entry ∈ jar, keyBelow other entry.1 = true := (List.pairwise_cons.mp sorted).1
    have tail := List.Pairwise.of_cons sorted
    unfold Jar.put
    by_cases same : key = other
    · rw [if_pos same]
      refine List.Pairwise.cons (fun entry member => ?_) tail
      rw [same]
      exact later entry member
    · rw [if_neg same]
      by_cases less : keyBelow key other = true
      · rw [if_pos less]
        refine List.Pairwise.cons (fun entry member => ?_) sorted
        cases List.mem_cons.mp member with
        | inl first => exact first ▸ less
        | inr rest => exact keyBelow_trans less (later entry rest)
      · rw [if_neg less]
        refine List.Pairwise.cons (fun entry member => ?_) (ih tail)
        cases (mem_put tail).mp member with
        | inl put =>
          rw [put]
          cases keyBelow_total key other with
          | inl below => exact absurd below less
          | inr rest =>
            cases rest with
            | inl equal => exact absurd equal same
            | inr above => exact above
        | inr kept => exact later entry kept.2

end Jars

section Acceptance

variable {library : Library}

/-- The check of a host decides whether a cookie is for it. -/
theorem cookieDomainMatches_iff {cookie : Cookie} {host : Binary} :
    cookieDomainMatches host cookie.domain cookie.hostOnly = true ↔ ForHost cookie host := by
  unfold cookieDomainMatches ForHost
  rw [Bool.or_eq_true, Bool.and_eq_true, beq_iff_eq, Bool.not_eq_true', List.isSuffixOf_iff_suffix]
  have suffix : 46 :: cookie.domain <:+ host ↔ ∃ label, host = label ++ 46 :: cookie.domain :=
    exists_congr fun label => eq_comm
  rw [suffix]

/-- The check of a path decides whether a cookie is for it. -/
theorem cookiePathMatches_iff {cookie : Cookie} {path : Binary} :
    cookiePathMatches path cookie.path = true ↔ ForPath cookie path := by
  unfold cookiePathMatches ForPath
  simp only [Bool.or_eq_true, Bool.and_eq_true, beq_iff_eq, List.isPrefixOf_iff_prefix]
  constructor
  · intro matched
    rcases matched with (same | ⟨closed, rest, extended⟩) | ⟨rest, extended⟩
    · exact .inl same
    · exact .inr ⟨rest, extended.symm, .inl closed⟩
    · refine .inr ⟨47 :: rest, ?_, .inr rfl⟩
      rw [← extended, List.append_assoc, List.singleton_append]
  · intro forPath
    rcases forPath with same | ⟨rest, extended, closed | open_⟩
    · exact .inl (.inl same)
    · exact .inl (.inr ⟨closed, rest, extended.symm⟩)
    · obtain ⟨later, rest_eq⟩ : ∃ later, rest = 47 :: later := by
        cases rest with
        | nil => cases open_
        | cons byte later =>
          cases open_
          exact ⟨later, rfl⟩
      refine .inr ⟨later, ?_⟩
      rw [extended, rest_eq, List.append_assoc, List.singleton_append]

/-- A text with a sign of equality is what is before the first one, and what is after it. -/
theorem pair_iff {pair name value : Binary} (plain : 61 ∉ name) :
    pair = name ++ 61 :: value ↔
      pair.takeWhile (· != 61) = name ∧ pair.dropWhile (· != 61) = 61 :: value := by
  constructor
  · intro same
    rw [same]
    refine Uri.takeWhile_exact (fun byte member => ?_) fun byte first => ?_
    · rw [bne_iff_ne]
      intro equals
      exact plain (equals ▸ member)
    · cases first
      rfl
  · intro ⟨before, after⟩
    rw [← before, ← after, List.takeWhile_append_dropWhile]

/-- What is before the first sign of equality has none. -/
theorem plain_takeWhile (pair : Binary) : 61 ∉ pair.takeWhile (· != 61) := by
  intro member
  have differs := List.mem_takeWhile_imp member
  simp at differs

/-- The cookie of an accepted Set-Cookie is the one that `set_cookie` makes of it. -/
theorem accepted_iff {setter value host : Binary} (hosted : hostOf library (Uri.parse setter) = some host)
    {cookie : Cookie} {deletes : Bool} :
    Accepted library setter value cookie deletes ↔
      ∃ cookieValue,
        (library.trim ((value.splitOn 59).headD [])).dropWhile (· != 61) = 61 :: cookieValue ∧
        cookie = {
          name := (library.trim ((value.splitOn 59).headD [])).takeWhile (· != 61)
          value := cookieValue
          domain := (cookieDomain library (setAttributes library value) host).1
          path := cookiePath (setAttributes library value) ((Uri.parse setter).path.getD [47])
          hostOnly := (cookieDomain library (setAttributes library value) host).2
          secure := ((setAttributes library value).lookup (ascii "secure")).isSome } ∧
        cookie.name ≠ [] ∧
        cookieDomainMatches host cookie.domain cookie.hostOnly = true ∧
        deletes = decide ((setAttributes library value).lookup (ascii "max-age") =
          some (some (ascii "0"))) := by
  constructor
  · intro accepted
    obtain ⟨own, found, forHost, domain⟩ := accepted.host
    have same : own = host := Option.some.inj (found.symm.trans hosted)
    rw [same] at forHost domain
    obtain ⟨before, after⟩ := (pair_iff accepted.named.2).mp accepted.pair
    refine ⟨cookie.value, after, ?_, accepted.named.1, cookieDomainMatches_iff.mpr forHost,
      accepted.deletes⟩
    rw [← domain, ← accepted.path, ← accepted.secure, before]
  · intro ⟨cookieValue, after, made, named, forHost, deleted⟩
    rw [made] at named
    refine ⟨?_, ?_, ⟨host, hosted, cookieDomainMatches_iff.mp forHost, ?_⟩, ?_, ?_, deleted⟩
    · rw [made]
      exact (pair_iff (plain_takeWhile _)).mpr ⟨rfl, after⟩
    · rw [made]
      exact ⟨named, plain_takeWhile _⟩
    · rw [made]
    · rw [made]
    · rw [made]

variable (library) in
/-- A Set-Cookie sets one cookie, deletes one, or is not accepted and changes nothing. -/
theorem setCookie_cases (setter value : Binary) (jar : Jar) :
    (∃ cookie deletes, (∀ other deletes', Accepted library setter value other deletes' ↔
        other = cookie ∧ deletes' = deletes) ∧
      setCookie library setter jar value =
        if deletes then jar.filter (·.1 ≠ cookie.key) else jar.put cookie.key cookie) ∨
    (∀ cookie deletes, ¬ Accepted library setter value cookie deletes) ∧
      setCookie library setter jar value = jar := by
  unfold setCookie
  dsimp only
  cases hosted : hostOf library (Uri.parse setter) with
  | none =>
    refine .inr ⟨fun cookie deletes accepted => ?_, rfl⟩
    obtain ⟨host, found, _⟩ := accepted.host
    rw [hosted] at found
    cases found
  | some host =>
    simp only [accepted_iff hosted]
    cases after : (library.trim ((value.splitOn 59).headD [])).dropWhile (· != 61) with
    | nil =>
      refine .inr ⟨fun cookie deletes => ?_, rfl⟩
      intro ⟨cookieValue, none_after, _⟩
      cases none_after
    | cons byte cookieValue =>
      have equals : byte = 61 := by
        have first := List.head?_dropWhile_not (· != 61)
          (library.trim ((value.splitOn 59).headD []))
        rw [after] at first
        simpa using first
      rw [equals]
      obtain ⟨made, making⟩ : ∃ made : Cookie, made = {
          name := (library.trim ((value.splitOn 59).headD [])).takeWhile (· != 61)
          value := cookieValue
          domain := (cookieDomain library (setAttributes library value) host).1
          path := cookiePath (setAttributes library value) ((Uri.parse setter).path.getD [47])
          hostOnly := (cookieDomain library (setAttributes library value) host).2
          secure := ((setAttributes library value).lookup (ascii "secure")).isSome } := ⟨_, rfl⟩
      by_cases allowed : made.name ≠ [] ∧ cookieDomainMatches host made.domain made.hostOnly = true
      · refine .inl ⟨made, decide ((setAttributes library value).lookup (ascii "max-age") =
          some (some (ascii "0"))), fun other deletes => ?_, ?_⟩
        · constructor
          · intro ⟨_, same, isMade, _, _, deleted⟩
            cases same
            exact ⟨isMade.trans making.symm, deleted⟩
          · intro ⟨isMade, deleted⟩
            rw [isMade]
            exact ⟨cookieValue, rfl, making, allowed.1, allowed.2, deleted⟩
        · rw [making] at allowed ⊢
          refine (if_pos allowed).trans ?_
          simp only [decide_eq_true_eq]
          rfl
      · refine .inr ⟨fun other deletes => ?_, ?_⟩
        · intro ⟨_, same, isMade, named, forHost, _⟩
          cases same
          rw [isMade.trans making.symm] at named forHost
          exact allowed ⟨named, forHost⟩
        · rw [making] at allowed
          exact if_neg allowed

end Acceptance

section Jars

variable {library : Library} {setCookies : SetCookies} {setter value : Binary} {cookie : Cookie}

/-- Nothing is kept of no Set-Cookie. -/
theorem not_kept_nil : ¬ KeptCookie library [] cookie := by
  intro ⟨before, setter, value, after, same, _⟩
  cases before <;> cases same

/-- What is kept after another Set-Cookie: the cookie it sets, and those of the other keys. -/
theorem kept_snoc : KeptCookie library (setCookies ++ [(setter, value)]) cookie ↔
    Accepted library setter value cookie false ∨ KeptCookie library setCookies cookie ∧
      ∀ other deletes, Accepted library setter value other deletes → other.key ≠ cookie.key := by
  constructor
  · intro ⟨before, own, offered, after, same, accepted, later⟩
    cases after.eq_nil_or_concat with
    | inl none_after =>
      rw [none_after] at same
      have last := (List.append_inj' same rfl).2
      cases last
      exact .inl accepted
    | inr some_after =>
      obtain ⟨between, final, after_eq⟩ := some_after
      rw [List.concat_eq_append] at after_eq
      rw [after_eq, ← List.cons_append, ← List.append_assoc] at same
      obtain ⟨earlier, last⟩ := List.append_inj' same rfl
      cases last
      refine .inr ⟨⟨before, own, offered, between, earlier, accepted, ?_⟩, ?_⟩
      · intro middle member
        exact later middle (after_eq ▸ List.mem_append_left _ member)
      · exact later (setter, value) (after_eq ▸ List.mem_append_right _ List.mem_cons_self)
  · intro kept
    cases kept with
    | inl accepted =>
      refine ⟨setCookies, setter, value, [], rfl, accepted, ?_⟩
      intro later member
      cases member
    | inr earlier =>
      obtain ⟨⟨before, own, offered, after, same, accepted, later⟩, apart⟩ := earlier
      refine ⟨before, own, offered, after ++ [(setter, value)], ?_, accepted, ?_⟩
      · rw [same, List.append_assoc, List.cons_append]
      · intro final member
        cases List.mem_append.mp member with
        | inl between => exact later final between
        | inr last =>
          rw [List.mem_singleton.mp last]
          exact apart

/-- A jar holds what the Set-Cookies of a chain leave, each cookie under its key. -/
structure Holds (library : Library) (jar : Jar) (setCookies : SetCookies) : Prop where
  sorted : Sorted jar
  entries : ∀ entry, entry ∈ jar ↔
    entry.1 = entry.2.key ∧ KeptCookie library setCookies entry.2

/-- The empty jar holds what no Set-Cookie leaves. -/
theorem holds_nil : Holds library [] [] := by
  refine ⟨List.Pairwise.nil, fun entry => ?_⟩
  constructor
  · intro member
    cases member
  · intro kept
    exact absurd kept.2 not_kept_nil

/-- A Set-Cookie keeps a jar what it should be. -/
theorem Holds.setCookie {jar : Jar} (holds : Holds library jar setCookies) :
    Holds library (setCookie library setter jar value) (setCookies ++ [(setter, value)]) := by
  cases setCookie_cases library setter value jar with
  | inr ignored =>
    obtain ⟨refused, same⟩ := ignored
    rw [same]
    refine ⟨holds.sorted, fun entry => ?_⟩
    rw [kept_snoc, holds.entries]
    have never := refused entry.2 false
    have apart : ∀ other deletes, Accepted library setter value other deletes →
        other.key ≠ entry.2.key := fun other deletes accepted => absurd accepted (refused other deletes)
    grind
  | inl changed =>
    obtain ⟨cookie, deletes, only, same⟩ := changed
    have keys {key : CookieKey} : (∀ other deletes', Accepted library setter value other deletes' →
        other.key ≠ key) ↔ cookie.key ≠ key := by
      constructor
      · intro apart
        exact apart cookie deletes ((only cookie deletes).mpr ⟨rfl, rfl⟩)
      · intro apart other deletes' accepted
        rw [((only other deletes').mp accepted).1]
        exact apart
    rw [same]
    cases deletes with
    | true =>
      refine ⟨holds.sorted.sublist List.filter_sublist, fun entry => ?_⟩
      rw [if_pos rfl, List.mem_filter, kept_snoc, keys, only, holds.entries, decide_eq_true_eq]
      grind
    | false =>
      refine ⟨put_sorted holds.sorted, fun entry => ?_⟩
      rw [if_neg Bool.false_ne_true, mem_put holds.sorted, kept_snoc, keys, only, holds.entries,
        Prod.ext_iff]
      grind

/-- The Set-Cookies of a response keep a jar what it should be. -/
theorem Holds.collectCookies {jar : Jar} {headers : Headers}
    (holds : Holds library jar setCookies) :
    Holds library (collectCookies library headers jar setter)
      (setCookies ++ (headerValues library headers (ascii "set-cookie")).map
        fun value => (setter, value)) := by
  unfold Distribution.collectCookies
  generalize headerValues library headers (ascii "set-cookie") = values
  induction values generalizing jar setCookies with
  | nil =>
    rw [List.map_nil, List.append_nil]
    exact holds
  | cons value values ih =>
    have kept : Holds library (Distribution.setCookie library setter jar value)
        (setCookies ++ [(setter, value)]) := holds.setCookie
    have rest := ih kept
    rwa [List.append_assoc] at rest

/-- The check of a cookie decides whether its host, its path and its scheme admit it. -/
theorem cookieAvailable_iff {host : Option Binary} {path : Binary} {scheme : Option Binary} :
    cookieAvailable cookie host path scheme = true ↔
      (∃ own, host = some own ∧ ForHost cookie own) ∧ ForPath cookie path ∧
        (cookie.secure = true → scheme = some https) := by
  unfold cookieAvailable
  rw [Bool.and_eq_true, Bool.and_eq_true, Option.any_eq_true, cookiePathMatches_iff, and_assoc]
  simp only [cookieDomainMatches_iff]
  have secure : (!cookie.secure || scheme == some (ascii "https")) = true ↔
      (cookie.secure = true → scheme = some https) := by
    cases cookie.secure with
    | true => simp [https]
    | false => simp
  rw [secure]

/-- A jar has each key once. -/
theorem Holds.keys {jar : Jar} (holds : Holds library jar setCookies) :
    ((jar.map (·.2)).map Cookie.key).Nodup := by
  have own : (jar.map (·.2)).map Cookie.key = jar.map (·.1) := by
    rw [List.map_map]
    refine List.map_congr_left fun entry member => ?_
    exact ((holds.entries entry).mp member).1.symm
  rw [own, List.Nodup, List.pairwise_map]
  refine holds.sorted.imp fun {a b} less same => ?_
  rw [same] at less
  exact keyBelow_irrefl _ less

/-- Cookies are named by a text that is not empty. -/
theorem cookieText_nil {cookies : List Cookie} : cookieText cookies = [] ↔ cookies = [] := by
  have equals : ascii "=" = [61] := by decide +kernel
  unfold cookieText
  constructor
  · intro empty
    cases cookies with
    | nil => rfl
    | cons cookie cookies =>
      cases cookies with
      | nil => simp [equals] at empty
      | cons next cookies => simp [equals] at empty
  · intro none_given
    rw [none_given]
    rfl

/-- The cookies of a jar that a request carries, by name. -/
def carriedCookies (library : Library) (jar : Jar) (url : Binary) : List Cookie :=
  ((jar.map (·.2)).filter fun cookie => cookieAvailable cookie (hostOf library (Uri.parse url))
    ((Uri.parse url).path.getD [47]) (Uri.parse url).scheme).mergeSort fun a b => !below b.name a.name

/-- The headers of a request name the cookies that it carries. -/
theorem cookieHeaders_eq (library : Library) (jar : Jar) (url : Binary) :
    cookieHeaders library jar url =
      if carriedCookies library jar url = [] then []
      else [(ascii "cookie", cookieText (carriedCookies library jar url))] := by
  unfold cookieHeaders
  split
  · next empty =>
    have none_carried : carriedCookies library jar url = [] := by
      rw [carriedCookies, List.isEmpty_iff.mp empty]
      simp
    rw [if_pos none_carried]
  · dsimp only
    change (if cookieText (carriedCookies library jar url) = [] then []
      else [(ascii "cookie", cookieText (carriedCookies library jar url))]) = _
    simp only [cookieText_nil]

/-- The cookies of a jar that a request carries, in any order. -/
theorem carriedCookies_perm (jar : Jar) (url : Binary) :
    (carriedCookies library jar url).Perm ((jar.map (·.2)).filter fun cookie =>
      cookieAvailable cookie (hostOf library (Uri.parse url)) ((Uri.parse url).path.getD [47])
        (Uri.parse url).scheme) :=
  List.mergeSort_perm _ _

/-- A request carries each cookie once. -/
theorem carriedCookies_keys {jar : Jar} {url : Binary} (holds : Holds library jar setCookies) :
    ((carriedCookies library jar url).map Cookie.key).Nodup := by
  have within : ((jar.map (·.2)).filter fun cookie =>
      cookieAvailable cookie (hostOf library (Uri.parse url)) ((Uri.parse url).path.getD [47])
        (Uri.parse url).scheme).Sublist (jar.map (·.2)) := List.filter_sublist
  exact ((carriedCookies_perm jar url).map Cookie.key).nodup_iff.mpr
    (holds.keys.sublist (within.map Cookie.key))

/-- A request carries the cookies of a jar that the Set-Cookies leave and its URL admits. -/
theorem mem_carriedCookies {jar : Jar} {url : Binary} (holds : Holds library jar setCookies) :
    cookie ∈ carriedCookies library jar url ↔ Carried library setCookies url cookie := by
  have kept : cookie ∈ jar.map (·.2) ↔ KeptCookie library setCookies cookie := by
    rw [List.mem_map]
    constructor
    · intro ⟨entry, member, same⟩
      rw [← same]
      exact ((holds.entries entry).mp member).2
    · intro kept
      exact ⟨(cookie.key, cookie), (holds.entries _).mpr ⟨rfl, kept⟩, rfl⟩
  rw [(carriedCookies_perm jar url).mem_iff, List.mem_filter, cookieAvailable_iff, kept]
  exact Iff.rfl

end Jars

section Requests

variable {library : Library} {auth : EarthdataAuth} {opts : Options} {source : SourceType}
  {past : Past}

/-- A program that names in each request the cookies it carries, whatever it is answered. -/
abbrev KeepsCookies {α : Type} (library : Library) (post : Past → Except Raised α → Prop)
    (past : Past) (program : Action α) : Prop :=
  program.Keeps (CarriesCookies library) (fun _ _ _ => True) post past

/-- A quiet call is no request and receives nothing. -/
theorem received_quiet {request : Call} (answer : Answer request) (quiet : Quiet request) :
    received (⟨request, answer⟩ :: past) = received past := by
  cases request <;> first | rfl | exact quiet.elim

/-- Quiet programs receive nothing. -/
theorem quiet_cookies {α : Type} {program : Action α} (quiet : program.Uses Quiet) :
    KeepsCookies library (fun after _ => received after = received past) past program := by
  refine quiet.keeps ?_ ?_ rfl
  · intro history request _ allowed url headers requests
    cases requests with
    | inl custom => exact (custom ▸ allowed : Quiet (.getCustom url headers)).elim
    | inr req =>
      obtain ⟨limit, same⟩ := req
      exact (same ▸ allowed : Quiet (.getReq url headers limit)).elim
  · intro history request answer allowed same
    exact (received_quiet answer allowed).trans same

/-- Credentials are no cookies. -/
theorem authHeaders_named (url : Binary) :
    (authHeaders library url source auth).Returns fun outcome =>
      ∀ headers, outcome = .ok headers → headers.filter (·.1 = ascii "cookie") = [] := by
  have other : ∀ value : Binary, [(authorization, value)].filter (·.1 = ascii "cookie") = [] := by
    have differs : authorization ≠ ascii "cookie" := by decide +kernel
    intro value
    simp [differs]
  unfold authHeaders
  cases source with
  | nasaCddis =>
    dsimp only
    split
    · simp
    · cases auth.bearerToken with
      | some token =>
        intro headers same
        cases same
        exact other _
      | none =>
        dsimp only
        split
        · refine (Program.returns_any _).bind fun read _ => ?_
          cases read with
          | error reason => simp
          | ok credentials =>
            intro headers same
            cases same
            exact other _
        · simp
  | direct => simp
  | localFile => simp
  | inMemory => simp

/-- The headers of a request name the cookies that the Set-Cookies leave and its URL admits. -/
theorem headers_carry {setCookies : SetCookies} {jar : Jar} {headers : List Header} (url : Binary)
    (holds : Holds library jar setCookies) (plain : headers.filter (·.1 = ascii "cookie") = []) :
    ∃ cookies : List Cookie, NamesCookies (headers ++ cookieHeaders library jar url) cookies ∧
      (cookies.map Cookie.key).Nodup ∧
      ∀ cookie, cookie ∈ cookies ↔ Carried library setCookies url cookie := by
  refine ⟨carriedCookies library jar url, ?_, carriedCookies_keys holds,
    fun cookie => mem_carriedCookies holds⟩
  unfold NamesCookies
  rw [List.filter_append, plain, List.nil_append, cookieHeaders_eq]
  split
  · rfl
  · simp

/-- A request names the cookies it carries, and its response is received. -/
theorem requestHttp_cookies {jar : Jar} {url : Binary} {headers : List Header}
    (holds : Holds library jar (receivedCookies library past))
    (plain : headers.filter (·.1 = ascii "cookie") = []) :
    KeepsCookies library
      (fun after outcome => ∀ response, outcome = .ok (.ok response) →
        received after = (url, response.headers) :: received past)
      past (requestHttp url (headers ++ cookieHeaders library jar url) opts) := by
  have carried := headers_carry url holds plain
  unfold requestHttp
  cases opts.httpClient with
  | invalid =>
    intro response same
    cases same
  | custom =>
    refine ⟨?_, fun answer _ => ?_⟩
    · intro own sent requests
      cases requests with
      | inl same =>
        cases same
        exact carried
      | inr req =>
        obtain ⟨_, same⟩ := req
        cases same
    · cases answer with
      | response status received body =>
        cases body with
        | none =>
          intro response same
          cases same
        | some body =>
          intro response same
          cases same
          rfl
      | failed transportError reason =>
        dsimp only [Program.bind]
        cases customRetryableTransportKind transportError reason with
        | none =>
          intro response same
          cases same
        | some kind =>
          intro response same
          cases same
      | invalid =>
        intro response same
        cases same
      | raised =>
        intro response same
        cases same
      | thrown =>
        intro response same
        cases same
      | exited =>
        intro response same
        cases same
  | req =>
    refine ⟨?_, fun answer _ => ?_⟩
    · intro own sent requests
      cases requests with
      | inl same => cases same
      | inr req =>
        obtain ⟨_, same⟩ := req
        cases same
        exact carried
    · cases answer with
      | response status received body overflow =>
        dsimp only [Program.bind]
        cases enforceStreamedSize status overflow (archiveLimit opts) with
        | error reason =>
          intro response same
          cases same
        | ok _ =>
          intro response same
          cases same
          rfl
      | failed reason =>
        intro response same
        cases same
      | raised =>
        intro response same
        cases same

/-- A response keeps the cookies when what it is followed by does. -/
theorem handleResponse_cookies {response : Response} {current original : Binary}
    {follow : Option (Binary → Action (Except Reason Fetched))}
    (follows : ∀ next ∈ follow, ∀ target after, received after = received past →
      KeepsCookies library (fun _ _ => True) after (next target)) :
    KeepsCookies library (fun _ _ => True) past
      (handleResponse library response current original source auth opts follow) := by
  cases handleResponse_cases library response current original source auth opts follow with
  | inr concluded =>
    rw [concluded]
    trivial
  | inl redirected =>
    obtain ⟨next, location, known, _, _, redirected⟩ := redirected
    rw [redirected]
    have resolved : KeepsCookies library (fun after _ => received after = received past) past
        (redirectTarget library current response.status location source) :=
      quiet_cookies (redirectTarget_uses current response.status location source)
    refine resolved.bind (fun after outcome same => ?_) fun _ _ _ => trivial
    cases outcome with
    | ok target => exact follows next known target after same
    | error reason => trivial

/-- A hop keeps the cookies when what follows it does. -/
theorem hop_cookies {original current : Binary} {redirectsLeft : Nat} {jar : Jar}
    (holds : Holds library jar (receivedCookies library past))
    (follows : ∀ jar, ∀ next ∈ followed library original source auth opts jar redirectsLeft,
      ∀ target after, Holds library jar (receivedCookies library after) →
        KeepsCookies library (fun _ _ => True) after (next target)) :
    KeepsCookies library (fun _ _ => True) past
      (doDownloadOnce library original source auth opts redirectsLeft current jar) := by
  rw [doDownloadOnce_eq]
  cases validateUrl library current source with
  | error reason => trivial
  | ok _ =>
    have credentials : KeepsCookies library (fun after outcome =>
        received after = received past ∧ ∀ value, outcome = .ok value → ∀ headers,
          value = .ok headers → headers.filter (·.1 = ascii "cookie") = [])
        past (authHeaders library current source auth) :=
      (quiet_cookies (authHeaders_quiet current source)).and_returns (authHeaders_named current)
    refine credentials.bind (fun before outcome read => ?_) fun _ _ _ => trivial
    cases outcome with
    | error reason => trivial
    | ok headers =>
      have plain := read.2 _ rfl headers rfl
      have held : Holds library jar (receivedCookies library before) := by
        rw [receivedCookies, read.1]
        exact holds
      refine (requestHttp_cookies held plain).bind (fun after outcome answered => ?_)
        fun _ _ _ => trivial
      cases outcome with
      | error reason => trivial
      | ok response =>
        have collected : Holds library (collectCookies library response.headers jar current)
            (receivedCookies library after) := by
          have next : Holds library (Distribution.collectCookies library response.headers jar current) _ :=
            held.collectCookies
          rw [receivedCookies, answered response rfl, List.reverse_cons, List.flatMap_append,
            List.flatMap_singleton]
          exact next
        refine handleResponse_cookies fun next known target later same => ?_
        refine follows _ next known target later ?_
        rw [receivedCookies, same]
        exact collected

/-- A chain from a jar that holds what was received names in each request the cookies it carries. -/
theorem doDownloadOnce_cookies {original current : Binary} {redirectsLeft : Nat} {jar : Jar}
    (holds : Holds library jar (receivedCookies library past)) :
    KeepsCookies library (fun _ _ => True) past
      (doDownloadOnce library original source auth opts redirectsLeft current jar) := by
  induction redirectsLeft generalizing current jar past with
  | zero =>
    apply hop_cookies holds
    intro jar next absent
    cases absent
  | succ redirectsLeft ih =>
    apply hop_cookies holds
    intro jar next given target after held
    cases given
    exact ih held

end Requests

/-- In every chain of responses each request names exactly the cookies that the last accepted
Set-Cookie of their key set and that the host, the path and the scheme of its URL admit. -/
theorem download_carries_cookies (library : Library) (original : Binary) (source : SourceType)
    (auth : EarthdataAuth) (opts : Options) :
    Program.Keeps (CarriesCookies library) (fun _ _ _ => True) (fun _ _ => True) []
      (doDownloadOnce library original source auth opts maxRedirects original []) :=
  doDownloadOnce_cookies holds_nil

/-- A secure cookie of a domain, which was set by one of its hosts. -/
def secureJar : Jar :=
  setCookie plainLibrary (ascii "https://cddis.nasa.gov/a/b") []
    (ascii "s=1;domain=.nasa.gov;secure")

example : (carriedCookies plainLibrary secureJar (ascii "https://urs.nasa.gov/a/c")).map (·.name) =
      [ascii "s"] ∧
    (carriedCookies plainLibrary secureJar (ascii "http://urs.nasa.gov/a/c")).length = 0 := by
  decide +kernel

end Sidereon.Distribution
