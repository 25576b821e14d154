import Sidereon.Foundation.Uri

/-!
# Hosts of printed URIs

A host that was read of bytes is read again of the reference it is printed in: its brackets, the
user information before it and the port after it do not run into each other.
-/

namespace Foundation.Uri

variable {text : Binary} {uri : Uri}

/-- What a host looks like that was read: it ends no authority, has no `@` in its first line and no
brackets around it, and a colon only in what brackets may hold. -/
structure IsHost (host : Binary) : Prop where
  within : ∀ byte ∈ host, inAuthority byte = true
  plain : Plain host
  unopened : host.head? ≠ some 91
  unclosed : host.getLast? ≠ some 93
  colons : 58 ∈ host → ∀ byte ∈ host, inBrackets byte = true

/-- What user information looks like that was read. -/
structure IsUserinfo (userinfo : Binary) : Prop where
  within : ∀ byte ∈ userinfo, inAuthority byte = true
  single : 10 ∉ userinfo

/-- Bytes that brackets may hold are no brackets. -/
theorem inBrackets_ne {byte : UInt8} (inside : inBrackets byte = true) : byte ≠ 91 ∧ byte ≠ 93 := by
  constructor
  · rintro rfl
    revert inside
    decide
  · rintro rfl
    revert inside
    decide

/-- Without brackets around it a host is kept. -/
theorem unbracket_eq {host : Binary} (unopened : host.head? ≠ some 91)
    (unclosed : host.getLast? ≠ some 93) : unbracket host = host := by
  have front : host.dropWhile (· == 91) = host := by
    cases host with
    | nil => rfl
    | cons byte rest =>
      have other : byte ≠ 91 := by simpa using unopened
      simp [other]
  have back : host.reverse.dropWhile (· == 93) = host.reverse := by
    rw [← List.head?_reverse] at unclosed
    cases reversed : host.reverse with
    | nil => rfl
    | cons byte rest =>
      rw [reversed] at unclosed
      have other : byte ≠ 93 := by simpa using unclosed
      simp [other]
  rw [unbracket, front, back, List.reverse_reverse]

/-- Brackets around such a host are removed. -/
theorem unbracket_bracketed {host : Binary} (nonempty : host ≠ []) (unopened : host.head? ≠ some 91)
    (unclosed : host.getLast? ≠ some 93) : unbracket (91 :: host ++ [93]) = host := by
  have front : (91 :: host ++ [93] : Binary).dropWhile (· == 91) = host ++ [93] := by
    cases host with
    | nil => exact absurd rfl nonempty
    | cons byte rest =>
      have other : byte ≠ 91 := by simpa using unopened
      simp [other]
  have back : (host ++ [93] : Binary).reverse.dropWhile (· == 93) =
      host.reverse.dropWhile (· == 93) := by
    simp
  have kept := unbracket_eq unopened unclosed
  have same : host.dropWhile (· == 91) = host := by
    cases host with
    | nil => rfl
    | cons byte rest =>
      have other : byte ≠ 91 := by simpa using unopened
      simp [other]
  rw [unbracket, same] at kept
  rw [unbracket, front, back, kept]

/-- What is left of a host without its brackets neither starts nor ends with one. -/
theorem unbracket_ends (host : Binary) :
    (unbracket host).head? ≠ some 91 ∧ (unbracket host).getLast? ≠ some 93 := by
  unfold unbracket
  generalize inner_eq : host.dropWhile (· == 91) = inner
  have opened : inner.head? ≠ some 91 := by
    intro first
    have stops := List.head?_dropWhile_not (· == 91) host
    rw [inner_eq, first] at stops
    simp at stops
  constructor
  · have part : (inner.reverse.dropWhile (· == 93)).reverse <+: inner := by
      rw [← List.reverse_suffix, List.reverse_reverse]
      exact List.dropWhile_suffix _
    obtain ⟨rest, whole⟩ := part
    intro first
    apply opened
    rw [← whole, List.head?_append, first]
    rfl
  · rw [List.getLast?_reverse]
    intro first
    have stops := List.head?_dropWhile_not (· == 93) inner.reverse
    rw [first] at stops
    simp at stops

/-- A host before a port is read as it was printed. -/
theorem splitHost_printed {host port : Binary} (form : IsHost host) (nonempty : host ≠ [])
    (ends : port = [] ∨ ∃ digits, port = 58 :: digits) :
    (splitHost (printHost host ++ port)).1 = printHost host := by
  have colon : ∀ byte, port.head? = some byte → (byte != 58) = false := by
    intro byte first
    rcases ends with rfl | ⟨digits, rfl⟩
    · cases first
    · cases first
      rfl
  unfold printHost
  split
  · next colons =>
    have closing : ∀ byte, (93 :: port).head? = some byte → inBrackets byte = false := by
      intro byte first
      cases first
      decide
    have exact := takeWhile_exact (form.colons colons) closing
    have text : 91 :: host ++ [93] ++ port = 91 :: (host ++ 93 :: port) := by simp
    rw [text, splitHost, exact.2]
    simp only [exact.1]
  · next plainly =>
    have inside : ∀ byte ∈ host, (byte != 58) = true := by
      intro byte member
      simpa using fun (same : byte = 58) => plainly (same ▸ member)
    have exact := takeWhile_exact inside colon
    obtain ⟨first, rest, rfl⟩ := List.exists_cons_of_ne_nil nonempty
    have other : first ≠ 91 := by simpa using form.unopened
    rw [splitHost.eq_def]
    split
    · next more same => exact absurd (List.cons.inj same).1 other
    · exact exact.1

/-- User information before a plain rest is read as it was printed. -/
theorem splitUserinfo_append {userinfo rest : Binary} (single : 10 ∉ userinfo)
    (plain : Plain rest) :
    splitUserinfo (userinfo ++ 64 :: rest) = (nillify userinfo, rest) := by
  have line : firstLine (userinfo ++ 64 :: rest) = userinfo ++ 64 :: firstLine rest := by
    rw [firstLine_append, if_neg single]
    rfl
  have after : ((userinfo ++ 64 :: firstLine rest).reverse.takeWhile (· != 64)).reverse =
      firstLine rest := by
    have inside : ∀ byte ∈ (firstLine rest).reverse, (byte != 64) = true := by
      intro byte member
      rw [List.mem_reverse] at member
      simpa using fun (same : byte = 64) => plain (same ▸ member)
    have stop : ∀ byte, (64 :: userinfo.reverse).head? = some byte → (byte != 64) = false := by
      intro byte first
      cases first
      rfl
    have exact := takeWhile_exact inside stop
    have reversed : (userinfo ++ 64 :: firstLine rest).reverse =
        (firstLine rest).reverse ++ 64 :: userinfo.reverse := by simp
    rw [reversed, exact.1, List.reverse_reverse]
  have found : 64 ∈ userinfo ++ 64 :: firstLine rest := by simp
  have taken : (userinfo ++ 64 :: firstLine rest).length - (firstLine rest).length - 1 =
      userinfo.length := by
    rw [List.length_append, List.length_cons]
    omega
  have dropped : ∀ line tail : Binary,
      (userinfo ++ 64 :: (line ++ tail)).drop (userinfo ++ 64 :: line).length = tail := by
    intro line tail
    have split : userinfo ++ 64 :: (line ++ tail) = (userinfo ++ 64 :: line) ++ tail := by simp
    rw [split, List.drop_left]
  have whole : firstLine rest ++ rest.dropWhile (· != 10) = rest :=
    List.takeWhile_append_dropWhile
  have tail := dropped (firstLine rest) (rest.dropWhile (· != 10))
  rw [whole] at tail
  simp only [splitUserinfo, line, if_pos found, after, taken, tail, whole, List.take_left]

/-- A host that is read with a colon in it has brackets around what they may hold. -/
theorem splitHost_colons (colon : 58 ∈ (splitHost text).1) :
    ∃ inner, (splitHost text).1 = 91 :: inner ++ [93] ∧ ∀ byte ∈ inner, inBrackets byte = true := by
  have plainly : ∀ rest : Binary, 58 ∉ rest.takeWhile (· != 58) := by
    intro rest member
    simpa using List.mem_takeWhile_imp member
  unfold splitHost at colon ⊢
  split at colon
  · next rest =>
    split at colon
    · next after closed =>
      refine ⟨rest.takeWhile inBrackets, ?_, fun byte member => List.mem_takeWhile_imp member⟩
      rfl
    · exact absurd colon (plainly _)
  · exact absurd colon (plainly _)

/-- The host that is read of bytes. -/
theorem parse_isHost {host : Binary} (found : (parse text).host = some host) : IsHost host := by
  obtain ⟨within, plain⟩ := parse_host found
  simp only [parse] at found
  split at found
  · obtain rfl := Option.some.inj found
    constructor
    · exact within
    · exact plain
    · simp
    · simp
    · simp
  · obtain ⟨printed, nilled, rfl⟩ := Option.map_eq_some_iff.mp found
    have ends := unbracket_ends printed
    constructor
    · exact within
    · exact plain
    · exact ends.1
    · exact ends.2
    · intro colon
      have among : 58 ∈ printed := by
        have reversed := (List.dropWhile_sublist _).subset (List.mem_reverse.mp colon)
        exact (List.dropWhile_sublist _).subset (List.mem_reverse.mp reversed)
      have read : (splitHost (splitUserinfo ((splitAuthority (splitScheme text).2).1.getD [])).2).1 =
          printed := by
        unfold nillify at nilled
        split at nilled
        · cases nilled
        · exact Option.some.inj nilled
      rw [← read] at among
      obtain ⟨inner, bracketed, inside⟩ := splitHost_colons among
      have nonempty : inner ≠ [] := by
        rintro rfl
        rw [bracketed] at among
        revert among
        decide
      have unopened : inner.head? ≠ some 91 := fun first =>
        (inBrackets_ne (inside 91 (List.mem_of_mem_head? first))).1 rfl
      have unclosed : inner.getLast? ≠ some 93 := fun last =>
        (inBrackets_ne (inside 93 (List.mem_of_getLast? last))).2 rfl
      rw [← read, bracketed, unbracket_bracketed nonempty unopened unclosed]
      exact inside

/-- The user information that is read of bytes. -/
theorem parse_isUserinfo {userinfo : Binary} (found : (parse text).userinfo = some userinfo) :
    IsUserinfo userinfo := by
  simp only [parse] at found
  generalize authority_eq : (splitAuthority (splitScheme text).2).1.getD [] = authority at found
  have within : ∀ byte ∈ authority, inAuthority byte = true := by
    intro byte member
    rw [← authority_eq] at member
    unfold splitAuthority at member
    split at member
    · exact List.mem_takeWhile_imp (by simpa using member)
    · simp at member
  simp only [splitUserinfo] at found
  split at found
  · have part : userinfo ⊆ firstLine authority := by
      unfold nillify at found
      split at found
      · cases found
      · obtain rfl := Option.some.inj found
        exact List.take_subset _ _
    constructor
    · intro byte member
      exact within byte (List.takeWhile_subset _ (part member))
    · intro member
      simpa using List.mem_takeWhile_imp (part member)
  · cases found

/-- What a reference prints after its authority. -/
def afterAuthority (uri : Uri) : Binary :=
  uri.path.getD [] ++ (uri.query.elim [] fun query => 63 :: query) ++
    uri.fragment.elim [] fun fragment => 35 :: fragment

/-- What is printed after an authority ends it. -/
theorem afterAuthority_ends (printed : uri.toString? = some text)
    (hosted : uri.host.isSome = true) :
    ∀ byte, (afterAuthority uri).head? = some byte → inAuthority byte = false := by
  intro byte first
  have follows : ¬(uri.host.isSome = true ∧
      uri.path.any (fun path => path ≠ [] ∧ path.head? ≠ some 47) = true) := by
    intro clash
    rw [toString?, if_pos clash] at printed
    cases printed
  have behind : ((uri.query.elim [] fun query => 63 :: query) ++
      uri.fragment.elim [] fun fragment => 35 :: fragment).head? = some byte →
        inAuthority byte = false := by
    intro first
    cases queried : uri.query with
    | some query =>
      rw [queried] at first
      cases first
      decide
    | none =>
      cases ended : uri.fragment with
      | some fragment =>
        rw [queried, ended] at first
        cases first
        decide
      | none =>
        rw [queried, ended] at first
        cases first
  rw [afterAuthority, List.append_assoc] at first
  cases pathed : uri.path with
  | none =>
    rw [pathed] at first
    exact behind first
  | some path =>
    rw [pathed, Option.getD_some] at first
    cases path with
    | nil => exact behind first
    | cons slash more =>
      have absolute : slash = 47 := by
        by_contra other
        exact follows ⟨hosted, by simpa [pathed] using other⟩
      rw [absolute] at first
      cases first
      decide

/-- A printed reference with a host has its scheme, its authority and the rest in order. -/
theorem splitAuthority_printed {authority : Binary} (printed : uri.toString? = some text)
    (scheme : ∀ scheme, uri.scheme = some scheme → IsScheme scheme)
    (hosted : uri.host.isSome = true) (printedAs : uri.printAuthority = some authority)
    (within : ∀ byte ∈ authority, inAuthority byte = true) :
    splitAuthority (splitScheme text).2 = (some authority, afterAuthority uri) := by
  have shape : text = (uri.scheme.elim [] fun scheme => scheme ++ [58]) ++
      (47 :: 47 :: (authority ++ afterAuthority uri)) := by
    rw [toString_eq printed, printedAs, afterAuthority]
    simp
  have remaining : (splitScheme text).2 = 47 :: 47 :: (authority ++ afterAuthority uri) := by
    cases schemed : uri.scheme with
    | none =>
      rw [schemed] at shape
      rw [shape]
      rfl
    | some found =>
      rw [schemed] at shape
      simp only [Option.elim_some, List.append_assoc, List.cons_append, List.nil_append] at shape
      rw [shape, splitScheme_append (scheme found schemed)]
  have exact := takeWhile_exact within (afterAuthority_ends printed hosted)
  rw [remaining, splitAuthority, exact.1, exact.2]

/-- A printed reference is read with the host it was printed from. -/
theorem toString_host {host : Binary} (printed : uri.toString? = some text)
    (scheme : ∀ scheme, uri.scheme = some scheme → IsScheme scheme)
    (hosted : uri.host = some host) (form : IsHost host) (nonempty : host ≠ [])
    (userinfo : ∀ userinfo, uri.userinfo = some userinfo → IsUserinfo userinfo) :
    (parse text).host = some host := by
  obtain ⟨hostBytes, hostPlain⟩ := printHost_plain form.within form.plain
  obtain ⟨portBytes, portPlain⟩ :=
    printPort_plain (if uri.scheme.bind defaultPort = uri.port then none else uri.port)
  generalize port_eq : ((if uri.scheme.bind defaultPort = uri.port then none else uri.port).elim []
    fun port => 58 :: decimal port : Binary) = port at portBytes portPlain
  have portEnds : port = [] ∨ ∃ digits, port = 58 :: digits := by
    rw [← port_eq]
    cases if uri.scheme.bind defaultPort = uri.port then none else uri.port with
    | none => exact .inl rfl
    | some port => exact .inr ⟨_, rfl⟩
  have hostPort : Plain (printHost host ++ port) := hostPlain.append portPlain
  have hostPortBytes : ∀ byte ∈ printHost host ++ port, inAuthority byte = true := by
    intro byte member
    rcases List.mem_append.mp member with inside | inside
    · exact hostBytes byte inside
    · exact portBytes byte inside
  have printedHost : printHost host ≠ [] := by
    unfold printHost
    split
    · simp
    · exact nonempty
  obtain ⟨authority, printedAs, bytes, rest, filled⟩ : ∃ authority,
      uri.printAuthority = some authority ∧ (∀ byte ∈ authority, inAuthority byte = true) ∧
        (splitUserinfo authority).2 = printHost host ++ port ∧ authority ≠ [] := by
    have given : uri.printAuthority = some ((uri.userinfo.elim [] fun userinfo => userinfo ++ [64]) ++
        printHost host ++ port) := by
      rw [printAuthority, hosted, ← port_eq]
    refine ⟨_, given, ?_⟩
    cases informed : uri.userinfo with
    | none =>
      rw [Option.elim_none, List.nil_append, splitUserinfo_plain hostPort]
      exact ⟨hostPortBytes, rfl, by simp [printedHost]⟩
    | some info =>
      have form := userinfo info informed
      have text : info ++ [64] ++ printHost host ++ port = info ++ 64 :: (printHost host ++ port) := by
        simp
      rw [Option.elim_some, text, splitUserinfo_append form.single hostPort]
      refine ⟨?_, rfl, by simp⟩
      intro byte member
      rcases List.mem_append.mp member with inside | inside
      · exact form.within byte inside
      · rcases List.mem_cons.mp inside with rfl | inside
        · decide
        · exact hostPortBytes byte inside
  have split := splitAuthority_printed printed scheme (by simp [hosted]) printedAs bytes
  have read := splitHost_printed form nonempty portEnds
  have nilled : nillify (printHost host) = some (printHost host) := if_neg printedHost
  have kept : unbracket (printHost host) = host := by
    unfold printHost
    split
    · exact unbracket_bracketed nonempty form.unopened form.unclosed
    · exact unbracket_eq form.unopened form.unclosed
  have authored : ¬some authority = some ([] : Binary) := by simpa using filled
  simp only [parse, split, Option.getD_some, rest, read, nilled, if_neg authored, Option.map_some,
    kept]

section Merged

variable {base relative : Uri}

/-- A merged reference has each part of what it was merged of, and host and user information of the
same one. -/
theorem merge_parts (merged : base.merge? relative = some uri) :
    (uri.scheme = base.scheme ∨ uri.scheme = relative.scheme) ∧
      (uri.host = base.host ∧ uri.userinfo = base.userinfo ∨
        uri.host = relative.host ∧ uri.userinfo = relative.userinfo) := by
  unfold merge? at merged
  split at merged
  · cases merged
  · split at merged
    · cases merged
      exact ⟨.inr rfl, .inr ⟨rfl, rfl⟩⟩
    · split at merged
      · cases merged
        exact ⟨.inl rfl, .inr ⟨rfl, rfl⟩⟩
      · split at merged
        · cases merged
          exact ⟨.inl rfl, .inl ⟨rfl, rfl⟩⟩
        · cases merged
          exact ⟨.inl rfl, .inl ⟨rfl, rfl⟩⟩

/-- What is merged of references that were read is read with the same host when it is printed. -/
theorem merge_host {current location host : Binary}
    (merged : (parse current).merge? (parse location) = some uri) (hosted : uri.host = some host)
    (nonempty : host ≠ []) (printed : uri.toString? = some text) :
    (parse text).host = some host := by
  obtain ⟨schemed, placed⟩ := merge_parts merged
  apply toString_host printed ?_ hosted ?_ nonempty ?_
  · intro scheme given
    rcases schemed with same | same
    · exact (parse_scheme (same ▸ given)).1
    · exact (parse_scheme (same ▸ given)).1
  · rcases placed with ⟨same, _⟩ | ⟨same, _⟩
    · exact parse_isHost (same ▸ hosted)
    · exact parse_isHost (same ▸ hosted)
  · intro userinfo given
    rcases placed with ⟨_, same⟩ | ⟨_, same⟩
    · exact parse_isUserinfo (same ▸ given)
    · exact parse_isUserinfo (same ▸ given)

end Merged

end Foundation.Uri
