import Mathlib.Data.List.Infix
import Mathlib.Data.List.TakeWhile

/-!
# URIs

References over bytes, read by the generic syntax: a scheme, an authority of user information, host
and port, a path, a query and a fragment. `parse` reads any bytes, `toString?` prints a reference
unless its path cannot follow its host, and `merge?` resolves a reference against a base. A printed
reference has the scheme it was printed from, and one printed without user information, query and
fragment is read without them.
-/

namespace Foundation

/-- A byte string. -/
abbrev Binary := List UInt8

/-- Byte strings are equal when their comparison says so. -/
instance : LawfulBEq Binary := inferInstanceAs (LawfulBEq (List UInt8))

/-- The bytes of a text. -/
def ascii (text : String) : Binary := text.toUTF8.data.toList

/-- The decimal digits of a number. -/
def decimal (n : Nat) : Binary := (Nat.toDigits 10 n).map fun digit => UInt8.ofNat digit.toNat

/-- A decimal digit. -/
def isDigit (byte : UInt8) : Bool := 48 ≤ byte && byte ≤ 57

/-- A Latin letter. -/
def isLetter (byte : UInt8) : Bool := 65 ≤ byte && byte ≤ 90 || 97 ≤ byte && byte ≤ 122

/-- A Latin letter in lower case; other bytes are kept. -/
def lower (byte : UInt8) : UInt8 := if 65 ≤ byte && byte ≤ 90 then byte + 32 else byte

/-- An empty part counts as absent. -/
def nillify (part : Binary) : Option Binary := if part = [] then none else some part

/-- A reference, part by part. -/
structure Uri where
  scheme : Option Binary
  authority : Option Binary
  userinfo : Option Binary
  host : Option Binary
  port : Option Nat
  path : Option Binary
  query : Option Binary
  fragment : Option Binary
  deriving DecidableEq, Repr

namespace Uri

/-- The ports that schemes have by default. -/
def defaultPort (scheme : Binary) : Option Nat :=
  [(ascii "ftp", 21), (ascii "sftp", 22), (ascii "tftp", 69), (ascii "http", 80),
    (ascii "https", 443), (ascii "ldap", 389), (ascii "ws", 80), (ascii "wss", 443)].lookup scheme

/-- A byte of a scheme after its first. -/
def isSchemeByte (byte : UInt8) : Bool :=
  isLetter byte || isDigit byte || byte == 43 || byte == 45 || byte == 46

/-- A scheme: a letter and scheme bytes. -/
def IsScheme : Binary → Prop
  | [] => False
  | first :: rest => isLetter first = true ∧ ∀ byte ∈ rest, isSchemeByte byte = true

/-- Read a scheme and the colon after it. -/
def splitScheme (text : Binary) : Option Binary × Binary :=
  match text with
  | [] => (none, text)
  | first :: rest =>
    if isLetter first then
      match rest.dropWhile isSchemeByte with
      | 58 :: after => (some (first :: rest.takeWhile isSchemeByte), after)
      | _ => (none, text)
    else (none, text)

/-- No byte that ends an authority. -/
def inAuthority (byte : UInt8) : Bool := byte != 47 && byte != 63 && byte != 35

/-- No byte that ends a path. -/
def inPath (byte : UInt8) : Bool := byte != 63 && byte != 35

/-- Read the authority, when there is one. -/
def splitAuthority (text : Binary) : Option Binary × Binary :=
  match text with
  | 47 :: 47 :: rest => (some (rest.takeWhile inAuthority), rest.dropWhile inAuthority)
  | _ => (none, text)

/-- The first line, in which user information is looked for. -/
def firstLine (authority : Binary) : Binary := authority.takeWhile (· != 10)

/-- Read the user information up to the last `@` of the first line. -/
def splitUserinfo (authority : Binary) : Option Binary × Binary :=
  let line := firstLine authority
  if 64 ∈ line then
    let after := (line.reverse.takeWhile (· != 64)).reverse
    (nillify (line.take (line.length - after.length - 1)), after ++ authority.drop line.length)
  else (none, authority)

/-- A byte of a bracketed host. -/
def inBrackets (byte : UInt8) : Bool := isLetter byte || isDigit byte || byte == 58 || byte == 46

/-- Read a bracketed host, or a host up to the port. -/
def splitHost (text : Binary) : Binary × Binary :=
  match text with
  | 91 :: rest =>
    match rest.dropWhile inBrackets with
    | 93 :: after => (91 :: rest.takeWhile inBrackets ++ [93], after)
    | _ => (text.takeWhile (· != 58), text.dropWhile (· != 58))
  | _ => (text.takeWhile (· != 58), text.dropWhile (· != 58))

/-- A host without the brackets around it. -/
def unbracket (host : Binary) : Binary :=
  ((host.dropWhile (· == 91)).reverse.dropWhile (· == 93)).reverse

/-- The value of decimal digits. -/
def ofDigits (digits : Binary) : Nat :=
  digits.foldl (fun n digit => 10 * n + (digit.toNat - 48)) 0

/-- The port after a host. -/
def portAfter (text : Binary) : Option Nat :=
  match text with
  | 58 :: rest => (nillify (rest.takeWhile isDigit)).map ofDigits
  | _ => none

/-- Read any bytes as a reference. -/
def parse (text : Binary) : Uri :=
  let (scheme, rest) := splitScheme text
  let scheme := scheme.map (List.map lower)
  let (authority, rest) := splitAuthority rest
  let afterPath := rest.dropWhile inPath
  let query :=
    match afterPath with
    | 63 :: more => some (more.takeWhile (· != 35))
    | _ => none
  let fragment :=
    match afterPath.dropWhile (· != 35) with
    | 35 :: more => nillify (more.takeWhile (· != 10))
    | _ => none
  let (userinfo, hostPort) := splitUserinfo (authority.getD [])
  let (host, afterHost) := splitHost hostPort
  { scheme
    authority
    userinfo
    host := if authority = some [] then some [] else (nillify host).map unbracket
    port := (portAfter afterHost).or (scheme.bind defaultPort)
    path := nillify (rest.takeWhile inPath)
    query
    fragment }

/-- A host as it is printed, in brackets when it holds a colon. -/
def printHost (host : Binary) : Binary := if 58 ∈ host then 91 :: host ++ [93] else host

/-- The authority as it is printed. -/
def printAuthority (uri : Uri) : Option Binary :=
  match uri.host with
  | none => uri.authority
  | some host =>
    let port := if uri.scheme.bind defaultPort = uri.port then none else uri.port
    some ((uri.userinfo.elim [] fun userinfo => userinfo ++ [64]) ++ printHost host ++
      port.elim [] fun port => 58 :: decimal port)

/-- Print a reference; a relative path cannot follow a host. -/
def toString? (uri : Uri) : Option Binary :=
  if uri.host.isSome = true ∧ uri.path.any (fun path => path ≠ [] ∧ path.head? ≠ some 47) = true then
    none
  else
    some ((uri.scheme.elim [] fun scheme => scheme ++ [58]) ++
      (uri.printAuthority.elim [] fun authority => 47 :: 47 :: authority) ++
      uri.path.getD [] ++
      (uri.query.elim [] fun query => 63 :: query) ++
      uri.fragment.elim [] fun fragment => 35 :: fragment)

/-- Resolve the dot segments of a path, with the segments kept so far. -/
def resolveSegments : List Binary → List Binary → List Binary
  | kept, [] => kept.reverse
  | kept, [segment] =>
    if segment = [46] then (kept.reverse ++ [[]])
    else if segment = [46, 46] then (kept.tail.reverse ++ [[]])
    else (segment :: kept).reverse
  | kept, segment :: more =>
    if segment = [46] then resolveSegments kept more
    else if segment = [46, 46] then resolveSegments kept.tail more
    else resolveSegments (segment :: kept) more

/-- A path without dot segments. -/
def removeDotSegments (path : Binary) : Binary :=
  match path with
  | 47 :: rest => 47 :: [47].intercalate (resolveSegments [] (rest.splitOn 47))
  | _ => [47].intercalate (resolveSegments [] (path.splitOn 47))

/-- A path relative to a base path. -/
def mergePaths (base relative : Binary) : Binary :=
  match relative with
  | 47 :: _ => removeDotSegments relative
  | _ => removeDotSegments ((base.reverse.dropWhile (· != 47)).reverse ++ relative)

/-- Resolve a reference against a base, which must have a host. -/
def merge? (base relative : Uri) : Option Uri :=
  if base.host = none then none
  else if relative.scheme ≠ none then
    some { relative with path := relative.path.map removeDotSegments }
  else if relative.host ≠ none then
    some { relative with scheme := base.scheme, path := relative.path.map removeDotSegments }
  else
    match relative.path with
    | none => some { base with query := relative.query.or base.query, fragment := relative.fragment }
    | some path =>
      some { base with
        path := some (mergePaths (base.path.getD [47]) path)
        query := relative.query
        fragment := relative.fragment }

example : (parse (ascii "HTTPS://me:pw@Host.example:8443/a/b?c#d")).toString? =
    some (ascii "https://me:pw@Host.example:8443/a/b?c#d") := by decide +kernel

example : ((parse (ascii "https://h/a/b/c")).merge? (parse (ascii "../d?q"))).bind toString? =
    some (ascii "https://h/a/d?q") := by decide +kernel

section Printed

variable {text : Binary} {uri : Uri}

/-- What holds of the 256 bytes holds of every byte. -/
theorem forall_byte {p : UInt8 → Prop} (all : ∀ n < 256, p (UInt8.ofNat n)) (byte : UInt8) : p byte := by
  have holds := all byte.toNat byte.toNat_lt
  rwa [UInt8.ofNat_toNat] at holds

/-- A maximal prefix is found when what follows does not continue it. -/
theorem takeWhile_exact {p : UInt8 → Bool} {part rest : Binary} (inside : ∀ byte ∈ part, p byte = true)
    (stops : ∀ byte, rest.head? = some byte → p byte = false) :
    (part ++ rest).takeWhile p = part ∧ (part ++ rest).dropWhile p = rest := by
  rw [List.takeWhile_append_of_pos inside, List.dropWhile_append_of_pos inside]
  cases rest with
  | nil => simp
  | cons byte rest => simp [stops byte rfl]

/-- A printed scheme is read back. -/
theorem splitScheme_append {scheme rest : Binary} (valid : IsScheme scheme) :
    splitScheme (scheme ++ 58 :: rest) = (some scheme, rest) := by
  cases scheme with
  | nil => exact valid.elim
  | cons first more =>
    have stops : ∀ byte, (58 :: rest).head? = some byte → isSchemeByte byte = false := by
      rintro _ ⟨⟩
      decide
    have exact := takeWhile_exact valid.2 stops
    simp [splitScheme, valid.1, exact.1, exact.2]

/-- What is read as a scheme is one. -/
theorem splitScheme_valid {scheme : Binary} (found : (splitScheme text).1 = some scheme) :
    IsScheme scheme := by
  cases text with
  | nil => simp [splitScheme] at found
  | cons first rest =>
    simp only [splitScheme] at found
    split at found
    · next letter =>
      split at found
      · simp only [Option.some.injEq] at found
        subst found
        exact ⟨letter, fun byte member => List.mem_takeWhile_imp member⟩
      · cases found
    · cases found

/-- A scheme in lower case is a scheme. -/
theorem IsScheme.lower {scheme : Binary} (valid : IsScheme scheme) :
    IsScheme (scheme.map Foundation.lower) := by
  have letters : ∀ byte, isLetter byte = true → isLetter (Foundation.lower byte) = true :=
    forall_byte (by decide +kernel)
  have bytes : ∀ byte, isSchemeByte byte = true → isSchemeByte (Foundation.lower byte) = true :=
    forall_byte (by decide +kernel)
  cases scheme with
  | nil => exact valid.elim
  | cons first rest =>
    constructor
    · exact letters first valid.1
    · intro byte member
      obtain ⟨original, among, rfl⟩ := List.mem_map.mp member
      exact bytes original (valid.2 original among)

/-- The bytes of a decimal number are digits. -/
theorem isDigit_of_mem_decimal {n : Nat} {byte : UInt8} (member : byte ∈ decimal n) :
    isDigit byte = true := by
  obtain ⟨digit, among, rfl⟩ := List.mem_map.mp member
  have digits := Nat.isDigit_of_mem_toDigits (by decide) (by decide) among
  simp only [Char.isDigit, Bool.and_eq_true, decide_eq_true_eq, UInt32.le_iff_toNat_le] at digits
  have small : digit.toNat < 256 := lt_of_le_of_lt digits.2 (by decide)
  simp only [isDigit, Bool.and_eq_true, decide_eq_true_eq, UInt8.le_iff_toNat_le,
    UInt8.toNat_ofNat_of_lt' small]
  exact digits

/-- No `@` in the first line: what has no user information. -/
def Plain (authority : Binary) : Prop := 64 ∉ firstLine authority

/-- The first line of a longer authority. -/
theorem firstLine_append {front back : Binary} :
    firstLine (front ++ back) =
      if 10 ∈ front then firstLine front else front ++ firstLine back := by
  induction front with
  | nil => simp
  | cons byte front ih =>
    by_cases newline : byte = 10
    · simp [firstLine, newline]
    · have step : ∀ more, firstLine (byte :: more) = byte :: firstLine more := by
        simp [firstLine, newline]
      have differs : ¬ 10 = byte := fun same => newline same.symm
      rw [List.cons_append, step, ih, step]
      by_cases found : 10 ∈ front
      · simp [found]
      · simp [found, differs]

/-- Two plain parts are plain together. -/
theorem Plain.append {front back : Binary} (first : Plain front) (second : Plain back) :
    Plain (front ++ back) := by
  unfold Plain at *
  rw [firstLine_append]
  split
  · exact first
  · next single =>
    have whole : firstLine front = front := by
      rw [firstLine, List.takeWhile_eq_self_iff]
      intro byte member
      simpa using fun (same : byte = 10) => single (same ▸ member)
    rw [List.mem_append]
    rintro (inside | inside)
    · rw [whole] at first
      exact first inside
    · exact second inside

/-- The front of a plain part is plain. -/
theorem Plain.front {front back : Binary} (plain : Plain (front ++ back)) : Plain front := by
  unfold Plain at *
  rw [firstLine_append] at plain
  split at plain
  · exact plain
  · intro inside
    exact plain (List.mem_append_left _ (List.takeWhile_subset _ inside))

/-- The back of a plain part is plain when the front is of one line. -/
theorem Plain.back {front back : Binary} (plain : Plain (front ++ back)) (single : 10 ∉ front) :
    Plain back := by
  unfold Plain at *
  rw [firstLine_append, if_neg single] at plain
  exact fun inside => plain (List.mem_append_right _ inside)

/-- Bytes other than `@` are plain. -/
theorem plain_of_notMem {part : Binary} (absent : 64 ∉ part) : Plain part :=
  fun inside => absent (List.takeWhile_subset _ inside)

/-- What is left after the user information is a part of the authority and is plain. -/
theorem splitUserinfo_rest (authority : Binary) :
    (splitUserinfo authority).2 ⊆ authority ∧ Plain (splitUserinfo authority).2 := by
  simp only [splitUserinfo]
  split
  · next found =>
    generalize lined : firstLine authority = line at found
    generalize last : (line.reverse.takeWhile (· != 64)).reverse = after
    have inside : after ⊆ line := by
      intro byte member
      rw [← last, List.mem_reverse] at member
      exact List.mem_reverse.mp (List.takeWhile_subset _ member)
    constructor
    · intro byte member
      rcases List.mem_append.mp member with front | back
      · have among := inside front
        rw [← lined] at among
        exact List.takeWhile_subset _ among
      · exact List.mem_of_mem_drop back
    · apply Plain.append
      · apply plain_of_notMem
        rw [← last, List.mem_reverse]
        intro member
        simpa using List.mem_takeWhile_imp member
      · have parts : line ++ authority.dropWhile (· != 10) = authority := by
          rw [← lined]
          exact List.takeWhile_append_dropWhile
        have rest : authority.drop line.length = authority.dropWhile (· != 10) := by
          have dropped := congrArg (List.drop line.length) parts
          rw [List.drop_left] at dropped
          exact dropped.symm
        rw [rest, Plain, firstLine]
        cases left : authority.dropWhile (· != 10) with
        | nil => simp
        | cons byte more =>
          have stops := List.head?_dropWhile_not (· != 10) authority
          rw [left] at stops
          simp only [List.head?_cons] at stops
          simp [stops]
  · next absent =>
    constructor
    · intro byte member
      exact member
    · exact absent

/-- A plain authority has no user information. -/
theorem splitUserinfo_plain {authority : Binary} (plain : Plain authority) :
    splitUserinfo authority = (none, authority) := by
  simp only [splitUserinfo]
  rw [if_neg plain]

/-- A host is read from the front. -/
theorem splitHost_prefix (text : Binary) : (splitHost text).1 <+: text := by
  have plainly : text.takeWhile (· != 58) <+: text := List.takeWhile_prefix _
  unfold splitHost
  split
  · next rest =>
    split
    · next after closed =>
      have parts := List.takeWhile_append_dropWhile (p := inBrackets) (l := rest)
      rw [closed] at parts
      refine ⟨after, ?_⟩
      simpa using parts
    · exact plainly
  · exact plainly

/-- A host without its brackets is a part of the host and is plain when the host is. -/
theorem unbracket_plain {host : Binary} (plain : Plain host) :
    unbracket host ⊆ host ∧ Plain (unbracket host) := by
  have opened := List.takeWhile_append_dropWhile (p := (· == 91)) (l := host)
  generalize brackets : host.takeWhile (· == 91) = front at opened
  generalize host.dropWhile (· == 91) = inner at opened
  have single : 10 ∉ front := by
    intro member
    rw [← brackets] at member
    simpa using List.mem_takeWhile_imp member
  have closed := congrArg List.reverse
    (List.takeWhile_append_dropWhile (p := (· == 93)) (l := inner.reverse))
  rw [List.reverse_append, List.reverse_reverse] at closed
  have plainInner : Plain inner := by
    rw [← opened] at plain
    exact plain.back single
  have stripped : unbracket host = (inner.reverse.dropWhile (· == 93)).reverse := by
    rw [unbracket, ← opened, ← brackets]
    congr 3
    have whole := List.takeWhile_append_dropWhile (p := (· == 91)) (l := host)
    rw [brackets] at whole
    rw [brackets, opened]
    exact List.append_cancel_left (whole.trans opened.symm)
  rw [stripped]
  constructor
  · intro byte member
    rw [← opened]
    apply List.mem_append_right
    rw [← closed]
    exact List.mem_append_left _ member
  · rw [← closed] at plainInner
    exact plainInner.front

/-- The host that is read of bytes ends no authority and is plain. -/
theorem parse_host {host : Binary} (found : (parse text).host = some host) :
    (∀ byte ∈ host, inAuthority byte = true) ∧ Plain host := by
  simp only [parse] at found
  split at found
  · obtain rfl := Option.some.inj found
    simp [Plain, firstLine]
  · obtain ⟨printed, nilled, rfl⟩ := Option.map_eq_some_iff.mp found
    obtain rfl : (splitHost (splitUserinfo ((splitAuthority (splitScheme text).2).1.getD [])).2).1 =
        printed := by
      unfold nillify at nilled
      split at nilled
      · cases nilled
      · exact Option.some.inj nilled
    generalize authority : (splitAuthority (splitScheme text).2).1.getD [] = part at *
    obtain ⟨within, plain⟩ := splitUserinfo_rest part
    obtain ⟨after, whole⟩ := splitHost_prefix (splitUserinfo part).2
    rw [← whole] at plain
    obtain ⟨kept, stripped⟩ := unbracket_plain plain.front
    refine ⟨fun byte member => ?_, stripped⟩
    have among : byte ∈ part :=
      within (whole ▸ List.mem_append_left _ (kept member))
    rw [← authority] at among
    unfold splitAuthority at among
    split at among
    · exact List.mem_takeWhile_imp (by simpa using among)
    · simp at among

/-- The path that is read of bytes ends no path. -/
theorem parse_path {path : Binary} (found : (parse text).path = some path) :
    ∀ byte ∈ path, inPath byte = true := by
  simp only [parse, nillify] at found
  split at found
  · cases found
  · obtain rfl := Option.some.inj found
    exact fun byte member => List.mem_takeWhile_imp member

/-- The scheme that is read of bytes is one, in lower case. -/
theorem parse_scheme {scheme : Binary} (found : (parse text).scheme = some scheme) :
    IsScheme scheme ∧ scheme.map lower = scheme := by
  simp only [parse] at found
  obtain ⟨original, split, rfl⟩ := Option.map_eq_some_iff.mp found
  have twice : ∀ byte, lower (lower byte) = lower byte := forall_byte (by decide +kernel)
  exact ⟨(splitScheme_valid split).lower, by simp [Function.comp_def, twice]⟩

/-- What is printed, when it is. -/
theorem toString_eq (printed : uri.toString? = some text) :
    text = (uri.scheme.elim [] fun scheme => scheme ++ [58]) ++
      (uri.printAuthority.elim [] fun authority => 47 :: 47 :: authority) ++
      uri.path.getD [] ++ (uri.query.elim [] fun query => 63 :: query) ++
      uri.fragment.elim [] fun fragment => 35 :: fragment := by
  unfold toString? at printed
  split at printed
  · cases printed
  · exact (Option.some.inj printed).symm

/-- A printed reference is read with the scheme it was printed from. -/
theorem toString_scheme {scheme : Binary} (printed : uri.toString? = some text)
    (has : uri.scheme = some scheme) (valid : IsScheme scheme)
    (lowered : scheme.map lower = scheme) : (parse text).scheme = some scheme := by
  rw [toString_eq printed, has]
  simp only [Option.elim_some, List.append_assoc, List.cons_append, List.nil_append, parse,
    splitScheme_append valid, Option.map_some, lowered]

/-- A part that no reading of bytes as a reference takes for user information, query or fragment. -/
structure IsPlain (text : Binary) : Prop where
  userinfo : (parse text).userinfo = none
  query : (parse text).query = none
  fragment : (parse text).fragment = none

/-- A host as it is printed ends no authority and is plain when the host does not and is. -/
theorem printHost_plain {host : Binary} (within : ∀ byte ∈ host, inAuthority byte = true)
    (plain : Plain host) :
    (∀ byte ∈ printHost host, inAuthority byte = true) ∧ Plain (printHost host) := by
  unfold printHost
  split
  · constructor
    · intro byte member
      simp only [List.cons_append, List.mem_cons, List.mem_append, List.not_mem_nil,
        or_false] at member
      rcases member with rfl | inside | rfl
      · decide
      · exact within byte inside
      · decide
    · have closing : Plain [93] := plain_of_notMem (by decide)
      have opening : Plain [91] := plain_of_notMem (by decide)
      exact opening.append (plain.append closing)
  · exact ⟨within, plain⟩

/-- A port as it is printed ends no authority and is plain. -/
theorem printPort_plain (port : Option Nat) :
    (∀ byte ∈ port.elim [] fun port => 58 :: decimal port, inAuthority byte = true) ∧
      Plain (port.elim [] fun port => 58 :: decimal port) := by
  have digits : ∀ byte, isDigit byte = true → inAuthority byte = true ∧ byte ≠ 64 :=
    forall_byte (by decide +kernel)
  cases port with
  | none => exact ⟨by simp, plain_of_notMem (by simp)⟩
  | some port =>
    constructor
    · intro byte member
      rcases List.mem_cons.mp member with rfl | inside
      · decide
      · exact (digits byte (isDigit_of_mem_decimal inside)).1
    · apply plain_of_notMem
      intro member
      rcases List.mem_cons.mp member with same | inside
      · exact absurd same (by decide)
      · exact (digits 64 (isDigit_of_mem_decimal inside)).2 rfl

/-- A reference with a plain host and without user information, query and fragment is printed
without them. -/
theorem toString_plain {host : Binary} (printed : uri.toString? = some text)
    (scheme : ∀ scheme, uri.scheme = some scheme → IsScheme scheme)
    (hosted : uri.host = some host) (within : ∀ byte ∈ host, inAuthority byte = true)
    (plain : Plain host) (userinfo : uri.userinfo = none)
    (path : ∀ path, uri.path = some path → ∀ byte ∈ path, inPath byte = true)
    (query : uri.query = none) (fragment : uri.fragment = none) : IsPlain text := by
  have absolute : ∀ byte, (uri.path.getD []).head? = some byte → inAuthority byte = false := by
    intro byte first
    have follows : ¬ (uri.host.isSome = true ∧
        uri.path.any (fun path => path ≠ [] ∧ path.head? ≠ some 47) = true) := by
      intro clash
      rw [toString?, if_pos clash] at printed
      cases printed
    cases pathed : uri.path with
    | none => simp [pathed] at first
    | some path =>
      rw [pathed, Option.getD_some] at first
      have nonempty : path ≠ [] := by
        rintro rfl
        simp at first
      have slash : path.head? = some 47 := by
        by_contra other
        exact follows ⟨by simp [hosted], by simpa [pathed, nonempty] using other⟩
      rw [slash] at first
      obtain rfl := Option.some.inj first
      decide
  have pathBytes : ∀ byte ∈ uri.path.getD [], inPath byte = true := by
    cases pathed : uri.path with
    | none => simp
    | some found => exact path found pathed
  obtain ⟨authority, printedAs, authorityBytes, authorityPlain⟩ : ∃ authority,
      uri.printAuthority = some authority ∧ (∀ byte ∈ authority, inAuthority byte = true) ∧
        Plain authority := by
    obtain ⟨hostBytes, hostPlain⟩ := printHost_plain within plain
    obtain ⟨portBytes, portPlain⟩ :=
      printPort_plain (if uri.scheme.bind defaultPort = uri.port then none else uri.port)
    refine ⟨_, by rw [printAuthority, hosted], ?_, ?_⟩
    · intro byte member
      simp only [userinfo, Option.elim_none, List.nil_append, List.mem_append] at member
      rcases member with inside | inside
      · exact hostBytes byte inside
      · exact portBytes byte inside
    · simpa only [userinfo, Option.elim_none, List.nil_append] using hostPlain.append portPlain
  have remaining : splitScheme text =
      (uri.scheme, 47 :: 47 :: authority ++ uri.path.getD []) := by
    have shape := toString_eq printed
    rw [query, fragment, printedAs] at shape
    simp only [Option.elim_none, Option.elim_some, List.append_nil] at shape
    cases schemed : uri.scheme with
    | none =>
      rw [schemed] at shape
      simp only [Option.elim_none, List.nil_append] at shape
      rw [shape]
      rfl
    | some found =>
      rw [schemed] at shape
      simp only [Option.elim_some, List.append_assoc, List.cons_append, List.nil_append] at shape
      rw [shape, splitScheme_append (scheme found schemed)]
      rfl
  have authoritySplit : splitAuthority (47 :: 47 :: authority ++ uri.path.getD []) =
      (some authority, uri.path.getD []) := by
    have exact := takeWhile_exact authorityBytes absolute
    simp [splitAuthority, exact.1, exact.2]
  have pathSplit : (uri.path.getD []).dropWhile inPath = [] :=
    List.dropWhile_eq_nil_iff.mpr pathBytes
  constructor
  · simp only [parse, remaining, authoritySplit, Option.getD_some,
      splitUserinfo_plain authorityPlain]
  · simp only [parse, remaining, authoritySplit, pathSplit]
  · simp only [parse, remaining, authoritySplit, pathSplit, List.dropWhile_nil]

/-- What is read and printed without user information, query and fragment is read without them. -/
theorem parse_stripped {host printed : Binary} (hosted : (parse text).host = some host)
    (stripped : toString? { parse text with userinfo := none, query := none, fragment := none } =
      some printed) : IsPlain printed := by
  obtain ⟨within, plain⟩ := parse_host hosted
  exact toString_plain stripped (fun _ found => (parse_scheme found).1) hosted within plain rfl
    (fun _ found => parse_path found) rfl rfl

end Printed

end Uri

end Foundation
