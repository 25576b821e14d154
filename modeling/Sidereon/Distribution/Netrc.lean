import Mathlib.Data.List.Chain
import Sidereon.Distribution.World
import Sidereon.Foundation.Handling

/-!
# The netrc file

A netrc file is a sequence of entries of machines, with a default entry at its end or without one.
It is read as a flat list of words. The entry of the login host is found, but where it ends is only
seen at the entry of another machine: the default entry, or a second entry of the same host, is
read on, and a value that looks like a keyword is taken for one.
-/

namespace Sidereon.Distribution

open Foundation Foundation.Program

/-- The kind of a field of an entry. -/
inductive FieldKind where
  | login | password | account
  deriving DecidableEq

/-- The word that stands before a value. -/
def FieldKind.keyword : FieldKind → Binary
  | .login => ascii "login"
  | .password => ascii "password"
  | .account => ascii "account"

/-- A field of an entry. -/
structure NetrcField where
  kind : FieldKind
  value : Binary

/-- The entry of a machine. -/
structure NetrcMachine where
  host : Binary
  fields : List NetrcField

/-- A netrc file. -/
structure NetrcFile where
  machines : List NetrcMachine
  default : Option (List NetrcField)

section Files

/-- The words of some pairs of words. -/
def pairWords (pairs : List (Binary × Binary)) : List Binary :=
  pairs.flatMap fun pair => [pair.1, pair.2]

/-- The words of a field. -/
def NetrcField.pair (field : NetrcField) : Binary × Binary := (field.kind.keyword, field.value)

/-- The words of the entry of a machine. -/
def NetrcMachine.pairs (machine : NetrcMachine) : List (Binary × Binary) :=
  (ascii "machine", machine.host) :: machine.fields.map NetrcField.pair

/-- The words of the default entry. -/
def defaultWords : Option (List NetrcField) → List Binary
  | some fields => ascii "default" :: pairWords (fields.map NetrcField.pair)
  | none => []

/-- The words of a netrc file. -/
def NetrcFile.words (file : NetrcFile) : List Binary :=
  pairWords (file.machines.flatMap NetrcMachine.pairs) ++ defaultWords file.default

/-- The value of a field; the last one of its kind, if there are several. -/
def fieldOf (kind : FieldKind) (fields : List NetrcField) : Option Binary :=
  (fields.reverse.find? fun field => field.kind == kind).map (·.value)

/-- The login and the password of some fields, if they have both. -/
def credentialsOf (fields : List NetrcField) : Option (Binary × Binary) := do
  return (← fieldOf .login fields, ← fieldOf .password fields)

/-- The login and the password of the first entry of a host. -/
def NetrcFile.credentials (file : NetrcFile) (host : Binary) : Option (Binary × Binary) :=
  (file.machines.find? fun machine => machine.host == host).bind fun machine =>
    credentialsOf machine.fields

/-- What `read_netrc` returns for a login and a password. -/
def netrcResult : Option (Binary × Binary) → Except Reason (Binary × Binary)
  | some credentials => .ok credentials
  | none => .error (.response .authenticationFailed 0 (ascii "https://urs.earthdata.nasa.gov/"))

end Files

section Conditions

/-- No `machine` of some words takes the first word after them for a host. -/
def pairsUp : List Binary → Bool
  | [] => true
  | [word] => word != ascii "machine"
  | word :: next :: rest => if word = ascii "machine" then pairsUp rest else pairsUp (next :: rest)

/-- No account of some fields is a word that the scan acts on. -/
def PlainAccounts (fields : List NetrcField) : Prop :=
  ∀ field ∈ fields, field.kind = .account →
    field.value ∉ [ascii "machine", ascii "login", ascii "password"]

/-- The entries of a file before the first of a host, that entry, and those after it. -/
structure NetrcFile.Found (file : NetrcFile) (host : Binary) (earlier : List NetrcMachine)
    (own : NetrcMachine) (later : List NetrcMachine) : Prop where
  machines : file.machines = earlier ++ own :: later
  earlier : ∀ machine ∈ earlier, machine.host ≠ host
  own : own.host = host

/-- The fields the scan reads from an entry of a host on: those of the last entry that follows for
the same host, and the default ones if no other machine follows. -/
def readOn (host : Binary) (default : Option (List NetrcField)) :
    List NetrcField → List NetrcMachine → List NetrcField
  | fields, [] => fields ++ default.getD []
  | fields, machine :: machines =>
    if machine.host = host then readOn host default machine.fields machines else fields

/-- The fields that are read from an entry of a host on have plain accounts. -/
def PlainOn (host : Binary) (default : Option (List NetrcField)) :
    List NetrcField → List NetrcMachine → Prop
  | fields, [] => PlainAccounts fields ∧ PlainAccounts (default.getD [])
  | fields, machine :: machines =>
    PlainAccounts fields ∧ (machine.host = host → PlainOn host default machine.fields machines)

/-- No value of a file is taken for a keyword, before the entry of a host or in what is read from
it on. -/
def NetrcFile.Plain (file : NetrcFile) (host : Binary) : Prop :=
  ∀ earlier own later, file.Found host earlier own later →
    pairsUp (pairWords (earlier.flatMap NetrcMachine.pairs)) = true ∧
      PlainOn host file.default own.fields later

/-- What is read after the entry of a host names the same login and password. -/
def NetrcFile.Unshadowed (file : NetrcFile) (host : Binary) : Prop :=
  ∀ earlier own later, file.Found host earlier own later →
    credentialsOf (readOn host file.default own.fields later) = credentialsOf own.fields

end Conditions

section Scan

variable {host : Binary}

/-- The entry with a field. -/
def NetrcEntry.put (entry : NetrcEntry) (field : NetrcField) : NetrcEntry :=
  match field.kind with
  | .login => { entry with login := some field.value }
  | .password => { entry with password := some field.value }
  | .account => entry

/-- The login and the password of an entry, if it has both. -/
def NetrcEntry.credentials (entry : NetrcEntry) : Option (Binary × Binary) := do
  return (← entry.login, ← entry.password)

/-- The fields put into an entry are those of it, the last of each kind. -/
theorem foldl_put (fields : List NetrcField) (entry : NetrcEntry) :
    (fields.foldl NetrcEntry.put entry).login = (fieldOf .login fields).or entry.login ∧
      (fields.foldl NetrcEntry.put entry).password =
        (fieldOf .password fields).or entry.password := by
  induction fields using List.reverseRecOn with
  | nil => exact ⟨rfl, rfl⟩
  | append_singleton fields field ih =>
    obtain ⟨kind, value⟩ := field
    rw [List.foldl_concat]
    cases kind <;> simp [NetrcEntry.put, fieldOf, ih]

/-- The fields of an entry give its login and its password. -/
theorem foldl_credentials (fields : List NetrcField) :
    (fields.foldl NetrcEntry.put {}).credentials = credentialsOf fields := by
  obtain ⟨login, password⟩ := foldl_put fields {}
  rw [NetrcEntry.credentials, login, password]
  simp [credentialsOf]

/-- No word `machine` stands before a word that is the host. -/
abbrev NoHost (host : Binary) : List Binary → Prop :=
  List.IsChain fun word next => word = ascii "machine" → next ≠ host

theorem quiet_cons {word next : Binary} {rest : List Binary} :
    NoHost host (word :: next :: rest) ↔
      (word = ascii "machine" → next ≠ host) ∧ NoHost host (next :: rest) :=
  List.isChain_cons_cons

/-- One step of the scan while the host is not found. -/
theorem netrcEntry_cons (word next : Binary) (rest : List Binary) :
    netrcEntry host (word :: next :: rest) false {} =
      if word = ascii "machine" then netrcEntry host rest (next == host) {}
      else netrcEntry host (next :: rest) false {} := by
  rw [netrcEntry]
  by_cases machine : word = ascii "machine"
  · rw [if_pos machine, if_pos machine, if_neg (by simp)]
  · rw [if_neg machine, if_neg machine, if_neg (by simp), if_neg (by simp)]

/-- Words in which the host is not found. -/
theorem netrcEntry_quiet :
    ∀ words : List Binary, NoHost host words → netrcEntry host words false {} = none
  | [], _ => rfl
  | [_], _ => rfl
  | word :: next :: rest, quiet => by
    rw [quiet_cons] at quiet
    rw [netrcEntry_cons]
    by_cases machine : word = ascii "machine"
    · have other : (next == host) = false := by simpa using quiet.1 machine
      rw [if_pos machine, other]
      exact netrcEntry_quiet rest quiet.2.tail
    · rw [if_neg machine]
      exact netrcEntry_quiet (next :: rest) quiet.2

/-- Words that pair up, and in which the host is not found, are passed over. -/
theorem netrcEntry_skip (after : List Binary) :
    ∀ words : List Binary, NoHost host words → pairsUp words = true →
      netrcEntry host (words ++ after) false {} = netrcEntry host after false {}
  | [], _, _ => rfl
  | [word], _, paired => by
    have other : word ≠ ascii "machine" := by simpa [pairsUp] using paired
    cases after with
    | nil => rfl
    | cons next rest => exact (netrcEntry_cons word next rest).trans (if_neg other)
  | word :: next :: rest, quiet, paired => by
    rw [quiet_cons] at quiet
    rw [List.cons_append, List.cons_append, netrcEntry_cons]
    rw [pairsUp] at paired
    by_cases machine : word = ascii "machine"
    · have other : (next == host) = false := by simpa using quiet.1 machine
      rw [if_pos machine] at paired
      rw [if_pos machine, other]
      exact netrcEntry_skip after rest quiet.2.tail paired
    · rw [if_neg machine] at paired
      rw [if_neg machine]
      exact netrcEntry_skip after (next :: rest) quiet.2 paired

/-- The words of some pairs, of which none has the host for its first word or after `machine`. -/
theorem quiet_pairWords {after : List Binary} (follows : ∀ last, NoHost host (last :: after))
    (pairs : List (Binary × Binary))
    (each : ∀ pair ∈ pairs, pair.1 ≠ host ∧ (pair.1 = ascii "machine" → pair.2 ≠ host)) :
    ∀ last, NoHost host (last :: (pairWords pairs ++ after)) := by
  induction pairs with
  | nil => exact follows
  | cons pair pairs ih =>
    intro last
    obtain ⟨own, rest⟩ := List.forall_mem_cons.mp each
    have later := ih rest pair.2
    show NoHost host (last :: pair.1 :: pair.2 :: (pairWords pairs ++ after))
    exact quiet_cons.mpr ⟨fun _ => own.1, quiet_cons.mpr ⟨own.2, later⟩⟩

/-- A host that is none of the words of a netrc file. -/
structure IsName (host : Binary) : Prop where
  keyword : ∀ kind : FieldKind, kind.keyword ≠ host
  machine : ascii "machine" ≠ host
  default : ascii "default" ≠ host

theorem keyword_ne_machine (kind : FieldKind) : kind.keyword ≠ ascii "machine" := by
  cases kind <;> decide +kernel

/-- The entries of other machines do not show the host. -/
theorem pairs_other (name : IsName host) {machines : List NetrcMachine}
    (others : ∀ machine ∈ machines, machine.host ≠ host) :
    ∀ pair ∈ machines.flatMap NetrcMachine.pairs,
      pair.1 ≠ host ∧ (pair.1 = ascii "machine" → pair.2 ≠ host) := by
  intro pair member
  obtain ⟨machine, within, member⟩ := List.mem_flatMap.mp member
  rcases List.mem_cons.mp member with rfl | member
  · exact ⟨name.machine, fun _ => others machine within⟩
  · obtain ⟨field, -, rfl⟩ := List.mem_map.mp member
    exact ⟨name.keyword field.kind, fun keyword => absurd keyword (keyword_ne_machine field.kind)⟩

/-- The default entry does not show the host. -/
theorem quiet_default (name : IsName host) (default : Option (List NetrcField)) :
    ∀ last, NoHost host (last :: defaultWords default) := by
  intro last
  cases default with
  | none => exact .singleton last
  | some fields =>
    have each : ∀ pair ∈ fields.map NetrcField.pair,
        pair.1 ≠ host ∧ (pair.1 = ascii "machine" → pair.2 ≠ host) := by
      intro pair member
      obtain ⟨field, -, rfl⟩ := List.mem_map.mp member
      exact ⟨name.keyword field.kind, fun keyword => absurd keyword (keyword_ne_machine field.kind)⟩
    have words : NoHost host (ascii "default" :: (pairWords (fields.map NetrcField.pair) ++ [])) :=
      quiet_pairWords (fun last => .singleton last) _ each _
    rw [List.append_nil] at words
    exact quiet_cons.mpr ⟨fun _ => name.default, words⟩

/-- One step of the scan at a word that it does not act on. -/
theorem netrcEntry_pass {word : Binary} (plain : word ∉ [ascii "machine", ascii "login",
    ascii "password"]) (rest : List Binary) (entry : NetrcEntry) :
    netrcEntry host (word :: rest) true entry = netrcEntry host rest true entry := by
  simp only [List.mem_cons, List.not_mem_nil, or_false, not_or] at plain
  obtain ⟨machine, login, password⟩ := plain
  cases rest with
  | nil => rfl
  | cons next rest =>
    rw [netrcEntry, if_neg machine, if_neg (by simp [login]), if_neg (by simp [password])]

/-- A field is read, and its account is passed over. -/
theorem netrcEntry_field (field : NetrcField)
    (plain : field.kind = .account →
      field.value ∉ [ascii "machine", ascii "login", ascii "password"])
    (rest : List Binary) (entry : NetrcEntry) :
    netrcEntry host (field.pair.1 :: field.pair.2 :: rest) true entry =
      netrcEntry host rest true (entry.put field) := by
  have words : ascii "login" ≠ ascii "machine" ∧ ascii "password" ≠ ascii "machine" ∧
      ascii "password" ≠ ascii "login" := by decide +kernel
  obtain ⟨kind, value⟩ := field
  cases kind with
  | login =>
    show netrcEntry host (ascii "login" :: value :: rest) true entry = _
    rw [netrcEntry, if_neg words.1, if_pos ⟨rfl, rfl⟩]
    rfl
  | password =>
    show netrcEntry host (ascii "password" :: value :: rest) true entry = _
    rw [netrcEntry, if_neg words.2.1, if_neg (fun both => words.2.2 both.2), if_pos ⟨rfl, rfl⟩]
    rfl
  | account =>
    have passed : ascii "account" ∉ [ascii "machine", ascii "login", ascii "password"] := by
      decide +kernel
    show netrcEntry host (ascii "account" :: value :: rest) true entry = _
    rw [netrcEntry_pass passed, netrcEntry_pass (plain rfl)]
    rfl

/-- The fields of an entry are read. -/
theorem netrcEntry_fields (rest : List Binary) (fields : List NetrcField) :
    ∀ entry : NetrcEntry, PlainAccounts fields →
      netrcEntry host (pairWords (fields.map NetrcField.pair) ++ rest) true entry =
        netrcEntry host rest true (fields.foldl NetrcEntry.put entry) := by
  induction fields with
  | nil => exact fun entry _ => rfl
  | cons field fields ih =>
    intro entry plain
    obtain ⟨own, others⟩ := List.forall_mem_cons.mp plain
    show netrcEntry host (field.pair.1 :: field.pair.2 ::
      (pairWords (fields.map NetrcField.pair) ++ rest)) true entry = _
    rw [netrcEntry_field field own, ih (entry.put field) others]
    rfl

/-- The default entry is read like more fields of the entry before it. -/
theorem netrcEntry_default {default : Option (List NetrcField)}
    (plain : PlainAccounts (default.getD [])) (entry : NetrcEntry) :
    netrcEntry host (defaultWords default) true entry =
      some ((default.getD []).foldl NetrcEntry.put entry) := by
  cases default with
  | none => rfl
  | some fields =>
    have passed : ascii "default" ∉ [ascii "machine", ascii "login", ascii "password"] := by
      decide +kernel
    rw [defaultWords, netrcEntry_pass passed, ← List.append_nil (pairWords _),
      netrcEntry_fields [] fields entry plain]
    rfl

/-- What is read from the fields of an entry of the host on. -/
theorem netrcEntry_on (default : Option (List NetrcField)) (machines : List NetrcMachine) :
    ∀ fields : List NetrcField, PlainOn host default fields machines →
      netrcEntry host (pairWords (fields.map NetrcField.pair) ++
          (pairWords (machines.flatMap NetrcMachine.pairs) ++ defaultWords default)) true {} =
        some ((readOn host default fields machines).foldl NetrcEntry.put {}) := by
  induction machines with
  | nil =>
    intro fields plain
    rw [netrcEntry_fields _ _ _ plain.1, List.flatMap_nil]
    show netrcEntry host (defaultWords default) true _ = _
    rw [netrcEntry_default plain.2, readOn, List.foldl_append]
  | cons machine machines ih =>
    intro fields plain
    rw [netrcEntry_fields _ _ _ plain.1]
    show netrcEntry host (ascii "machine" :: machine.host ::
      (pairWords (machine.fields.map NetrcField.pair ++ machines.flatMap NetrcMachine.pairs) ++
        defaultWords default)) true _ = _
    rw [netrcEntry, if_pos rfl, readOn]
    by_cases same : machine.host = host
    · rw [if_neg (by simp [same]), if_pos same, ← ih machine.fields (plain.2 same)]
      simp [same, pairWords]
    · rw [if_pos ⟨rfl, same⟩, if_neg same]

/-- The fields that a scan of a plain file reads. -/
theorem netrcEntry_found (name : IsName host) {file : NetrcFile} (plain : file.Plain host)
    {earlier later : List NetrcMachine} {own : NetrcMachine}
    (found : file.Found host earlier own later) :
    netrcEntry host file.words false {} =
      some ((readOn host file.default own.fields later).foldl NetrcEntry.put {}) := by
  obtain ⟨paired, plainOn⟩ := plain earlier own later found
  have words : file.words = pairWords (earlier.flatMap NetrcMachine.pairs) ++
      ascii "machine" :: own.host :: (pairWords (own.fields.map NetrcField.pair) ++
        (pairWords (later.flatMap NetrcMachine.pairs) ++ defaultWords file.default)) := by
    simp [NetrcFile.words, found.machines, pairWords, NetrcMachine.pairs]
  have quiet : NoHost host (pairWords (earlier.flatMap NetrcMachine.pairs)) := by
    have all : NoHost host ([] :: (pairWords (earlier.flatMap NetrcMachine.pairs) ++ [])) :=
      quiet_pairWords (fun last => .singleton last) _ (pairs_other name found.earlier) []
    rw [List.append_nil] at all
    exact all.tail
  rw [words, netrcEntry_skip _ _ quiet paired, netrcEntry_cons, if_pos rfl, found.own,
    beq_self_eq_true]
  exact netrcEntry_on file.default later own.fields plainOn

/-- A file without an entry of the host. -/
theorem netrcEntry_absent (name : IsName host) {file : NetrcFile}
    (others : ∀ machine ∈ file.machines, machine.host ≠ host) :
    netrcEntry host file.words false {} = none := by
  have quiet : NoHost host ([] :: file.words) :=
    quiet_pairWords (quiet_default name file.default) _ (pairs_other name others) []
  exact netrcEntry_quiet _ quiet.tail

end Scan

section Lookup

variable {host : Binary} {file : NetrcFile}

/-- The first entry of a host is found in a file, or the file has none. -/
theorem found_or_absent (host : Binary) (file : NetrcFile) :
    (∃ earlier own later, file.Found host earlier own later) ∨
      ∀ machine ∈ file.machines, machine.host ≠ host := by
  cases first : file.machines.find? fun machine => machine.host == host with
  | none =>
    refine .inr fun machine member => ?_
    simpa using List.find?_eq_none.mp first machine member
  | some own =>
    obtain ⟨same, earlier, later, machines, others⟩ := List.find?_eq_some_iff_append.mp first
    refine .inl ⟨earlier, own, later, machines, fun machine member => ?_, by simpa using same⟩
    simpa using others machine member

/-- The login and the password of the entry that is found. -/
theorem credentials_found {earlier later : List NetrcMachine} {own : NetrcMachine}
    (found : file.Found host earlier own later) :
    file.credentials host = credentialsOf own.fields := by
  have first : file.machines.find? (fun machine => machine.host == host) = some own := by
    rw [List.find?_eq_some_iff_append]
    refine ⟨by simp [found.own], earlier, later, found.machines, fun machine member => ?_⟩
    simpa using found.earlier machine member
  rw [NetrcFile.credentials, first]
  rfl

/-- A file without an entry of a host has no login and password for it. -/
theorem credentials_absent (others : ∀ machine ∈ file.machines, machine.host ≠ host) :
    file.credentials host = none := by
  have none : file.machines.find? (fun machine => machine.host == host) = none := by
    rw [List.find?_eq_none]
    intro machine member
    simpa using others machine member
  rw [NetrcFile.credentials, none]
  rfl

end Lookup

section Reading

variable (library : Library) (auth : EarthdataAuth)

/-- The login host is none of the words of a netrc file. -/
theorem ursHost_name : IsName ursHost where
  keyword kind := by cases kind <;> decide +kernel
  machine := by decide +kernel
  default := by decide +kernel

/-- What `read_netrc` returns for the contents of the file. -/
theorem readNetrc_ends {auth : EarthdataAuth} {before : List (Event Call Answer)}
    {path contents : Binary} (located : (netrcPath auth).Ends before path) :
    (readNetrc library auth).Ends (before ++ [⟨.readFile path, some contents⟩])
      (netrcResult (netrcCredentials library contents)) := by
  refine ends_bind.mpr ⟨path, before, _, rfl, located, ?_⟩
  refine ends_bind.mpr ⟨some contents, [_], [], rfl, ends_perform.mpr rfl, ?_⟩
  cases read : netrcCredentials library contents with
  | none => simp [netrcResult, read, ends_pure]
  | some credentials => simp [netrcResult, read, ends_pure]

/-- The credentials that are read from the words of a plain file. -/
theorem netrcCredentials_found {file : NetrcFile} {contents : Binary}
    (words : library.split contents = file.words) (plain : file.Plain ursHost)
    {earlier later : List NetrcMachine} {own : NetrcMachine}
    (found : file.Found ursHost earlier own later) :
    netrcCredentials library contents =
      credentialsOf (readOn ursHost file.default own.fields later) := by
  rw [← foldl_credentials, netrcCredentials, words, netrcEntry_found ursHost_name plain found]
  rfl

theorem netrcResult_inj {first second : Option (Binary × Binary)}
    (same : netrcResult first = netrcResult second) : first = second := by
  cases first <;> cases second <;> simp_all [netrcResult]

end Reading

section Samples

/-- The entry of the archive. -/
def archiveMachine : NetrcMachine :=
  ⟨cddisHost, [⟨.login, ascii "x"⟩, ⟨.password, ascii "y"⟩]⟩

/-- The entry of the login host. -/
def loginMachine : NetrcMachine :=
  ⟨ursHost, [⟨.password, ascii "b"⟩, ⟨.account, ascii "e"⟩, ⟨.login, ascii "a"⟩]⟩

/-- The file of these entries. -/
def sampleNetrc (default : Option (List NetrcField)) : NetrcFile :=
  ⟨[archiveMachine, loginMachine], default⟩

/-- The text of these entries. -/
def sampleContents : Binary :=
  ascii ("machine cddis.nasa.gov login x password y " ++
    "machine urs.earthdata.nasa.gov password b account e login a")

/-- A default entry. -/
def sampleDefault : List NetrcField := [⟨.login, ascii "c"⟩, ⟨.password, ascii "d"⟩]

/-- Credentials in a file in home. -/
def homeAuth : EarthdataAuth where
  useNetrc := true
  netrcPath := some (ascii "/home/user/.netrc")

/-- The login host is found in the second entry. -/
theorem sampleNetrc_found {default : Option (List NetrcField)} {earlier later : List NetrcMachine}
    {own : NetrcMachine} (found : (sampleNetrc default).Found ursHost earlier own later) :
    earlier = [archiveMachine] ∧ own = loginMachine ∧ later = [] := by
  have machines := found.machines
  rcases earlier with _ | ⟨first, _ | ⟨second, others⟩⟩
  · cases machines
    exact absurd found.own (by decide +kernel)
  · cases machines
    exact ⟨rfl, rfl, rfl⟩
  · have length := congrArg List.length machines
    simp [sampleNetrc] at length

end Samples

end Sidereon.Distribution
