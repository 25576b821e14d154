import Mathlib.Data.List.Forall2
import Mathlib.Tactic.Ring
import Sidereon.Ftp.Exchanges

/-!
# Passive replies

`enter_passive_mode` takes the data address from the text of a reply to PASV, or else to EPSV. A
client that takes every text either finds the address that the text states or returns an error. The
numbers are converted before they are counted and are held to no range, so some texts crash it and
others give an address that is none.
-/

namespace Sidereon.Ftp

open Foundation
open Foundation.Uri (ofDigits)

section Texts

/-- A decimal number: digits alone. -/
def IsDecimal (field : Binary) (n : Nat) : Prop :=
  field ≠ [] ∧ field.all isDigit = true ∧ ofDigits field = n

/-- The fields of the parenthesised text of a PASV reply. -/
def pasvFields (numsStr : Binary) : List Binary := (numsStr.splitOn 44).map trim

/-- A PASV reply states an address: six decimal numbers in parentheses, each of one octet. -/
def StatesPasv (msg : Binary) (controlHost : Host) (address : Host × Int) : Prop :=
  ∃ numsStr h1 h2 h3 h4 p1 p2, firstMatch pasvNumbers msg = some numsStr ∧
    List.Forall₂ IsDecimal (pasvFields numsStr) [h1, h2, h3, h4, p1, p2] ∧
    (∀ n ∈ [h1, h2, h3, h4, p1, p2], n ≤ 255) ∧
    address = (if [h1, h2, h3, h4] = [0, 0, 0, 0] then controlHost else .address h1 h2 h3 h4,
      ((256 * p1 + p2 : Nat) : Int))

/-- An EPSV reply states a port of the control host. -/
def StatesEpsv (msg : Binary) (controlHost : Host) (address : Host × Int) : Prop :=
  ∃ portStr port, firstMatch epsvPort msg = some portStr ∧ IsDecimal portStr port ∧
    1 ≤ port ∧ port ≤ 65535 ∧ address = (controlHost, (port : Int))

/-- The numbers of a PASV reply can be taken: each is an integer, and when there are six each is
written in digits and at most 255. -/
def PasvInRange (msg : Binary) : Prop :=
  ∀ numsStr ∈ firstMatch pasvNumbers msg,
    (∀ field ∈ pasvFields numsStr, (toInteger? field).isSome = true) ∧
      ((pasvFields numsStr).length = 6 →
        ∀ field ∈ pasvFields numsStr, field.all isDigit = true ∧ ofDigits field ≤ 255)

/-- The port of an EPSV reply is a port. -/
def EpsvInRange (msg : Binary) : Prop :=
  ∀ portStr ∈ firstMatch epsvPort msg, 1 ≤ ofDigits portStr ∧ ofDigits portStr ≤ 65535

end Texts

section Numbers

variable {field : Binary} {n : Nat} {i : Int}

/-- Digits are taken as the number they write. -/
theorem IsDecimal.toInteger? (decimal : IsDecimal field n) : toInteger? field = some (n : Int) := by
  obtain ⟨nonempty, digits, rfl⟩ := decimal
  cases field with
  | nil => exact absurd rfl nonempty
  | cons byte bytes =>
    have digit : isDigit byte = true := List.all_eq_true.mp digits byte List.mem_cons_self
    have minus : byte ≠ 45 := by
      rintro rfl
      cases digit
    have plus : byte ≠ 43 := by
      rintro rfl
      cases digit
    unfold Ftp.toInteger?
    split
    · next same => exact absurd (List.cons.inj same).1 minus
    · next same => exact absurd (List.cons.inj same).1 plus
    · exact if_pos ⟨nonempty, digits⟩

/-- What is taken as an integer and has digits alone is a decimal number. -/
theorem isDecimal_of_toInteger? (integer : toInteger? field = some i)
    (digits : field.all isDigit = true) : IsDecimal field (ofDigits field) := by
  refine ⟨?_, digits, rfl⟩
  rintro rfl
  cases integer

/-- The fields are taken when each of them is. -/
theorem mapM_toInteger? {fields : List Binary} {ints : List Int} :
    fields.mapM toInteger? = some ints ↔
      List.Forall₂ (fun field i => toInteger? field = some i) fields ints := by
  induction fields generalizing ints with
  | nil =>
    rw [List.mapM_nil, List.forall₂_nil_left_iff]
    exact ⟨fun same => (Option.some.inj same).symm, fun same => congrArg some same.symm⟩
  | cons field fields ih =>
    rw [List.mapM_cons, List.forall₂_cons_left_iff]
    constructor
    · intro taken
      obtain ⟨first, head, later⟩ := Option.bind_eq_some_iff.mp taken
      obtain ⟨rest, tail, same⟩ := Option.bind_eq_some_iff.mp later
      cases same
      exact ⟨first, rest, head, ih.mp tail, rfl⟩
    · rintro ⟨first, rest, head, tail, rfl⟩
      exact Option.bind_eq_some_iff.mpr
        ⟨first, head, Option.bind_eq_some_iff.mpr ⟨rest, ih.mpr tail, rfl⟩⟩

/-- Every one of the first list is related to one of the second. -/
theorem exists_of_forall₂ {α β : Type} {related : α → β → Prop} {items : List α} {others : List β}
    (each : List.Forall₂ related items others) :
    ∀ item ∈ items, ∃ other ∈ others, related item other := by
  induction each with
  | nil => nofun
  | cons first _ ih =>
    intro item member
    rcases List.mem_cons.mp member with rfl | later
    · exact ⟨_, List.mem_cons_self, first⟩
    · obtain ⟨other, inside, holds⟩ := ih item later
      exact ⟨other, List.mem_cons_of_mem _ inside, holds⟩

/-- Integers are all taken. -/
theorem mapM_of_isSome {fields : List Binary}
    (integers : ∀ field ∈ fields, (toInteger? field).isSome = true) :
    ∃ ints, fields.mapM toInteger? = some ints := by
  induction fields with
  | nil => exact ⟨[], rfl⟩
  | cons field fields ih =>
    obtain ⟨first, head⟩ := Option.isSome_iff_exists.mp (integers field List.mem_cons_self)
    obtain ⟨rest, tail⟩ := ih fun field member => integers field (List.mem_cons_of_mem _ member)
    exact ⟨first :: rest, mapM_toInteger?.mpr (.cons head (mapM_toInteger?.mp tail))⟩

/-- Decimal numbers are taken as they are. -/
theorem mapM_isDecimal {fields : List Binary} {numbers : List Nat}
    (decimal : List.Forall₂ IsDecimal fields numbers) :
    fields.mapM toInteger? = some (numbers.map Int.ofNat) := by
  rw [mapM_toInteger?, List.forall₂_map_right_iff]
  exact decimal.imp fun _ _ => IsDecimal.toInteger?

/-- The numbers of the fields are what the fields write. -/
theorem isDecimal_unique {fields : List Binary} {numbers : List Nat}
    (decimal : List.Forall₂ IsDecimal fields numbers) : numbers = fields.map ofDigits := by
  induction decimal with
  | nil => rfl
  | cons first _ ih => rw [List.map_cons, first.2.2, ih]

end Numbers

section Parsing

variable {msg numsStr : Binary} {host : Host}

/-- Without parentheses there is an error. -/
theorem parsePasv_of_none (none : firstMatch pasvNumbers msg = none) :
    parsePasv msg host = some (.error (.badPasvResponse msg)) := by
  simp only [parsePasv, none]

/-- A field that is no integer raises. -/
theorem parsePasv_raises (captured : firstMatch pasvNumbers msg = some numsStr)
    (refused : (pasvFields numsStr).mapM toInteger? = none) : parsePasv msg host = none := by
  rw [pasvFields] at refused
  simp only [parsePasv, captured, refused]

/-- Six integers are an address. -/
theorem parsePasv_six {h1 h2 h3 h4 p1 p2 : Int}
    (captured : firstMatch pasvNumbers msg = some numsStr)
    (taken : (pasvFields numsStr).mapM toInteger? = some [h1, h2, h3, h4, p1, p2]) :
    parsePasv msg host = some (.ok (if (h1, h2, h3, h4) = (0, 0, 0, 0) then host
      else .address h1 h2 h3 h4, p1 * 256 + p2)) := by
  rw [pasvFields] at taken
  simp only [parsePasv, captured, taken]

/-- Fewer or more are an error. -/
theorem parsePasv_other {ints : List Int} (captured : firstMatch pasvNumbers msg = some numsStr)
    (taken : (pasvFields numsStr).mapM toInteger? = some ints) (other : ints.length ≠ 6) :
    parsePasv msg host = some (.error (.badPasvResponse msg)) := by
  rw [pasvFields] at taken
  simp only [parsePasv, captured, taken]
  split
  · next same =>
    cases same
    exact absurd rfl other
  · rfl
  · next none => cases none

/-- A text that states an address is parsed as it. -/
theorem StatesPasv.parsed {address : Host × Int} (states : StatesPasv msg host address) :
    parsePasv msg host = some (.ok address) := by
  obtain ⟨numsStr, h1, h2, h3, h4, p1, p2, captured, decimal, -, rfl⟩ := states
  have port : (p1 : Int) * 256 + p2 = ((256 * p1 + p2 : Nat) : Int) := by
    push_cast
    ring
  rw [parsePasv_six captured (mapM_isDecimal decimal)]
  simp [port]

/-- Six decimal numbers of one octet each state an address. -/
theorem statesPasv_of_fields {numbers : List Nat}
    (captured : firstMatch pasvNumbers msg = some numsStr)
    (decimal : List.Forall₂ IsDecimal (pasvFields numsStr) numbers) (six : numbers.length = 6)
    (small : ∀ n ∈ numbers, n ≤ 255) : ∃ address, StatesPasv msg host address := by
  match numbers, six with
  | [h1, h2, h3, h4, p1, p2], _ =>
    exact ⟨_, numsStr, h1, h2, h3, h4, p1, p2, captured, decimal, small, rfl⟩

/-- What a text in range states is all it is parsed as. -/
theorem PasvInRange.parsed (inRange : PasvInRange msg) :
    ∃ result, parsePasv msg host = some result ∧
      ∀ address, result = .ok address ↔ StatesPasv msg host address := by
  cases captured : firstMatch pasvNumbers msg with
  | none =>
    refine ⟨_, parsePasv_of_none captured, fun address => iff_of_false nofun ?_⟩
    rintro ⟨numsStr, _, _, _, _, _, _, captured', -⟩
    cases captured.symm.trans captured'
  | some numsStr =>
    obtain ⟨integers, octets⟩ := inRange numsStr captured
    obtain ⟨ints, taken⟩ := mapM_of_isSome integers
    have length := (mapM_toInteger?.mp taken).length_eq
    by_cases six : (pasvFields numsStr).length = 6
    · have decimal : List.Forall₂ IsDecimal (pasvFields numsStr)
          ((pasvFields numsStr).map ofDigits) := by
        rw [List.forall₂_map_right_iff, List.forall₂_same]
        intro field member
        obtain ⟨i, integer⟩ := Option.isSome_iff_exists.mp (integers field member)
        exact isDecimal_of_toInteger? integer (octets six field member).1
      have small : ∀ n ∈ (pasvFields numsStr).map ofDigits, n ≤ 255 := by
        intro n member
        obtain ⟨field, inside, rfl⟩ := List.mem_map.mp member
        exact (octets six field inside).2
      have count : ((pasvFields numsStr).map ofDigits).length = 6 := by rw [List.length_map, six]
      obtain ⟨address, states⟩ : ∃ address, StatesPasv msg host address :=
        statesPasv_of_fields captured decimal count small
      refine ⟨.ok address, states.parsed, fun address' => ⟨?_, fun states' => ?_⟩⟩
      · intro same
        cases same
        exact states
      · exact Option.some.inj (states.parsed.symm.trans states'.parsed)
    · have other : ints.length ≠ 6 := fun count => six (length.trans count)
      refine ⟨_, parsePasv_other captured taken other, fun address => iff_of_false nofun ?_⟩
      rintro ⟨numsStr', h1, h2, h3, h4, p1, p2, captured', decimal, -⟩
      obtain rfl := Option.some.inj (captured.symm.trans captured')
      exact six decimal.length_eq

/-- A text that is parsed as it states is in range. -/
theorem PasvInRange.of_parsed {result : Except FtpError (Host × Int)}
    (parsed : parsePasv msg host = some result)
    (stated : ∀ address, result = .ok address → StatesPasv msg host address) :
    PasvInRange msg := by
  intro numsStr captured
  cases taken : (pasvFields numsStr).mapM toInteger? with
  | none => cases (parsePasv_raises captured taken).symm.trans parsed
  | some ints =>
    have integers := mapM_toInteger?.mp taken
    refine ⟨fun field member => ?_, fun six field member => ?_⟩
    · obtain ⟨i, -, integer⟩ := exists_of_forall₂ integers field member
      exact Option.isSome_iff_exists.mpr ⟨i, integer⟩
    · have count : ints.length = 6 := integers.length_eq.symm.trans six
      obtain ⟨address, address_eq⟩ : ∃ address, result = .ok address := by
        match ints, count with
        | [h1, h2, h3, h4, p1, p2], _ =>
          exact ⟨_, Option.some.inj (parsed.symm.trans (parsePasv_six captured taken))⟩
      obtain ⟨numsStr', h1, h2, h3, h4, p1, p2, captured', decimal, small, -⟩ :=
        stated address address_eq
      obtain rfl := Option.some.inj (captured.symm.trans captured')
      obtain ⟨n, inside, -, digits, rfl⟩ := exists_of_forall₂ decimal field member
      exact ⟨digits, small _ inside⟩

/-- What a pattern captures it captures somewhere. -/
theorem exists_of_firstMatch {α : Type} {matches? : Binary → Option α} {text : Binary} {found : α}
    (captured : firstMatch matches? text = some found) : ∃ rest, matches? rest = some found := by
  induction text with
  | nil => exact ⟨[], captured⟩
  | cons byte text ih =>
    rw [firstMatch] at captured
    cases here : matches? (byte :: text) with
    | none =>
      rw [here] at captured
      exact ih captured
    | some first =>
      rw [here] at captured
      exact ⟨byte :: text, here.trans captured⟩

/-- The port of an EPSV reply is a decimal number. -/
theorem isDecimal_epsvPort {portStr : Binary} (captured : firstMatch epsvPort msg = some portStr) :
    IsDecimal portStr (ofDigits portStr) := by
  obtain ⟨rest, matched⟩ := exists_of_firstMatch captured
  obtain ⟨inner, _, found⟩ := Option.bind_eq_some_iff.mp matched
  dsimp only at found
  split at found
  · split at found
    · next form =>
      cases found
      exact ⟨form.1, List.all_eq_true.mpr fun _ => List.mem_takeWhile_imp, rfl⟩
    · cases found
  · cases found

/-- A text states a port just when it is parsed as that and in range. -/
theorem statesEpsv_iff {address : Host × Int} : StatesEpsv msg host address ↔
    ∃ portStr, firstMatch epsvPort msg = some portStr ∧ 1 ≤ ofDigits portStr ∧
      ofDigits portStr ≤ 65535 ∧ address = (host, (ofDigits portStr : Int)) := by
  constructor
  · rintro ⟨portStr, _, captured, ⟨-, -, rfl⟩, low, high, rfl⟩
    exact ⟨portStr, captured, low, high, rfl⟩
  · rintro ⟨portStr, captured, low, high, rfl⟩
    exact ⟨portStr, _, captured, isDecimal_epsvPort captured, low, high, rfl⟩

/-- A text is parsed as it states just when its port is in range. -/
theorem parseEpsv_stated :
    (∀ address, parseEpsv msg host = .ok address ↔ StatesEpsv msg host address) ↔
      EpsvInRange msg := by
  cases captured : firstMatch epsvPort msg with
  | none =>
    have parsed : parseEpsv msg host = .error (.badEpsvResponse msg) := by
      simp only [parseEpsv, captured]
    refine iff_of_true (fun address => ?_) fun portStr captured' => ?_
    · rw [parsed, statesEpsv_iff]
      refine iff_of_false nofun ?_
      rintro ⟨portStr, captured', -⟩
      cases captured.symm.trans captured'
    · cases captured.symm.trans captured'
  | some portStr =>
    have parsed : parseEpsv msg host = .ok (host, (ofDigits portStr : Int)) := by
      simp only [parseEpsv, captured]
    constructor
    · intro stated portStr' captured'
      obtain rfl := Option.some.inj (captured.symm.trans captured')
      obtain ⟨portStr', captured', low, high, -⟩ :=
        statesEpsv_iff.mp ((stated (host, (ofDigits portStr : Int))).mp parsed)
      obtain rfl := Option.some.inj (captured.symm.trans captured')
      exact ⟨low, high⟩
    · intro inRange address
      obtain ⟨low, high⟩ := inRange portStr captured
      rw [parsed, statesEpsv_iff]
      constructor
      · intro same
        cases same
        exact ⟨portStr, captured, low, high, rfl⟩
      · rintro ⟨portStr', captured', -, -, rfl⟩
        obtain rfl := Option.some.inj (captured.symm.trans captured')
        rfl

end Parsing

section Runs

/-- EPSV is sent after every reply to PASV but those of two codes. -/
def asksEpsv : Read → Bool
  | .ok (227, _) => false
  | .ok (550, _) => false
  | _ => true

/-- A record of the passive mode: the exchange of PASV, and that of EPSV when it is sent. -/
def Replied (fuel : Nat) (pasv epsv : Read) (record : Record) : Prop :=
  ∃ first later, record = first ++ later ∧
    (sendAndRead fuel (commandLine (ascii "PASV") [])).Ends first pasv ∧
    if asksEpsv pasv then (sendAndRead fuel (commandLine (ascii "EPSV") [])).Ends later epsv
    else later = []

/-- What the replies state, if they state an address. -/
def States (controlHost : Host) (pasv epsv : Read) (address : Host × Int) : Prop :=
  (∃ msg, pasv = .ok (227, msg) ∧ StatesPasv msg controlHost address) ∨
    asksEpsv pasv = true ∧ ∃ msg, epsv = .ok (229, msg) ∧ StatesEpsv msg controlHost address

/-- What is promised of the passive mode: it returns, with the address that the replies state and
else with an error, and no call but exchanges was made, so the client can go on. -/
structure PassivePromised (controlHost : Host) (pasv epsv : Read) (record : Record)
    (outcome : Except Raised (Except FtpError (Host × Int))) : Prop where
  returns : ∃ result, outcome = .ok result
  stated : ∀ address, outcome = .ok (.ok address) ↔ States controlHost pasv epsv address
  usable : ∀ event ∈ record, IsExchange event.request

/-- The replies whose texts are taken as promised. -/
def InRange (pasv epsv : Read) : Prop :=
  (∀ msg, pasv = .ok (227, msg) → PasvInRange msg) ∧
    (asksEpsv pasv = true → ∀ msg, epsv = .ok (229, msg) → EpsvInRange msg)

/-- What `enter_passive_mode` makes of the reply to EPSV. -/
def epsvOutcome (host : Host) : Read → Except FtpError (Host × Int)
  | .ok (229, msg) => parseEpsv msg host
  | .ok (550, _) => .error .epath
  | .ok (code, msg) => .error (.ftpError code msg)
  | .error reason => .error reason

/-- What `enter_passive_mode` makes of both replies. -/
def passiveOutcome (host : Host) (pasv epsv : Read) :
    Except Raised (Except FtpError (Host × Int)) :=
  match pasv with
  | .ok (227, msg) => (parsePasv msg host).elim (.error .notInteger) .ok
  | .ok (550, _) => .ok (.error .epath)
  | _ => .ok (epsvOutcome host epsv)

variable {fuel : Nat} {state : State} {host : Host} {pasv epsv : Read} {record : Record}
  {outcome : Except Raised (Except FtpError (Host × Int))}

/-- The three ways on from a reply to PASV. -/
theorem pasv_cases (pasv : Read) : (∃ msg, pasv = .ok (227, msg)) ∨
    (∃ msg, pasv = .ok (550, msg)) ∨ asksEpsv pasv = true := by
  unfold asksEpsv
  split
  · next msg => exact .inl ⟨msg, rfl⟩
  · next msg => exact .inr (.inl ⟨msg, rfl⟩)
  · exact .inr (.inr rfl)

theorem passiveOutcome_asks (asks : asksEpsv pasv = true) :
    passiveOutcome host pasv epsv = .ok (epsvOutcome host epsv) := by
  unfold passiveOutcome
  split
  · cases asks
  · cases asks
  · rfl

/-- The replies of a record decide what the passive mode makes of them. -/
theorem Replied.finishes (replied : Replied fuel pasv epsv record) :
    (enterPassiveMode fuel state).Finishes record outcome ↔
      outcome = passiveOutcome state.host pasv epsv := by
  obtain ⟨first, later, rfl, ends, rest⟩ := replied
  rw [enterPassiveMode, ends.finishes_bind]
  rcases pasv_cases pasv with ⟨msg, rfl⟩ | ⟨msg, rfl⟩ | asks
  · obtain rfl : later = [] := rest
    exact Program.finishes_orCrash.trans (and_iff_right rfl)
  · obtain rfl : later = [] := rest
    exact Program.finishes_pure.trans (and_iff_right rfl)
  · rw [if_pos asks] at rest
    rw [passiveOutcome_asks asks]
    split
    · cases asks
    · cases asks
    · rw [← List.append_nil later]
      refine rest.finishes_bind.trans ?_
      split
      · exact Program.finishes_pure.trans (and_iff_right rfl)
      · exact Program.finishes_pure.trans (and_iff_right rfl)
      · next code msg other refused =>
        have ended : epsvOutcome state.host (.ok (code, msg)) = .error (.ftpError code msg) := by
          unfold epsvOutcome
          split
          · next same =>
            cases same
            exact (other rfl).elim
          · next same =>
            cases same
            exact (refused rfl).elim
          · next same =>
            cases same
            rfl
          · next same => cases same
        rw [ended]
        exact Program.finishes_pure.trans (and_iff_right rfl)
      · exact Program.finishes_pure.trans (and_iff_right rfl)

/-- A reply to EPSV has the code of a port, or an error is made of it. -/
theorem epsv_cases (epsv : Read) : (∃ msg, epsv = .ok (229, msg)) ∨
    (∀ msg, epsv ≠ .ok (229, msg)) ∧ ∃ reason, epsvOutcome host epsv = .error reason := by
  cases epsv with
  | error reason => exact .inr ⟨nofun, reason, rfl⟩
  | ok read =>
    obtain ⟨code, msg⟩ := read
    by_cases passive : code = 229
    · exact .inl ⟨msg, by rw [passive]⟩
    · refine .inr ⟨fun msg' same => passive (congrArg Prod.fst (Except.ok.inj same)), ?_⟩
      unfold epsvOutcome
      split
      · next same => exact absurd (congrArg Prod.fst (Except.ok.inj same)) passive
      · exact ⟨_, rfl⟩
      · exact ⟨_, rfl⟩
      · exact ⟨_, rfl⟩

/-- A PASV reply of the passive code is taken as promised just when it is in range. -/
theorem pasv_promised {msg : Binary} :
    (∃ result, passiveOutcome host (.ok (227, msg)) epsv = .ok result ∧
      ∀ address, result = .ok address ↔ States host (.ok (227, msg)) epsv address) ↔
    InRange (.ok (227, msg)) epsv := by
  have stated : ∀ address, States host (.ok (227, msg)) epsv address ↔
      StatesPasv msg host address := by
    intro address
    constructor
    · rintro (⟨msg', same, states⟩ | ⟨asks, -⟩)
      · cases same
        exact states
      · cases asks
    · exact fun states => .inl ⟨msg, rfl, states⟩
  have inRange : InRange (.ok (227, msg)) epsv ↔ PasvInRange msg := by
    constructor
    · exact fun both => both.1 msg rfl
    · intro first
      refine ⟨fun msg' same => ?_, nofun⟩
      cases same
      exact first
  have parsed : passiveOutcome host (.ok (227, msg)) epsv =
      (parsePasv msg host).elim (.error .notInteger) .ok := rfl
  simp only [stated, inRange, parsed]
  constructor
  · rintro ⟨result, returned, exactly⟩
    cases parsing : parsePasv msg host with
    | none =>
      rw [parsing] at returned
      cases returned
    | some found =>
      rw [parsing] at returned
      cases returned
      exact PasvInRange.of_parsed parsing fun address => (exactly address).mp
  · intro first
    obtain ⟨result, parsing, exactly⟩ : ∃ result, parsePasv msg host = some result ∧
      ∀ address, result = .ok address ↔ StatesPasv msg host address := first.parsed
    exact ⟨result, by rw [parsing]; rfl, exactly⟩

/-- After another reply that of EPSV is taken as promised just when it is in range. -/
theorem epsv_promised (asks : asksEpsv pasv = true) :
    (∃ result, passiveOutcome host pasv epsv = .ok result ∧
      ∀ address, result = .ok address ↔ States host pasv epsv address) ↔ InRange pasv epsv := by
  have passive : ∀ msg, pasv ≠ .ok (227, msg) := by
    rintro msg rfl
    cases asks
  have stated : ∀ address, States host pasv epsv address ↔
      ∃ msg, epsv = .ok (229, msg) ∧ StatesEpsv msg host address := by
    intro address
    constructor
    · rintro (⟨msg, same, -⟩ | ⟨-, states⟩)
      · exact absurd same (passive msg)
      · exact states
    · exact fun states => .inr ⟨asks, states⟩
  have inRange : InRange pasv epsv ↔ ∀ msg, epsv = .ok (229, msg) → EpsvInRange msg := by
    constructor
    · exact fun both => both.2 asks
    · exact fun later => ⟨fun msg same => absurd same (passive msg), fun _ => later⟩
  rw [passiveOutcome_asks asks, inRange]
  simp only [stated, Except.ok.injEq]
  rcases epsv_cases epsv with ⟨msg, rfl⟩ | ⟨other, reason, ended⟩
  · have text : (∀ address, epsvOutcome host (.ok (229, msg)) = .ok address ↔
        ∃ msg', (.ok (229, msg) : Read) = .ok (229, msg') ∧ StatesEpsv msg' host address) ↔
        EpsvInRange msg := by
      rw [← @parseEpsv_stated msg host]
      refine forall_congr' fun address => ?_
      refine iff_congr Iff.rfl ⟨?_, fun states => ⟨msg, rfl, states⟩⟩
      rintro ⟨msg', same, states⟩
      cases same
      exact states
    constructor
    · rintro ⟨result, rfl, exactly⟩ msg' same
      cases same
      exact text.mp exactly
    · intro later
      exact ⟨_, rfl, text.mpr (later msg rfl)⟩
  · refine iff_of_true ⟨_, rfl, fun address => ?_⟩ fun msg same => absurd same (other msg)
    rw [ended]
    exact iff_of_false nofun fun ⟨msg, same, _⟩ => other msg same

/-- The replies to PASV and EPSV are taken as promised just when their texts are in range. -/
theorem passive_promised (replied : Replied fuel pasv epsv record)
    (ran : (enterPassiveMode fuel state).Finishes record outcome) :
    PassivePromised state.host pasv epsv record outcome ↔ InRange pasv epsv := by
  have usable := uses_enterPassiveMode.finishes ran
  have made := replied.finishes.mp ran
  have promised : PassivePromised state.host pasv epsv record outcome ↔
      ∃ result, passiveOutcome state.host pasv epsv = .ok result ∧
        ∀ address, result = .ok address ↔ States state.host pasv epsv address := by
    have inside : ∀ (result : Except FtpError (Host × Int)) address,
        (.ok result : Except Raised _) = .ok (.ok address) ↔ result = .ok address := by
      intro result address
      rw [Except.ok.injEq]
    rw [← made]
    constructor
    · rintro ⟨⟨result, rfl⟩, stated, -⟩
      exact ⟨result, rfl, fun address => (inside result address).symm.trans (stated address)⟩
    · rintro ⟨result, rfl, stated⟩
      exact ⟨⟨result, rfl⟩, fun address => (inside result address).trans (stated address), usable⟩
  rw [promised]
  rcases pasv_cases pasv with ⟨msg, rfl⟩ | ⟨msg, rfl⟩ | asks
  · exact pasv_promised
  · refine iff_of_true ⟨_, rfl, fun address => iff_of_false nofun ?_⟩ ⟨nofun, nofun⟩
    rintro (⟨msg', same, -⟩ | ⟨asks, -⟩)
    · cases same
    · cases asks
  · exact epsv_promised asks

/-- A state of a session with the host "h". -/
def passiveState : State := ⟨none, .name (ascii "h")⟩

/-- PASV is sent and replied to by a line. -/
def pasvRecord (line : Binary) : Record :=
  [⟨.send (commandLine (ascii "PASV") []), .ok ()⟩, ⟨.recvLine, .ok line⟩]

/-- A line of the code of a passive mode is the reply to PASV. -/
theorem replied_pasvRecord (text : Binary) (epsv : Read) :
    Replied 1 (.ok (227, ascii "227" ++ 32 :: text)) epsv (pasvRecord (ascii "227" ++ 32 :: text)) := by
  refine ⟨pasvRecord (ascii "227" ++ 32 :: text), [], rfl, ?_, rfl⟩
  have valid : IsCode (ascii "227") := ⟨rfl, by decide +kernel⟩
  have parsed := parseReplyLine_ends valid (.inl ⟨text, rfl⟩)
  rw [sendAndRead, Program.ends_bind]
  refine ⟨.ok (), [_], [_], rfl, Program.ends_perform.mpr rfl, ?_⟩
  dsimp only
  rw [readReply, Program.ends_bind]
  refine ⟨.ok _, [_], [], rfl, Program.ends_perform.mpr rfl, ?_⟩
  dsimp only
  rw [parsed]
  exact ⟨rfl, rfl⟩

/-- Letters in the place of the numbers. -/
def lettersReply : Binary := ascii "227" ++ 32 :: ascii "(a,b,c,d,e,f)\r\n"

/-- The client does not survive it. -/
theorem passive_promised_fails : ∃ record outcome, Replied 1 (.ok (227, lettersReply))
    (.error (.net .timeout)) record ∧ (enterPassiveMode 1 passiveState).Finishes record outcome ∧
    ¬ PassivePromised passiveState.host (.ok (227, lettersReply)) (.error (.net .timeout)) record
      outcome := by
  have replied := replied_pasvRecord (ascii "(a,b,c,d,e,f)\r\n") (.error (.net .timeout))
  have parsed : parsePasv lettersReply passiveState.host = none := by decide +kernel
  have made : passiveOutcome passiveState.host (.ok (227, lettersReply))
      (.error (.net .timeout)) = .error .notInteger := by
    rw [passiveOutcome, parsed]
    rfl
  refine ⟨_, _, replied, replied.finishes.mpr rfl, ?_⟩
  rintro ⟨⟨result, returned⟩, -, -⟩
  cases made.symm.trans returned

/-- A reply in range. -/
def numbersReply : Binary := ascii "227" ++ 32 :: ascii "(10,0,0,1,4,1)\r\n"

theorem numbersReply_inRange : PasvInRange numbersReply := by
  have captured : firstMatch pasvNumbers numbersReply = some (ascii "10,0,0,1,4,1") := by
    decide +kernel
  intro numsStr captured'
  obtain rfl := Option.some.inj (captured.symm.trans captured')
  have fields : pasvFields (ascii "10,0,0,1,4,1") =
      [ascii "10", ascii "0", ascii "0", ascii "1", ascii "4", ascii "1"] := by decide +kernel
  rw [fields]
  decide +kernel

/-- Numbers of one octet each are taken as promised. -/
theorem passive_promised_numbers : PassivePromised passiveState.host (.ok (227, numbersReply))
    (.error (.net .timeout)) (pasvRecord numbersReply)
    (passiveOutcome passiveState.host (.ok (227, numbersReply)) (.error (.net .timeout))) := by
  have replied := replied_pasvRecord (ascii "(10,0,0,1,4,1)\r\n") (.error (.net .timeout))
  refine (passive_promised replied (replied.finishes.mpr rfl)).mpr ⟨fun msg same => ?_, nofun⟩
  cases same
  exact numbersReply_inRange

end Runs

end Sidereon.Ftp
