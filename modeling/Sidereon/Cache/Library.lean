import Sidereon.Foundation.BeamNumber

/-!
# What the cache takes from elsewhere

Digests, JSON, times, decompressors and the space-weather parser are functions of other libraries.
The cache is modelled over any such functions. A small instance, which agrees with the real ones on
plain inputs, makes concrete runs computable.
-/

namespace Sidereon.Cache

open Foundation.Beam (Number)

/-- The contents of a file. -/
abbrev Bytes := List UInt8

/-- A `DateTime` in UTC. -/
structure DateTime where
  microsecond : Int
  deriving DecidableEq, Inhabited, Repr

/-- `DateTime.diff(a, b, :second)`, the difference of the whole seconds. -/
def DateTime.diffSeconds (a b : DateTime) : Int :=
  a.microsecond / 1000000 - b.microsecond / 1000000

/-- A decoded JSON value; the keys of an object are distinct. -/
inductive Json where
  | null
  | bool (value : Bool)
  | number (value : Number)
  | string (text : String)
  | array (items : List Json)
  | object (fields : List (String × Json))

/-- `json[key]`, unless the value is not one that can be accessed by a string. -/
def Json.access : Json → String → Option Json
  | .object fields, key => some ((fields.lookup key).getD .null)
  | .null, _ => some .null
  | _, _ => none

/-- Every value other than `nil` and `false` is true. -/
def Json.truthy : Json → Bool
  | .null => false
  | .bool value => value
  | _ => true

/-- A parsed space-weather table. -/
structure SpaceWeather where
  handle : Nat
  deriving DecidableEq, Repr

/-- The errors of `ArchiveCompression.decompress`. -/
inductive ArchiveError where
  | sizeLimit
  | invalidGzip
  | unixCompress (reason : String)
  | other (detail : String)
  deriving DecidableEq, Repr

/-- The schemes of `ArchiveCompression.decompress` the cache uses. -/
inductive Scheme where
  | gzip
  | unixCompress
  deriving DecidableEq, Repr

/-- The functions the cache takes from elsewhere: the SHA-256 in lower-case hex, `String.downcase`,
`Jason`, the ISO 8601 forms of a `DateTime`, the archive decompressors and the space-weather
parser. -/
structure Library where
  sha256 : Bytes → String
  downcase : String → String
  encode : Json → Bytes
  decode : Bytes → Option Json
  toIso8601 : DateTime → String
  fromIso8601 : String → Option DateTime
  decompress : Bytes → Scheme → Nat → Except ArchiveError Bytes
  parse : Bytes → Except String SpaceWeather

/-- The bytes of a text. -/
def utf8 (text : String) : Bytes := text.toUTF8.data.toList

/-- A field of a flat map as `Jason` prints it, when no character of it is escaped. -/
def printField : String × Json → Bytes
  | (key, .string text) => utf8 "  \"" ++ utf8 key ++ utf8 "\": \"" ++ utf8 text ++ utf8 "\""
  | (key, .number (.int n)) => utf8 "  \"" ++ utf8 key ++ utf8 "\": " ++ utf8 (toString n)
  | (key, _) => utf8 "  \"" ++ utf8 key ++ utf8 "\": null"

/-- A flat map as `Jason.encode!(map, pretty: true)` prints it. -/
def printObject (fields : List (String × Json)) : Bytes :=
  utf8 "\x7b\n" ++ ((fields.map printField).intersperse (utf8 ",\n")).flatten ++ utf8 "\n\x7d"

/-- The text up to the next quote. -/
def quoted (bytes : Bytes) : String :=
  String.ofList ((bytes.takeWhile (· ≠ 34)).map fun byte => Char.ofNat byte.toNat)

/-- A field of a flat map, from after the first quote of its line. -/
def scanField (line : Bytes) : String × Json :=
  match (line.dropWhile (· ≠ 34)).drop 3 with
  | 34 :: value => (quoted line, .string (quoted value))
  | digits => (quoted line, .number (.int
      ((digits.takeWhile (· ≠ 44)).foldl (fun n digit => 10 * n + (digit.toNat - 48 : Nat)) 0)))

/-- A flat map in pretty print. -/
def scanObject (bytes : Bytes) : Option Json :=
  match bytes.splitOn 10 with
  | [123] :: lines => some (.object (lines.dropLast.map fun line => scanField (line.drop 3)))
  | _ => none

/-- A library for concrete inputs: digests and times from tables, JSON of flat maps, and a
space-weather parser that goes by the first column names. -/
def sampleLibrary (digests : List (Bytes × String)) (times : List (DateTime × String)) :
    Library where
  sha256 data := (digests.lookup data).getD ""
  downcase := String.toLower
  encode json :=
    match json with
    | .object fields => printObject fields
    | _ => []
  decode := scanObject
  toIso8601 time := (times.lookup time).getD ""
  fromIso8601 text := (times.find? (·.2 = text)).map (·.1)
  decompress _ _ _ := .error (.other "")
  parse data :=
    if (utf8 "DATE,BSRN,ND,").isPrefixOf data then .ok ⟨0⟩ else .error "not_text"

end Sidereon.Cache
