import WarmStorage.Text.Quoted

/-!
Metadata: short lists of keys with values, attached to a data set or to one of its pieces. Limits
bound the number of entries and the lengths of keys and values, counted in bytes of UTF-8, and a
key occurs at most once.
-/

namespace WarmStorage

structure MetadataEntry where
  key : String
  value : String
deriving DecidableEq, Repr

abbrev Metadata := List MetadataEntry

inductive MetadataScope where
  | dataSet
  | piece
deriving DecidableEq, Repr

inductive MetadataError where
  | lengthMismatch (keys values : Nat)
  | tooManyKeys (count : Nat) (max : UInt64)
  | keyTooLong (length : Nat) (max : UInt64)
  | valueTooLong (key : String) (length : Nat) (max : UInt64)
  | duplicateKey (key : String)
deriving DecidableEq, Repr

def MetadataError.message : MetadataError → String
  | lengthMismatch keys values =>
    s!"Metadata array length mismatch: {keys} keys, {values} values"
  | tooManyKeys count max => s!"Too many metadata keys: {count} exceeds {max}"
  | keyTooLong length max => s!"Metadata key of {length} bytes exceeds {max}"
  | valueTooLong key length max =>
    s!"Metadata value for key {Text.Quoted.encode key} of {length} bytes exceeds {max}"
  | duplicateKey key => s!"Duplicate metadata key {Text.Quoted.encode key}"

namespace Metadata

/-- Pairs keys with values; there have to be as many of one as of the other. -/
def ofColumns (keys values : List String) : Except MetadataError Metadata :=
  if keys.length = values.length then
    .ok (keys.zipWith MetadataEntry.mk values)
  else
    .error (.lengthMismatch keys.length values.length)

def hasKey (entries : Metadata) (key : String) : Bool :=
  entries.any (·.key == key)

def value? (entries : Metadata) (key : String) : Option String :=
  (entries.find? (·.key == key)).map (·.value)

def keys (entries : Metadata) : List String :=
  entries.map (·.key)

end Metadata

structure MetadataLimits where
  keyLength : UInt64 := 32
  valueLength : UInt64 := 128
  dataSetKeys : UInt64 := 10
  pieceKeys : UInt64 := 5
deriving DecidableEq, Repr

namespace MetadataLimits

def maxKeys (limits : MetadataLimits) : MetadataScope → UInt64
  | .dataSet => limits.dataSetKeys
  | .piece => limits.pieceKeys

def checkEntry (limits : MetadataLimits) (seen : List String) (e : MetadataEntry) :
    Except MetadataError Unit :=
  if limits.keyLength.toNat < e.key.utf8ByteSize then
    .error (.keyTooLong e.key.utf8ByteSize limits.keyLength)
  else if limits.valueLength.toNat < e.value.utf8ByteSize then
    .error (.valueTooLong e.key e.value.utf8ByteSize limits.valueLength)
  else if seen.contains e.key then
    .error (.duplicateKey e.key)
  else
    .ok ()

def checkEntries (limits : MetadataLimits) : List String → Metadata → Except MetadataError Unit
  | _, [] => .ok ()
  | seen, e :: es => do
    limits.checkEntry seen e
    limits.checkEntries (e.key :: seen) es

def validate (limits : MetadataLimits) (entries : Metadata) (scope : MetadataScope) :
    Except MetadataError Unit :=
  if (limits.maxKeys scope).toNat < entries.length then
    .error (.tooManyKeys entries.length (limits.maxKeys scope))
  else
    limits.checkEntries [] entries

end MetadataLimits

end WarmStorage
