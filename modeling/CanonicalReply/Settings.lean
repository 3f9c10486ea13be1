import CanonicalReply.Json.Decoder

/-!
# Settings

What a caller can choose about assemblies. A setting that is not given has its default.
-/

namespace CanonicalReply

open Json (objectOf)
open Json.Decoder (text bool uint16 uint64 closedRecord)
open Json.Fields (defaulted)

/-- What a caller can choose. -/
structure Settings where
  /-- The name under which all headers of a provider are shown. -/
  headerPrefix : String
  /-- The status of a reported error that comes without one. -/
  errorStatus : UInt16
  /-- Whether the arguments of a single tool call become the message. -/
  jsonMode : Bool
  /-- Whether calls packed into one are unpacked. -/
  repair : Bool
  /-- How many keys of a payload a snapshot shows. -/
  snapshotKeys : UInt64
  deriving DecidableEq

namespace Settings

/-- What stands where nothing is chosen. -/
def standard : Settings := ⟨"llm_provider", 422, false, true, 32⟩

instance : Inhabited Settings := ⟨standard⟩

/-! ## The written form -/

/-- The key of the header prefix. -/
def headerPrefixKey : String := "provider_header_prefix"

/-- The key of the error status. -/
def errorStatusKey : String := "default_error_status"

/-- The key of the JSON mode. -/
def jsonModeKey : String := "coerce_single_tool_call_to_json_mode"

/-- The key of the repair. -/
def repairKey : String := "repair_parallel_tool_calls"

/-- The key of the number of keys. -/
def snapshotKeysKey : String := "max_diagnostic_keys"

/-- The type's name in messages. -/
def typeName : String := "NormalizerConfig"

/-- Name and keys of the record. -/
def shape : Json.Shape :=
  ⟨typeName, [headerPrefixKey, errorStatusKey, jsonModeKey, repairKey, snapshotKeysKey]⟩

/-- The written form. -/
def toJson (s : Settings) : Json :=
  objectOf [(headerPrefixKey, some (.str s.headerPrefix)),
    (errorStatusKey, some (.num (.int s.errorStatus.toNat))),
    (jsonModeKey, some (.bool s.jsonMode)), (repairKey, some (.bool s.repair)),
    (snapshotKeysKey, some (.num (.int s.snapshotKeys.toNat)))]

/-- Read the written form. An unknown key is a fault. -/
def decode : Json.Decoder Settings :=
  closedRecord shape
    (Settings.mk <$> defaulted headerPrefixKey text standard.headerPrefix <*>
      defaulted errorStatusKey uint16 standard.errorStatus <*>
      defaulted jsonModeKey bool standard.jsonMode <*> defaulted repairKey bool standard.repair <*>
      defaulted snapshotKeysKey uint64 standard.snapshotKeys)

end Settings

end CanonicalReply
