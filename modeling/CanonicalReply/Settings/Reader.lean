import CanonicalReply.Json.RecordReader
import CanonicalReply.Settings

/-!
# Reading settings from JSON text
-/

namespace CanonicalReply.Settings

open Json (RecordReader FieldReader readScalar)

/-- Settings of which not all have been read. -/
structure Draft where
  headerPrefix : Option String
  errorStatus : Option UInt16
  jsonMode : Option Bool
  repair : Option Bool
  snapshotKeys : Option UInt64
  deriving DecidableEq

namespace Draft

/-- Nothing has been read. -/
def empty : Draft := ⟨none, none, none, none, none⟩

/-- The settings; what has not been read has its default. -/
def finish (d : Draft) : Settings where
  headerPrefix := d.headerPrefix.getD standard.headerPrefix
  errorStatus := d.errorStatus.getD standard.errorStatus
  jsonMode := d.jsonMode.getD standard.jsonMode
  repair := d.repair.getD standard.repair
  snapshotKeys := d.snapshotKeys.getD standard.snapshotKeys

end Draft

/-- How settings are read. -/
def reader : RecordReader Draft Settings where
  name := typeName
  start := .empty
  fields := [
    { key := headerPrefixKey
      isSet := fun d => d.headerPrefix.isSome
      read := fun d _ s => (readScalar "a string" Json.Decoder.text s).map fun r =>
        ({ d with headerPrefix := some r.1 }, r.2) },
    { key := errorStatusKey
      isSet := fun d => d.errorStatus.isSome
      read := fun d _ s => (readScalar "u16" Json.Decoder.uint16 s).map fun r =>
        ({ d with errorStatus := some r.1 }, r.2) },
    { key := jsonModeKey
      isSet := fun d => d.jsonMode.isSome
      read := fun d _ s => (readScalar "a boolean" Json.Decoder.bool s).map fun r =>
        ({ d with jsonMode := some r.1 }, r.2) },
    { key := repairKey
      isSet := fun d => d.repair.isSome
      read := fun d _ s => (readScalar "a boolean" Json.Decoder.bool s).map fun r =>
        ({ d with repair := some r.1 }, r.2) },
    { key := snapshotKeysKey
      isSet := fun d => d.snapshotKeys.isSome
      read := fun d _ s => (readScalar "usize" Json.Decoder.uint64 s).map fun r =>
        ({ d with snapshotKeys := some r.1 }, r.2) }]
  closed := true
  finish := fun _ d => .ok d.finish

/-- Settings from JSON text. -/
def parseJson (text : String) : Except Json.Error Settings := reader.parse text

end CanonicalReply.Settings
