import CanonicalReply.Settings.Reader
import CanonicalReply.Yaml.Record

/-!
# Reading settings from YAML text
-/

namespace CanonicalReply.Settings

/-- How settings are read from a YAML document. -/
def yamlReader : Yaml.RecordReader Draft where
  name := typeName
  start := .empty
  fields := [
    { key := headerPrefixKey
      isSet := fun d => d.headerPrefix.isSome
      read := fun d part => (Yaml.Decoder.text part).map fun v =>
        { d with headerPrefix := some v } },
    { key := errorStatusKey
      isSet := fun d => d.errorStatus.isSome
      read := fun d part => (Yaml.Decoder.uint16 part).map fun v =>
        { d with errorStatus := some v } },
    { key := jsonModeKey
      isSet := fun d => d.jsonMode.isSome
      read := fun d part => (Yaml.Decoder.bool part).map fun v => { d with jsonMode := some v } },
    { key := repairKey
      isSet := fun d => d.repair.isSome
      read := fun d part => (Yaml.Decoder.bool part).map fun v => { d with repair := some v } },
    { key := snapshotKeysKey
      isSet := fun d => d.snapshotKeys.isSome
      read := fun d part => (Yaml.Decoder.uint64 part).map fun v =>
        { d with snapshotKeys := some v } }]

/-- Settings from YAML text. -/
def parseYaml (text : String) : Except Yaml.Error Settings :=
  (yamlReader.parse text).map Draft.finish

end CanonicalReply.Settings
