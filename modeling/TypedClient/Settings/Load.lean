import TypedClient.Error

/-!
# Settings from a text

Each key of the settings may be given once; the others keep their defaults.
-/

namespace TypedClient

namespace Settings

def set (s : Settings) (key : String) (value : TomlValue) : Except TomlError Settings :=
  match key, value with
  | "runtime_module", .string v => .ok { s with runtimeModule := v }
  | "types_path", .string v => .ok { s with typesPath := v }
  | "operation_result_suffix", .string v => .ok { s with operationResultSuffix := v }
  | "dedupe_operation_suffix", .boolean v => .ok { s with dedupeOperationSuffix := v }
  | "omit_operation_suffix", .boolean v => .ok { s with omitOperationSuffix := v }
  | "void_type_name", .string v => .ok { s with voidTypeName := v }
  | key, _ => if key ∈ keys then .error (.wrongType key) else .error (.unknownKey key)
where
  keys : List String :=
    ["runtime_module", "types_path", "operation_result_suffix", "dedupe_operation_suffix",
     "omit_operation_suffix", "void_type_name"]

def setAll (s : Settings) : List (String × TomlValue) → Except TomlError Settings
  | [] => .ok s
  | (key, value) :: rest =>
    if rest.any (·.1 == key) then .error (.repeatedKey key)
    else do (← s.set key value).setAll rest

/-- Settings from a TOML text, before they are validated. -/
def read (text : String) : Except TomlError Settings :=
  match TomlValue.parse text with
  | some entries => setAll {} entries
  | none => .error .malformed

def ofToml (text : String) : Except ConfigError Settings := do
  let s ← (read text).mapError .toml
  s.validate.mapError .invalid
  return s

end Settings

end TypedClient
