/-!
# Help

The text that tells how the command line is used.
-/

namespace TypedClient

namespace Help

/-- How an option is written, and what it is for. -/
structure Entry where
  form : String
  purpose : String

def entries : List Entry :=
  [⟨"    --schema <FILE>", "Schema SDL file (repeatable; definitions are concatenated)"⟩,
   ⟨"    --url <URL>", "Fetch the schema SDL from this URL instead of reading files"⟩,
   ⟨"    --token <TOKEN>", "Bearer token sent when fetching the schema"⟩,
   ⟨"    --documents <FILE>", "Operation document file (repeatable)"⟩,
   ⟨"    --out <OUT>", "Output file (stdout when omitted)"⟩,
   ⟨"    --config <CONFIG>", "TOML configuration file"⟩,
   ⟨"    --runtime-module <RUNTIME_MODULE>", "Module providing Api, gql, and trimInput"⟩,
   ⟨"    --types-path <TYPES_PATH>", "Module the generated types are imported from"⟩,
   ⟨"    --dedupe-operation-suffix",
    "Drop the operation kind suffix when the name already ends with it"⟩,
   ⟨"    --omit-operation-suffix", "Never append the operation kind suffix to type names"⟩,
   ⟨"    --operation-result-suffix <OPERATION_RESULT_SUFFIX>",
    "Suffix appended to synthesized operation result type names"⟩,
   ⟨"    --void-type-name <VOID_TYPE_NAME>", "Scalar marking a field that returns no data"⟩,
   ⟨"-h, --help", "Print help"⟩]

def Entry.render (e : Entry) : String :=
  "  " ++ e.form ++ "\n          " ++ e.purpose ++ "\n"

def usage : String :=
  "Usage: graphqlex-codegen [OPTIONS] --documents <FILE>\n"

def text : String :=
  "Generate typed graphqlex client functions from GraphQL operations\n\n" ++ usage ++
    "\nOptions:\n" ++ String.join (entries.map Entry.render)

end Help

end TypedClient
