import FormRules.Data.Json
import FormRules.Message.Catalog
import FormRules.Wire.Record

/-!
Catalogs from language files: a record of templates by the names of their keys.
-/

namespace FormRules.Catalog
open Wire

def ofData? : Data → Option Catalog
  | .record entries => do
    let templates ← entries.mapM fun (key, d) => (text? d).map (key, ·)
    some (empty.withOverrides templates)
  | _ => none

def ofJson? (s : String) : Option Catalog := do
  ofData? (← Data.ofJson? s)

end FormRules.Catalog
