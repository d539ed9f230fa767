import Storefront.Settings.Basic
import Storefront.Yaml.Decode

/-!
# Settings in YAML

The keys of a settings file. What is left out stays as it is by default; keys that are not known are passed
over.
-/

namespace Storefront

open Storefront.Yaml Storefront.Yaml.Source

def BackendSettings.decode : Decoder BackendSettings :=
  record "struct BackendSettings" {}
    [field "base_url" (string "a string") fun s x => { s with baseUrl := x },
      field "associate_path" (string "a string") fun s x => { s with associatePath := x },
      field "search_path" (string "a string") fun s x => { s with searchPath := x }]

def ProxySettings.decode : Decoder ProxySettings :=
  record "struct ProxySettings" {}
    [field "http" optionalString fun s x => { s with http := x },
      field "https" optionalString fun s x => { s with https := x },
      field "all" optionalString fun s x => { s with all := x }]

def OutgoingSettings.decode : Decoder OutgoingSettings :=
  record "struct OutgoingSettings" {}
    [field "request_timeout" float fun s x => { s with requestTimeout := x },
      field "pool_maxsize" (natural (twoTo 64) "usize") fun s x => { s with poolMaxsize := x },
      field "verify_ssl" bool fun s x => { s with verifySsl := x },
      field "proxies" ProxySettings.decode fun s x => { s with proxies := x },
      field "extra_headers" strings fun s x => { s with extraHeaders := x }]

def SuggestionSettings.decode : Decoder SuggestionSettings :=
  record "struct AutocompleteSettings" {}
    [field "enabled" bool fun s x => { s with enabled := x },
      field "debounce_ms" (natural (twoTo 64) "u64") fun s x => { s with debounce := x },
      field "blur_grace_ms" (natural (twoTo 64) "u64") fun s x => { s with blurGrace := x },
      field "row_height_px" (natural (twoTo 32) "u32") fun s x => { s with rowHeight := x }]

def SessionSettings.decode : Decoder SessionSettings :=
  record "struct SessionSettings" {}
    [field "fixture_query" optionalString fun s x => { s with sampleQuery := x },
      field "start_location" (string "a string") fun s x => { s with startLocation := x },
      field "results_path" (string "a string") fun s x => { s with resultsPath := x }]

namespace Settings

def decode : Decoder Settings :=
  record "struct Settings" {}
    [field "backend" BackendSettings.decode fun s x => { s with backend := x },
      field "outgoing" OutgoingSettings.decode fun s x => { s with outgoing := x },
      field "autocomplete" SuggestionSettings.decode fun s x => { s with suggestion := x },
      field "session" SessionSettings.decode fun s x => { s with session := x }]

/-- The settings that a text holds. -/
def ofYaml (text : String) : Except Failure Settings :=
  Yaml.decode decode text

end Settings

end Storefront
