import Storefront.Files
import Storefront.Number.Numeral
import Storefront.Settings.Read

/-!
# Finding settings

Settings come from the first file that is there, and from no other; without one they are what they are by
default. Environment variables override some of them in either case.
-/

namespace Storefront

/-- The values of environment variables. -/
abbrev Environment := String → Option String

namespace Settings

/-- A number of seconds that can be waited for. -/
def waitable? (text : String) : Option Binary64 :=
  (Numeral.binary64? text).filter fun x => x.isFinite && x.isPositive

/-- Applies the variables that are set. A number that is malformed changes nothing. -/
def override (env : Environment) (s : Settings) : Settings :=
  { s with
    backend := { s.backend with baseUrl := (env "NEXUS_BACKEND_URL").getD s.backend.baseUrl }
    suggestion :=
      { s.suggestion with
        debounce :=
          ((env "NEXUS_DEBOUNCE_MS").bind fun text => Numeral.natBelow? (twoTo 64) 10 text.toList).getD
            s.suggestion.debounce }
    outgoing :=
      { s.outgoing with
        requestTimeout :=
          ((env "NEXUS_REQUEST_TIMEOUT").bind waitable?).getD s.outgoing.requestTimeout } }

end Settings

/-- Why settings cannot be had from a file. -/
inductive SettingsError where
  | file (e : FileError)
  | yaml (f : Yaml.Failure)

def SettingsError.message : SettingsError → String
  | file e => e.message
  | yaml f => f.message

namespace Settings

/-- The settings in a file. -/
def ofFile (fs : Files) (path : String) : Except SettingsError Settings :=
  match fs.read path with
  | .error e => .error (.file e)
  | .ok text => (ofYaml text).mapError .yaml

/-- The directory of the user's configuration: where a variable says, if that starts at the root, and else one in
the home directory. -/
def userDirectory? (env : Environment) : Option String :=
  match (env "XDG_CONFIG_HOME").filter fun d => d.startsWith "/" with
  | some d => some d
  | none => ((env "HOME").filter fun d => !d.isEmpty).map fun d => d ++ "/.config"

/-- Where a settings file may be, in the order in which it is looked for: where a variable says, here, and in
the directory of the user's configuration. -/
def candidates (env : Environment) (userDirectory : Option String) : List String :=
  (env "NEXUS_SETTINGS_PATH").toList ++ ["settings.yml", "config/settings.yml"] ++
    (userDirectory.map fun d => d ++ "/nexus-search/settings.yml").toList

/-- The candidate that settings are read from. -/
def chosen? (fs : Files) (env : Environment) (userDirectory : Option String) : Option String :=
  (candidates env userDirectory).find? fun path => !path.isEmpty && fs.contains path

def load (fs : Files) (env : Environment) (userDirectory : Option String) : Except SettingsError Settings :=
  match chosen? fs env userDirectory with
  | some path => (ofFile fs path).map (override env)
  | none => .ok (override env {})

end Settings

end Storefront
