import FeatureToggles.Fault
import FeatureToggles.Json.Value
import FeatureToggles.Value.Entries

/-!
# Settings

The settings of a service.  A value may be given as an argument or in the environment, and an argument
beats the environment; what is given by neither has a default.  Variables of the environment are named
like the settings, behind a common beginning.  Names are told apart without regard to case, but of two
arguments for one setting the one that spells its name exactly counts.  Arguments that name no setting
are kept beside the settings, and variables that name none are ignored.

Some arguments are no settings but control how settings are read: the beginning of variables, whether
case counts, whether empty variables count, and a text that stands for null.

Main statements: an argument that spells the name of a setting beats whatever the environment says
(`given?_argument`), without either a setting has its default (`setting_default`), and what controls
the reading is not kept (`kept_control`).
-/

namespace FeatureToggles

/-- The settings of a service. -/
structure Settings where
  environment : String
  logLevel : String
  jsonLogs : Bool
  catalogPath : Option String
  enableTracing : Bool
  exporter : String
  enableConsoleTracing : Bool
  serviceName : String
  port : Int
  host : String
  /-- Arguments that name no setting. -/
  others : Json.Fields

namespace Settings

/-- Variables of the environment. -/
abbrev Variables := List (String × String)

/-! ## Control -/

/-- How settings are read. -/
structure Control where
  /-- What the names of variables begin with. -/
  start : String
  /-- Whether case counts in names. -/
  isExact : Bool
  /-- Whether variables without a text are passed over. -/
  skipsEmpty : Bool
  /-- The text of variables that stands for null, if there is one. -/
  nullText : Option String

namespace Control

/-- What the names of variables begin with, unless something else is asked for. -/
def defaultStart : String := "FEATURES_"

/-- The argument for the beginning of the names of variables. -/
def startKey : String := "_env_prefix"

/-- The argument that tells whether case counts. -/
def exactKey : String := "_case_sensitive"

/-- The argument that tells whether empty variables are passed over. -/
def emptyKey : String := "_env_ignore_empty"

/-- The argument for the text that stands for null. -/
def nullKey : String := "_env_parse_none_str"

/-- The arguments that control how settings are read.  Those after the first four concern nested
settings, files and command lines, of which there are none here. -/
def keys : List String :=
  [startKey, exactKey, emptyKey, nullKey, "_env_prefix_target", "_env_file", "_env_file_encoding",
    "_env_nested_delimiter", "_env_nested_max_split", "_env_parse_enums",
    "_nested_model_default_partial_update", "_secrets_dir", "_build_sources", "_cli_prog_name",
    "_cli_parse_args", "_cli_settings_source", "_cli_parse_none_str", "_cli_hide_none_type",
    "_cli_avoid_json", "_cli_enforce_required", "_cli_use_class_docs_for_groups",
    "_cli_exit_on_error", "_cli_prefix", "_cli_flag_prefix_char", "_cli_implicit_flags",
    "_cli_ignore_unknown_args", "_cli_kebab_case", "_cli_shortcuts"]

/-- Whether an argument is given that is neither null nor false, zero or empty. -/
def asks (arguments : Json.Fields) (key : String) : Bool :=
  match arguments.get? key with
  | some j => !j.toValue.isVoid
  | none => false

/-- The text of an argument. -/
def argumentText? (arguments : Json.Fields) (key : String) : Option String :=
  match arguments.get? key with
  | some (.str s) => some s
  | _ => none

/-- The control that some arguments ask for. -/
def ofArguments (arguments : Json.Fields) : Control :=
  { start := (argumentText? arguments startKey).getD defaultStart
    isExact := asks arguments exactKey
    skipsEmpty := asks arguments emptyKey
    nullText := argumentText? arguments nullKey }

/-- Whether two names are the same. -/
def same (control : Control) (a b : String) : Bool :=
  if control.isExact then a == b else a.map Char.toLower == b.map Char.toLower

/-- The argument for a setting: one with exactly its name, or else the first one with the same. -/
def argument? (control : Control) (arguments : Json.Fields) (key : String) : Option Json :=
  match arguments.get? key with
  | some j => some j
  | none => (arguments.find? fun entry => control.same entry.1 key).map (·.2)

/-- The text of the variable for a setting; of several with the same name the last one counts. -/
def variableText? (control : Control) (vars : Variables) (key : String) : Option String :=
  (vars.reverse.find? fun entry =>
    control.same entry.1 (control.start ++ key) && !(control.skipsEmpty && entry.2.isEmpty)).map (·.2)

/-- The value of a variable with a text. -/
def valueOf (control : Control) (text : String) : Json :=
  if control.nullText = some text then .null else .str text

/-- The value that is given for a setting, by an argument or else by the environment. -/
def given? (control : Control) (arguments : Json.Fields) (vars : Variables) (key : String) :
    Option Json :=
  match control.argument? arguments key with
  | some j => some j
  | none => (control.variableText? vars key).map control.valueOf

theorem given?_argument {arguments : Json.Fields} {key : String} {j : Json} (control : Control)
    (vars : Variables) (h : arguments.get? key = some j) :
    control.given? arguments vars key = some j := by
  simp [given?, argument?, h]

end Control

/-! ## Reading -/

/-- Reads a setting. -/
def setting {α : Type} (control : Control) (arguments : Json.Fields) (vars : Variables)
    (key : String) (default : α) (check : Json → Checked α) : Checked α :=
  match control.given? arguments vars key with
  | some j => (check j).under (.key key)
  | none => .ok default

/-- A text that may be null. -/
def optionalString : Json → Checked (Option String)
  | .null => .ok none
  | j => Except.map some (string j)

/-- The names of the settings, in the order in which they are checked. -/
def keys : List String :=
  ["env", "log_level", "json_logs", "catalog_path", "enable_tracing", "otel_exporter",
    "enable_console_tracing", "service_name", "port", "host"]

/-- The arguments that are kept beside the settings. -/
def kept (control : Control) (arguments : Json.Fields) : Json.Fields :=
  arguments.filter fun entry =>
    !Control.keys.contains entry.1 && !(keys.any fun key => control.same entry.1 key)

/-- Reads the settings of a service of a name on a port, which are arguments themselves. -/
def read (name port : Json) (arguments : Json.Fields) (vars : Variables) : Checked Settings :=
  let control := Control.ofArguments arguments
  let get {α : Type} (key : String) (default : α) (check : Json → Checked α) : Checked α :=
    setting control arguments vars key default check
  Checked.value Settings.mk
    |>.apply (get "env" "local" string)
    |>.apply (get "log_level" "info" string)
    |>.apply (get "json_logs" true boolean)
    |>.apply (get "catalog_path" none optionalString)
    |>.apply (get "enable_tracing" false boolean)
    |>.apply (get "otel_exporter" "http://localhost:4317" string)
    |>.apply (get "enable_console_tracing" false boolean)
    |>.apply ((string name).under (.key "service_name"))
    |>.apply ((integer port).under (.key "port"))
    |>.apply (get "host" "0.0.0.0" string)
    |>.apply (Checked.value (kept control arguments))

/-- The port of the toggle service. -/
def togglesPort : Int := 8020

/-- The name of what holds the settings. -/
def title : String := "ServiceConfig"

/-- The arguments that are always given, so that they cannot be given once more. -/
def fixedKeys : List String := ["service_name", "port"]

/-- The fault of an argument that is given twice to some callee. -/
def givenTwice (callee key : String) : Fault :=
  .other .type (callee ++ "() got multiple values for argument '" ++ key ++ "'")

/-- What is wrong with the names of some arguments, if anything is. -/
def twice? (arguments : Json.Fields) : Option Fault :=
  match arguments.find? fun entry => fixedKeys.contains entry.1 with
  | some (key, _) => some (givenTwice "get_config" key)
  | none =>
    if (arguments.get? "self").isSome then some (givenTwice (title ++ ".__init__") "self") else none

/-- The settings of a service of a name on a port, with further arguments. -/
def configure (name port : Json) (arguments : Json.Fields) (vars : Variables) :
    Except Fault Settings :=
  match twice? arguments with
  | some fault => .error fault
  | none =>
    match read name port arguments vars with
    | .ok settings => .ok settings
    | .error issues => .error (.of (.invalid title issues))

/-- The settings as JSON. -/
def toJson (s : Settings) : Json :=
  .obj ([("env", .str s.environment), ("log_level", .str s.logLevel),
    ("json_logs", .bool s.jsonLogs),
    ("catalog_path", (s.catalogPath.map Json.str).getD .null),
    ("enable_tracing", .bool s.enableTracing), ("otel_exporter", .str s.exporter),
    ("enable_console_tracing", .bool s.enableConsoleTracing),
    ("service_name", .str s.serviceName), ("port", .int s.port), ("host", .str s.host)] ++ s.others)

theorem setting_default {α : Type} {control : Control} {arguments : Json.Fields} {vars : Variables}
    {key : String} (default : α) (check : Json → Checked α)
    (h : control.given? arguments vars key = none) :
    setting control arguments vars key default check = .ok default := by
  simp [setting, h]

theorem kept_control (control : Control) (arguments : Json.Fields) :
    ∀ entry ∈ kept control arguments, Control.keys.contains entry.1 = false := by
  intro entry hentry
  have h := (List.mem_filter.1 hentry).2
  rw [Bool.and_eq_true, Bool.not_eq_true'] at h
  exact h.1

end Settings

end FeatureToggles
