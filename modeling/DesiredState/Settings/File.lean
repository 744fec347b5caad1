import DesiredState.Schema.Check
import DesiredState.Settings.Basic

/-!
# The configuration file

Four sections: the exchange, the comparison, the store and the log. A section or field that is not
there has its default, and fields without a meaning are passed over.

* `ConfigFile.ofEntries`: the checked file.
* `ConfigFile.fallbacks`: what it says about settings.
-/

namespace DesiredState

open Schema

/-- The section on exchanges. -/
structure HttpSection where
  timeout : Binary64
  connectTimeout : Binary64
  insecure : Bool

/-- The section on comparing. -/
structure ComparisonSection where
  arrayMode : Text

/-- The section on the store. -/
structure StoreSection where
  stateDir : Option Text

/-- The section on the log. -/
structure LoggingSection where
  level : Text
  file : Option Text
  format : Text
  debug : Bool

/-- The configuration in all files together. -/
structure ConfigFile where
  http : HttpSection
  comparison : ComparisonSection
  store : StoreSection
  logging : LoggingSection

namespace ConfigFile

/-- Exchanges without a section. -/
def defaultHttp : HttpSection := ⟨Settings.defaultTimeout, Settings.defaultConnectTimeout, false⟩

/-- Comparing without a section. -/
def defaultComparison : ComparisonSection := ⟨ArrayMode.ordered.name⟩

/-- The store without a section. -/
def defaultStore : StoreSection := ⟨none⟩

/-- The log without a section. -/
def defaultLogging : LoggingSection := ⟨"INFO", none, "text", false⟩

/-- A file that says nothing. -/
def empty : ConfigFile := ⟨defaultHttp, defaultComparison, defaultStore, defaultLogging⟩

/-- The section on exchanges. Time limits are greater than zero. -/
def httpOfData : Data → Checked HttpSection :=
  Check.model "HttpConfig" fun es =>
    Checked.map (fun (timeout, connectTimeout, insecure) => ⟨timeout, connectTimeout, insecure⟩)
      (Checked.both (Check.optional "timeout" Check.positive defaultHttp.timeout es)
        (Checked.both
          (Check.optional "connect_timeout" Check.positive defaultHttp.connectTimeout es)
          (Check.optional "insecure" Check.truth defaultHttp.insecure es)))

/-- The section on comparing. -/
def comparisonOfData : Data → Checked ComparisonSection :=
  Check.model "ComparisonConfig" fun es =>
    Checked.map (fun mode => ⟨mode⟩)
      (Check.optional "array_mode"
        (Check.literal [ArrayMode.ordered.name, ArrayMode.unordered.name])
        defaultComparison.arrayMode es)

/-- The section on the store. -/
def storeOfData : Data → Checked StoreSection :=
  Check.model "StoreConfig" fun es =>
    Checked.map (fun dir => ⟨dir⟩)
      (Check.optional "state_dir" (Check.nullable Check.text) defaultStore.stateDir es)

/-- The section on the log. -/
def loggingOfData : Data → Checked LoggingSection :=
  Check.model "LoggingConfig" fun es =>
    Checked.map (fun (level, file, format, debug) => ⟨level, file, format, debug⟩)
      (Checked.both (Check.optional "level" Check.text defaultLogging.level es)
        (Checked.both (Check.optional "file" (Check.nullable Check.text) defaultLogging.file es)
          (Checked.both
            (Check.optional "format" (Check.literal ["text", "json"]) defaultLogging.format es)
            (Check.optional "debug" Check.truth defaultLogging.debug es))))

/-- What reports call the configuration. -/
def modelName : Text := "UnifiedConfig"

/-- Why a configuration is refused. -/
inductive Fault
  | keyNotText
  | report (report : Report)

/-- What a fault about keys says. -/
def keyNotTextMessage : Text := "keywords must be strings"

/-- The sections of a configuration. -/
def check (es : List (Key × Data)) : Checked ConfigFile :=
  Checked.map (fun (http, comparison, store, logging) => ⟨http, comparison, store, logging⟩)
    (Checked.both (Check.optional "http" httpOfData defaultHttp es)
      (Checked.both (Check.optional "comparison" comparisonOfData defaultComparison es)
        (Checked.both (Check.optional "store" storeOfData defaultStore es)
          (Check.optional "logging" loggingOfData defaultLogging es))))

/-- The key is a text. -/
def isTextKey : Key → Bool
  | .str _ => true
  | _ => false

/-- A configuration from the entries of its files. All keys on the top level are texts. -/
def ofEntries (es : List (Key × Data)) : Except Fault ConfigFile :=
  if es.all fun e => isTextKey e.1 then
    match check es with
    | .ok file => .ok file
    | .error problems => .error (.report ⟨modelName, problems⟩)
  else .error .keyNotText

/-- What a configuration says about settings. An empty directory says nothing. -/
def fallbacks (file : ConfigFile) : List (Key × Data) :=
  let dir : List (Key × Data) := match file.store.stateDir with
    | some (c :: t) => [(.str "state_dir", .str (c :: t))]
    | _ => []
  [(.str "timeout", .float file.http.timeout),
    (.str "connect_timeout", .float file.http.connectTimeout),
    (.str "insecure", .bool file.http.insecure),
    (.str "debug", .bool file.logging.debug),
    (.str "array_mode", .str file.comparison.arrayMode)] ++ dir

/-- A text, or null. -/
def orNull : Option Text → Data
  | some t => .str t
  | none => .null

/-- The configuration with all its fields. -/
def toData (file : ConfigFile) : Data :=
  .dict [
    (.str "http", .dict [
      (.str "timeout", .float file.http.timeout),
      (.str "connect_timeout", .float file.http.connectTimeout),
      (.str "insecure", .bool file.http.insecure)]),
    (.str "comparison", .dict [(.str "array_mode", .str file.comparison.arrayMode)]),
    (.str "store", .dict [(.str "state_dir", orNull file.store.stateDir)]),
    (.str "logging", .dict [
      (.str "level", .str file.logging.level),
      (.str "file", orNull file.logging.file),
      (.str "format", .str file.logging.format),
      (.str "debug", .bool file.logging.debug)])]

end ConfigFile

end DesiredState
