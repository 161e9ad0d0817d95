import RoleGuard.Catalog
import RoleGuard.CommandLine.Arguments
import RoleGuard.Log.Setup
import RoleGuard.Value.Json

/-! # Runs

    A run reads its arguments, resolves its settings, loads manifests and
    prints its findings. It ends with exit code 0, with 1 when a role cannot
    be created with the permissions of the operator, and with 2 when
    arguments, settings or manifests cannot be used; then it prints nothing
    but messages.
-/

namespace RoleGuard.CommandLine

/-- The version of the program. -/
def version : String := "0.1.0"

/-- How a run ends. -/
inductive Exit where
  /-- as it should -/
  | done
  /-- some role cannot be created -/
  | uncovered
  /-- something could not be loaded -/
  | unloaded
deriving DecidableEq, Repr

/-- The exit code. -/
def Exit.code : Exit → Nat
  | done => 0
  | uncovered => 1
  | unloaded => 2

/-- What a run shows. -/
structure Output where
  /-- how it ended -/
  exit : Exit
  /-- its findings -/
  stdout : String
  /-- its messages -/
  stderr : String
deriving DecidableEq, Repr

/-- Why a run breaks off without an exit code of its own. -/
inductive Escape where
  /-- a defect of the input -/
  | defect (d : Defect)
  /-- settings of the wrong kind -/
  | rejected (r : Rejection)
  /-- a finding with a character that an encoding lacks -/
  | unencodable (encoding : String) (c : Char)

/-- The wording of an escape. -/
def Escape.message : Escape → String
  | defect d => d.message
  | rejected r => r.message
  | unencodable encoding c =>
    Text.quote encoding ++ " codec can't encode character U+"
      ++ String.ofList (Text.hexChars 6 c.toNat)

/-- What is shown when arguments do not ask for a run. -/
def Stop.output : Stop → Output
  | help form => ⟨.done, form.help, ""⟩
  | misuse form m => ⟨.unloaded, "", form.usage ++ form.title ++ ": error: " ++ m.message ++ "\n"⟩

/-! ## Commands -/

/-- Lines, each with its end. -/
def lines (ls : List String) : String :=
  String.join (ls.map (· ++ "\n"))

/-- The operator of the settings. -/
def operator (host : Host) (s : Settings) : Logged (Except Refusal Grantor) :=
  Logged.andThen (Manifest.operatorRules host (Path.ofText s.operatorRole)) fun rules =>
    ([], .ok ⟨rules, s.marker⟩)

/-- The requests to check: those of the given manifests, or of the catalog if none is given. -/
def requestsOf (host : Host) (s : Settings) (roles : List String) :
    Logged (Except Refusal (List Request)) :=
  if roles.isEmpty then (Catalog.usual s.manifestDir).requests host
  else ([], roles.mapM (Manifest.request host))

/-- A report as it is printed. -/
def printedReport (format : Format) (r : Report) : String :=
  match format with
  | .text => r.text ++ "\n"
  | .json => r.toValue.json ++ "\n"

/-- Checks roles. -/
def validate (host : Host) (s : Settings) (roles : List String) (format : Format) :
    Logged (Except Refusal (Exit × String)) :=
  Logged.andThen (operator host s) fun g =>
    Logged.andThen (requestsOf host s roles) fun qs =>
      let report := g.report qs
      ([], .ok (if report.ok then .done else .uncovered, printedReport format report))

/-- An observation as a line. -/
def observationLine (o : Observation) : String :=
  (match o.severity with
    | .warning => "WARNING: "
    | .info => "INFO: ") ++ o.message

/-- The warning about a resource that the operator does not name. -/
def missingLine (resource : String) : String :=
  "WARNING: Operator may be missing " ++ resource ++ " permissions"

/-- An observation as a document. -/
def observationValue (o : Observation) : Value :=
  .record [("severity", .text o.severity.word), ("rule_index", .int o.index),
    ("message", .text o.message)]

/-- The outcome of an audit as it is printed. -/
def printedAudit (format : Format) (observations : List Observation) (missing : List String) :
    String :=
  match format with
  | .json =>
    (Value.record [("findings", .list (observations.map observationValue)),
      ("missing_resources", .texts missing)]).json ++ "\n"
  | .text =>
    if observations.isEmpty && missing.isEmpty then "No RBAC anti-patterns found\n"
    else lines (observations.map observationLine ++ missing.map missingLine)

/-- Audits the rules of the operator. -/
def audit (host : Host) (s : Settings) (format : Format) :
    Logged (Except Refusal (Exit × String)) :=
  Logged.andThen (operator host s) fun g =>
    ([], .ok (.done, printedAudit format (Audit.ofRules g.granted s.dangerousVerbs)
      (Audit.missingResources g.granted Audit.defaultRequiredResources)))

/-- Suggests annotations for the rules of a role that are not covered. -/
def suggest (host : Host) (s : Settings) (role : String) :
    Logged (Except Refusal (Exit × String)) :=
  Logged.andThen (operator host s) fun g =>
    Logged.andThen ([], Manifest.request host role) fun q =>
      ([], .ok (.done, lines (g.suggest (g.missing q))))

/-- Carries out a command. -/
def perform (host : Host) (s : Settings) : Command → Logged (Except Refusal (Exit × String))
  | .validate roles format => validate host s roles format
  | .audit format => audit host s format
  | .suggest role => suggest host s role

/-! ## Runs -/

/-- The end of a run that an error stopped: the error is logged and printed. -/
def failed (setup : Log.Setup) (time messages : String) (e : Error) : Output :=
  let record : Log.Record := ⟨Log.commandName, Log.LevelName.error.value, e.message⟩
  ⟨.unloaded, "", messages ++ setup.emit time record none ++ "Error: " ++ e.message ++ "\n"⟩

/-- A run with arguments that were read. Messages carry a time. -/
def runWith (env : Environment) (host : Host) (time : String) (a : Arguments) :
    Except Escape Output :=
  let (warnings, settings) := Settings.resolve env a.overrides
  -- warnings about settings come before the log is set up
  let early := ({} : Log.Setup).emitAll time warnings
  match settings with
  | .error (.rejected r) => .error (.rejected r)
  | .error (.invalid e) => .ok (failed {} time early e)
  | .ok s =>
    let setup := ({} : Log.Setup).withLevel s.logLevel.value
    let (notes, result) := perform host s a.command
    -- nothing is printed as a finding unless everything was loaded
    let messages := early ++ setup.emitAll time notes
    match result with
    | .error (.defect d) => .error (.defect d)
    | .error (.reported e) => .ok (failed setup time messages e)
    | .ok (exit, stdout) => .ok ⟨exit, stdout, messages⟩

/-- A run. -/
def run (env : Environment) (host : Host) (time : String) (arguments : List String) :
    Except Escape Output :=
  match read arguments with
  | .error stop => .ok stop.output
  | .ok a => runWith env host time a

/-- The paths of the files that a run may read. -/
def paths (env : Environment) (arguments : List String) : List Path :=
  match read arguments with
  | .error _ => []
  | .ok a => match (Settings.resolve env a.overrides).2 with
    | .error _ => []
    | .ok s =>
      let catalog := Catalog.usual s.manifestDir
      let requests := match a.command with
        | .validate [] _ => catalog.entries.map catalog.locate
        | .validate roles _ => roles.map Path.ofText
        | .audit _ => []
        | .suggest role => [Path.ofText role]
      Path.ofText s.operatorRole :: requests

/-! ## Processes -/

/-- What findings are printed on. -/
structure Console where
  /-- the name of its encoding -/
  encoding : String
  /-- the characters of its encoding -/
  has : Char → Bool
  /-- ASCII belongs to it -/
  has_ascii : ∀ c : Char, c.toNat < 128 → has c = true

/-- The console that has all characters. -/
def Console.full : Console :=
  ⟨"utf-8", fun _ => true, fun _ _ => rfl⟩

/-- The text can be printed. -/
def Console.prints (console : Console) (s : String) : Bool :=
  s.toList.all console.has

/-- A run whose findings are printed. What the console lacks is escaped in messages, but not in
    findings. -/
def printed (console : Console) : Except Escape Output → Except Escape Output
  | .error e => .error e
  | .ok o => match o.stdout.toList.find? fun c => !console.has c with
    | some c => .error (.unencodable console.encoding c)
    | none => .ok o

/-- The status that the process ends with. -/
def status : Except Escape Output → Nat
  | .ok o => o.exit.code
  -- what nobody handles ends the process with the code of a failing check
  | .error _ => 1

end RoleGuard.CommandLine
