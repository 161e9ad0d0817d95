import RoleGuard.Host
import RoleGuard.Log.Level
import RoleGuard.Request.Reader
import RoleGuard.Text.Utf8

/-! # Manifests

    Rules and requests from files. A file is a stream of documents, each a
    mapping; documents without a value are passed over. A request is the
    role in the first document; granted rules are the rules of all roles, in
    order, while documents of other kinds are passed over with a note.
-/

namespace RoleGuard

/-- The fields of a document. -/
abbrev Document := List (Value × Value)

/-- A result with the messages that were logged on the way to it. -/
abbrev Logged (α : Type) := List Log.Record × α

/-- Goes on with a result unless it was refused; all messages are kept. -/
def Logged.andThen {α β : Type} (r : Logged (Except Refusal α))
    (f : α → Logged (Except Refusal β)) : Logged (Except Refusal β) :=
  match r with
  | (notes, .error e) => (notes, .error e)
  | (notes, .ok a) => (notes ++ (f a).1, (f a).2)

/-- What the steps on some items add, one after the other, with the notes that they leave. The
    first step that is refused ends it. -/
def Logged.collect {α β : Type} (step : α → Except Refusal (List Log.Record × List β)) :
    List α → Logged (Except Refusal (List β))
  | [] => ([], .ok [])
  | x :: xs =>
    match step x with
    | .error r => ([], .error r)
    | .ok (notes, items) =>
      let rest := collect step xs
      (notes ++ rest.1, rest.2.map (items ++ ·))

namespace Manifest

/-! ## Documents -/

/-- The error about a manifest. -/
def fault (origin reason : String) : Error :=
  .manifest origin reason []

/-- The values that are mappings, without the absent ones; any other value is an error. -/
def mappings (origin : String) : List Value → Except Error (List Document)
  | [] => .ok []
  | .null :: vs => mappings origin vs
  | .map entries :: vs => (mappings origin vs).map (entries :: ·)
  | v :: _ => .error (fault origin ("expected a mapping, got " ++ v.kindName))

/-- What a failure to read a text means for its manifest. -/
def unreadable (origin : String) : Yaml.Failure → Refusal
  | .problem p => .reported (fault origin ("invalid YAML: " ++ p.message))
  | .defect d => .defect d

/-- The documents of a text. The whole text is read before any document is looked at. -/
def parse (host : Host) (origin text : String) : Except Refusal (List Document) :=
  match host.documents text with
  | .error f => .error (unreadable origin f)
  | .ok values => (mappings origin values).mapError .reported

/-- The origin of texts that come from nowhere. -/
def unnamed : String := "<string>"

/-- A text with every line end written as a line feed. -/
def unifyBreaks : List Char → List Char
  | '\r' :: '\n' :: cs => '\n' :: unifyBreaks cs
  | '\r' :: cs => '\n' :: unifyBreaks cs
  | c :: cs => c :: unifyBreaks cs
  | [] => []

/-- The text of a file. -/
def readText (files : Files) (p : Path) : Except Refusal String :=
  if p.text.toList.contains '\x00' then .error (.defect .nullInName)
  else match files.read p with
    | .error f => .error (.reported (fault p.text (f.message p)))
    | .ok content => match Text.Utf8.decodeFrom 0 content with
      | .error m => .error (.defect (.notUtf8 m))
      | .ok cs => .ok (String.ofList (unifyBreaks cs))

/-- The documents of a file; there is at least one. -/
def documents (host : Host) (p : Path) : Except Refusal (List Document) := do
  let docs ← parse host p.text (← readText host.files p)
  if docs.isEmpty then throw (.reported (fault p.text "no documents found"))
  return docs

/-! ## Roles -/

/-- A refusal of a document as the refusal of its manifest. -/
def blame (origin : String) : Refusal → Refusal
  | .reported e => .reported (.manifest origin e.message e.details)
  | .defect d => .defect d

/-- The request in a document. -/
def requestOf (limits : Value.Limits) (origin : String) (doc : Document) :
    Except Refusal Request :=
  (Request.ofManifest limits (.map doc)).mapError (blame origin)

/-- The request in the first of some documents. -/
def firstRequest (limits : Value.Limits) (origin : String) :
    List Document → Except Refusal Request
  | [] => .error (.reported (fault origin "no documents found"))
  | doc :: _ => requestOf limits origin doc

/-- The request in a file. The origin is its path as it was given. -/
def request (host : Host) (origin : String) : Except Refusal Request := do
  firstRequest host.limits origin (← documents host (Path.ofText origin))

/-- A document holds a role. -/
def isRole (doc : Document) : Bool :=
  (Request.roleKind? (Request.kindOf doc)).isSome

/-- The note about a document that holds no role; it shows the kind of the document. -/
def skipNote (limits : Value.Limits) (origin : String) (doc : Document) :
    Except Defect Log.Record := do
  let kind ← (Request.kindOf doc).shown limits Value.display
  return ⟨Log.sourcesName, Log.LevelName.debug.value,
    "Skipping " ++ kind ++ " document in " ++ origin⟩

/-- The note and the rules that a document adds: rules if it holds a role, and a note if not. -/
def contribution (limits : Value.Limits) (origin : String) (doc : Document) :
    Except Refusal (List Log.Record × List Rule) :=
  if isRole doc then (requestOf limits origin doc).map fun q => ([], q.rules)
  else ((skipNote limits origin doc).map fun note => ([note], [])).mapError .defect

/-- The rules of the roles among documents, in order; at least one document must be a role. -/
def grantedOf (limits : Value.Limits) (origin : String) (docs : List Document) :
    Logged (Except Refusal (List Rule)) :=
  Logged.andThen (Logged.collect (contribution limits origin) docs) fun rules =>
    ([], if docs.any isRole then .ok rules
      else .error (.reported (fault origin "no Role or ClusterRole document found")))

/-- The granted rules in a file. The origin is its path as it was given. -/
def granted (host : Host) (origin : String) : Logged (Except Refusal (List Rule)) :=
  match documents host (Path.ofText origin) with
  | .error r => ([], .error r)
  | .ok docs => grantedOf host.limits origin docs

/-- The note about the number of granted rules. -/
def loadNote (origin : String) (rules : List Rule) : Log.Record :=
  ⟨Log.sourcesName, Log.LevelName.info.value,
    "Loaded " ++ toString rules.length ++ " granted rule(s) from " ++ origin⟩

/-- The granted rules in the file of an operator, with a note about their number. -/
def operatorRules (host : Host) (p : Path) : Logged (Except Refusal (List Rule)) :=
  Logged.andThen (granted host p.text) fun rules => ([loadNote p.text rules], .ok rules)

end Manifest

end RoleGuard
