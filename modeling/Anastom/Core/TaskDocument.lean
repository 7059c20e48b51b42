import Anastom.Core.WorkflowDocument

/-! Tasks: Markdown with YAML front matter, and the workflow of an agent and a verifier that
each task compiles to. -/
namespace Anastom

namespace Json

mutual
/-- `JSON.stringify`, with object keys in their own order. -/
def plainChars : JsonValue → List Char
  | .null => ['n', 'u', 'l', 'l']
  | .bool true => ['t', 'r', 'u', 'e']
  | .bool false => ['f', 'a', 'l', 's', 'e']
  | .number value => numberChars value
  | .string value => stringChars value
  | .array items => '[' :: commaSeparated (plainItems items) ++ [']']
  | .object fields => '{' :: commaSeparated (plainFields fields) ++ ['}']
def plainItems : List JsonValue → List (List Char)
  | [] => []
  | item :: rest => plainChars item :: plainItems rest
def plainFields : List (String × JsonValue) → List (List Char)
  | [] => []
  | (key, value) :: rest => (stringChars key ++ ':' :: plainChars value) :: plainFields rest
end

def stringify (value : JsonValue) : String := String.ofList (plainChars value)

end Json

open JsonValue

def AttemptPolicyDocument.toJson (policy : AttemptPolicyDocument) : JsonValue :=
  .object (field "maxAttempts" nat policy.maxAttempts ++
    field "maxDuration" .string policy.maxDuration)

def CommandDocument.toJson (command : CommandDocument) : JsonValue :=
  .object ([("argv", strings command.argv)] ++ field "cwd" .string command.cwd ++
    [("maxDuration", .string command.maxDuration)] ++
    field "maxOutputBytes" nat command.maxOutputBytes)

def schemaReference (schema : String) : JsonValue := .object [("schema", .string schema)]

def WorkflowNodeDocument.toJson (node : WorkflowNodeDocument) : JsonValue :=
  .object ([("kind", .string node.kind.text)] ++ field "needs" strings node.needs ++
    [("output", schemaReference node.output)] ++ field "role" .string node.role ++
    field "mutation" (.string ·.text) node.mutation ++
    field "command" CommandDocument.toJson node.command ++
    field "attemptPolicy" AttemptPolicyDocument.toJson node.attemptPolicy)

def WorkflowDocument.toJson (document : WorkflowDocument) : JsonValue :=
  .object ([("apiVersion", .string "anastom.dev/v1alpha1"), ("kind", .string "Workflow"),
      ("metadata", .object [("id", .string document.metadata.id),
        ("version", .string document.metadata.version)]),
      ("inputs", .object (document.inputs.map fun (id, schema) => (id, schemaReference schema)))] ++
    field "policies" (fun policy => .object [("defaultAttemptBudget", policy.toJson)])
      document.defaultAttemptBudget ++
    [("nodes", .object (document.nodes.map fun (id, node) => (id, node.toJson)))])

/-- The front matter of a task. -/
structure TaskFrontMatter where
  metadata : WorkflowMetadata
  role : String
  mutation : MutationMode
  acceptanceCriteria : List String
  verification : CommandDocument
  attemptPolicy : Option AttemptPolicyDocument
  deriving DecidableEq, Repr

namespace Js

/-- White space and line terminators. -/
def whitespace (c : Char) : Bool :=
  [0x9, 0xA, 0xB, 0xC, 0xD, 0x20, 0xA0, 0x1680, 0x2028, 0x2029, 0x202F, 0x205F, 0x3000,
    0xFEFF].contains c.toNat || (decide (0x2000 ≤ c.toNat) && decide (c.toNat ≤ 0x200A))

/-- `String.prototype.trim` -/
def trim (text : List Char) : List Char :=
  ((text.dropWhile whitespace).reverse.dropWhile whitespace).reverse

end Js

namespace TaskDocument

/-- What the front matter schema adds to the record type. -/
def validate (candidate : TaskFrontMatter) : Bool :=
  Definition.metadataId candidate.metadata.id &&
    Definition.metadataVersion candidate.metadata.version && !candidate.role.isEmpty &&
    !candidate.acceptanceCriteria.isEmpty && candidate.acceptanceCriteria.all (!·.isEmpty) &&
    WorkflowDocument.validCommand candidate.verification &&
    candidate.attemptPolicy.all WorkflowDocument.validPolicy

/-- A line up to its line feed, and the text after it. -/
def takeLine (text : List Char) : Option (List Char × List Char) :=
  match text.dropWhile (· != '\n') with
  | [] => none
  | _ :: rest => some (text.takeWhile (· != '\n'), rest)

/-- `line.replace(/\r$/, "") === "---"` -/
def delimiter (line : List Char) : Bool :=
  (if line.getLast? = some '\r' then line.dropLast else line) == ['-', '-', '-']

/-- The lines before the closing delimiter, and the text after it. Each line takes a
character of the text, so its length bounds the scan. -/
def closing : Nat → List Char → Option (List Char × List Char)
  | 0, _ => none
  | fuel + 1, text => do
    let (line, rest) ← takeLine text
    if delimiter line then some ([], rest)
    else
      let (front, body) ← closing fuel rest
      some (line ++ '\n' :: front, body)

end TaskDocument

namespace TaskDocument

def typed (type : String) : JsonValue := .object [("type", .string type)]

def counted (type : String) : JsonValue :=
  .object [("type", .string type), ("minimum", nat 0)]

end TaskDocument

end Anastom
