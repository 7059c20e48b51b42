import Anastom.Core.Json

/-! The text patterns that validation applies to identities, and content digests. -/
namespace Anastom.Text

def identifierHead (c : Char) : Bool := c.isAlphanum

def identifierTail (c : Char) : Bool := c.isAlphanum || c == '.' || c == '_' || c == '-'

/-- `^[a-zA-Z0-9][a-zA-Z0-9._-]*$`, the node names of an authored workflow. -/
def nodeName (s : String) : Bool :=
  match s.toList with
  | [] => false
  | head :: tail => identifierHead head && tail.all identifierTail

/-- `^[a-zA-Z0-9][a-zA-Z0-9._-]{0,127}$` -/
def identifier (s : String) : Bool := nodeName s && decide (s.toList.length ≤ 128)

def hexLower (c : Char) : Bool := c.isDigit || ('a' ≤ c && c ≤ 'f')

def hexAny (c : Char) : Bool := hexLower c || ('A' ≤ c && c ≤ 'F')

/-- `^sha256:[a-f0-9]{64}$` -/
def digest (s : String) : Bool :=
  s.toList.take 7 == ['s', 'h', 'a', '2', '5', '6', ':'] &&
    (s.toList.drop 7).length == 64 && (s.toList.drop 7).all hexLower

/-- `^[0-9a-f]{8}-[0-9a-f]{4}-4[0-9a-f]{3}-[89ab][0-9a-f]{3}-[0-9a-f]{12}$`, either case. -/
def uuid (s : String) : Bool :=
  match s.toList.splitOn '-' with
  | [a, b, c, d, e] =>
    a.length == 8 && a.all hexAny && b.length == 4 && b.all hexAny &&
    c.length == 4 && c.head? == some '4' && c.all hexAny &&
    d.length == 4 && (d.head?.any fun x => ['8', '9', 'a', 'b', 'A', 'B'].contains x) &&
    d.all hexAny && e.length == 12 && e.all hexAny
  | _ => false

end Anastom.Text

namespace Anastom

/-- `Number.MAX_SAFE_INTEGER` -/
def maxSafeInteger : Nat := 9007199254740991

/-- `{ type: "integer", minimum: 1, maximum: Number.MAX_SAFE_INTEGER }` -/
def positive (n : Nat) : Bool := decide (1 ≤ n ∧ n ≤ maxSafeInteger)

theorem positive_iff {n : Nat} : positive n = true ↔ 1 ≤ n ∧ n ≤ maxSafeInteger := by
  simp [positive]

/-- `{ type: "integer", minimum: 0, maximum: Number.MAX_SAFE_INTEGER }` -/
def nonnegative (n : Nat) : Bool := decide (n ≤ maxSafeInteger)

theorem nonnegative_iff {n : Nat} : nonnegative n = true ↔ n ≤ maxSafeInteger :=
  decide_eq_true_iff

/-- The content digest of the platform: SHA-256 in prefixed lowercase hex. -/
structure Hash where
  digestBytes : String → String
  wellFormed : ∀ bytes, Text.digest (digestBytes bytes) = true

namespace Hash

/-- Digest canonical JSON; object insertion order does not affect the result. -/
def digestJson (hash : Hash) (value : JsonValue) : String :=
  hash.digestBytes (Json.canonicalJson value)

end Hash
end Anastom
