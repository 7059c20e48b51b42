import Anastom.Core.TaskDocument
import Anastom.Data.Lexing

/-! The texts of schema objects. `normalizeSql` drops all white space outside quotes, also
where it keeps two words apart. -/
namespace Anastom.Schema
open Lexing

/-- The character that ends what this one quotes. -/
def closingQuote (c : Char) : Option Char :=
  if c = '\x27' ∨ c = '\x22' ∨ c = '\x60' then some c else if c = '[' then some ']' else none

/-- A text without the white space outside quotes. -/
def squeeze : Option Char → List Char → List Char
  | _, [] => []
  | some _, [c] => [c]
  | some quote, c :: next :: rest =>
    if c = quote then
      if next = quote then c :: next :: squeeze (some quote) rest
      else c :: squeeze none (next :: rest)
    else c :: squeeze (some quote) (next :: rest)
  | none, c :: rest =>
    match closingQuote c with
    | some quote => c :: squeeze (some quote) rest
    | none => if Js.whitespace c then squeeze none rest else c :: squeeze none rest

def createWord : List Char := ['C', 'R', 'E', 'A', 'T', 'E']

def kinds : List (List Char) :=
  [['T', 'A', 'B', 'L', 'E'], ['I', 'N', 'D', 'E', 'X'], ['T', 'R', 'I', 'G', 'G', 'E', 'R']]

def guardWords : List (List Char) :=
  [['I', 'F'], ['N', 'O', 'T'], ['E', 'X', 'I', 'S', 'T', 'S']]

/-- The kind of object of a text that begins with a squeezed guard. -/
def guarded (text : List Char) : Option (List Char) :=
  kinds.find? fun kind => (createWord ++ kind ++ guardWords.flatten).isPrefixOf text

/-- `replace(/^CREATE(TABLE|INDEX|TRIGGER)IFNOTEXISTS/, "CREATE$1")` -/
def replaceGuard (text : List Char) : List Char :=
  match guarded text with
  | some kind => createWord ++ kind ++
      text.drop (createWord ++ kind ++ guardWords.flatten).length
  | none => text

/-- `replace(/;$/, "")` -/
def replaceEnd (text : List Char) : List Char :=
  if text.getLast? = some ';' then text.dropLast else text

def normalizeSql (sql : List Char) : List Char := replaceEnd (replaceGuard (squeeze none sql))

/-- White space of SQL. JavaScript takes more characters for white space. -/
def space (c : Char) : Bool := c == ' ' || c == '\t' || c == '\n' || c == '\r' || c == '\x0c'

def foreign (c : Char) : Bool := Js.whitespace c && !space c

def verticalTab : Char := Char.ofNat 0x0B

def byteOrderMark : Char := Char.ofNat 0xFEFF

def nameChar (c : Char) : Bool :=
  c.isAlphanum || c == '_' || c == '$' || decide (0x80 ≤ c.toNat)

/-- What a piece of a text is. -/
inductive Passage where
  | code
  | quoted (quote : Char)
  | line
  | block

/-- A text with white space for its comments: the rest of a line, or what ends with a star and
a slash. -/
def uncommented : Passage → List Char → List Char
  | _, [] => []
  | .code, [c] => [c]
  | .code, c :: next :: rest =>
    if c = '-' ∧ next = '-' then uncommented .line rest
    else if c = '/' ∧ next = '*' then uncommented .block rest
    else
      match closingQuote c with
      | some quote => c :: uncommented (.quoted quote) (next :: rest)
      | none => c :: uncommented .code (next :: rest)
  | .quoted quote, c :: rest =>
    if c = quote then c :: uncommented .code rest else c :: uncommented (.quoted quote) rest
  | .line, c :: rest =>
    if c = '\n' then c :: uncommented .code rest else uncommented .line rest
  | .block, [_] => []
  | .block, c :: next :: rest =>
    if c = '*' ∧ next = '/' then ' ' :: uncommented .code rest
    else uncommented .block (next :: rest)

/-- What has been read of a token. -/
inductive State where
  | between
  | name
  /-- An `x`, which may begin a blob. -/
  | blob
  | number
  | fraction
  | operator (first : Char)
  | arrow
  | other
  | quoted (quote : Char)
  | closed (quote : Char)
  deriving DecidableEq, Repr

namespace State

def opens (c : Char) : State :=
  match closingQuote c with
  | some quote => quoted quote
  | none =>
    if c = 'x' ∨ c = 'X' then blob
    else if c.isDigit then number
    else if nameChar c then name
    else if c ∈ ['<', '>', '=', '!', '|', '-'] then operator c
    else other

/-- Operators of two characters, of which one may have a third. -/
def pairs : List ((Char × Char) × State) :=
  [(('<', '='), other), (('<', '>'), other), (('<', '<'), other), (('>', '='), other),
    (('>', '>'), other), (('=', '='), other), (('!', '='), other), (('|', '|'), other),
    (('-', '>'), arrow)]

/-- A doubled bracket, which SQL does not know, is read as `normalizeSql` reads it. -/
def continues (state : State) (c : Char) : Option State :=
  match state with
  | quoted quote => some (if c = quote then closed quote else quoted quote)
  | closed quote => if c = quote then some (quoted quote) else none
  | name => if nameChar c then some name else none
  | blob => if c = '\x27' then some (quoted c) else if nameChar c then some name else none
  | number => if c = '.' then some fraction else if nameChar c then some number else none
  | fraction => if nameChar c then some fraction else none
  | operator first => pairs.lookup (first, c)
  | arrow => if c = '>' then some other else none
  | between | other => none

/-- A vertical tab is white space after white space, a byte order mark between tokens. -/
def layout (state : State) (spaced : Bool) (c : Char) : Bool :=
  match state with
  | quoted _ => false
  | _ => space c || (spaced && c == verticalTab) ||
      (c == byteOrderMark && (spaced || (state.continues c).isNone))

end State

def sql : Scanner Char State := ⟨State.opens, State.continues, State.layout⟩

def marks (text : List Char) : List (Char × Bool) := sql.scan .between false text

def sqlTokens (text : List Char) : List (List Char) := tokens (marks (uncommented .code text))

/-- Tokens without a guard against an existing object. -/
def withoutGuard (list : List (List Char)) : List (List Char) :=
  match kinds.find? fun kind => (createWord :: kind :: guardWords).isPrefixOf list with
  | some kind => createWord :: kind :: list.drop (createWord :: kind :: guardWords).length
  | none => list

def withoutEnd (list : List (List Char)) : List (List Char) :=
  if list.getLast? = some [';'] then list.dropLast else list

/-- The tokens of a schema text, up to a guard and a final semicolon. -/
def schemaTokens (text : List Char) : List (List Char) :=
  withoutEnd (withoutGuard (sqlTokens text))

namespace State

/-- Nothing is read as a quote in the state. -/
def Plain : State → Prop
  | quoted _ => False
  | _ => True

end State
end Anastom.Schema
