import Anastom.Persistence.SchemaText
import Mathlib.Data.List.Induction
import Mathlib.Data.List.Nodup
import Mathlib.Data.List.Perm.Subperm

/-! What equal normalized texts have in common: the same characters outside white space,
and the same tokens just when white space parts them at the same places. -/
namespace Anastom.Schema
open Lexing

variable {state : State} {spaced : Bool} {c : Char} {rest : List Char}

/-- The characters of the tokens of a text. -/
def spelled (text : List Char) : List Char := (schemaTokens text).flatten

/-- The characters of the tokens that begin one only for the white space before them: without it
they would continue the token before. -/
def partings (text : List Char) : List Bool := sql.parted .between (spell (schemaTokens text))

/-- A text without comments, without white space that only JavaScript knows and without an open
quote, and with a guard where it seems to have one once it is squeezed. -/
structure Readable (text : List Char) : Prop where
  plain : uncommented .code text = text
  known : ∀ c ∈ text, foreign c = false
  ends : (sql.after .between (marks text)).Plain
  guard : ∀ kind, guarded (squeeze none text) = some kind →
    (createWord :: kind :: guardWords) <+: sqlTokens text

/-- An object of a schema by its name. The query leaves out SQLite's own. -/
abbrev SchemaRow := String × List Char

/-- `Map` keeps the place of a name that it has, and the last of its values. -/
def setObject (objects : List SchemaRow) (row : SchemaRow) : List SchemaRow :=
  if row.1 ∈ objects.map Prod.fst then
    objects.map fun object => if object.1 = row.1 then row else object
  else objects ++ [row]

def schemaObjects (rows : List SchemaRow) : List SchemaRow :=
  rows.foldl (fun objects row => setObject objects (row.1, normalizeSql row.2)) []

/-- The comparison of `assertSchema`. -/
def sameSchema (reference db : List SchemaRow) : Bool :=
  let expected := schemaObjects reference
  let actual := schemaObjects db
  expected.length == actual.length &&
    expected.all fun object => actual.lookup object.1 == some object.2

/-- Objects of one name in both schemas, and a property of their texts. -/
def Pairwise (reference db : List SchemaRow) (agree : List Char → List Char → Prop) : Prop :=
  ∀ name sql other, (name, sql) ∈ reference → (name, other) ∈ db → agree sql other

/-- Texts whose tokens have the same characters, parted at the same places. -/
def Alike (text other : List Char) : Prop :=
  spelled text = spelled other ∧ partings text = partings other

theorem sameSchema_singles {name : String} {sql other : List Char}
    (same : normalizeSql sql = normalizeSql other) :
    sameSchema [(name, sql)] [(name, other)] = true := by
  have single (text : List Char) : schemaObjects [(name, text)] = [(name, normalizeSql text)] := rfl
  rw [sameSchema, single, single, same]
  simp

end Anastom.Schema
