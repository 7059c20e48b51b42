import Anastom.Data.Outcomes
import Anastom.Persistence.SchemaDrift

/-! The migrations of the store: steps that are recorded by version, name and checksum, and
run in one transaction between two comparisons of the schema. -/
namespace Anastom.Schema

/-- A committed, immutable database schema step. Versions start at one without gaps. -/
structure Migration where
  version : Int
  name : String
  sql : String
  deriving DecidableEq, Repr

/-- A row of `schema_migrations`, without the time that SQLite adds. -/
structure MigrationRow where
  version : Int
  name : String
  checksum : String
  deriving DecidableEq, Repr

/-- What the migrations read and write of a database. `journal` holds the rows of the table
`schema_migrations` in the order of its key, `contents` the rows of the other tables. -/
structure Database (Contents : Type) where
  objects : List SchemaRow
  journal : Option (List MigrationRow)
  userVersion : Int
  contents : Contents

/-- A connection to a database: what is committed, what its statements see, and whether a
transaction is open between the two. -/
structure Connection (Contents : Type) where
  committed : Database Contents
  db : Database Contents
  begun : Bool

/-- SQLite: what a script leaves, also where it fails part-way or ends the transaction that it
runs in, what a commit answers, a new database's contents, and the two checks. -/
structure Sqlite (Contents : Type) where
  exec : String → Connection Contents → Except String Unit × Connection Contents
  commit : Database Contents → Except String Unit
  blank : Contents
  quickCheck : Database Contents → Bool
  foreignKeyCheck : Database Contents → Bool

variable {Contents : Type}

/-- `if (!holds) throw new Error(error)` -/
def ensure (holds : Bool) (error : String) : Except String Unit :=
  if holds then .ok () else .error error

/-- The text of `journal.sql` as the schema table keeps it. -/
def journalSql : String :=
  "CREATE TABLE schema_migrations (\n  version INTEGER PRIMARY KEY,\n  name TEXT NOT NULL,\n" ++
  "  checksum TEXT NOT NULL,\n" ++
  "  applied_at TEXT NOT NULL DEFAULT (strftime('%Y-%m-%dT%H:%M:%fZ','now'))\n)"

namespace Database

/-- `CREATE TABLE IF NOT EXISTS schema_migrations`, where nothing else has that name. -/
def execJournal (db : Database Contents) : Database Contents :=
  if db.journal.isSome then db
  else { db with
    objects := db.objects ++ [("schema_migrations", journalSql.toList)]
    journal := some [] }

/-- The rows that `validateHistory` selects. -/
def rows (db : Database Contents) : List MigrationRow := db.journal.getD []

end Database

namespace Connection

/-- A connection without a transaction. -/
def idle (db : Database Contents) : Connection Contents := ⟨db, db, false⟩

/-- `BEGIN IMMEDIATE` -/
def immediate (db : Database Contents) : Connection Contents := ⟨db, db, true⟩

/-- Statements of the migrations themselves, which commit where no transaction is open. -/
def write (conn : Connection Contents) (db : Database Contents) : Connection Contents :=
  { conn with db, committed := if conn.begun then conn.committed else db }

/-- A failure leaves the connection as it is by then. -/
def checks (conn : Connection Contents) (answer : Except String α) :
    Except (String × Connection Contents) α :=
  answer.mapError (·, conn)

end Connection

namespace Sqlite
variable (sqlite : Sqlite Contents)

/-- `new DatabaseSync(":memory:")` -/
def memory : Database Contents := ⟨[], none, 0, sqlite.blank⟩

/-- `db.exec(sql)` -/
def script (sql : String) (conn : Connection Contents) :
    Except (String × Connection Contents) (Connection Contents) :=
  match sqlite.exec sql conn with
  | (.ok _, conn) => .ok conn
  | (.error error, conn) => .error (error, conn)

/-- `COMMIT` -/
def commitTransaction (conn : Connection Contents) :
    Except (String × Connection Contents) (Connection Contents) := do
  conn.checks (if conn.begun then sqlite.commit conn.db
    else .error "cannot commit - no transaction is active")
  pure (.idle conn.db)

def runScripts (steps : List Migration) (conn : Connection Contents) :
    Except (String × Connection Contents) (Connection Contents) :=
  steps.foldlM (fun reference step => sqlite.script step.sql reference) conn

/-- The database that `assertSchema` runs the scripts on. -/
def baseline (db : Database Contents) : Database Contents :=
  if db.objects.any fun row => row.1 == "schema_migrations" then sqlite.memory.execJournal
  else sqlite.memory

def assertSchema (db : Database Contents) (steps : List Migration) : Except String Unit := do
  let reference ← (sqlite.runScripts steps (.idle (sqlite.baseline db))).mapError Prod.fst
  ensure (sameSchema reference.db.objects db.objects) <|
    "Database schema differs from its migration history; " ++
      "restore a verified backup before retrying"
  ensure (sqlite.quickCheck db) "Database integrity check failed"
  ensure (sqlite.foreignKeyCheck db) "Database foreign-key check failed"

end Sqlite

def migrationRow (hash : Hash) (step : Migration) : MigrationRow :=
  ⟨step.version, step.name, hash.digestBytes step.sql⟩

def validateHistory (hash : Hash) (db : Database Contents) (steps : List Migration) :
    Except String Nat := do
  ensure (decide (db.rows.length ≤ steps.length)) "Database schema is newer than this application"
  ensure ((db.rows.zip steps).all fun entry => entry.1 == migrationRow hash entry.2)
    "Database migration history has a gap or changed checksum"
  ensure (db.userVersion == db.rows.length)
    "Database schema version and migration history disagree"
  return db.rows.length

/-- `INSERT` under the primary key. -/
def insertRow (row : MigrationRow) : List MigrationRow → Option (List MigrationRow)
  | [] => some [row]
  | next :: rest =>
    if row.version < next.version then some (row :: next :: rest)
    else if row.version = next.version then none
    else (insertRow row rest).map (next :: ·)

def recordMigration (hash : Hash) (step : Migration) (db : Database Contents) :
    Except String (Database Contents) :=
  match db.journal.bind (insertRow (migrationRow hash step)) with
  | none => .error "schema_migrations does not take the row"
  | some rows => .ok { db with journal := some rows, userVersion := step.version }

/-- Whether the versions start at `before` and one and are contiguous, and no step is empty. -/
def numbered (before : Nat) (steps : List Migration) : Bool :=
  (steps.zipIdx before).all fun entry =>
    entry.1.version == (entry.2 : Int) + 1 && !entry.1.name.isEmpty &&
      !(Js.trim entry.1.sql.toList).isEmpty

def migrate (hash : Hash) (sqlite : Sqlite Contents) (steps : List Migration)
    (conn : Connection Contents) : Except (String × Connection Contents) (Connection Contents) :=
  steps.foldlM (fun conn step => do
    let conn ← sqlite.script step.sql conn
    let db ← conn.checks (recordMigration hash step conn.db)
    pure (conn.write db)) conn

/-- What `applyMigrations` does in its transaction, up to the `COMMIT`. -/
def upgrade (hash : Hash) (sqlite : Sqlite Contents) (steps : List Migration)
    (conn : Connection Contents) :
    Except (String × Connection Contents) (Connection Contents) := do
  conn.checks <| ensure (conn.db.journal.isSome || (schemaObjects conn.db.objects).isEmpty)
    "Database schema exists without migration history"
  conn.checks <| ensure (conn.db.journal.isSome || conn.db.userVersion == 0)
    "Database version exists without a migration history"
  let conn := conn.write conn.db.execJournal
  let applied ← conn.checks (validateHistory hash conn.db steps)
  conn.checks (sqlite.assertSchema conn.db (steps.take applied))
  let conn ← migrate hash sqlite (steps.drop applied) conn
  conn.checks (sqlite.assertSchema conn.db steps)
  sqlite.commitTransaction conn

/-- `ROLLBACK` after an error, which itself fails where no transaction is open any more. -/
def rollback (error : String) (conn : Connection Contents) :
    Except String Unit × Database Contents :=
  if conn.begun then (.error error, conn.committed)
  else (.error "cannot rollback - no transaction is active", conn.committed)

/-- Validate and apply schema changes under one immediate transaction, which begins when
`free`. What is left is what other connections see. -/
def applyMigrations (hash : Hash) (sqlite : Sqlite Contents) (free : Bool)
    (steps : List Migration) (db : Database Contents) :
    Except String Unit × Database Contents :=
  if steps.isEmpty || !numbered 0 steps then
    (.error "Migration versions must start at one and be contiguous", db)
  else if !free then (.error "database is locked", db)
  else
    match upgrade hash sqlite steps (.immediate db) with
    | .ok conn => (.ok (), conn.committed)
    | .error (error, conn) => rollback error conn

variable {hash : Hash} {sqlite : Sqlite Contents} {db next : Database Contents}
  {steps : List Migration} {conn last : Connection Contents}

theorem ensure_ok {holds : Bool} {error : String} :
    ensure holds error = .ok () ↔ holds = true := by
  cases holds with
  | true => exact ⟨fun _ => rfl, fun _ => rfl⟩
  | false =>
    constructor
    · intro passed
      cases passed
    · intro passed
      cases passed

theorem ensure_bind_ok {holds : Bool} {error : String} {rest : Unit → Except String α} {a : α} :
    (ensure holds error >>= rest) = .ok a ↔ holds = true ∧ rest () = .ok a := by
  rw [bind_ok]
  constructor
  · rintro ⟨_, passed, continued⟩
    exact ⟨ensure_ok.mp passed, continued⟩
  · rintro ⟨passed, continued⟩
    exact ⟨(), ensure_ok.mpr passed, continued⟩

theorem checks_bind_ok {answer : Except String α}
    {rest : α → Except (String × Connection Contents) β} {b : β} :
    (conn.checks answer >>= rest) = .ok b ↔ ∃ a, answer = .ok a ∧ rest a = .ok b := by
  cases answer with
  | error error =>
    constructor
    · intro passed
      cases passed
    · rintro ⟨_, passed, _⟩
      cases passed
  | ok a =>
    constructor
    · exact fun continued => ⟨a, rfl, continued⟩
    · rintro ⟨_, ⟨⟩, continued⟩
      exact continued

/-- The schema of a database passes for the one that the steps define. -/
def Defines (sqlite : Sqlite Contents) (steps : List Migration) (db : Database Contents) : Prop :=
  ∃ reference, sqlite.runScripts steps (.idle (sqlite.baseline db)) = .ok reference ∧
    sameSchema reference.db.objects db.objects = true

/-- A database that passes both checks. -/
def Sound (sqlite : Sqlite Contents) (db : Database Contents) : Prop :=
  sqlite.quickCheck db = true ∧ sqlite.foreignKeyCheck db = true

theorem assertSchema_ok :
    sqlite.assertSchema db steps = .ok () ↔ Defines sqlite steps db ∧ Sound sqlite db := by
  have built {reference : Connection Contents} :
      (sqlite.runScripts steps (.idle (sqlite.baseline db))).mapError Prod.fst = .ok reference ↔
        sqlite.runScripts steps (.idle (sqlite.baseline db)) = .ok reference := by
    cases sqlite.runScripts steps (.idle (sqlite.baseline db)) with
    | error failure => exact ⟨nofun, nofun⟩
    | ok reference => exact ⟨fun same => by cases same; rfl, fun same => by cases same; rfl⟩
  rw [Sqlite.assertSchema, bind_ok]
  constructor
  · rintro ⟨reference, ran, checked⟩
    obtain ⟨same, checked⟩ := ensure_bind_ok.mp checked
    obtain ⟨quick, checked⟩ := ensure_bind_ok.mp checked
    exact ⟨⟨reference, built.mp ran, same⟩, quick, ensure_ok.mp checked⟩
  · rintro ⟨⟨reference, ran, same⟩, quick, keys⟩
    exact ⟨reference, built.mpr ran, ensure_bind_ok.mpr
      ⟨same, ensure_bind_ok.mpr ⟨quick, ensure_ok.mpr keys⟩⟩⟩

theorem zip_recorded {rows : List MigrationRow} :
    rows <+: steps.map (migrationRow hash) ↔ rows.length ≤ steps.length ∧
      (rows.zip steps).all (fun entry => entry.1 == migrationRow hash entry.2) = true := by
  induction rows generalizing steps with
  | nil => exact ⟨fun _ => ⟨Nat.zero_le _, rfl⟩, fun _ => List.nil_prefix⟩
  | cons row rows ih =>
    cases steps with
    | nil =>
      constructor
      · intro grown
        cases List.prefix_nil.mp grown
      · rintro ⟨short, _⟩
        cases short
    | cons step steps =>
      rw [List.map_cons, List.cons_prefix_cons, ih, List.length_cons, List.length_cons,
        Nat.add_le_add_iff_right, List.zip_cons_cons, List.all_cons, Bool.and_eq_true, beq_iff_eq]
      exact and_left_comm

theorem validateHistory_ok {applied : Nat} :
    validateHistory hash db steps = .ok applied ↔
      applied = db.rows.length ∧ db.userVersion = db.rows.length ∧
        db.rows <+: steps.map (migrationRow hash) := by
  rw [validateHistory, ensure_bind_ok, ensure_bind_ok, ensure_bind_ok, decide_eq_true_iff,
    beq_iff_eq, zip_recorded]
  constructor
  · rintro ⟨short, alike, marked, returned⟩
    exact ⟨(Except.ok.inj returned).symm, marked, short, alike⟩
  · rintro ⟨rfl, marked, short, alike⟩
    exact ⟨short, alike, marked, rfl⟩

theorem schemaObjects_empty {rows : List SchemaRow} :
    (schemaObjects rows).isEmpty = true ↔ rows = [] := by
  induction rows using List.reverseRecOn with
  | nil => exact ⟨fun _ => rfl, fun _ => rfl⟩
  | append_singleton rows row _ =>
    have kept (objects : List SchemaRow) (row : SchemaRow) : setObject objects row ≠ [] := by
      rw [setObject]
      split
      · rename_i found
        intro vanished
        rw [List.map_eq_nil_iff.mp vanished] at found
        cases found
      · exact List.append_ne_nil_of_right_ne_nil _ (List.cons_ne_nil _ _)
    constructor
    · intro empty
      rw [schemaObjects, List.foldl_append] at empty
      exact absurd (List.isEmpty_iff.mp empty) (kept _ _)
    · intro absent
      exact absurd absent (List.append_ne_nil_of_right_ne_nil _ (List.cons_ne_nil _ _))

/-- What `applyMigrations` asks of a database without a history. -/
def Untouched (db : Database Contents) : Prop := db.objects = [] ∧ db.userVersion = 0

theorem untouched_iff : (db.journal = none → Untouched db) ↔
    (db.journal.isSome || (schemaObjects db.objects).isEmpty) = true ∧
      (db.journal.isSome || db.userVersion == 0) = true := by
  cases db.journal with
  | none =>
    rw [Option.isSome_none, Bool.false_or, Bool.false_or, schemaObjects_empty, beq_iff_eq]
    exact ⟨fun fresh => fresh rfl, fun fresh _ => fresh⟩
  | some rows => exact ⟨fun _ => ⟨rfl, rfl⟩, fun _ absent => by cases absent⟩

theorem commitTransaction_ok : sqlite.commitTransaction conn = .ok last ↔
    conn.begun = true ∧ sqlite.commit conn.db = .ok () ∧ last = .idle conn.db := by
  rw [Sqlite.commitTransaction, checks_bind_ok]
  cases begun : conn.begun with
  | false =>
    constructor
    · rintro ⟨_, passed, _⟩
      cases passed
    · rintro ⟨passed, _⟩
      cases passed
  | true =>
    constructor
    · rintro ⟨_, passed, returned⟩
      exact ⟨rfl, passed, (Except.ok.inj returned).symm⟩
    · rintro ⟨_, passed, rfl⟩
      exact ⟨(), passed, rfl⟩

/-- The connection once the history is there. -/
abbrev Connection.journaled (conn : Connection Contents) : Connection Contents :=
  conn.write conn.db.execJournal

/-- The last part of the transaction: the missing steps, the second comparison, the commit. -/
def Finishes (hash : Hash) (sqlite : Sqlite Contents) (steps missing : List Migration)
    (conn last : Connection Contents) : Prop :=
  ∃ next, migrate hash sqlite missing conn = .ok next ∧
    (Defines sqlite steps next.db ∧ Sound sqlite next.db) ∧
    next.begun = true ∧ sqlite.commit next.db = .ok () ∧ last = .idle next.db

theorem upgrade_ok : upgrade hash sqlite steps conn = .ok last ↔
    (conn.db.journal = none → Untouched conn.db) ∧
      conn.db.execJournal.userVersion = conn.db.execJournal.rows.length ∧
      conn.db.execJournal.rows <+: steps.map (migrationRow hash) ∧
      (Defines sqlite (steps.take conn.db.execJournal.rows.length) conn.db.execJournal ∧
        Sound sqlite conn.db.execJournal) ∧
      Finishes hash sqlite steps (steps.drop conn.db.execJournal.rows.length) conn.journaled
        last := by
  have finishes {missing : List Migration} : (migrate hash sqlite missing conn.journaled >>=
      fun next => next.checks (sqlite.assertSchema next.db steps) >>= fun _ =>
        sqlite.commitTransaction next) = .ok last ↔
      Finishes hash sqlite steps missing conn.journaled last := by
    rw [bind_ok, Finishes]
    refine exists_congr fun next => and_congr_right fun _ => ?_
    rw [checks_bind_ok, ← assertSchema_ok, ← commitTransaction_ok]
    exact ⟨fun ⟨_, checked, committed⟩ => ⟨checked, committed⟩,
      fun ⟨checked, committed⟩ => ⟨(), checked, committed⟩⟩
  rw [upgrade, checks_bind_ok, untouched_iff]
  constructor
  · rintro ⟨_, bare, continued⟩
    obtain ⟨_, unmarked, continued⟩ := checks_bind_ok.mp continued
    obtain ⟨applied, history, continued⟩ := checks_bind_ok.mp continued
    obtain ⟨_, before, continued⟩ := checks_bind_ok.mp continued
    obtain ⟨rfl, marked, recorded⟩ := validateHistory_ok.mp history
    exact ⟨⟨ensure_ok.mp bare, ensure_ok.mp unmarked⟩, marked, recorded,
      assertSchema_ok.mp before, finishes.mp continued⟩
  · rintro ⟨⟨bare, unmarked⟩, marked, recorded, before, finished⟩
    refine ⟨(), ensure_ok.mpr bare, checks_bind_ok.mpr ⟨(), ensure_ok.mpr unmarked, ?_⟩⟩
    refine checks_bind_ok.mpr ⟨_, validateHistory_ok.mpr ⟨rfl, marked, recorded⟩, ?_⟩
    exact checks_bind_ok.mpr ⟨(), assertSchema_ok.mpr before, finishes.mpr finished⟩

theorem upgrade_immediate : upgrade hash sqlite steps (.immediate db) = .ok last ↔
    (db.journal = none → Untouched db) ∧
      db.execJournal.userVersion = db.execJournal.rows.length ∧
      db.execJournal.rows <+: steps.map (migrationRow hash) ∧
      (Defines sqlite (steps.take db.execJournal.rows.length) db.execJournal ∧
        Sound sqlite db.execJournal) ∧
      Finishes hash sqlite steps (steps.drop db.execJournal.rows.length)
        (Connection.immediate db).journaled last := upgrade_ok

/-- The transaction is begun, and the steps of a release are well formed. -/
def Startable (free : Bool) (steps : List Migration) : Prop :=
  free = true ∧ steps ≠ [] ∧ numbered 0 steps = true

theorem applyMigrations_startable {free : Bool} (startable : Startable free steps) :
    applyMigrations hash sqlite free steps db =
      match upgrade hash sqlite steps (.immediate db) with
      | .ok conn => (.ok (), conn.committed)
      | .error (error, conn) => rollback error conn := by
  obtain ⟨rfl, some, order⟩ := startable
  rw [applyMigrations, order, List.isEmpty_eq_false_iff.mpr some]
  rfl

theorem applyMigrations_unstartable {free : Bool} (refused : ¬Startable free steps) :
    ∃ error, applyMigrations hash sqlite free steps db = (.error error, db) := by
  rw [applyMigrations]
  split
  · exact ⟨_, rfl⟩
  · rename_i formed
    rw [Bool.or_eq_true, List.isEmpty_iff, Bool.not_eq_true', not_or, Bool.not_eq_false]
      at formed
    cases free with
    | false => exact ⟨_, rfl⟩
    | true => exact absurd ⟨rfl, formed⟩ refused

theorem rollback_error (error : String) (conn : Connection Contents) :
    ∃ reason, rollback error conn = (.error reason, conn.committed) := by
  rw [rollback]
  split
  · exact ⟨_, rfl⟩
  · exact ⟨_, rfl⟩

theorem applyMigrations_ok {free : Bool} :
    applyMigrations hash sqlite free steps db = (.ok (), next) ↔
      Startable free steps ∧ ∃ last, upgrade hash sqlite steps (.immediate db) = .ok last ∧
        last.committed = next := by
  by_cases startable : Startable free steps
  · rw [applyMigrations_startable startable]
    cases upgrade hash sqlite steps (.immediate db) with
    | ok conn =>
      exact ⟨fun opened => ⟨startable, conn, rfl, (Prod.mk.inj opened).2⟩,
        fun ⟨_, _, same, left⟩ => Prod.ext rfl ((congrArg _ (Except.ok.inj same)).trans left)⟩
    | error failure =>
      obtain ⟨reason, rolled⟩ := rollback_error failure.1 failure.2
      constructor
      · intro opened
        cases rolled.symm.trans opened
      · rintro ⟨_, _, same, _⟩
        cases same
  · obtain ⟨error, refused⟩ := @applyMigrations_unstartable _ hash sqlite db _ _ startable
    rw [refused]
    constructor
    · intro opened
      cases opened
    · rintro ⟨begun, _⟩
      exact absurd begun startable

theorem numbered_cons {before : Nat} {step : Migration} :
    numbered before (step :: steps) = true →
      step.version = (before : Int) + 1 ∧ numbered (before + 1) steps = true := by
  intro order
  rw [numbered, List.zipIdx_cons, List.all_cons, Bool.and_eq_true, Bool.and_eq_true,
    Bool.and_eq_true, beq_iff_eq] at order
  exact ⟨order.1.1.1, order.2⟩

theorem numbered_append {before : Nat} {more : List Migration} :
    numbered before (steps ++ more) = true ↔
      numbered before steps = true ∧ numbered (before + steps.length) more = true := by
  rw [numbered, List.zipIdx_append, List.all_append, Bool.and_eq_true]
  rfl

theorem insertRow_last {rows : List MigrationRow} {row : MigrationRow}
    (later : ∀ next ∈ rows, next.version < row.version) :
    insertRow row rows = some (rows ++ [row]) := by
  induction rows with
  | nil => rfl
  | cons next rest ih =>
    have here := later next List.mem_cons_self
    rw [insertRow, if_neg (Int.not_lt.mpr here.le), if_neg here.ne',
      ih fun other member => later other (List.mem_cons_of_mem _ member)]
    rfl

/-- A script that, run in a transaction, leaves what is committed alone, and the transaction, the
history and the marker with it unless it fails. -/
def Sqlite.Quiet (sqlite : Sqlite Contents) (sql : String) : Prop :=
  ∀ conn, conn.begun = true → (sqlite.exec sql conn).2.committed = conn.committed ∧
    ((sqlite.exec sql conn).1 = .ok () → (sqlite.exec sql conn).2.begun = true ∧
      (sqlite.exec sql conn).2.db.journal = conn.db.journal ∧
      (sqlite.exec sql conn).2.db.userVersion = conn.db.userVersion)

theorem script_ok {sql : String} : sqlite.script sql conn = .ok last ↔
    sqlite.exec sql conn = (.ok (), last) := by
  rw [Sqlite.script]
  rcases sqlite.exec sql conn with ⟨_ | _, left⟩
  · exact ⟨nofun, nofun⟩
  · exact ⟨fun ran => congrArg _ (Except.ok.inj ran), fun ran => congrArg _ (Prod.mk.inj ran).2⟩

/-- Where an attempt fails, the connection is left so. -/
def Fails (p : Connection Contents → Prop) (attempt : Except (String × Connection Contents) α) :
    Prop :=
  ∀ failure, attempt = .error failure → p failure.2

variable {p : Connection Contents → Prop}

theorem Fails.checks {answer : Except String α} (held : p conn) : Fails p (conn.checks answer) := by
  rintro failure failed
  cases answer with
  | error error =>
    rw [← Except.error.inj failed]
    exact held
  | ok a => cases failed

theorem Fails.bind {attempt : Except (String × Connection Contents) α}
    {rest : α → Except (String × Connection Contents) β} (first : Fails p attempt)
    (later : ∀ a, attempt = .ok a → Fails p (rest a)) : Fails p (attempt >>= rest) := by
  cases attempt with
  | error failure => exact fun other failed => first other (congrArg _ (Except.error.inj failed))
  | ok a => exact later a rfl

theorem Fails.ok {a : α} : Fails p (.ok a : Except (String × Connection Contents) α) := nofun

theorem Sqlite.Quiet.fails {sql : String} (quiet : sqlite.Quiet sql) (begun : conn.begun = true) :
    Fails (fun left => left.committed = conn.committed) (sqlite.script sql conn) := by
  intro failure failed
  have alone := (quiet conn begun).1
  rw [Sqlite.script] at failed
  cases ran : sqlite.exec sql conn with
  | mk result left =>
    rw [ran] at failed alone
    cases result with
    | error error =>
      rw [← Except.error.inj failed]
      exact alone
    | ok done => cases failed

/-- The history has these rows, of versions up to their number, which the marker is. -/
structure Journaled (rows : List MigrationRow) (db : Database Contents) : Prop where
  journal : db.journal = some rows
  marker : db.userVersion = rows.length
  last : ∀ row ∈ rows, row.version ≤ rows.length

theorem Journaled.record {rows : List MigrationRow} {step : Migration}
    (before : Journaled rows db) (number : step.version = (rows.length : Int) + 1)
    (recorded : recordMigration hash step db = .ok next) :
    Journaled (rows ++ [migrationRow hash step]) next := by
  have later (row : MigrationRow) (member : row ∈ rows) :
      row.version < (migrationRow hash step).version := by
    have bound := before.last row member
    rw [show (migrationRow hash step).version = _ from number]
    omega
  have length : ((rows ++ [migrationRow hash step]).length : Int) = rows.length + 1 := by
    rw [List.length_append]
    rfl
  rw [recordMigration, before.journal, Option.bind_some, insertRow_last later] at recorded
  obtain rfl := Except.ok.inj recorded
  refine ⟨rfl, number.trans length.symm, fun row member => ?_⟩
  rw [length]
  rcases List.mem_append.mp member with old | new
  · exact (before.last row old).trans (by omega)
  · rw [List.mem_singleton.mp new]
    exact number.le

/-- A step of `migrate`. -/
theorem migrate_cons {step : Migration} : migrate hash sqlite (step :: steps) conn = .ok last ↔
    ∃ ran db, sqlite.exec step.sql conn = (.ok (), ran) ∧
      recordMigration hash step ran.db = .ok db ∧
      migrate hash sqlite steps (ran.write db) = .ok last := by
  rw [migrate, List.foldlM_cons, bind_ok]
  constructor
  · rintro ⟨middle, first, continued⟩
    obtain ⟨ran, executed, recorded⟩ := bind_ok.mp first
    obtain ⟨db, made, returned⟩ := checks_bind_ok.mp recorded
    obtain rfl := Except.ok.inj returned
    exact ⟨ran, db, script_ok.mp executed, made, continued⟩
  · rintro ⟨ran, db, executed, made, continued⟩
    exact ⟨_, bind_ok.mpr ⟨ran, script_ok.mpr executed, checks_bind_ok.mpr ⟨db, made, rfl⟩⟩,
      continued⟩

/-- Quiet steps leave the transaction open. -/
theorem migrate_alone (begun : conn.begun = true) (quiet : ∀ step ∈ steps, sqlite.Quiet step.sql)
    (migrated : migrate hash sqlite steps conn = .ok last) :
    last.begun = true ∧ last.committed = conn.committed := by
  induction steps generalizing conn with
  | nil =>
    obtain rfl := Except.ok.inj migrated
    exact ⟨begun, rfl⟩
  | cons step rest ih =>
    obtain ⟨ran, db, executed, _, continued⟩ := migrate_cons.mp migrated
    obtain ⟨alone, kept⟩ := quiet step List.mem_cons_self conn begun
    rw [executed] at alone kept
    have still : ran.begun = true := (kept rfl).1
    obtain ⟨open_, same⟩ := @ih (ran.write db) still
      (fun other member => quiet other (List.mem_cons_of_mem _ member)) continued
    refine ⟨open_, same.trans ?_⟩
    rw [Connection.write, still, if_pos rfl]
    exact alone

/-- Until the `COMMIT` nothing is committed. -/
theorem migrate_fails (begun : conn.begun = true)
    (quiet : ∀ step ∈ steps, sqlite.Quiet step.sql) :
    Fails (fun left => left.committed = conn.committed) (migrate hash sqlite steps conn) := by
  induction steps generalizing conn with
  | nil => exact .ok
  | cons step rest ih =>
    have here := quiet step List.mem_cons_self
    rw [migrate, List.foldlM_cons]
    refine .bind (.bind (here.fails begun) fun ran executed => ?_) fun next first => ?_
    · obtain ⟨alone, _⟩ := here conn begun
      rw [script_ok.mp executed] at alone
      exact .bind (.checks alone) fun _ _ => .ok
    · have one : migrate hash sqlite [step] conn = .ok next := by
        rw [migrate, List.foldlM_cons, first]
        rfl
      obtain ⟨still, same⟩ := migrate_alone begun (by
        intro other member
        rw [List.mem_singleton.mp member]
        exact here) one
      rw [← same]
      exact ih still fun other member => quiet other (List.mem_cons_of_mem _ member)

theorem Journaled.migrate {rows : List MigrationRow} (before : Journaled rows conn.db)
    (begun : conn.begun = true) (order : numbered rows.length steps = true)
    (quiet : ∀ step ∈ steps, sqlite.Quiet step.sql)
    (migrated : migrate hash sqlite steps conn = .ok last) :
    Journaled (rows ++ steps.map (migrationRow hash)) last.db := by
  induction steps generalizing rows conn with
  | nil =>
    obtain rfl := Except.ok.inj migrated
    rw [List.map_nil, List.append_nil]
    exact before
  | cons step rest ih =>
    obtain ⟨ran, db, executed, recorded, continued⟩ := migrate_cons.mp migrated
    obtain ⟨number, later⟩ := numbered_cons order
    obtain ⟨_, kept⟩ := quiet step List.mem_cons_self conn begun
    rw [executed] at kept
    obtain ⟨still, journal, marker⟩ := kept rfl
    have there : Journaled rows ran.db :=
      ⟨journal.trans before.journal, marker.trans before.marker, before.last⟩
    have after : Journaled _ (ran.write db).db := there.record number recorded
    rw [List.map_cons, ← List.singleton_append, ← List.append_assoc]
    refine ih after still ?_ (fun other member => quiet other (List.mem_cons_of_mem _ member))
      continued
    rw [List.length_append]
    exact later

theorem upgrade_fails (quiet : ∀ step ∈ steps, sqlite.Quiet step.sql) :
    Fails (fun left => left.committed = db) (upgrade hash sqlite steps (.immediate db)) := by
  have kept {missing : List Migration} (among : ∀ step ∈ missing, sqlite.Quiet step.sql)
      {last : Connection Contents}
      (migrated : migrate hash sqlite missing (Connection.immediate db).journaled = .ok last) :
      last.committed = db := (migrate_alone rfl among migrated).2
  have missing (n : Nat) : ∀ step ∈ steps.drop n, sqlite.Quiet step.sql :=
    fun step member => quiet step (List.mem_of_mem_drop member)
  rw [upgrade]
  refine .bind (.checks rfl) fun _ _ => .bind (.checks rfl) fun _ _ => ?_
  refine .bind (.checks rfl) fun applied _ => .bind (.checks rfl) fun _ _ => ?_
  refine .bind (migrate_fails rfl (missing applied)) fun last migrated => ?_
  have same := kept (missing applied) migrated
  refine .bind (.checks same) fun _ _ => .bind (.checks same) fun _ _ => .ok

/-- A failed opening leaves the database as it was. -/
theorem applyMigrations_failed {free : Bool} {error : String}
    (quiet : ∀ step ∈ steps, sqlite.Quiet step.sql)
    (failed : (applyMigrations hash sqlite free steps db).1 = .error error) :
    (applyMigrations hash sqlite free steps db).2 = db := by
  by_cases startable : Startable free steps
  · rw [applyMigrations_startable startable] at failed ⊢
    cases upgraded : upgrade hash sqlite steps (.immediate db) with
    | ok last =>
      rw [upgraded] at failed
      cases failed
    | error failure =>
      obtain ⟨reason, rolled⟩ := rollback_error failure.1 failure.2
      have left : failure.2.committed = db := upgrade_fails quiet failure upgraded
      show (rollback failure.1 failure.2).2 = db
      rw [rolled]
      exact left
  · obtain ⟨_, refused⟩ := @applyMigrations_unstartable _ hash sqlite db _ _ startable
    rw [refused]

end Anastom.Schema
