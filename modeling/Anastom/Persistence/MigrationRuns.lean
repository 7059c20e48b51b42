import Anastom.Persistence.ExactlyOnce
import Anastom.Persistence.Migrations

/-! Releases that open one database after another, with writes of rows between them. The
database always records the release that opened it last. -/
namespace Anastom.Schema

variable {Contents : Type} {hash : Hash} {sqlite : Sqlite Contents}
  {db next : Database Contents} {release steps : List Migration}

/-- A database that the steps of a release have built and are recorded in. -/
structure Recorded (hash : Hash) (sqlite : Sqlite Contents) (release : List Migration)
    (db : Database Contents) : Prop where
  order : numbered 0 release = true
  journaled : Journaled (release.map (migrationRow hash)) db
  defines : Defines sqlite release db

/-- A database is new, or it records a release. -/
def Records (hash : Hash) (sqlite : Sqlite Contents) (release : List Migration)
    (db : Database Contents) : Prop :=
  (release = [] ∧ db.journal = none ∧ Untouched db) ∨
    (release ≠ [] ∧ Recorded hash sqlite release db)

theorem execJournal_recorded {rows : List MigrationRow} (journaled : Journaled rows db) :
    db.execJournal = db := by
  rw [Database.execJournal, journaled.journal]
  rfl

/-- What the transaction finds once the history is there. -/
structure Found (hash : Hash) (sqlite : Sqlite Contents) (release : List Migration)
    (db : Database Contents) : Prop where
  journaled : Journaled (release.map (migrationRow hash)) db.execJournal
  defines : Defines sqlite release db.execJournal
  untouched : db.journal = none → Untouched db

theorem Records.found (records : Records hash sqlite release db) :
    Found hash sqlite release db := by
  rcases records with ⟨rfl, absent, bare, unmarked⟩ | ⟨_, recorded⟩
  · have created : db.execJournal = { db with
        objects := [("schema_migrations", journalSql.toList)]
        journal := some [] } := by
      rw [Database.execJournal, absent, bare]
      rfl
    refine ⟨?_, ?_, fun _ => ⟨bare, unmarked⟩⟩
    · rw [created]
      exact ⟨rfl, unmarked, fun row member => by cases member⟩
    · rw [created]
      exact ⟨_, rfl, sameSchema_singles rfl⟩
  · have kept := execJournal_recorded recorded.journaled
    refine ⟨?_, ?_, fun absent => ?_⟩
    · rw [kept]
      exact recorded.journaled
    · rw [kept]
      exact recorded.defines
    · rw [recorded.journaled.journal] at absent
      cases absent

theorem Found.rows (found : Found hash sqlite release db) :
    db.execJournal.rows = release.map (migrationRow hash) := by
  rw [Database.rows, found.journaled.journal]
  rfl

/-- No script of a release has the checksum of another script in the steps. -/
def Apart (hash : Hash) (release steps : List Migration) : Prop :=
  ∀ old ∈ release, ∀ step ∈ steps,
    hash.digestBytes old.sql = hash.digestBytes step.sql → old.sql = step.sql

theorem migrationRow_prefix (apart : Apart hash release steps) :
    release.map (migrationRow hash) <+: steps.map (migrationRow hash) ↔ release <+: steps := by
  induction release generalizing steps with
  | nil => exact ⟨fun _ => List.nil_prefix, fun _ => List.nil_prefix⟩
  | cons old release ih =>
    cases steps with
    | nil =>
      rw [List.map_nil, List.prefix_nil, List.prefix_nil, List.map_eq_nil_iff]
    | cons step steps =>
      have rest : Apart hash release steps := fun other member next inside =>
        apart other (List.mem_cons_of_mem _ member) next (List.mem_cons_of_mem _ inside)
      have head : migrationRow hash old = migrationRow hash step ↔ old = step := by
        constructor
        · intro same
          obtain ⟨version, name, checksum⟩ := MigrationRow.mk.inj same
          have sql := apart old List.mem_cons_self step List.mem_cons_self checksum
          cases old
          cases step
          rw [Migration.mk.injEq]
          exact ⟨version, name, sql⟩
        · exact congrArg _
      rw [List.map_cons, List.map_cons, List.cons_prefix_cons, List.cons_prefix_cons, head,
        ih rest]

/-- The missing steps of a release, run in the transaction of a database, leave the database that
its `COMMIT` makes. -/
def Completes (hash : Hash) (sqlite : Sqlite Contents) (steps missing : List Migration)
    (db next : Database Contents) : Prop :=
  ∃ last, migrate hash sqlite missing (Connection.immediate db).journaled = .ok last ∧
    last.db = next ∧ Defines sqlite steps next ∧ Sound sqlite next ∧ sqlite.commit next = .ok ()

theorem completes_iff {missing : List Migration} (quiet : ∀ step ∈ missing, sqlite.Quiet step.sql) :
    (∃ last, Finishes hash sqlite steps missing (Connection.immediate db).journaled last ∧
      last.committed = next) ↔ Completes hash sqlite steps missing db next := by
  constructor
  · rintro ⟨_, ⟨last, migrated, ⟨defines, sound⟩, _, committed, rfl⟩, rfl⟩
    exact ⟨last, migrated, rfl, defines, sound, committed⟩
  · rintro ⟨last, migrated, rfl, defines, sound, committed⟩
    exact ⟨_, ⟨last, migrated, ⟨defines, sound⟩, (migrate_alone rfl quiet migrated).1, committed,
      rfl⟩, rfl⟩

/-- A release opens the database just when it begins with the recorded one, the database
passes the checks, and the missing steps lead to the schema of the release. -/
theorem Records.opens_iff {free : Bool} (records : Records hash sqlite release db)
    (quiet : ∀ step ∈ steps, sqlite.Quiet step.sql) (apart : Apart hash release steps) :
    applyMigrations hash sqlite free steps db = (.ok (), next) ↔
      Startable free steps ∧ release <+: steps ∧ Sound sqlite db.execJournal ∧
        Completes hash sqlite steps (steps.drop release.length) db next := by
  have found := records.found
  have missing : ∀ step ∈ steps.drop release.length, sqlite.Quiet step.sql :=
    fun step member => quiet step (List.mem_of_mem_drop member)
  have marked : db.execJournal.userVersion = (release.length : Int) := by
    rw [found.journaled.marker, List.length_map]
  have opens {last : Connection Contents} :
      upgrade hash sqlite steps (.immediate db) = .ok last ↔ release <+: steps ∧
        Sound sqlite db.execJournal ∧ Finishes hash sqlite steps (steps.drop release.length)
          (Connection.immediate db).journaled last := by
    rw [upgrade_immediate, found.rows, List.length_map, migrationRow_prefix apart]
    constructor
    · rintro ⟨_, _, grown, ⟨_, before⟩, finished⟩
      exact ⟨grown, before, finished⟩
    · rintro ⟨grown, before, finished⟩
      refine ⟨found.untouched, marked, grown, ⟨?_, before⟩, finished⟩
      rw [← List.prefix_iff_eq_take.mp grown]
      exact found.defines
  rw [applyMigrations_ok, ← completes_iff missing]
  constructor
  · rintro ⟨startable, last, upgraded, left⟩
    obtain ⟨grown, before, finished⟩ := opens.mp upgraded
    exact ⟨startable, grown, before, last, finished, left⟩
  · rintro ⟨startable, grown, before, last, finished, left⟩
    exact ⟨startable, last, opens.mpr ⟨grown, before, finished⟩, left⟩

/-- The database that a release has opened records it. -/
theorem Records.opened {free : Bool} (records : Records hash sqlite release db)
    (quiet : ∀ step ∈ steps, sqlite.Quiet step.sql)
    (opened : applyMigrations hash sqlite free steps db = (.ok (), next)) :
    Records hash sqlite steps next := by
  have found := records.found
  obtain ⟨⟨_, some, order⟩, last, upgraded, rfl⟩ := applyMigrations_ok.mp opened
  obtain ⟨_, _, grown, _, final, migrated, ⟨defines, _⟩, _, _, rfl⟩ := upgrade_immediate.mp upgraded
  rw [found.rows] at grown migrated
  have short : release.length ≤ steps.length := by
    have bound := grown.length_le
    rwa [List.length_map, List.length_map] at bound
  rw [List.length_map] at migrated
  have split := order
  rw [← List.take_append_drop release.length steps, numbered_append, List.length_take,
    Nat.min_eq_left short, Nat.zero_add] at split
  have recorded := @Journaled.migrate _ _ _ _ (Connection.immediate db).journaled _ _
    found.journaled rfl (by rw [List.length_map]; exact split.2)
    (fun step member => quiet step (List.mem_of_mem_drop member)) migrated
  have whole : release.map (migrationRow hash) ++
      (steps.drop release.length).map (migrationRow hash) = steps.map (migrationRow hash) := by
    have taken := List.prefix_iff_eq_take.mp grown
    rw [List.length_map] at taken
    rw [taken, List.map_drop, List.take_append_drop]
  rw [whole] at recorded
  exact .inr ⟨some, order, recorded, defines⟩

theorem applyMigrations_refused {free : Bool} {error : String}
    (startable : Startable free steps) (untouched : db.journal = none → Untouched db)
    (refused : validateHistory hash db.execJournal steps = .error error) :
    (applyMigrations hash sqlite free steps db).1 = .error error := by
  obtain ⟨bare, unmarked⟩ := untouched_iff.mp untouched
  have failed : upgrade hash sqlite steps (.immediate db) =
      .error (error, (Connection.immediate db).journaled) := by
    rw [upgrade]
    show ((Connection.immediate db).checks (ensure (db.journal.isSome ||
      (schemaObjects db.objects).isEmpty) _) >>= _) = _
    rw [ensure_ok.mpr bare]
    show ((Connection.immediate db).checks (ensure (db.journal.isSome || db.userVersion == 0) _) >>=
      _) = _
    rw [ensure_ok.mpr unmarked]
    show (Connection.checks _ (validateHistory hash db.execJournal steps) >>= _) = _
    rw [refused]
    rfl
  rw [applyMigrations_startable startable, failed]
  rfl

theorem validateHistory_newer (newer : steps.length < db.rows.length) :
    validateHistory hash db steps = .error "Database schema is newer than this application" := by
  rw [validateHistory, decide_eq_false (Nat.not_le.mpr newer)]
  rfl

theorem validateHistory_edited (long : db.rows.length ≤ steps.length)
    (edited : ¬db.rows <+: steps.map (migrationRow hash)) :
    validateHistory hash db steps =
      .error "Database migration history has a gap or changed checksum" := by
  have differs : ((db.rows.zip steps).all fun entry => entry.1 == migrationRow hash entry.2) =
      false := Bool.eq_false_iff.mpr fun alike => edited (zip_recorded.mpr ⟨long, alike⟩)
  rw [validateHistory, decide_eq_true long, differs]
  rfl

/-- What happens to the database of a store: a process opens it with its release, when the
transaction can begin or when it cannot, or a process that has opened it writes rows. -/
inductive Act (Contents : Type) where
  | start (free : Bool) (steps : List Migration)
  | use (contents : Contents)

/-- A database, the release that opened it last, and the steps whose scripts have been run
and committed. -/
structure World (Contents : Type) where
  db : Database Contents
  release : List Migration
  ran : List Migration

def World.step (hash : Hash) (sqlite : Sqlite Contents) (world : World Contents) :
    Act Contents → World Contents
  | .start free steps =>
    match applyMigrations hash sqlite free steps world.db with
    | (.ok _, db) => ⟨db, steps, world.ran ++ steps.drop world.db.execJournal.rows.length⟩
    | (.error _, db) => { world with db }
  | .use contents => { world with db := { world.db with contents } }

def run (hash : Hash) (sqlite : Sqlite Contents) (acts : List (Act Contents)) : World Contents :=
  acts.foldl (World.step hash sqlite) ⟨sqlite.memory, [], []⟩

/-- The steps of the release that a process opens the database with. -/
def Act.opens : Act Contents → List Migration
  | .start _ steps => steps
  | .use _ => []

def Act.Quiet (sqlite : Sqlite Contents) (act : Act Contents) : Prop :=
  ∀ step ∈ act.opens, sqlite.Quiet step.sql

/-- The database records the release, and just its steps have been run, each once. -/
structure Kept (hash : Hash) (sqlite : Sqlite Contents) (world : World Contents) : Prop where
  records : Records hash sqlite world.release world.db
  ran : world.ran.map (migrationRow hash) = world.release.map (migrationRow hash)

theorem Records.use (records : Records hash sqlite release db) (contents : Contents) :
    Records hash sqlite release { db with contents } := by
  rcases records with fresh | ⟨some, order, ⟨journal, marker, last⟩, defines⟩
  · exact .inl fresh
  · exact .inr ⟨some, order, ⟨journal, marker, last⟩, defines⟩

theorem Kept.step {world : World Contents} (kept : Kept hash sqlite world) {act : Act Contents}
    (quiet : act.Quiet sqlite) : Kept hash sqlite (world.step hash sqlite act) := by
  cases act with
  | use contents => exact ⟨kept.records.use contents, kept.ran⟩
  | start free steps =>
    rw [World.step]
    cases opened : applyMigrations hash sqlite free steps world.db with
    | mk result next =>
      cases result with
      | ok done =>
        refine ⟨kept.records.opened quiet opened, ?_⟩
        obtain ⟨_, last, upgraded, _⟩ := applyMigrations_ok.mp opened
        obtain ⟨_, _, grown, _⟩ := upgrade_immediate.mp upgraded
        have taken := List.prefix_iff_eq_take.mp grown
        rw [List.map_append, kept.ran, ← kept.records.found.rows, List.map_drop]
        conv_lhs => rw [taken]
        rw [List.length_take, Nat.min_eq_left grown.length_le]
        exact List.take_append_drop _ _
      | error error =>
        have same : next = world.db := by
          have rolledBack := @applyMigrations_failed _ hash sqlite world.db steps free error quiet
          rw [opened] at rolledBack
          exact rolledBack rfl
        rw [same]
        exact kept

theorem run_kept {acts : List (Act Contents)} (quiet : ∀ act ∈ acts, act.Quiet sqlite) :
    Kept hash sqlite (run hash sqlite acts) := by
  induction acts using List.reverseRecOn with
  | nil => exact ⟨.inl ⟨rfl, rfl, rfl, rfl⟩, rfl⟩
  | append_singleton acts act ih =>
    rw [run, List.foldl_append]
    exact (ih fun other member => quiet other (List.mem_append_left _ member)).step
      (quiet act (List.mem_append_right _ List.mem_cons_self))

/-- What comes of opening a database with the steps of any release whose scripts are quiet. -/
structure Opening (hash : Hash) (sqlite : Sqlite Contents) (world : World Contents)
    (free : Bool) (steps : List Migration) : Prop where
  failed : ∀ error, (applyMigrations hash sqlite free steps world.db).1 = .error error →
    (applyMigrations hash sqlite free steps world.db).2 = world.db
  succeeds : ∀ next, applyMigrations hash sqlite free steps world.db = (.ok (), next) ↔
    Startable free steps ∧ world.release <+: steps ∧ Sound sqlite world.db.execJournal ∧
      Completes hash sqlite steps (steps.drop world.release.length) world.db next
  older : Startable free steps → steps.length < world.release.length →
    (applyMigrations hash sqlite free steps world.db).1 =
      .error "Database schema is newer than this application"
  edited : Startable free steps → world.release.length ≤ steps.length →
    ¬world.release <+: steps → (applyMigrations hash sqlite free steps world.db).1 =
      .error "Database migration history has a gap or changed checksum"
  again : steps = world.release → steps ≠ [] →
    (applyMigrations hash sqlite free steps world.db).2 = world.db ∧
      ((applyMigrations hash sqlite free steps world.db).1 = .ok () ↔
        free = true ∧ Sound sqlite world.db ∧ sqlite.commit world.db = .ok ())

/-- The release that a database records finds nothing to run. -/
theorem Records.again {free : Bool} (records : Records hash sqlite release db)
    (some : release ≠ []) (quiet : ∀ step ∈ release, sqlite.Quiet step.sql)
    (apart : Apart hash release release) :
    (applyMigrations hash sqlite free release db).2 = db ∧
      ((applyMigrations hash sqlite free release db).1 = .ok () ↔
        free = true ∧ Sound sqlite db ∧ sqlite.commit db = .ok ()) := by
  have opens := fun next => @Records.opens_iff _ hash sqlite db next release release free
    records quiet apart
  obtain ⟨none, _⟩ | ⟨_, recorded⟩ := records
  · exact absurd none some
  have there := execJournal_recorded recorded.journaled
  have nothing : migrate hash sqlite (release.drop release.length)
      (Connection.immediate db).journaled = .ok (.immediate db) := by
    rw [List.drop_length]
    show Except.ok (Connection.mk db db.execJournal true) = _
    rw [there]
    rfl
  cases opened : applyMigrations hash sqlite free release db with
  | mk result next =>
    cases result with
    | ok done =>
      obtain ⟨⟨begun, _⟩, _, sound, last, migrated, rfl, _, _, committed⟩ := (opens next).mp opened
      obtain rfl := Except.ok.inj (nothing.symm.trans migrated)
      rw [there] at sound
      exact ⟨rfl, fun _ => ⟨begun, sound, committed⟩, fun _ => rfl⟩
    | error error =>
      have unchanged := @applyMigrations_failed _ hash sqlite db release free error quiet
      rw [opened] at unchanged
      refine ⟨unchanged rfl, ?_, ?_⟩
      · intro passed
        cases passed
      · rintro ⟨begun, sound, committed⟩
        have passed := (opens db).mpr ⟨⟨begun, some, recorded.order⟩, List.prefix_rfl,
          there.symm ▸ sound, _, nothing, rfl, recorded.defines, sound, committed⟩
        rw [opened] at passed
        cases passed

theorem Kept.opening {world : World Contents} (kept : Kept hash sqlite world) (free : Bool)
    (quiet : ∀ step ∈ steps, sqlite.Quiet step.sql) (apart : Apart hash world.release steps) :
    Opening hash sqlite world free steps := by
  have found := kept.records.found
  refine ⟨fun error => applyMigrations_failed quiet, fun next => kept.records.opens_iff quiet apart,
    ?_, ?_, ?_⟩
  · intro startable newer
    refine applyMigrations_refused startable found.untouched ?_
    apply validateHistory_newer
    rwa [found.rows, List.length_map]
  · intro startable long edited
    refine applyMigrations_refused startable found.untouched ?_
    apply validateHistory_edited
    · rwa [found.rows, List.length_map]
    · rwa [found.rows, migrationRow_prefix apart]
  · rintro rfl some
    exact kept.records.again some quiet apart

/-- What holds of a database after any openings. -/
structure FailsClosed (hash : Hash) (sqlite : Sqlite Contents) (world : World Contents) :
    Prop where
  kept : Kept hash sqlite world
  opening : ∀ free steps, (∀ step ∈ steps, sqlite.Quiet step.sql) →
    Apart hash world.release steps → Opening hash sqlite world free steps

/-- However releases, edited releases and locked-out processes take turns at a database, it
records the release that opened it last, whose scripts have each been run once in their
order. A release opens it only if it begins with the recorded one; then just the missing
scripts are run. Any other opening leaves the database as it was, and the recorded release
finds nothing to run. Scripts that end the transaction they run in are left out: what they
commit stays. -/
theorem migrations_fail_closed (hash : Hash) (sqlite : Sqlite Contents)
    (acts : List (Act Contents)) (quiet : ∀ act ∈ acts, act.Quiet sqlite) :
    FailsClosed hash sqlite (run hash sqlite acts) := by
  have kept : Kept hash sqlite (run hash sqlite acts) := run_kept quiet
  exact ⟨kept, fun free _ alone apart => kept.opening free alone apart⟩

namespace MigrationSample

/-- Each script makes one object of its own text, but one ends the transaction and one fails. -/
def engine : Sqlite Nat where
  exec sql conn :=
    if sql = "COMMIT" then (.ok (), .idle conn.db)
    else if sql = "INVALID" then (.error "syntax error", conn)
    else (.ok (), conn.write { conn.db with objects := conn.db.objects ++ [(sql, sql.toList)] })
  commit _ := .ok ()
  blank := 0
  quickCheck _ := true
  foreignKeyCheck _ := true

def first : Migration := ⟨1, "records", "TABLE"⟩

def second : Migration := ⟨2, "record-index", "INDEX"⟩

def broken : Migration := ⟨3, "broken", "INVALID"⟩

def acts : List (Act Nat) :=
  [.start true [first], .use 1, .start true [first, second, broken], .start true [first, second]]

theorem engine_quiet {sql : String} (other : sql ≠ "COMMIT") : engine.Quiet sql := by
  intro conn begun
  simp only [engine, if_neg other]
  split
  · exact ⟨rfl, nofun⟩
  · refine ⟨?_, fun _ => ⟨begun, rfl, rfl⟩⟩
    rw [Connection.write, begun]
    rfl

theorem acts_quiet : ∀ act ∈ acts, act.Quiet engine := by
  have others : ∀ act ∈ acts, ∀ step ∈ act.opens, step.sql ≠ "COMMIT" := by decide
  exact fun act member step inside => engine_quiet (others act member step inside)

theorem acts_release : (run .rolling engine acts).release = [first, second] := by
  decide +kernel

/-- An upgrade by a second step, after a release that is refused. -/
theorem migrations_fail_closed_upgraded :
    (run .rolling engine acts).release = [first, second] ∧
      FailsClosed .rolling engine (run .rolling engine acts) :=
  ⟨acts_release, migrations_fail_closed .rolling engine acts acts_quiet⟩

end MigrationSample

end Anastom.Schema
