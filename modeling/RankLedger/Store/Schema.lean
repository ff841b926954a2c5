set_option autoImplicit false

/-! # Tables of an event

Each event has up to three tables, named after its number: the rows of its main board, the players
seen, and the rows of its chapters. -/

namespace RankLedger

/-- The kinds of tables. -/
inductive TableKind where
  /-- Rows of the main board. -/
  | rankings
  /-- Players seen. -/
  | identities
  /-- Rows of the chapters' boards. -/
  | chapters
  deriving DecidableEq, Repr, Inhabited

namespace TableKind

/-- The name of an event's table. -/
def tableName : TableKind → Int → String
  | .rankings, eventId => "event_" ++ toString eventId
  | .identities, eventId => "event_" ++ toString eventId ++ "_users"
  | .chapters, eventId => "wl_" ++ toString eventId

end TableKind

namespace Schema

/-- A name in quotes. -/
def quoted (s : String) : String := "\"" ++ s ++ "\""

/-- A statement that makes a table unless it is there. -/
def createTable (name : String) (columns : List String) : String :=
  "CREATE TABLE IF NOT EXISTS " ++ quoted name ++ " (" ++ ", ".intercalate columns ++ ")"

/-- A statement that makes an index unless it is there. -/
def createIndex (table purpose : String) (columns : List String) : String :=
  "CREATE INDEX IF NOT EXISTS " ++ quoted (table ++ "_" ++ purpose ++ "_idx") ++ " ON "
    ++ quoted table ++ " (" ++ ", ".intercalate columns ++ ")"

/-- The statements for a table of one kind. -/
def statements (kind : TableKind) (eventId : Int) : List String :=
  let name := kind.tableName eventId
  match kind with
  | .rankings =>
      [createTable name ["timestamp INTEGER NOT NULL", "user_id TEXT NOT NULL",
          "score INTEGER NOT NULL", "\"rank\" INTEGER NOT NULL",
          "PRIMARY KEY (timestamp, user_id)"],
        createIndex name "rank" ["\"rank\"", "timestamp"],
        createIndex name "user" ["user_id", "timestamp"]]
  | .identities =>
      [createTable name ["user_id TEXT PRIMARY KEY", "name TEXT NOT NULL",
        "cheerful_team_id INTEGER"]]
  | .chapters =>
      [createTable name ["timestamp INTEGER NOT NULL", "user_id TEXT NOT NULL",
          "character_id INTEGER NOT NULL", "score INTEGER NOT NULL", "\"rank\" INTEGER NOT NULL",
          "PRIMARY KEY (timestamp, user_id, character_id)"],
        createIndex name "rank" ["character_id", "\"rank\"", "timestamp"],
        createIndex name "user" ["character_id", "user_id", "timestamp"]]

/-- The kinds of tables that an event needs. -/
def kinds (withChapters : Bool) : List TableKind :=
  [.rankings, .identities] ++ if withChapters then [.chapters] else []

/-- The statements for all tables of an event. -/
def ofEvent (eventId : Int) (withChapters : Bool) : List String :=
  (kinds withChapters).flatMap fun kind => statements kind eventId

end Schema

end RankLedger
