import AmazonSimilarSearch.Foundation.Attempts
import AmazonSimilarSearch.Foundation.Checked
import AmazonSimilarSearch.Foundation.Digest
import AmazonSimilarSearch.Foundation.JsonCanonical
import AmazonSimilarSearch.Foundation.PosixFiles
import AmazonSimilarSearch.Review.Paths

/-!
# The broker's reservation table

The table `broker_reservations` as SQLite keeps it, the statements both
executors run on it, and the identity of the file that holds it. What `lstat`
shows of that file, which statements fail and what the clock reads is up to the
host of a call.
-/
namespace AmazonSimilarSearch.BrokerLedger
open Foundation Review

/-- What `time.time_ns()` returns: a `int64_t` count of nanoseconds since the epoch. -/
structure UnixTime where
  ns : ℤ
  afterEpoch : 0 < ns
  fits : ns < 2 ^ 63
  deriving DecidableEq

/-- One row of the table `broker_reservations`. -/
structure Row where
  packetSha256 : String
  role : String
  attempt : ℤ
  reservedTokens : ℤ
  reservedCostMicrousd : ℤ
  reservationUnixNs : ℤ
  deriving DecidableEq, Repr

/-- The rows in the order of insertion. -/
abbrev Table := List Row

def roles : List String := ["reviewer", "adversary"]

/-- The `CHECK` constraints of the columns. -/
structure Row.Constraints (row : Row) : Prop where
  role : row.role ∈ roles
  attempt : 1 ≤ row.attempt ∧ row.attempt ≤ 2
  reservedTokens : 0 < row.reservedTokens
  reservedCostMicrousd : 0 < row.reservedCostMicrousd
  reservationUnixNs : 0 < row.reservationUnixNs

instance (row : Row) : Decidable row.Constraints :=
  decidable_of_iff (row.role ∈ roles ∧ (1 ≤ row.attempt ∧ row.attempt ≤ 2) ∧
      0 < row.reservedTokens ∧ 0 < row.reservedCostMicrousd ∧ 0 < row.reservationUnixNs)
    ⟨fun ⟨a, b, c, d, e⟩ => ⟨a, b, c, d, e⟩, fun ⟨a, b, c, d, e⟩ => ⟨a, b, c, d, e⟩⟩

/-- An SQLite integer. -/
def FitsInteger (value : ℤ) : Prop := -2 ^ 63 ≤ value ∧ value < 2 ^ 63

instance (value : ℤ) : Decidable (FitsInteger value) := inferInstanceAs (Decidable (_ ∧ _))

/-- What a statement raises. -/
inductive SqlError where
  /-- a class of `sqlite3.Error` -/
  | sqlite
  /-- the `OverflowError` of a parameter that is no SQLite integer -/
  | overflow
  deriving DecidableEq, Repr

/-- The statements of a call, and the connection they need. -/
inductive Statement where
  | connect
  | beginTransaction
  | selectAttempts
  | selectTotals
  | insert
  | selectRows
  | commit
  deriving DecidableEq, Repr

/-- A statement runs unless the host makes it fail. -/
def execute (fails : Statement → Bool) (statement : Statement) : Except SqlError Unit :=
  ensure (fails statement = false) .sqlite

def ofPacket (table : Table) (packetSha256 : String) : Table :=
  table.filter fun row => row.packetSha256 = packetSha256

def ofRole (rows : List Row) (role : String) : List Row := rows.filter fun row => row.role = role

/-- `SELECT attempt ... WHERE packet_sha256 = ? AND role = ? ORDER BY attempt` -/
def selectAttempts (table : Table) (packetSha256 role : String) : List ℤ :=
  ((ofRole (ofPacket table packetSha256) role).mergeSort fun a b => a.attempt ≤ b.attempt).map
    Row.attempt

/-- `COALESCE(SUM(...), 0)`, which raises on overflow. -/
def sumColumn (column : Row → ℤ) (rows : List Row) : Except SqlError ℤ := do
  ensure (FitsInteger (rows.map column).sum) .sqlite
  pure (rows.map column).sum

/-- `ORDER BY role, attempt` -/
def orderedBefore (a b : Row) : Bool := a.role < b.role || (a.role = b.role && a.attempt ≤ b.attempt)

/-- `SELECT ... WHERE packet_sha256 = ? ORDER BY role, attempt` -/
def ledgerRows (table : Table) (packetSha256 : String) : List Row :=
  (ofPacket table packetSha256).mergeSort orderedBefore

/-- `INSERT INTO broker_reservations`, with the `CHECK` constraints and
`PRIMARY KEY (packet_sha256, role, attempt)`. -/
def insertRow (table : Table) (row : Row) : Except SqlError Table := do
  ensure (FitsInteger row.attempt ∧ FitsInteger row.reservedTokens ∧
    FitsInteger row.reservedCostMicrousd ∧ FitsInteger row.reservationUnixNs) .overflow
  ensure (row.Constraints ∧ ∀ other ∈ table, ¬ (other.packetSha256 = row.packetSha256 ∧
    other.role = row.role ∧ other.attempt = row.attempt)) .sqlite
  pure (table ++ [row])

/-! ## The file -/

/-- `str(Path(text))` on POSIX: empty and `.` parts are dropped. -/
def pathText (text : String) : String :=
  let root := String.join (pathRoot text.toList)
  let parts := (splitAt '/' text.toList).filter fun part => part ≠ [] ∧ part ≠ ['.']
  if root = "" ∧ parts = [] then "." else root ++ String.ofList (['/'].intercalate parts)

/-- `Path.is_absolute` -/
def isAbsolute (path : String) : Bool := path.toList.head? = some '/'

/-- `str(Path(os.path.abspath(path)))` -/
structure LedgerPath where
  text : String
  normal : pathText text = text
  absolute : isAbsolute text = true
  deriving DecidableEq

/-- What `lstat` shows of the ledger, once its path passed the protection check. Device and inode
numbers are unsigned and of 64 bits; inode numbers begin at one. -/
structure LedgerStat where
  device : ℤ
  inode : ℤ
  isRegular : Bool
  links : ℕ
  mode : Posix.Mode
  device_within : 0 ≤ device ∧ device < 2 ^ 64
  inode_within : 0 < inode ∧ inode < 2 ^ 64
  deriving DecidableEq

/-- The file is regular, has one link and is closed to group and others. -/
def LedgerStat.isPrivate (stat : LedgerStat) : Bool :=
  stat.isRegular && stat.links = 1 && stat.mode &&& 0o077 = 0

structure LedgerIdentity where
  path : String
  device : ℤ
  inode : ℤ
  sha256 : Sha256
  deriving DecidableEq

/-- `_LEDGER_IDENTITY_DOMAIN` -/
def identityDomain : Bytes := encodeUtf8 "amazon-explorer-broker-ledger-identity-v1\x00"

/-- The payload of both `_ledger_identity` functions. -/
def identityPayload (device inode : Json) (path : String) : Json :=
  .obj [("ledger_device", device), ("ledger_inode", inode), ("ledger_path", .str path),
    ("schema_version", .str "1.0")]

/-- The ledger path of one call and what the host decides: what `lstat` shows before and after the
transaction (`none` when the path is not protected or cannot be read), which statements fail, and
the clock when the row is made and when the ledger is measured. -/
structure Host where
  path : LedgerPath
  before : Option LedgerStat
  after : Option LedgerStat
  fails : Statement → Bool
  reservedAt : UnixTime
  measuredAt : UnixTime

/-! ## What the statements return -/

section Statements

variable {table next : Table} {row : Row} {packetSha256 role : String}

@[simp] theorem execute_eq_ok_iff {fails : Statement → Bool} {statement : Statement} {u : Unit} :
    execute fails statement = .ok u ↔ fails statement = false :=
  ensure_eq_ok_iff

theorem insertRow_eq_ok_iff : insertRow table row = .ok next ↔
    (FitsInteger row.attempt ∧ FitsInteger row.reservedTokens ∧
      FitsInteger row.reservedCostMicrousd ∧ FitsInteger row.reservationUnixNs) ∧
    (row.Constraints ∧ ∀ other ∈ table, ¬ (other.packetSha256 = row.packetSha256 ∧
      other.role = row.role ∧ other.attempt = row.attempt)) ∧ table ++ [row] = next := by
  simp only [insertRow, bind_eq_ok_iff, ensure_eq_ok_iff, exists_const, pure_eq_ok_iff]

theorem ofPacket_append (table : Table) (row : Row) (packetSha256 : String) :
    ofPacket (table ++ [row]) packetSha256 =
      ofPacket table packetSha256 ++ if row.packetSha256 = packetSha256 then [row] else [] := by
  by_cases h : row.packetSha256 = packetSha256 <;> simp [ofPacket, h]

theorem ofRole_append (before after : List Row) (role : String) :
    ofRole (before ++ after) role = ofRole before role ++ ofRole after role :=
  List.filter_append ..

theorem ofRole_singleton (row : Row) (role : String) :
    ofRole [row] role = if row.role = role then [row] else [] := by
  by_cases h : row.role = role <;> simp [ofRole, h]

theorem mem_ofRole {rows : List Row} : row ∈ ofRole rows role ↔ row ∈ rows ∧ row.role = role := by
  simp [ofRole]

theorem mem_ofPacket :
    row ∈ ofPacket table packetSha256 ↔ row ∈ table ∧ row.packetSha256 = packetSha256 := by
  simp [ofPacket]

theorem mem_ledgerRows : row ∈ ledgerRows table packetSha256 ↔ row ∈ ofPacket table packetSha256 :=
  List.mem_mergeSort

theorem orderedBefore_iff {a b : Row} :
    orderedBefore a b = true ↔ a.role < b.role ∨ a.role = b.role ∧ a.attempt ≤ b.attempt := by
  simp [orderedBefore]

theorem orderedBefore_trans (a b c : Row) (hab : orderedBefore a b = true)
    (hbc : orderedBefore b c = true) : orderedBefore a c = true := by
  rw [orderedBefore_iff] at hab hbc ⊢
  rcases hab with hab | ⟨hab, hle⟩
  · rcases hbc with hbc | ⟨hbc, -⟩
    · exact .inl (hab.trans hbc)
    · exact .inl (hbc ▸ hab)
  · rcases hbc with hbc | ⟨hbc, hle'⟩
    · exact .inl (hab ▸ hbc)
    · exact .inr ⟨hab.trans hbc, hle.trans hle'⟩

theorem orderedBefore_total (a b : Row) : (orderedBefore a b || orderedBefore b a) = true := by
  rw [Bool.or_eq_true, orderedBefore_iff, orderedBefore_iff]
  rcases lt_trichotomy a.role b.role with h | h | h
  · exact .inl (.inl h)
  · rcases le_total a.attempt b.attempt with hle | hle
    · exact .inl (.inr ⟨h, hle⟩)
    · exact .inr (.inr ⟨h.symm, hle⟩)
  · exact .inr (.inl h)

end Statements
end AmazonSimilarSearch.BrokerLedger
